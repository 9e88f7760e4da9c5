import XmlView.Conversion.Descriptor
import XmlView.CodePoint.Width
import XmlView.CodePoint.Case
import XmlView.Command.Emoji
/-! The terminal output of a command: data on standard output, status lines on standard
error, and the log of warnings and errors. Status lines are markup for a styled writer, which
reads style tags, drops a backslash right before a `[` that opens none, and replaces emoji codes
such as `:name:` in the text between tags. -/
namespace XmlView.Command

def isTagStart (c : Char) : Bool := ('a' ≤ c && c ≤ 'z') || c == '#' || c == '/' || c == '@'

def tagLength : List Char → Option Nat
  | '[' :: c :: rest =>
    if isTagStart c then
      let body := rest.takeWhile fun x => x != ']' && x != '['
      match rest.drop body.length with
      | ']' :: _ => some (body.length + 3)
      | _ => none
    else none
  | _ => none

theorem tagLength_pos {cs : List Char} {n : Nat} (h : tagLength cs = some n) : 0 < n := by
  unfold tagLength at h
  split at h
  · split at h
    · dsimp only at h
      split at h
      · cases h
        omega
      · cases h
    · cases h
  · cases h

def backslashes (n : Nat) : List Char := List.replicate n '\\'

set_option linter.unusedVariables false in
def escapeTags (cs : List Char) : List Char :=
  match cs with
  | [] => []
  | c :: more =>
    let k := ((c :: more).takeWhile (· == '\\')).length
    let rest := (c :: more).drop k
    match h : tagLength rest with
    | some n => backslashes (2 * k + 1) ++ rest.take n ++ escapeTags (rest.drop n)
    | none => if hk : k > 0 then backslashes k ++ escapeTags rest else c :: escapeTags more
termination_by cs.length
decreasing_by
  all_goals simp only [List.length_drop, List.length_cons]
  · have := tagLength_pos h
    omega
  · omega
  · omega

/-- Text escaped for the styled writer: its tags escaped, and text ending in a single
backslash gets another. -/
def escapeMarkup (cs : List Char) : List Char :=
  let out := escapeTags cs
  let tail := out.reverse.takeWhile (· == '\\')
  if tail.length == 1 then out ++ ['\\'] else out

set_option linter.unusedVariables false in
/-- Markup as the styled writer reads it: the characters it shows, with a cut (`none`) on either
side of what a tag shows, the text between tags being read piece by piece. A tag with an even
number of backslashes before it is a style and shows nothing, one with an odd number shows as
itself; either way half the backslashes before it show. Elsewhere a backslash before `[` is
dropped. -/
def markupStream (cs : List Char) : List (Option Char) :=
  match cs with
  | [] => []
  | c :: more =>
    let k := ((c :: more).takeWhile (· == '\\')).length
    let rest := (c :: more).drop k
    match h : tagLength rest with
    | some n =>
      none :: (backslashes (k / 2)).map some ++ none ::
        ((if k % 2 == 1 then (rest.take n).map some ++ [none] else []) ++
          markupStream (rest.drop n))
    | none =>
      match c, more with
      | '\\', '[' :: more' => some '[' :: markupStream more'
      | c, more => some c :: markupStream more
termination_by cs.length
decreasing_by
  all_goals simp only [List.length_drop, List.length_cons]
  · have := tagLength_pos h
    omega
  · omega
  · omega

def markupText (cs : List Char) : List Char := (markupStream cs).filterMap id

/-- The name of an emoji code whose opening colon has been read, and what follows its closing
colon: there is a code when a colon comes before any blank or cut. -/
def codeName : List (Option Char) → Option (List Char × List (Option Char))
  | some c :: rest =>
    if c == ':' then some ([], rest)
    else if Text.isSpacePoint c.toNat then none
    else (codeName rest).map fun (name, after) => (c :: name, after)
  | _ => none

theorem codeName_length {s after : List (Option Char)} {name : List Char}
    (h : codeName s = some (name, after)) : after.length < s.length := by
  induction s generalizing name with
  | nil => cases h
  | cons x s ih =>
    cases x with
    | none => cases h
    | some c =>
      unfold codeName at h
      split at h
      · cases h
        simp
      · split at h
        · cases h
        · cases hs : codeName s with
          | none => simp [hs] at h
          | some p =>
            rw [hs] at h
            cases h
            have := ih hs
            simp only [List.length_cons]
            omega

def splitVariant (body : List Char) : List Char × List Char :=
  if "-emoji".toList.isSuffixOf body then (body.take (body.length - 6), [Char.ofNat 0xFE0F])
  else if "-text".toList.isSuffixOf body then (body.take (body.length - 5), [Char.ofNat 0xFE0E])
  else (body, [])

def emojiOf (name : List Char) : Option (List Char) :=
  let lowered := (CodePoint.lower (name.map Char.toNat)).map Char.ofNat
  (emojiCodes.find? fun e => e.1.toList == lowered).map fun e => e.2.map Char.ofNat

/-- What the code `:body:` shows: the emoji of its name with the selector of the variant it asks
for, or the code itself when the name is unknown. -/
def emojiText (body : List Char) : List Char :=
  match emojiOf (splitVariant body).1 with
  | some e => e ++ (splitVariant body).2
  | none => ':' :: body ++ [':']

set_option linter.unusedVariables false in
/-- The text of read markup with its emoji codes replaced, the scan going on after each code. -/
def replaceEmoji (s : List (Option Char)) : List Char :=
  match s with
  | [] => []
  | none :: rest => replaceEmoji rest
  | some c :: rest =>
    if c == ':' then
      match h : codeName rest with
      | some (body, after) => emojiText body ++ replaceEmoji after
      | none => ':' :: replaceEmoji rest
    else c :: replaceEmoji rest
termination_by s.length
decreasing_by
  all_goals simp only [List.length_cons]
  · omega
  · have := codeName_length h
    omega
  · omega
  · omega

/-- Markup as the styled writer shows it, replacing emoji codes when `emoji` is set. -/
def renderMarkup (emoji : Bool) (cs : List Char) : List Char :=
  if emoji then replaceEmoji (markupStream cs) else markupText cs

def expandTabs (ps : List Nat) : List Nat :=
  let step := fun (acc : List Nat × Nat) (p : Nat) =>
    let (out, column) := acc
    if p == 10 then (10 :: out, 0)
    else if p == 9 then
      let width := 8 - column % 8
      (List.replicate width 32 ++ out, column + width)
    else (p :: out, column + CodePoint.columns p)
  (ps.foldl step ([], 0)).1.reverse

def isDropped (p : Nat) : Bool := p == 7 || p == 8 || p == 11 || p == 12 || p == 13

/-- Code points as the writer puts them on the terminal: without the dropped controls,
and then with tabs expanded. -/
def onTerminal (ps : List Nat) : List Nat := expandTabs (ps.filter (!isDropped ·))

def shown (emoji : Bool) (markup : List Char) : String :=
  String.ofList ((onTerminal ((renderMarkup emoji markup).map Char.toNat)).map Char.ofNat)

/-- A status line as the writer shows it: a mark and a space, then the message escaped. -/
def statusLine (emoji : Bool) (mark : String) (message : String) : String :=
  let text := mark.toList ++ renderMarkup emoji (escapeMarkup message.toList)
  String.ofList ((onTerminal (text.map Char.toNat)).map Char.ofNat)

def markedMarkup (style mark message : String) : List Char :=
  ("[" ++ style ++ "]" ++ mark ++ "[/" ++ style ++ "] ").toList ++ escapeMarkup message.toList

/-- The markup of a debug line: the message escaped, in the dim style. -/
def dimMarkup (message : String) : List Char :=
  "[dim]".toList ++ escapeMarkup message.toList ++ "[/dim]".toList

/-- What a command has written so far. -/
structure Console where
  verbosity : Int := 0
  emoji : Bool := true
  stdout : Text := Text.empty
  stderr : String := ""
  log : List String := []
  deriving Inhabited

namespace Console

def line (c : Console) (s : String) : Console := { c with stderr := c.stderr ++ s ++ "\n" }

def success (c : Console) (m : String) : Console := c.line (shown c.emoji (markedMarkup "green" "✓" m))

def error (c : Console) (m : String) : Console := c.line (shown c.emoji (markedMarkup "red" "✗" m))

def warning (c : Console) (m : String) : Console :=
  c.line (shown c.emoji (markedMarkup "yellow" "⚠" m))

def info (c : Console) (m : String) : Console :=
  if c.verbosity ≥ 1 then c.line (shown c.emoji (escapeMarkup m.toList)) else c

def debug (c : Console) (m : String) : Console :=
  if c.verbosity ≥ 2 then c.line (shown c.emoji (dimMarkup m)) else c

def data (c : Console) (t : Text) : Console :=
  { c with stdout := c.stdout ++ ⟨onTerminal t.points⟩ ++ Text.ofString "\n" }

def record (c : Console) (m : String) : Console := { c with log := c.log ++ [m] }

def summary (c : Console) (s : Conversion.Summary) : Console :=
  if c.verbosity < 1 then c
  else
    let c := c.line "\nConversion Summary:"
    let c := c.line ("  ■ Elements: " ++ toString s.elements)
    let c := c.line ("  ¶ Text nodes: " ++ toString s.texts)
    let c := if s.skipped > 0 then c.line ("  ⊘ Skipped nodes: " ++ toString s.skipped) else c
    c.line ("  ↓ Max depth: " ++ toString s.maxDepth)

end Console

end XmlView.Command
