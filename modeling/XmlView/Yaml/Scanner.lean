import XmlView.Yaml.Token
import XmlView.Text.Utf8
/-! Splitting a YAML text into tokens on demand. A scalar becomes a mapping key only when a
`:` follows on its line, and block context opens and closes blocks by column. -/
namespace XmlView.Yaml

/-- A place where a simple key may start: the number its token will have, whether it must
be a key, and where it is. -/
structure SimpleKey where
  tokenNumber : Nat
  required : Bool
  mark : Mark
  deriving Inhabited

structure Scanner where
  buf : Array Char
  pos : Nat := 0
  line : Nat := 0
  column : Nat := 0
  done : Bool := false
  flowLevel : Int := 0
  tokens : List Token := []
  tokensTaken : Nat := 0
  indent : Int := -1
  indents : List Int := []
  allowSimpleKey : Bool := true
  /-- Possible simple keys by flow level, in the order they were recorded. A closing
  bracket with no opening one takes the level below zero, which counts as flow context. -/
  keys : List (Int × SimpleKey) := []
  deriving Inhabited

abbrev ScanM := StateT Scanner (Except Failure)

def isBreak (c : Char) : Bool :=
  c == '\r' || c == '\n' || c == '\x85' || c == '\u2028' || c == '\u2029'

def isBreakZ (c : Char) : Bool := c == '\x00' || isBreak c

def isBlankZ (c : Char) : Bool := c == ' ' || c == '\t' || isBreakZ c

def isSpaceZ (c : Char) : Bool := c == ' ' || isBreakZ c

def isWordChar (c : Char) : Bool :=
  ('0' ≤ c && c ≤ '9') || ('A' ≤ c && c ≤ 'Z') || ('a' ≤ c && c ≤ 'z') || c == '-' || c == '_'

def isHexDigit (c : Char) : Bool :=
  ('0' ≤ c && c ≤ '9') || ('A' ≤ c && c ≤ 'F') || ('a' ≤ c && c ≤ 'f')

def hexValue (c : Char) : Nat :=
  if '0' ≤ c && c ≤ '9' then c.toNat - '0'.toNat
  else if 'a' ≤ c && c ≤ 'f' then c.toNat - 'a'.toNat + 10
  else c.toNat - 'A'.toNat + 10

def isUriChar (c : Char) : Bool := isWordChar c || "-;/?:@&=+$,_.!~*'()[]%".toList.contains c

def codes (cs : List Char) : List Nat := cs.map Char.toNat

namespace Scanner

def start (buf : Array Char) : Scanner :=
  let m : Mark := ⟨0, 0, 0⟩
  { buf, tokens := [⟨.streamStart, m, m⟩] }

def peekAt (k : Nat) : ScanM Char := do
  let s ← get
  return s.buf.getD (s.pos + k) '\x00'

def peek : ScanM Char := peekAt 0

def prefixChars (k : Nat) : ScanM (List Char) := do
  let s ← get
  return (s.buf.extract s.pos (s.pos + k)).toList

def here : ScanM Mark := do
  let s ← get
  return ⟨s.pos, s.line, s.column⟩

def stepOne (s : Scanner) : Scanner :=
  let ch := s.buf.getD s.pos '\x00'
  let pos := s.pos + 1
  if ch == '\n' || ch == '\x85' || ch == '\u2028' || ch == '\u2029' ||
      (ch == '\r' && s.buf.getD pos '\x00' != '\n') then
    { s with pos, line := s.line + 1, column := 0 }
  else if ch != '\uFEFF' then { s with pos, column := s.column + 1 }
  else { s with pos }

def forward (n : Nat) : ScanM Unit := modify fun s => Nat.repeat stepOne n s

def fuel : ScanM Nat := do
  let s ← get
  return s.buf.size + 2 - s.pos

def countFrom (buf : Array Char) (p : Char → Char → Bool) : Nat → Nat → Nat → Nat
  | 0, _, n => n
  | fuel + 1, i, n =>
    if i < buf.size && p (buf.getD i '\x00') (buf.getD (i + 1) '\x00') then
      countFrom buf p fuel (i + 1) (n + 1)
    else n

def lengthWhile (p : Char → Bool) (k : Nat) : ScanM Nat := do
  let s ← get
  return countFrom s.buf (fun c _ => p c) s.buf.size (s.pos + k) 0

def forwardWhile (p : Char → Bool) : ScanM Unit := do
  forward (← lengthWhile p 0)

def fail (context : Option String) (contextMark : Option Mark) (problem : String) :
    ScanM α := do
  let m ← here
  let e : MarkedError := {
    context := context
    contextMark := contextMark
    problem := problem
    problemMark := some m }
  throw (.marked e)

def failAt (context : String) (contextMark : Mark) (problem : String) (m : Mark) : ScanM α :=
  let e : MarkedError := {
    context := some context
    contextMark := some contextMark
    problem := problem
    problemMark := some m }
  throw (.marked e)

def push (t : Token) : ScanM Unit := modify fun s => { s with tokens := s.tokens ++ [t] }

/-- A line break, normalised: `\r\n`, `\r`, `\n` and NEL read as `\n`; the line and
paragraph separators as themselves; nothing when no break is here. -/
def scanLineBreak : ScanM (List Nat) := do
  let ch ← peek
  if ch == '\r' || ch == '\n' || ch == '\x85' then
    if (← prefixChars 2) == ['\r', '\n'] then forward 2 else forward 1
    return [10]
  else if ch == '\u2028' || ch == '\u2029' then
    forward 1
    return [ch.toNat]
  else return []

/-! ## Simple keys and indentation -/

def nextPossibleSimpleKey (s : Scanner) : Option Nat :=
  s.keys.foldl (fun acc (_, k) => match acc with
    | none => some k.tokenNumber
    | some n => some (min n k.tokenNumber)) none

/-- Forget the possible simple keys that can no longer be keys: those on an earlier line
or too far back. One that had to be a key is an error. -/
def stalePossibleSimpleKeys : ScanM Unit := do
  let s ← get
  for (level, key) in s.keys do
    let s ← get
    if key.mark.line != s.line || s.pos - key.mark.index > 1024 then
      if key.required then
        fail (some "while scanning a simple key") (some key.mark) "could not find expected ':'"
      modify fun s => { s with keys := s.keys.filter (fun (e : Int × SimpleKey) => e.1 != level) }

def removePossibleSimpleKey : ScanM Unit := do
  let s ← get
  match s.keys.lookup s.flowLevel with
  | some key =>
    if key.required then
      fail (some "while scanning a simple key") (some key.mark) "could not find expected ':'"
    modify fun s => { s with keys := s.keys.filter (fun (e : Int × SimpleKey) => e.1 != s.flowLevel) }
  | none => pure ()

def savePossibleSimpleKey : ScanM Unit := do
  let s ← get
  let required := s.flowLevel == 0 && s.indent == (s.column : Int)
  if s.allowSimpleKey then
    removePossibleSimpleKey
    let s ← get
    let key : SimpleKey := ⟨s.tokensTaken + s.tokens.length, required, ⟨s.pos, s.line, s.column⟩⟩
    set { s with keys := s.keys.filter (fun (e : Int × SimpleKey) => e.1 != s.flowLevel) ++ [(s.flowLevel, key)] }

def unwindIndent (column : Int) : ScanM Unit := do
  if (← get).flowLevel != 0 then return
  for _ in [0:(← get).indents.length + 1] do
    let s ← get
    if s.indent ≤ column then break
    let m ← here
    let t : Token := ⟨.blockEnd, m, m⟩
    match s.indents with
    | i :: rest => set { s with indent := i, indents := rest, tokens := s.tokens ++ [t] }
    | [] => set { s with indent := -1, tokens := s.tokens ++ [t] }

def addIndent (column : Int) : ScanM Bool := do
  let s ← get
  if s.indent < column then
    set { s with indents := s.indent :: s.indents, indent := column }
    return true
  return false

/-! ## Scanning -/

def scanToNextToken : ScanM Unit := do
  if (← get).pos == 0 && (← peek) == '\uFEFF' then forward 1
  for _ in [0:(← fuel)] do
    forwardWhile (· == ' ')
    if (← peek) == '#' then forwardWhile (fun c => !isBreakZ c)
    if (← scanLineBreak).isEmpty then break
    if (← get).flowLevel == 0 then modify fun s => { s with allowSimpleKey := true }

def scanDirectiveName (startMark : Mark) : ScanM String := do
  let length ← lengthWhile isWordChar 0
  if length == 0 then
    fail (some "while scanning a directive") (some startMark)
      ("expected alphabetic or numeric character, but found " ++ quoteChar (← peekAt 0))
  let value := String.ofList (← prefixChars length)
  forward length
  let ch ← peek
  if !isSpaceZ ch then
    fail (some "while scanning a directive") (some startMark)
      ("expected alphabetic or numeric character, but found " ++ quoteChar ch)
  return value

def scanVersionNumber (startMark : Mark) : ScanM Nat := do
  let ch ← peek
  if !('0' ≤ ch && ch ≤ '9') then
    fail (some "while scanning a directive") (some startMark)
      ("expected a digit, but found " ++ quoteChar ch)
  let length ← lengthWhile (fun c => '0' ≤ c && c ≤ '9') 0
  let digits ← prefixChars length
  forward length
  return digits.foldl (fun n c => n * 10 + (c.toNat - '0'.toNat)) 0

def scanVersionValue (startMark : Mark) : ScanM Directive := do
  forwardWhile (· == ' ')
  let major ← scanVersionNumber startMark
  if (← peek) != '.' then
    fail (some "while scanning a directive") (some startMark)
      ("expected a digit or '.', but found " ++ quoteChar (← peek))
  forward 1
  let minor ← scanVersionNumber startMark
  if !isSpaceZ (← peek) then
    fail (some "while scanning a directive") (some startMark)
      ("expected a digit or ' ', but found " ++ quoteChar (← peek))
  return .version major minor

def scanTagHandle (name : String) (startMark : Mark) : ScanM String := do
  let ch ← peek
  if ch != '!' then
    fail (some ("while scanning a " ++ name)) (some startMark)
      ("expected '!', but found " ++ quoteChar ch)
  let mut length := 1
  let ch ← peekAt 1
  if ch != ' ' then
    length := 1 + (← lengthWhile isWordChar 1)
    let ch ← peekAt length
    if ch != '!' then
      forward length
      fail (some ("while scanning a " ++ name)) (some startMark)
        ("expected '!', but found " ++ quoteChar ch)
    length := length + 1
  let value := String.ofList (← prefixChars length)
  forward length
  return value

def scanUriEscapes (name : String) (startMark : Mark) : ScanM String := do
  let m ← here
  let mut bytes : Array UInt8 := #[]
  for _ in [0:(← fuel)] do
    if (← peek) != '%' then break
    forward 1
    for k in [0:2] do
      if !isHexDigit (← peekAt k) then
        fail (some ("while scanning a " ++ name)) (some startMark)
          ("expected URI escape sequence of 2 hexadecimal numbers, but found " ++
            quoteChar (← peekAt k))
    let a ← peekAt 0
    let b ← peekAt 1
    bytes := bytes.push (hexValue a * 16 + hexValue b).toUInt8
    forward 2
  match Text.decodeUtf8 bytes.toList with
  | .ok t => return t.toStringLossy
  | .error f => failAt ("while scanning a " ++ name) startMark f.message m

def scanTagUri (name : String) (startMark : Mark) : ScanM String := do
  let mut chunks : Array String := #[]
  let mut length := 0
  for _ in [0:(← fuel)] do
    let ch ← peekAt length
    if !isUriChar ch then break
    if ch == '%' then
      chunks := chunks.push (String.ofList (← prefixChars length))
      forward length
      length := 0
      chunks := chunks.push (← scanUriEscapes name startMark)
    else length := length + 1
  if length != 0 then
    chunks := chunks.push (String.ofList (← prefixChars length))
    forward length
  if chunks.isEmpty then
    fail (some ("while parsing a " ++ name)) (some startMark)
      ("expected URI, but found " ++ quoteChar (← peek))
  return String.join chunks.toList

def scanTagDirectiveValue (startMark : Mark) : ScanM Directive := do
  forwardWhile (· == ' ')
  let handle ← scanTagHandle "directive" startMark
  if (← peek) != ' ' then
    fail (some "while scanning a directive") (some startMark)
      ("expected ' ', but found " ++ quoteChar (← peek))
  forwardWhile (· == ' ')
  let pre ← scanTagUri "directive" startMark
  if !isSpaceZ (← peek) then
    fail (some "while scanning a directive") (some startMark)
      ("expected ' ', but found " ++ quoteChar (← peek))
  return .tagPrefix handle pre

def scanDirectiveIgnoredLine (startMark : Mark) : ScanM Unit := do
  forwardWhile (· == ' ')
  if (← peek) == '#' then forwardWhile (fun c => !isBreakZ c)
  let ch ← peek
  if !isBreakZ ch then
    fail (some "while scanning a directive") (some startMark)
      ("expected a comment or a line break, but found " ++ quoteChar ch)
  let _ ← scanLineBreak

def scanDirective : ScanM Token := do
  let startMark ← here
  forward 1
  let name ← scanDirectiveName startMark
  let (value, endMark) ← if name == "YAML" then do
      let v ← scanVersionValue startMark
      pure (v, ← here)
    else if name == "TAG" then do
      let v ← scanTagDirectiveValue startMark
      pure (v, ← here)
    else do
      let m ← here
      forwardWhile (fun c => !isBreakZ c)
      pure (Directive.other, m)
  scanDirectiveIgnoredLine startMark
  return ⟨.directive name value, startMark, endMark⟩

def scanAnchor (isAlias : Bool) : ScanM Token := do
  let startMark ← here
  let name := if isAlias then "alias" else "anchor"
  forward 1
  let length ← lengthWhile isWordChar 0
  if length == 0 then
    fail (some ("while scanning an " ++ name)) (some startMark)
      ("expected alphabetic or numeric character, but found " ++ quoteChar (← peekAt 0))
  let value := String.ofList (← prefixChars length)
  forward length
  let ch ← peek
  if !(isBlankZ ch || "?:,]\x7d%@\x60".toList.contains ch) then
    fail (some ("while scanning an " ++ name)) (some startMark)
      ("expected alphabetic or numeric character, but found " ++ quoteChar ch)
  let endMark ← here
  return ⟨if isAlias then .alias value else .anchor value, startMark, endMark⟩

def scanTag : ScanM Token := do
  let startMark ← here
  let ch ← peekAt 1
  let (handle, suffix) ← if ch == '<' then do
      forward 2
      let suffix ← scanTagUri "tag" startMark
      if (← peek) != '>' then
        fail (some "while parsing a tag") (some startMark)
          ("expected '>', but found " ++ quoteChar (← peek))
      forward 1
      pure (none, suffix)
    else if isBlankZ ch then do
      forward 1
      pure (none, "!")
    else do
      let k ← lengthWhile (fun c => !isSpaceZ c && c != '!') 1
      let useHandle := (← peekAt (1 + k)) == '!'
      let handle ← if useHandle then scanTagHandle "tag" startMark
        else do
          forward 1
          pure "!"
      let suffix ← scanTagUri "tag" startMark
      pure (some handle, suffix)
  let ch ← peek
  if !isSpaceZ ch then
    fail (some "while scanning a tag") (some startMark) ("expected ' ', but found " ++ quoteChar ch)
  let endMark ← here
  return ⟨.tag handle suffix, startMark, endMark⟩

def scanBlockScalarIndicators (startMark : Mark) : ScanM (Option Bool × Option Nat) := do
  let mut chomping : Option Bool := none
  let mut increment : Option Nat := none
  let ch ← peek
  if ch == '+' || ch == '-' then
    chomping := some (ch == '+')
    forward 1
    let ch ← peek
    if '0' ≤ ch && ch ≤ '9' then
      if ch == '0' then
        fail (some "while scanning a block scalar") (some startMark)
          "expected indentation indicator in the range 1-9, but found 0"
      increment := some (ch.toNat - '0'.toNat)
      forward 1
  else if '0' ≤ ch && ch ≤ '9' then
    if ch == '0' then
      fail (some "while scanning a block scalar") (some startMark)
        "expected indentation indicator in the range 1-9, but found 0"
    increment := some (ch.toNat - '0'.toNat)
    forward 1
    let ch ← peek
    if ch == '+' || ch == '-' then
      chomping := some (ch == '+')
      forward 1
  let ch ← peek
  if !isSpaceZ ch then
    fail (some "while scanning a block scalar") (some startMark)
      ("expected chomping or indentation indicators, but found " ++ quoteChar ch)
  return (chomping, increment)

def scanBlockScalarIgnoredLine (startMark : Mark) : ScanM Unit := do
  forwardWhile (· == ' ')
  if (← peek) == '#' then forwardWhile (fun c => !isBreakZ c)
  let ch ← peek
  if !isBreakZ ch then
    fail (some "while scanning a block scalar") (some startMark)
      ("expected a comment or a line break, but found " ++ quoteChar ch)
  let _ ← scanLineBreak

def scanBlockScalarIndentation : ScanM (List (List Nat) × Nat × Mark) := do
  let mut chunks : Array (List Nat) := #[]
  let mut maxIndent := 0
  let mut endMark ← here
  for _ in [0:(← fuel)] do
    let ch ← peek
    if !(ch == ' ' || isBreak ch) then break
    if ch != ' ' then
      chunks := chunks.push (← scanLineBreak)
      endMark ← here
    else
      forward 1
      let c := (← get).column
      if c > maxIndent then maxIndent := c
  return (chunks.toList, maxIndent, endMark)

def skipIndent (indent : Nat) : ScanM Unit := do
  for _ in [0:(← fuel)] do
    if (← get).column < indent && (← peek) == ' ' then forward 1 else break

def scanBlockScalarBreaks (indent : Nat) : ScanM (List (List Nat) × Mark) := do
  let mut chunks : Array (List Nat) := #[]
  let mut endMark ← here
  skipIndent indent
  for _ in [0:(← fuel)] do
    if !isBreak (← peek) then break
    chunks := chunks.push (← scanLineBreak)
    endMark ← here
    skipIndent indent
  return (chunks.toList, endMark)

def scanBlockScalar (folded : Bool) : ScanM Token := do
  let startMark ← here
  forward 1
  let (chomping, increment) ← scanBlockScalarIndicators startMark
  scanBlockScalarIgnoredLine startMark
  let minIndent : Nat := max 1 ((← get).indent + 1).toNat
  let (breaks0, indent, endMark0) ← match increment with
    | none => do
      let (breaks, maxIndent, endMark) ← scanBlockScalarIndentation
      pure (breaks, max minIndent maxIndent, endMark)
    | some inc => do
      let indent := minIndent + inc - 1
      let (breaks, endMark) ← scanBlockScalarBreaks indent
      pure (breaks, indent, endMark)
  let mut breaks := breaks0
  let mut endMark := endMark0
  let mut chunks : Array Nat := #[]
  let mut lineBreak : List Nat := []
  for _ in [0:(← fuel)] do
    if !((← get).column == indent && (← peek) != '\x00') then break
    chunks := chunks ++ breaks.flatten.toArray
    let leadingNonSpace := !((← peek) == ' ' || (← peek) == '\t')
    let length ← lengthWhile (fun c => !isBreakZ c) 0
    chunks := chunks ++ (codes (← prefixChars length)).toArray
    forward length
    lineBreak ← scanLineBreak
    let (bs, em) ← scanBlockScalarBreaks indent
    breaks := bs
    endMark := em
    if (← get).column == indent && (← peek) != '\x00' then
      if folded && lineBreak == [10] && leadingNonSpace && !((← peek) == ' ' || (← peek) == '\t') then
        if breaks.isEmpty then chunks := chunks.push 32
      else chunks := chunks ++ lineBreak.toArray
    else break
  if chomping != some false then chunks := chunks ++ lineBreak.toArray
  if chomping == some true then chunks := chunks ++ breaks.flatten.toArray
  return ⟨.scalar chunks.toList false (some (if folded then '>' else '|')), startMark, endMark⟩

def escapeReplacement (c : Char) : Option Nat :=
  match c with
  | '0' => some 0
  | 'a' => some 7
  | 'b' => some 8
  | 't' => some 9
  | '\t' => some 9
  | 'n' => some 10
  | 'v' => some 11
  | 'f' => some 12
  | 'r' => some 13
  | 'e' => some 27
  | ' ' => some 32
  | '"' => some 34
  | '\\' => some 92
  | '/' => some 47
  | 'N' => some 0x85
  | '_' => some 0xA0
  | 'L' => some 0x2028
  | 'P' => some 0x2029
  | _ => none

def escapeCodeLength (c : Char) : Option Nat :=
  match c with
  | 'x' => some 2
  | 'u' => some 4
  | 'U' => some 8
  | _ => none

def scanFlowScalarBreaks (startMark : Mark) : ScanM (List Nat) := do
  let mut chunks : Array Nat := #[]
  for _ in [0:(← fuel)] do
    let pre ← prefixChars 3
    if (pre == ['-', '-', '-'] || pre == ['.', '.', '.']) && isBlankZ (← peekAt 3) then
      fail (some "while scanning a quoted scalar") (some startMark) "found unexpected document separator"
    forwardWhile (fun c => c == ' ' || c == '\t')
    if isBreak (← peek) then chunks := chunks ++ (← scanLineBreak).toArray
    else break
  return chunks.toList

def scanFlowScalarNonSpaces (double : Bool) (startMark : Mark) : ScanM (List Nat) := do
  let mut chunks : Array Nat := #[]
  for _ in [0:(← fuel)] do
    let length ← lengthWhile (fun c => !("'\"\\".toList.contains c || isBlankZ c)) 0
    if length != 0 then
      chunks := chunks ++ (codes (← prefixChars length)).toArray
      forward length
    let ch ← peek
    if !double && ch == '\'' && (← peekAt 1) == '\'' then
      chunks := chunks.push 39
      forward 2
    else if (double && ch == '\'') || (!double && (ch == '"' || ch == '\\')) then
      chunks := chunks.push ch.toNat
      forward 1
    else if double && ch == '\\' then
      forward 1
      let ch ← peek
      match escapeReplacement ch, escapeCodeLength ch with
      | some r, _ =>
        chunks := chunks.push r
        forward 1
      | none, some length =>
        forward 1
        for k in [0:length] do
          if !isHexDigit (← peekAt k) then
            fail (some "while scanning a double-quoted scalar") (some startMark)
              ("expected escape sequence of " ++ toString length ++
                " hexadecimal numbers, but found " ++ quoteChar (← peekAt k))
        let digits ← prefixChars length
        let code := digits.foldl (fun n c => n * 16 + hexValue c) 0
        if code ≥ Nat.pow 2 31 then throw (.fault (.tooLarge "Python int too large to convert to C int"))
        if code > 0x10FFFF then throw (.fault (.badValue "chr() arg not in range(0x110000)"))
        chunks := chunks.push code
        forward length
      | none, none =>
        if isBreak ch then
          let _ ← scanLineBreak
          chunks := chunks ++ (← scanFlowScalarBreaks startMark).toArray
        else
          fail (some "while scanning a double-quoted scalar") (some startMark)
            ("found unknown escape character " ++ quoteChar ch)
    else break
  return chunks.toList

def scanFlowScalarSpaces (startMark : Mark) : ScanM (List Nat) := do
  let length ← lengthWhile (fun c => c == ' ' || c == '\t') 0
  let whitespaces ← prefixChars length
  forward length
  let ch ← peek
  if ch == '\x00' then
    fail (some "while scanning a quoted scalar") (some startMark) "found unexpected end of stream"
  else if isBreak ch then
    let lineBreak ← scanLineBreak
    let breaks ← scanFlowScalarBreaks startMark
    let first := if lineBreak != [10] then lineBreak else if breaks.isEmpty then [32] else []
    return first ++ breaks
  else return codes whitespaces

def scanFlowScalar (double : Bool) : ScanM Token := do
  let startMark ← here
  let quote ← peek
  forward 1
  let mut chunks : Array Nat := (← scanFlowScalarNonSpaces double startMark).toArray
  for _ in [0:(← fuel)] do
    if (← peek) == quote then break
    chunks := chunks ++ (← scanFlowScalarSpaces startMark).toArray
    chunks := chunks ++ (← scanFlowScalarNonSpaces double startMark).toArray
  forward 1
  let endMark ← here
  return ⟨.scalar chunks.toList false (some (if double then '"' else '\'')), startMark, endMark⟩

def atDocumentMarker : ScanM Bool := do
  let pre ← prefixChars 3
  return (pre == ['-', '-', '-'] || pre == ['.', '.', '.']) && isBlankZ (← peekAt 3)

def scanPlainSpaces : ScanM (Option (List Nat)) := do
  let length ← lengthWhile (· == ' ') 0
  let whitespaces ← prefixChars length
  forward length
  let ch ← peek
  if isBreak ch then
    let lineBreak ← scanLineBreak
    modify fun s => { s with allowSimpleKey := true }
    if ← atDocumentMarker then return none
    let mut breaks : Array (List Nat) := #[]
    for _ in [0:(← fuel)] do
      let c ← peek
      if !(c == ' ' || isBreak c) then break
      if c == ' ' then forward 1
      else
        breaks := breaks.push (← scanLineBreak)
        if ← atDocumentMarker then return none
    let first := if lineBreak != [10] then lineBreak else if breaks.isEmpty then [32] else []
    return some (first ++ breaks.toList.flatten)
  else return some (codes whitespaces)

def scanPlain : ScanM Token := do
  let startMark ← here
  let mut endMark := startMark
  let indent := (← get).indent + 1
  let mut chunks : Array Nat := #[]
  let mut spaces : List Nat := []
  for _ in [0:(← fuel)] do
    if (← peek) == '#' then break
    let flow := (← get).flowLevel != 0
    let s ← get
    let stops := fun (c next : Char) =>
      isBlankZ c || (c == ':' && (isBlankZ next || (flow && ",[]\x7b\x7d".toList.contains next))) ||
        (flow && ",?[]\x7b\x7d".toList.contains c)
    let length := countFrom s.buf (fun c next => !stops c next) s.buf.size s.pos 0
    if length == 0 then break
    modify fun s => { s with allowSimpleKey := false }
    chunks := chunks ++ spaces.toArray
    chunks := chunks ++ (codes (← prefixChars length)).toArray
    forward length
    endMark ← here
    match ← scanPlainSpaces with
    | none => break
    | some sp =>
      spaces := sp
      if sp.isEmpty || (← peek) == '#' || (!flow && ((← get).column : Int) < indent) then break
  return ⟨.scalar chunks.toList true none, startMark, endMark⟩

/-! ## Fetching tokens -/

def fetchStreamEnd : ScanM Unit := do
  unwindIndent (-1)
  removePossibleSimpleKey
  modify fun s => { s with allowSimpleKey := false, keys := [] }
  let m ← here
  push ⟨.streamEnd, m, m⟩
  modify fun s => { s with done := true }

def fetchDirective : ScanM Unit := do
  unwindIndent (-1)
  removePossibleSimpleKey
  modify fun s => { s with allowSimpleKey := false }
  push (← scanDirective)

def fetchDocumentIndicator (k : TokenKind) : ScanM Unit := do
  unwindIndent (-1)
  removePossibleSimpleKey
  modify fun s => { s with allowSimpleKey := false }
  let startMark ← here
  forward 3
  push ⟨k, startMark, ← here⟩

def fetchFlowCollectionStart (k : TokenKind) : ScanM Unit := do
  savePossibleSimpleKey
  modify fun s => { s with flowLevel := s.flowLevel + 1, allowSimpleKey := true }
  let startMark ← here
  forward 1
  push ⟨k, startMark, ← here⟩

def fetchFlowCollectionEnd (k : TokenKind) : ScanM Unit := do
  removePossibleSimpleKey
  modify fun s => { s with flowLevel := s.flowLevel - 1, allowSimpleKey := false }
  let startMark ← here
  forward 1
  push ⟨k, startMark, ← here⟩

def fetchFlowEntry : ScanM Unit := do
  modify fun s => { s with allowSimpleKey := true }
  removePossibleSimpleKey
  let startMark ← here
  forward 1
  push ⟨.flowEntry, startMark, ← here⟩

def fetchBlockEntry : ScanM Unit := do
  if (← get).flowLevel == 0 then
    if !(← get).allowSimpleKey then fail none none "sequence entries are not allowed here"
    if ← addIndent (← get).column then
      let m ← here
      push ⟨.blockSequenceStart, m, m⟩
  modify fun s => { s with allowSimpleKey := true }
  removePossibleSimpleKey
  let startMark ← here
  forward 1
  push ⟨.blockEntry, startMark, ← here⟩

def fetchKey : ScanM Unit := do
  if (← get).flowLevel == 0 then
    if !(← get).allowSimpleKey then fail none none "mapping keys are not allowed here"
    if ← addIndent (← get).column then
      let m ← here
      push ⟨.blockMappingStart, m, m⟩
  modify fun s => { s with allowSimpleKey := s.flowLevel == 0 }
  removePossibleSimpleKey
  let startMark ← here
  forward 1
  push ⟨.key, startMark, ← here⟩

def insertAt : Nat → Token → List Token → List Token
  | 0, t, ts => t :: ts
  | n + 1, t, x :: xs => x :: insertAt n t xs
  | _ + 1, t, [] => [t]

def fetchValue : ScanM Unit := do
  let s ← get
  match s.keys.lookup s.flowLevel with
  | some key =>
    let place := key.tokenNumber - s.tokensTaken
    set { s with keys := s.keys.filter (fun (e : Int × SimpleKey) => e.1 != s.flowLevel),
                 tokens := insertAt place ⟨.key, key.mark, key.mark⟩ s.tokens }
    if (← get).flowLevel == 0 then
      if ← addIndent key.mark.column then
        modify fun s => { s with tokens := insertAt place ⟨.blockMappingStart, key.mark, key.mark⟩ s.tokens }
    modify fun s => { s with allowSimpleKey := false }
  | none =>
    if s.flowLevel == 0 then
      if !s.allowSimpleKey then fail none none "mapping values are not allowed here"
      if ← addIndent s.column then
        let m ← here
        push ⟨.blockMappingStart, m, m⟩
    modify fun s => { s with allowSimpleKey := s.flowLevel == 0 }
    removePossibleSimpleKey
  let startMark ← here
  forward 1
  push ⟨.value, startMark, ← here⟩

def fetchNodeProperty (scan : ScanM Token) : ScanM Unit := do
  savePossibleSimpleKey
  modify fun s => { s with allowSimpleKey := false }
  push (← scan)

def fetchBlockScalar (folded : Bool) : ScanM Unit := do
  modify fun s => { s with allowSimpleKey := true }
  removePossibleSimpleKey
  push (← scanBlockScalar folded)

def checkPlain : ScanM Bool := do
  let ch ← peek
  let next ← peekAt 1
  let flow := (← get).flowLevel != 0
  return !(isBlankZ ch || "-?:,[]\x7b\x7d#&*!|>\x27\"%@\x60".toList.contains ch) ||
    (!isBlankZ next && (ch == '-' || (!flow && (ch == '?' || ch == ':'))))

def fetchMoreTokens : ScanM Unit := do
  scanToNextToken
  stalePossibleSimpleKeys
  unwindIndent (← get).column
  let ch ← peek
  let s ← get
  let atLineStart := s.column == 0
  let next ← peekAt 1
  let three ← prefixChars 3
  let afterThree ← peekAt 3
  let flow := s.flowLevel != 0
  if ch == '\x00' then fetchStreamEnd
  else if ch == '%' && atLineStart then fetchDirective
  else if ch == '-' && atLineStart && three == ['-', '-', '-'] && isBlankZ afterThree then
    fetchDocumentIndicator .documentStart
  else if ch == '.' && atLineStart && three == ['.', '.', '.'] && isBlankZ afterThree then
    fetchDocumentIndicator .documentEnd
  else if ch == '[' then fetchFlowCollectionStart .flowSequenceStart
  else if ch == '{' then fetchFlowCollectionStart .flowMappingStart
  else if ch == ']' then fetchFlowCollectionEnd .flowSequenceEnd
  else if ch == '}' then fetchFlowCollectionEnd .flowMappingEnd
  else if ch == ',' then fetchFlowEntry
  else if ch == '-' && isBlankZ next then fetchBlockEntry
  else if ch == '?' && (flow || isBlankZ next) then fetchKey
  else if ch == ':' && (flow || isBlankZ next) then fetchValue
  else if ch == '*' then fetchNodeProperty (scanAnchor true)
  else if ch == '&' then fetchNodeProperty (scanAnchor false)
  else if ch == '!' then fetchNodeProperty scanTag
  else if ch == '|' && !flow then fetchBlockScalar false
  else if ch == '>' && !flow then fetchBlockScalar true
  else if ch == '\'' then fetchNodeProperty (scanFlowScalar false)
  else if ch == '"' then fetchNodeProperty (scanFlowScalar true)
  else if ← checkPlain then fetchNodeProperty scanPlain
  else
    fail (some "while scanning for the next token") none
      ("found character " ++ quoteChar ch ++ " that cannot start any token")

def needMoreTokens : ScanM Bool := do
  let s ← get
  if s.done then return false
  if s.tokens.isEmpty then return true
  stalePossibleSimpleKeys
  let s ← get
  return nextPossibleSimpleKey s == some s.tokensTaken

def settle : ScanM Unit := do
  for _ in [0:(← fuel) + 1] do
    if !(← needMoreTokens) then break
    fetchMoreTokens

def peekToken : ScanM (Option Token) := do
  settle
  return (← get).tokens.head?

def getToken : ScanM (Option Token) := do
  settle
  match (← get).tokens with
  | t :: rest =>
    modify fun s => { s with tokens := rest, tokensTaken := s.tokensTaken + 1 }
    return some t
  | [] => return none

def checkToken (cs : List TokenKind.Class) : ScanM Bool := do
  match ← peekToken with
  | some t => return t.kind.isOneOf cs
  | none => return false

end Scanner

end XmlView.Yaml
