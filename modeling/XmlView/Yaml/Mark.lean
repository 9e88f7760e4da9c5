import XmlView.Value.Display
/-! Positions in a YAML text and the errors that point at them, shown with a line and column
counted from one, the line around the mark and a caret under it. -/
namespace XmlView.Yaml

structure Mark where
  index : Nat
  line : Nat
  column : Nat
  deriving Inhabited, DecidableEq, Repr

def endsSnippet (c : Char) : Bool :=
  c == '\x00' || c == '\r' || c == '\n' || c == '\x85' || c == '\u2028' || c == '\u2029'

/-- How far a snippet reaches left of the mark: the start, and whether it was cut. At most
36 characters are kept whole; a longer line is cut and marked with ` ... `. -/
def snippetStart (buf : Array Char) (pointer : Nat) : Nat → Nat → Nat × Bool
  | 0, start => (start, false)
  | fuel + 1, start =>
    if start > 0 && !endsSnippet (buf.getD (start - 1) '\x00') then
      let start := start - 1
      if pointer - start > 36 then (start + 5, true) else snippetStart buf pointer fuel start
    else (start, false)

def snippetEnd (buf : Array Char) (pointer : Nat) : Nat → Nat → Nat × Bool
  | 0, stop => (stop, false)
  | fuel + 1, stop =>
    if stop < buf.size + 1 && !endsSnippet (buf.getD stop '\x00') then
      let stop := stop + 1
      if stop - pointer > 36 then (stop - 5, true) else snippetEnd buf pointer fuel stop
    else (stop, false)

def spaces (n : Nat) : String := String.ofList (List.replicate n ' ')

def Mark.snippet (buf : Array Char) (m : Mark) : String :=
  let (start, cutLeft) := snippetStart buf m.index (m.index + 1) m.index
  let (stop, cutRight) := snippetEnd buf m.index (buf.size + 2) m.index
  let head := if cutLeft then " ... " else ""
  let tail := if cutRight then " ... " else ""
  let text := String.ofList ((List.range (stop - start)).map fun k => buf.getD (start + k) '\x00')
  spaces 4 ++ head ++ text ++ tail ++ "\n" ++ spaces (4 + (m.index - start) + head.length) ++ "^"

def Mark.render (buf : Array Char) (m : Mark) : String :=
  "  in \"<unicode string>\", line " ++ toString (m.line + 1) ++ ", column " ++
    toString (m.column + 1) ++ ":\n" ++ m.snippet buf

structure MarkedError where
  context : Option String := none
  contextMark : Option Mark := none
  problem : String
  problemMark : Option Mark := none
  deriving Inhabited

def MarkedError.render (buf : Array Char) (e : MarkedError) : String :=
  let context := match e.context with | some c => [c] | none => []
  let contextMark := match e.contextMark with
    | some m => if e.problemMark == some m then [] else [m.render buf]
    | none => []
  let problemMark := match e.problemMark with | some m => [m.render buf] | none => []
  "\n".intercalate (context ++ contextMark ++ [e.problem] ++ problemMark)

/-- Why reading a YAML text stopped: a marked error of the text, or a value the text
spells that cannot be made. -/
inductive Failure where
  | marked (e : MarkedError)
  | fault (f : Fault)
  deriving Inhabited

def quoteChar (c : Char) : String := Text.literal ⟨[c.toNat]⟩

end XmlView.Yaml
