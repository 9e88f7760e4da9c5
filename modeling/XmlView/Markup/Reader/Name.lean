import XmlView.Markup.Reader.State
/-! Names: `Name` (colons allowed), `NCName` (no colon), qualified names `prefix:local`,
and name tokens. A qualified name that does not split into two colon-free names is kept
whole, with a namespace error. -/
namespace XmlView.Markup.Reader

def readWith (first rest : Char → Bool) : ReadM (Option String) := do
  let c ← cursor
  let cs := spanName first rest c.rest
  if cs.isEmpty then return none
  setCursor ⟨c.rest.drop cs.length, c.line, c.col + cs.length⟩
  return some (String.ofList cs)

def ncStart (c : Char) : Bool := isNameStart c && c != ':'

def ncChar (c : Char) : Bool := isNameChar c && c != ':'

def readName : ReadM (Option String) := readWith isNameStart isNameChar

def readNCName : ReadM (Option String) := readWith ncStart ncChar

def readNmtoken : ReadM (Option String) := readWith isNameChar isNameChar

def readQName : ReadM (Option (Option String × String)) := do
  let start ← cursor
  let l ← readNCName
  let (pre, l) ← match l with
    | some n =>
      if (← peek) == some ':' then
        next
        pure (some n, ← readNCName)
      else pure (none, some n)
    | none => pure (none, none)
  match l with
  | some n =>
    if (← peek) != some ':' then return some (pre, n)
    whole start
  | none =>
    if pre.isNone && (← peek) != some ':' then return none
    whole start
where
  whole (start : Cursor) : ReadM (Option (Option String × String)) := do
    let _ ← readNmtoken
    if ← stopped then return none
    let here ← cursor
    let taken := start.rest.length - here.rest.length
    let name := String.ofList (start.rest.take taken)
    error ("Failed to parse QName '" ++ name ++ "'")
    return some (none, name)

def qualified : Option String × String → String
  | (some p, n) => p ++ ":" ++ n
  | (none, n) => n

end XmlView.Markup.Reader
