import XmlView.Markup.Reader.Name
/-! Character references `&#N;` and `&#xH;`, the names of entity references, and how a
referenced entity is looked up: predefined entities first, then those the document
declared; an undeclared one is an error or only a warning depending on whether the
document could have declared it elsewhere. -/
namespace XmlView.Markup.Reader

def checkCharValue (v : Nat) (outOfBounds invalid : String) : ReadM Nat := do
  if v ≥ 0x110000 then fatal outOfBounds; return 0
  if isDocChar v then return v
  fatal (invalid ++ toString v)
  return 0

def readCharRef : ReadM Nat := do
  if (← looking "&#x") then
    skip 3
    let v ← hexLoop 0 0 (← budget)
    if (← peek) == some ';' then moveBy fun c => ⟨c.rest.drop 1, c.line, c.col + 1⟩
    checkCharValue v "xmlParseCharRef: character reference out of bounds"
      "xmlParseCharRef: invalid xmlChar value "
  else if (← looking "&#") then
    skip 2
    let v ← decLoop 0 (← budget)
    if (← peek) == some ';' then moveBy fun c => ⟨c.rest.drop 1, c.line, c.col + 1⟩
    checkCharValue v "xmlParseCharRef: character reference out of bounds"
      "xmlParseCharRef: invalid xmlChar value "
  else
    if (← peek) == some '&' then skip 1
    fatal "CharRef: invalid value"
    checkCharValue 0 "xmlParseCharRef: character reference out of bounds"
      "xmlParseCharRef: invalid xmlChar value "
where
  hexLoop (v count : Nat) : Nat → ReadM Nat
    | 0 => pure v
    | fuel + 1 => do
      match ← peek with
      | some ';' => return v
      | none => fatal "CharRef: invalid hexadecimal value"; return 0
      | some c =>
        if ← stopped then return v
        let count := if count > 20 then 0 else count + 1
        let digit := if isAsciiDigit c then hexValue c
          else if count < 20 then hexValue c else none
        match digit with
        | none => fatal "CharRef: invalid hexadecimal value"; return 0
        | some d =>
          let v := min (v * 16 + d) 0x110000
          next
          hexLoop v (count + 1) fuel
  decLoop (v : Nat) : Nat → ReadM Nat
    | 0 => pure v
    | fuel + 1 => do
      match ← peek with
      | some ';' => return v
      | some c =>
        if isAsciiDigit c then
          let v := min (v * 10 + (c.toNat - '0'.toNat)) 0x110000
          next
          decLoop v fuel
        else fatal "CharRef: invalid decimal value"; return 0
      | none => fatal "CharRef: invalid decimal value"; return 0

def stringCharRef (v : Nat) (hex closed : Bool) : ReadM Nat := do
  if !closed then
    fatal (if hex then "CharRef: invalid hexadecimal value" else "CharRef: invalid decimal value")
  checkCharValue (if closed then v else 0)
    "xmlParseStringCharRef: character reference out of bounds"
    "xmlParseStringCharRef: invalid xmlChar value "

def readEntityRefName : ReadM (Option String) := do
  if (← peek) != some '&' then return none
  next
  match ← readName with
  | none => fatal "xmlParseEntityRef: no name"; return none
  | some n =>
    if (← peek) != some ';' then fatal "EntityRef: expecting ';'"; return none
    next
    return some n

/-- Report a reference to an entity nobody declared: fatal where the document could not
have declared it elsewhere, a warning otherwise. -/
def undeclared (name : String) : ReadM Unit := do
  let r ← get
  let msg := "Entity '" ++ name ++ "' not defined"
  if r.standalone == 1 || (!r.hasExternalSubset && !r.hasPERefs) then fatal msg
  else warning msg

/-- Look up a general entity; references to unparsed entities, and in attribute values
to external ones, are errors. -/
def lookupGeneral (name : String) (inAttribute : Bool) : ReadM (Option Entity) := do
  match Entity.predefined name with
  | some e => return some e
  | none =>
    let r ← get
    match r.general.find? (·.name == name) with
    | none => undeclared name; return none
    | some e =>
      match e.kind with
      | .unparsed =>
        fatal ("Entity reference to unparsed entity " ++ name); return none
      | .external =>
        if inAttribute then
          fatal ("Attribute references external entity '" ++ name ++ "'"); return none
        else return some e
      | _ => return some e

end XmlView.Markup.Reader
