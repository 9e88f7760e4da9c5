import XmlView.Markup.Reader.Reference
/-! Quoted literals: attribute values, entity values, system and public identifiers.
Attribute values turn blanks into spaces and, for non-`CDATA` types, fold them. -/
namespace XmlView.Markup.Reader

def entityDepthLimit : Nat := 40

def truncateEntity (name : String) : ReadM Unit := modify fun r =>
  { r with general := r.general.map fun e => if e.name == name then { e with text := "" } else e }

def markChecked (name : String) : ReadM Unit := modify fun r =>
  if r.inSubset == 0 then { r with checked := name :: r.checked } else r

def isChecked (name : String) : ReadM Bool := return (← get).checked.contains name

def entityOf (name : String) : ReadM (Option Entity) :=
  return (← get).general.find? (·.name == name)

/-- Check the replacement text of an entity met in an attribute value, and that of the
entities it refers to, for `<` and malformed references. `budget` bounds the nesting.
Outside the subset the check also fixes the size the entity expands to: its own bytes and,
for each reference in it, what that entity expands to and the cost of a reference. -/
def checkInAttribute : Nat → Entity → ReadM Unit
  | 0, _ => fatal "Maximum entity nesting depth exceeded"
  | budget + 1, e => do
    if (← get).expanding.contains e.name then
      fatal "Detected an entity reference loop"
      halt
      return
    let extra ← go budget e (pieces false e.text.toList) 0
    markChecked e.name
    if (← get).inSubset == 0 then
      setExpandedSize e.name (e.text.utf8ByteSize + extra)
      markSized e.name
where
  go (budget : Nat) (e : Entity) : List Piece → Nat → ReadM Nat
    | [], extra => pure extra
    | p :: ps, extra => do
      if ← stopped then return extra
      match p with
      | .char c =>
        if c == '<' then
          fatal ("'<' in entity '" ++ e.name ++ "' is not allowed in attributes values")
        go budget e ps extra
      | .charRef v hex closed =>
        if (← stringCharRef v hex closed) == 0 then truncateEntity e.name; return extra
        else go budget e ps extra
      | .generalRef (some n) true =>
        match ← lookupGeneral n true with
        | some sub =>
          if sub.kind == .predefined then go budget e ps extra
          else
            if !(← isChecked sub.name) then
              modify fun r => { r with expanding := e.name :: r.expanding }
              checkInAttribute budget sub
              modify fun r => { r with expanding := r.expanding.erase e.name }
            go budget e ps (extra + (← expandedSize sub.name) + referenceCost)
        | none => go budget e ps extra
      | .generalRef none _ =>
        fatal "xmlParseStringEntityRef: no name"; truncateEntity e.name; return extra
      | .generalRef (some _) false =>
        fatal "EntityRef: expecting ';'"; truncateEntity e.name; return extra
      | .paramRef _ _ => go budget e ps extra

def expandInNamespace : Nat → Entity → Bool → String × Bool → ReadM (String × Bool)
  | 0, _, _, st => do fatal "Maximum entity nesting depth exceeded"; return st
  | budget + 1, e, normalize, st => do
    if (← get).expanding.contains e.name then
      fatal "Detected an entity reference loop"
      halt
      return st
    go budget e normalize (pieces false e.text.toList) st
where
  go (budget : Nat) (e : Entity) (normalize : Bool) :
      List Piece → String × Bool → ReadM (String × Bool)
    | [], st => pure st
    | p :: ps, (acc, inSpace) => do
      if ← stopped then return (acc, inSpace)
      match p with
      | .char c =>
        if c == '<' then
          fatal ("'<' in entity '" ++ e.name ++ "' is not allowed in attributes values")
          return (acc, inSpace)
        if c.toNat ≤ 0x20 then
          let acc := if normalize && inSpace then acc else acc.push ' '
          go budget e normalize ps (acc, true)
        else go budget e normalize ps (acc.push c, false)
      | .charRef v hex closed =>
        let v ← stringCharRef v hex closed
        if v == 0 then truncateEntity e.name; return (acc, inSpace)
        if v == 0x20 then
          go budget e normalize ps (if normalize && inSpace then acc else acc.push ' ', true)
        else go budget e normalize ps (acc.push (Char.ofNat v), false)
      | .generalRef (some n) true =>
        match ← lookupGeneral n true with
        | some sub =>
          if sub.kind == .predefined then go budget e normalize ps (acc ++ sub.text, false)
          else
            modify fun r => { r with expanding := e.name :: r.expanding }
            let st ← expandInNamespace budget sub normalize (acc, inSpace)
            modify fun r => { r with expanding := r.expanding.erase e.name }
            go budget e normalize ps st
        | none => go budget e normalize ps (acc, inSpace)
      | .generalRef none _ =>
        fatal "xmlParseStringEntityRef: no name"; truncateEntity e.name; return (acc, inSpace)
      | .generalRef (some _) false =>
        fatal "EntityRef: expecting ';'"; truncateEntity e.name; return (acc, inSpace)
      | .paramRef _ _ => go budget e normalize ps (acc, inSpace)

def depthBudget : ReadM Nat := return entityDepthLimit - ((← get).outer.length + 1)

def readAttValue (normalize isNamespace : Bool) : ReadM (Option String) := do
  let quote ← peek
  if quote != some '"' && quote != some '\'' then
    fatal "AttValue: \" or ' expected"
    return none
  step
  let fuel ← budget
  match ← loop (quote.getD '"') fuel ("", true) with
  | none => return none
  | some (acc, inSpace) =>
    step
    let acc := if normalize && inSpace && !acc.isEmpty then String.ofList acc.toList.dropLast
      else acc
    return some acc
where
  loop (quote : Char) : Nat → String × Bool → ReadM (Option (String × Bool))
    | 0, st => pure (some st)
    | fuel + 1, (acc, inSpace) => do
      if ← stopped then return none
      match ← peek with
      | none => fatal "AttValue: ' expected"; return none
      | some c =>
        if c.toNat ≥ 0x80 then
          if c.toNat == 0xFFFE || c.toNat == 0xFFFF then
            fatal "invalid character in attribute value"
          step
          loop quote fuel (acc.push c, false)
        else if c != '&' then
          if c.toNat > 0x20 then
            if c == quote then return some (acc, inSpace)
            if c == '<' then fatal "Unescaped '<' not allowed in attributes values"
            step
            loop quote fuel (acc.push c, false)
          else if !isByteChar c then
            fatal "invalid character in attribute value"
            step
            loop quote fuel (acc.push '�', false)
          else
            let acc := if normalize && inSpace then acc else acc.push ' '
            if c == '\r' && (← peekAt 1) == some '\n' then
              moveBy fun k => { k with rest := k.rest.drop 1 }
            step
            loop quote fuel (acc, true)
        else if (← peekAt 1) == some '#' then
          let v ← readCharRef
          if v == 0 then return none
          if v == 0x20 then
            loop quote fuel (if normalize && inSpace then acc else acc.push ' ', true)
          else loop quote fuel (acc.push (Char.ofNat v), false)
        else
          match ← readEntityRefName with
          | none => loop quote fuel (acc, inSpace)
          | some name =>
            match ← lookupGeneral name true with
            | none => loop quote fuel (acc, inSpace)
            | some e =>
              if e.kind == .predefined then loop quote fuel (acc ++ e.text, false)
              else if isNamespace then
                let st ← expandInNamespace (← depthBudget) e normalize (acc, inSpace)
                loop quote fuel st
              else
                if !(← isChecked e.name) then
                  checkInAttribute (← depthBudget) e
                  if ← stopped then return none
                let r ← get
                let text := decodeText r.general (r.general.length + 1) [e.name] e.text
                loop quote fuel (acc ++ text, false)

/-- Read a quoted entity value and give its replacement text: character references
replaced, parameter entity references refused, references to general entities checked and
kept as written. The opening quote is passed over without counting a column, and each
byte of the value counts one. -/
def readEntityValue : ReadM (Option String) := do
  let quote ← peek
  if quote != some '"' && quote != some '\'' then
    fatal "EntityValue: \" or ' expected"
    return none
  moveBy fun k => { k with rest := k.rest.drop 1 }
  let quote := quote.getD '"'
  let start ← cursor
  let body := start.rest.takeWhile (· != quote)
  if ← stopped then return none
  if (start.rest.drop body.length).isEmpty then
    moveBy fun k => body.foldl (fun k c => stepBytesOf k c) k
    fatal "EntityValue: \" or ' expected"
    return none
  if body.contains '\x00' then
    let before := body.takeWhile (· != '\x00')
    moveBy fun k => before.foldl (fun k c => stepBytesOf k c) k
    fatal "invalid character in entity value"
    return none
  moveBy fun k => body.foldl (fun k c => stepBytesOf k c) k
  -- the value counts as one more text open, and too deep a one is left empty
  if (← get).outer.length + 2 > entityDepthLimit then
    fatal "Maximum entity nesting depth exceeded"
    step
    return some ""
  let text ← expand (pieces true body) ""
  step
  return some text
where
  stepBytesOf (k : Cursor) (c : Char) : Cursor :=
    if c == '\n' then ⟨k.rest.drop 1, k.line + 1, 1⟩
    else ⟨k.rest.drop 1, k.line, k.col + utf8Width c⟩
  expand : List Piece → String → ReadM String
    | [], acc => pure acc
    | p :: ps, acc => do
      if ← stopped then return acc
      match p with
      | .char c =>
        if c.toNat < 0x80 && !isByteChar c then
          fatal "invalid character in entity value"
          expand ps (acc.push '�')
        else
          if c.toNat == 0xFFFE || c.toNat == 0xFFFF then
            fatal "invalid character in entity value"
          expand ps (acc.push c)
      | .charRef v hex closed =>
        let v ← stringCharRef v hex closed
        if v == 0 then return acc
        expand ps (acc.push (Char.ofNat v))
      | .generalRef (some n) true => expand ps (acc ++ "&" ++ n ++ ";")
      | .generalRef _ _ =>
        fatal "EntityValue: '&' forbidden except for entities references"
        return acc
      | .paramRef none _ =>
        fatal "xmlParseStringPEReference: no name"
        return acc
      | .paramRef (some _) false =>
        -- a parameter reference in a value shares the message of a general one
        fatal "EntityRef: expecting ';'"
        return acc
      | .paramRef (some n) true =>
        modify fun r => { r with hasPERefs := true }
        match (← get).params.find? (·.name == n) with
        | none => undeclared n; return acc
        | some _ => fatal "PEReferences forbidden in internal subset"; return acc

def readSystemLiteral : ReadM (Option String) := do
  let quote ← peek
  if quote != some '"' && quote != some '\'' then
    fatal "SystemLiteral \" or ' expected"
    return none
  next
  let quote := quote.getD '"'
  let fuel ← budget
  let (acc, closed) ← loop quote fuel ""
  if ← stopped then return none
  if closed then next
  else fatal "Unfinished System or Public ID \" or ' expected"
  return some acc
where
  loop (quote : Char) : Nat → String → ReadM (String × Bool)
    | 0, acc => pure (acc, false)
    | fuel + 1, acc => do
      match ← current with
      | some c =>
        if !isDocChar c.toNat then return (acc, false)
        if c == quote then return (acc, true)
        step
        loop quote fuel (acc.push c)
      | none => return (acc, false)

def readPubidLiteral : ReadM (Option String) := do
  let quote ← peek
  if quote != some '"' && quote != some '\'' then
    fatal "SystemLiteral \" or ' expected"
    return none
  next
  let quote := quote.getD '"'
  let acc ← loop quote (← budget) ""
  if (← peek) == some quote then step
  else fatal "Unfinished System or Public ID \" or ' expected"
  return some acc
where
  loop (quote : Char) : Nat → String → ReadM String
    | 0, acc => pure acc
    | fuel + 1, acc => do
      match ← peek with
      | some c =>
        if isPubidChar c && c != quote then
          next
          loop quote fuel (acc.push c)
        else return acc
      | none => return acc

end XmlView.Markup.Reader
