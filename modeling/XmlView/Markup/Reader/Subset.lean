import XmlView.Markup.Reader.Content
/-! The document type declaration and its internal subset. The reader keeps what later
reading needs: the entities, the attribute types that fold spaces, and default values. -/
namespace XmlView.Markup.Reader

def skipBlanksPE (base : Nat) : Nat → ReadM Nat
  | 0 => pure 0
  | fuel + 1 => do
    let n ← skipBlanks
    let r ← get
    if r.src.cursor.rest.isEmpty && r.outer.length > base && !r.halted then
      let name := match r.src.origin with
        | .parameter n => n
        | _ => ""
      modify fun r => { r with expandingParams := r.expandingParams.erase name }
      popSource
      let m ← skipBlanksPE base fuel
      return n + 1 + m
    return n

def blanksPE : ReadM Nat := do
  let r ← get
  if r.outer.isEmpty then skipBlanks else skipBlanksPE 0 (r.outer.length + 1)

def readExternalId (strict : Bool) : ReadM (Option String × Option String) := do
  if ← looking "SYSTEM" then
    skip 6
    if (← skipBlanks) == 0 then fatal "Space required after 'SYSTEM'"
    let uri ← readSystemLiteral
    if uri.isNone then fatal "SYSTEM or PUBLIC, the URI is missing"
    return (uri, none)
  if ← looking "PUBLIC" then
    skip 6
    if (← skipBlanks) == 0 then fatal "Space required after 'PUBLIC'"
    let pub ← readPubidLiteral
    if pub.isNone then fatal "PUBLIC, the Public Identifier is missing"
    if strict then
      if (← skipBlanks) == 0 then fatal "Space required after the Public Identifier"
    else
      if (← skipBlanks) == 0 then return (none, pub)
      let q ← peek
      if q != some '\'' && q != some '"' then return (none, pub)
    let uri ← readSystemLiteral
    if uri.isNone then fatal "SYSTEM or PUBLIC, the URI is missing"
    return (uri, pub)
  return (none, none)

/-- Record a declared entity; the first declaration of a name wins, and a predefined
entity may only be declared as its own character. -/
def addEntity (parameter : Bool) (e : Entity) : ReadM Unit := do
  let r ← get
  if r.quiet then return
  if parameter then
    if r.params.any (·.name == e.name) then return
    set { r with params := r.params ++ [e] }
  else
    match Entity.predefined e.name with
    | some pre =>
      if !(e.kind == .internal && pre.redeclares e.text) then
        warning ("Invalid redeclaration of predefined entity '" ++ e.name ++ "'")
        return
    | none => pure ()
    if r.general.any (·.name == e.name) then return
    set { r with general := r.general ++ [e] }

def readEntityDecl : ReadM Unit := do
  skip 8
  if (← blanksPE) == 0 then fatal "Space required after '<!ENTITY'"
  let mut parameter := false
  if (← peek) == some '%' then
    next
    if (← blanksPE) == 0 then fatal "Space required after '%'"
    parameter := true
  match ← readName with
  | none => fatal "xmlParseEntityDecl: no name"
  | some name =>
    if name.toList.contains ':' then
      error ("colons are forbidden from entities names '" ++ name ++ "'")
    if (← blanksPE) == 0 then fatal "Space required after the entity name"
    let q ← peek
    if q == some '"' || q == some '\'' then
      match ← readEntityValue with
      | some v => addEntity parameter ⟨name, .internal, v⟩
      | none => pure ()
    else
      let (uri, pub) ← readExternalId true
      if uri.isNone && pub.isNone then fatal "Entity value required"
      if parameter then
        match uri with
        | some u =>
          if u.toList.contains '#' then fatal "Fragment not allowed"
          else addEntity true ⟨name, .external, ""⟩
        | none => pure ()
      else
        if let some u := uri then
          if u.toList.contains '#' then fatal "Fragment not allowed"
        if (← peek) != some '>' then
          if (← blanksPE) == 0 then fatal "Space required before 'NDATA'"
        if ← looking "NDATA" then
          skip 5
          if (← blanksPE) == 0 then fatal "Space required after 'NDATA'"
          let _ ← readName
          addEntity false ⟨name, .unparsed, ""⟩
        else addEntity false ⟨name, .external, ""⟩
    if ← stopped then return
    let _ ← blanksPE
    if (← peek) != some '>' then
      fatal ("xmlParseEntityDecl: entity " ++ name ++ " not terminated")
      halt
    else next

def readRepeat : ReadM Unit := do
  match ← peek with
  | some '?' | some '*' | some '+' => next
  | _ => pure ()

def readChildren : Nat → ReadM Bool
  | 0 => pure false
  | fuel + 1 => do
    let _ ← blanksPE
    if (← peek) == some '(' then
      next
      if !(← readChildren fuel) then return false
    else
      match ← readName with
      | none => fatal "ContentDecl : Name or '(' expected"; return false
      | some _ => readRepeat
    let ok ← loop none fuel
    if !ok then return false
    next
    readRepeat
    return true
where
  loop (sep : Option Char) : Nat → ReadM Bool
    | 0 => pure false
    | fuel + 1 => do
      if ← stopped then return true
      let _ ← blanksPE
      match ← peek with
      | some ')' => return true
      | some c =>
        if c == ',' || c == '|' then
          match sep with
          | some s =>
            if s != c then
              fatal ("xmlParseElementChildrenContentDecl : '" ++ s.toString ++ "' expected")
              return false
          | none => pure ()
          next
          let _ ← blanksPE
          if (← peek) == some '(' then
            next
            if !(← readChildren fuel) then return false
          else
            match ← readName with
            | none => fatal "ContentDecl : Name or '(' expected"; return false
            | some _ => readRepeat
          loop (some c) fuel
        else
          fatal "ContentDecl : ',' '|' or ')' expected"
          return false
      | none =>
        fatal "ContentDecl : ',' '|' or ')' expected"
        return false

def readMixed : ReadM Bool := do
  skip 7
  let _ ← blanksPE
  if (← peek) == some ')' then
    next
    if (← peek) == some '*' then next
    return true
  let names ← loop false (← budget)
  match names with
  | none => return false
  | some _ =>
    if ← looking ")*" then
      skip 2
      return true
    fatal "MixedContentDecl : '|' or ')*' expected"
    return false
where
  loop (any : Bool) : Nat → ReadM (Option Bool)
    | 0 => pure (some any)
    | fuel + 1 => do
      if (← peek) != some '|' || (← stopped) then return some any
      next
      let _ ← blanksPE
      match ← readName with
      | none =>
        fatal "xmlParseElementMixedContentDecl : Name expected"
        return none
      | some _ =>
        let _ ← blanksPE
        loop true fuel

def readElementDecl : ReadM Unit := do
  skip 9
  if (← blanksPE) == 0 then fatal "Space required after 'ELEMENT'"; return
  match ← readName with
  | none => fatal "xmlParseElementDecl: no name for Element"
  | some name =>
    if (← blanksPE) == 0 then fatal "Space required after the element name"
    if ← looking "EMPTY" then skip 5
    else if ← looking "ANY" then skip 3
    else if (← peek) == some '(' then
      next
      let _ ← blanksPE
      let ok ← if ← looking "#PCDATA" then readMixed
        else readChildren (2 * (← budget))
      if !ok then return
      let _ ← blanksPE
    else
      fatal "xmlParseElementDecl: 'EMPTY', 'ANY' or '(' expected"
      return
    let _ ← blanksPE
    if (← peek) != some '>' then fatal "expected '>'"
    else
      next
      let r ← get
      if !r.quiet then
        if r.elements.contains name then error ("Redefinition of element " ++ name)
        else set { r with elements := name :: r.elements }

/-- The type of a declared attribute: `none` after an error, else whether it is `CDATA`
and the test its values must pass. -/
inductive AttrType where
  | cdata
  | id
  | name
  | names
  | token
  | tokens
  deriving DecidableEq

def readEnumeration (tokens : Bool) : ReadM Bool := do
  if (← peek) != some '(' then
    fatal (if tokens then "'(' required to start ATTLIST enumeration"
      else "'(' required to start 'NOTATION'")
    return false
  loop (← budget)
where
  loop : Nat → ReadM Bool
    | 0 => pure false
    | fuel + 1 => do
      next
      let _ ← blanksPE
      let item ← if tokens then readNmtoken else readName
      match item with
      | none =>
        fatal (if tokens then "NmToken expected in ATTLIST enumeration"
          else "Name expected in NOTATION declaration")
        return false
      | some _ =>
        let _ ← blanksPE
        if (← peek) == some '|' then loop fuel
        else if (← peek) == some ')' then
          next
          return true
        else
          fatal (if tokens then "')' required to finish ATTLIST enumeration"
            else "')' required to finish NOTATION declaration")
          return false

def readAttrType : ReadM (Option AttrType) := do
  let kinds : List (String × AttrType) :=
    [("CDATA", .cdata), ("IDREFS", .names), ("IDREF", .name), ("ID", .id),
     ("ENTITY", .name), ("ENTITIES", .names), ("NMTOKENS", .tokens), ("NMTOKEN", .token)]
  let k ← cursor
  match kinds.find? fun (w, _) => w.toList.isPrefixOf k.rest with
  | some (w, t) => skip w.length; return some t
  | none =>
    if ← looking "NOTATION" then
      skip 8
      if (← blanksPE) == 0 then fatal "Space required after 'NOTATION'"; return none
      if ← readEnumeration false then return some .name else return none
    if ← readEnumeration true then return some .token else return none

def AttrType.accepts : AttrType → String → Bool
  | .cdata, _ => true
  | .id, v | .name, v => isNameText v.toList
  | .names, v => (v.splitOn " ").all fun w => isNameText w.toList
  | .token, v => !v.isEmpty && v.toList.all isNameChar
  | .tokens, v => (v.splitOn " ").all fun w => !w.isEmpty && w.toList.all isNameChar
where
  isNameText : List Char → Bool
    | c :: cs => isNameStart c && cs.all isNameChar
    | [] => false

def foldSpaces (v : String) : String :=
  " ".intercalate ((v.splitOn " ").filter (!·.isEmpty))

def insertDeclared (new : String × Bool) (nsDecl : Bool) (list : List (String × Bool)) :
    List (String × Bool) :=
  if nsDecl then new :: list
  else
    let front := list.takeWhile (·.1 == "xmlns")
    match list.drop front.length with
    | [] => list ++ [new]
    | first :: rest => front ++ first :: new :: rest

/-- Record a newly declared attribute of an element. An element may have one `ID`
attribute: declaring another reports each `ID` after the first that the element already
lists, then the new one. -/
def declareAttribute (element attr : String) (isId : Bool) : ReadM Unit := do
  let (pre, short) := splitDeclared attr
  let list := (((← get).idLists.find? (·.1 == element)).map (·.2)).getD []
  if isId then
    let ids := list.filter (·.2)
    for (other, _) in ids.drop 1 do
      error ("Element " ++ (splitDeclared element).2 ++ " has too many ID attributes defined : " ++
        other)
    if !ids.isEmpty then
      error ("Element " ++ element ++ " has too may ID attributes defined : " ++ short)
  let list := insertDeclared (short, isId) (short == "xmlns" || pre == some "xmlns") list
  modify fun r => { r with idLists := (element, list) :: r.idLists.filter (·.1 != element) }

def readAttlistDecl : ReadM Unit := do
  skip 9
  if (← blanksPE) == 0 then fatal "Space required after '<!ATTLIST'"
  match ← readName with
  | none => fatal "ATTLIST: no name for Element"
  | some element =>
    let _ ← blanksPE
    loop element (← budget)
    if (← peek) == some '>' then next
where
  loop (element : String) : Nat → ReadM Unit
    | 0 => pure ()
    | fuel + 1 => do
      if (← peek) == some '>' || (← stopped) then return
      match ← readName with
      | none => fatal "ATTLIST: no name for Attribute"
      | some attr =>
        if (← blanksPE) == 0 then fatal "Space required after the attribute name"; return
        match ← readAttrType with
        | none => return
        | some ty =>
          if (← blanksPE) == 0 then fatal "Space required after the attribute type"; return
          let (implied, value) ← readDefault
          let value := if ty != .cdata then value.map foldSpaces else value
          if (← peek) != some '>' then
            if (← blanksPE) == 0 then
              fatal "Space required after the attribute default value"
              return
          let r ← get
          if !r.quiet then
            let lname := (splitDeclared attr).2
            if attr == "xml:id" && ty != .id then
              error "xml:id : attribute type should be ID"
            if let some v := value then
              if !ty.accepts v then
                error ("Attribute " ++ element ++ " of " ++ lname ++ ": invalid default value")
            if r.attrDecls.contains (element, attr) then
              warning ("Attribute " ++ lname ++ " of element " ++ element ++ ": already defined")
            else
              modify fun r => { r with attrDecls := (element, attr) :: r.attrDecls }
              declareAttribute element attr (ty == .id)
          let r ← get
          let declared := r.special.any fun s => s.element == element && s.attr == attr
          if !declared then
            let defaults := match value with
              | some v => if implied then r.defaults else r.defaults ++ [({ element, attr, value := v } : AttrDefault)]
              | none => r.defaults
            set { r with defaults := defaults,
                         special := r.special ++ [({ element, attr, cdata := ty == AttrType.cdata } : Special)] }
          loop element fuel
  /-- `#REQUIRED`, `#IMPLIED`, or a value, perhaps `#FIXED`; gives whether the attribute
  has no default and the value. -/
  readDefault : ReadM (Bool × Option String) := do
    if ← looking "#REQUIRED" then skip 9; return (true, none)
    if ← looking "#IMPLIED" then skip 8; return (true, none)
    if ← looking "#FIXED" then
      skip 6
      if (← blanksPE) == 0 then fatal "Space required after '#FIXED'"
    match ← readAttValue false false with
    | some v => return (false, some v)
    | none =>
      fatal "Attribute default value declaration error"
      return (false, none)

def readNotationDecl : ReadM Unit := do
  skip 10
  if (← blanksPE) == 0 then fatal "Space required after '<!NOTATION'"; return
  match ← readName with
  | none => fatal "NOTATION: Name expected here"
  | some name =>
    if name.toList.contains ':' then
      error ("colons are forbidden from notation names '" ++ name ++ "'")
    if (← blanksPE) == 0 then fatal "Space required after the NOTATION name'"; return
    let _ ← readExternalId false
    let _ ← blanksPE
    if (← peek) == some '>' then next
    else fatal "'>' required to close NOTATION declaration"

def readMarkupDecl : ReadM Unit := do
  let k ← cursor
  match k.rest with
  | '<' :: '!' :: 'E' :: 'L' :: _ =>
    if ← looking "<!ELEMENT" then readElementDecl else skip 2
  | '<' :: '!' :: 'E' :: 'N' :: _ =>
    if ← looking "<!ENTITY" then readEntityDecl else skip 2
  | '<' :: '!' :: 'E' :: _ => skip 2
  | '<' :: '!' :: 'A' :: _ =>
    if ← looking "<!ATTLIST" then readAttlistDecl else skip 2
  | '<' :: '!' :: 'N' :: _ =>
    if ← looking "<!NOTATION" then readNotationDecl else skip 2
  | '<' :: '!' :: '-' :: _ =>
    if ← looking "<!--" then readComment else skip 2
  | '<' :: '!' :: _ =>
    fatal "Content error in the internal subset"
    skip 2
  | '<' :: '?' :: _ => readInstruction
  | _ => pure ()

def readPERef : ReadM Unit := do
  next
  match ← readName with
  | none => fatal "PEReference: no name"
  | some name =>
    if (← peek) != some ';' then fatal "PEReference: expecting ';'"; return
    next
    modify fun r => { r with hasPERefs := true }
    let r ← get
    match r.params.find? (·.name == name) with
    | none => undeclared name
    | some e =>
      if e.kind == .external then return
      if r.expandingParams.contains name then
        fatal "Detected an entity reference loop"
        halt
        return
      if r.outer.length + 1 ≥ entityDepthLimit then
        fatal "Maximum entity nesting depth exceeded"
        halt
        return
      pushSource (Source.ofText e.text.toList (.parameter name))
      modify fun r => { r with expandingParams := name :: r.expandingParams }

def readInternalSubset : ReadM Unit := do
  let base := (← get).outer.length
  next
  let _ ← skipBlanks
  loop base ((← budget) * 4)
  modify fun r =>
    let extra := r.outer.length - base
    let r := { r with expandingParams := [] }
    if extra == 0 then r
    else match r.outer.drop (extra - 1) with
      | s :: rest => { r with src := s, outer := rest }
      | [] => r
  if (← peek) == some ']' then
    next
    let _ ← skipBlanks
  if (← isWellFormed) && (← peek) != some '>' then
    fatal "DOCTYPE improperly terminated"
    return
  next
where
  loop (base : Nat) : Nat → ReadM Unit
    | 0 => pure ()
    | fuel + 1 => do
      let r ← get
      if r.halted then return
      if (r.src.cursor.peek == some ']') && r.outer.length ≤ base then return
      let k := r.src.cursor
      if k.peek == some '<' && (k.peekAt 1 == some '!' || k.peekAt 1 == some '?') then
        readMarkupDecl
      else if k.peek == some '%' then readPERef
      else
        fatal "Content error in the internal subset"
        return
      let _ ← skipBlanksPE base ((← get).outer.length + 1)
      loop base fuel

def readDoctype : ReadM Unit := do
  modify fun r => { r with inSubset := 1 }
  skip 9
  if (← skipBlanks) == 0 then fatal "Space required after 'DOCTYPE'"
  if (← readName).isNone then fatal "xmlParseDocTypeDecl : no DOCTYPE name !"
  let _ ← skipBlanks
  let (uri, pub) ← readExternalId true
  if uri.isSome || pub.isSome then modify fun r => { r with hasExternalSubset := true }
  let _ ← skipBlanks
  if (← peek) == some '[' then readInternalSubset
  else
    if (← peek) != some '>' then fatal "DOCTYPE improperly terminated"
    next
  modify fun r => { r with inSubset := 0, special := r.special.filter fun s => !s.cdata }

end XmlView.Markup.Reader
