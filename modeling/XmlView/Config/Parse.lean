import XmlView.Config.Mapping
import XmlView.Problem
/-! Checking a configuration value and reading its mappings. A configuration is a dictionary
whose `converters` is a non-empty dictionary from tags to entries: a type name, or the fields
`type`, `props`, `attributes` and `key`. A failed check names its field and stops reading. -/
namespace XmlView.Config

/-- The text a value reads as; a value holding an integer too long to write has none. -/
def nameOf : Value → Except Problem Text
  | .str t => .ok t
  | v => (v.written.map Text.ofString).mapError .fault

def textOf (t : Text) : String := t.toStringLossy

/-- Whether text is empty once white space is stripped from both ends. -/
def blank (t : Text) : Bool := t.strip.isEmpty

def pointsBefore : List Nat → List Nat → Bool
  | [], _ => true
  | _ :: _, [] => false
  | a :: as, b :: bs => a < b || (a == b && pointsBefore as bs)

def fail (message : String) (field : String) : Except Problem α :=
  .error (.config message (some field))

def putPair (ps : List (Text × Text)) (k v : Text) : List (Text × Text) :=
  if ps.any (·.1 == k) then ps.map fun e => if e.1 == k then (k, v) else e else ps ++ [(k, v)]

def parseAttributes (tag : String) (attributes : Value) : Except Problem AttributeRule := do
  let field := "converters." ++ tag ++ ".attributes"
  match attributes with
  | .none => return .dropAll
  | .str t =>
    if t == Text.ofString "all" then return .keepAll
    else if t == Text.ofString "none" then return .dropAll
    else
      fail ("Field 'attributes' for tag '" ++ tag ++
        "' must be one of all, none, a list or a dictionary") field
  | .list names =>
    return .rename (← names.foldlM (fun ps n => do
      let t ← nameOf n
      return putPair ps t t) [])
  | .dict es =>
    let mut renames : List (Text × Text) := []
    for (name, prop) in es do
      match prop with
      | .str p =>
        if blank p then
          fail ("Prop name for attribute '" ++ textOf (← nameOf name) ++
            "' must be a non-empty string") field
        renames := putPair renames (← nameOf name) p
      | _ =>
        fail ("Prop name for attribute '" ++ textOf (← nameOf name) ++
          "' must be a non-empty string") field
    return .rename renames
  | _ =>
    fail ("Field 'attributes' for tag '" ++ tag ++ "' must be a string, list or dictionary") field

def knownFields : List String := ["type", "props", "attributes", "key"]

def member (es : Dict) (name : String) : Option Value := Dict.get? es (.str (Text.ofString name))

/-- The fields of an entry: a type name alone stands for an entry with that type only. -/
def entryFields (tag field : String) (entry : Value) : Except Problem Dict :=
  match entry with
  | .str t => pure [(.str (Text.ofString "type"), .str t)]
  | .dict es => pure es
  | _ => fail ("Mapping for tag '" ++ tag ++ "' must be a dictionary or a type name") field

def checkFields (field : String) (es : Dict) : Except Problem Unit := do
  let unknown := (Dict.keys es).filter fun k =>
    !knownFields.any fun n => Value.same k (.str (Text.ofString n))
  if !unknown.isEmpty then
    let names := ((← unknown.mapM nameOf).map (·.points)).mergeSort pointsBefore
    fail ("Unknown fields: " ++ ", ".intercalate (names.map fun ps => textOf ⟨ps⟩)) field

def entryType (tag field : String) (es : Dict) : Except Problem Text :=
  let typeFault : Except Problem Text :=
    fail ("Field 'type' for tag '" ++ tag ++ "' must be a non-empty string") (field ++ ".type")
  match member es "type" with
  | some (.str t) => if blank t then typeFault else pure t
  | _ => typeFault

/-- The `props` field: a dictionary; a value that counts as false is no props. -/
def entryProps (tag field : String) (es : Dict) : Except Problem Dict :=
  let props : Value := match member es "props" with
    | some v => if v.truthy then v else .dict []
    | none => .dict []
  match props with
  | .dict ps => pure ps
  | _ => fail ("Field 'props' for tag '" ++ tag ++ "' must be a dictionary") (field ++ ".props")

def entryKey (tag field : String) (es : Dict) : Except Problem (Option Text) :=
  let keyFault : Except Problem (Option Text) :=
    fail ("Field 'key' for tag '" ++ tag ++ "' must be a non-empty attribute name")
      (field ++ ".key")
  match member es "key" with
  | none | some .none => pure none
  | some (.str k) => if blank k then keyFault else pure (some k)
  | some _ => keyFault

def textProps (ps : Dict) : Except Problem Dict :=
  ps.foldlM (fun d (k, v) => do return Dict.put d (.str (← nameOf k)) v) []

def parseMapping (tagText : Text) (entry : Value) : Except Problem TagMapping := do
  let tag := textOf tagText
  let field := "converters." ++ tag
  if blank tagText then fail "Tag name cannot be empty" "converters"
  let es ← entryFields tag field entry
  checkFields field es
  let type ← entryType tag field es
  let props ← entryProps tag field es
  let attributes ← parseAttributes tag ((member es "attributes").getD (.str (Text.ofString "all")))
  let key ← entryKey tag field es
  return {
    tag := tagText
    type := type
    props := ← textProps props
    attributes := attributes
    key := key }

/-- Put a mapping under its tag: a tag met again keeps its place and takes the new
mapping. -/
def putMapping (c : Mappings) (m : TagMapping) : Mappings :=
  if c.any (·.tag == m.tag) then c.map fun e => if e.tag == m.tag then m else e else c ++ [m]

def addEntry (c : Mappings) (entry : Value × Value) : Except Problem Mappings := do
  return putMapping c (← parseMapping (← nameOf entry.1) entry.2)

/-- The configuration a value describes. A value that is no dictionary has no keys to
look at. -/
def parse (v : Value) : Except Problem Mappings := do
  let top ← match v with
    | .dict es => pure es
    | v => throw (.fault (.missingMember v.typeName "keys"))
  if !Dict.contains top (.str (Text.ofString "converters")) then
    throw (.config "Missing required fields: converters" none)
  let raw ← match member top "converters" with
    | some (.dict es) => pure es
    | _ => fail "Field 'converters' must be a dictionary of tag names" "converters"
  if raw.isEmpty then fail "At least one converter mapping is required" "converters"
  raw.foldlM addEntry []

end XmlView.Config
