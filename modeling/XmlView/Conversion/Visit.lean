import XmlView.Conversion.Item
import XmlView.Conversion.Registry
import XmlView.Conversion.Descriptor
import XmlView.Markup.Document
/-! Converting a read document into a descriptor tree. An element whose name has a
converter becomes an element descriptor with the type and props its converter gives, merged
over its sibling index; text becomes a leaf; anything else, with all it holds, is skipped. -/
namespace XmlView.Conversion

open Markup

variable {m : Type → Type} [Monad m] [MonadExcept Fault m]

def member (result : Value) (name : String) : m Value :=
  match result with
  | .dict es => pure ((Dict.get? es (.str (Text.ofString name))).getD .none)
  | v => throw (.missingMember v.typeName "get")

def elementProps (index : Nat) (props : Value) : Except Fault Dict :=
  let base : Dict := [(.str (Text.ofString "key"), .int index)]
  if props.truthy then Dict.update base props else .ok base

def liftFault (r : Except Fault α) : m α :=
  match r with
  | .ok a => pure a
  | .error f => throw f

/-- The type and props of an element's descriptor: the converter is called with the
element's attributes and the data, and the props of its result are merged over the
element's index, kept under `key`. -/
def describe (convert : Converter m) (attrs : List (String × String)) (data : Value)
    (index : Nat) : m (Value × Dict) := do
  let result ← convert attrs data
  let type ← member result "type"
  let props ← member result "props"
  let props ← liftFault (elementProps index props)
  return (type, props)

/-- Convert an item, the `index`-th child of its parent. -/
def visit (reg : Registry m) (data : Value) (index : Nat) (item : Item) : m Descriptor :=
  match item with
  | .nothing => pure .skipped
  | .text s => pure (.text (Text.ofString s))
  | .node n outer =>
    match (Item.node n outer).tag?.bind reg.find? with
    | none => pure .skipped
    | some convert => do
      let (type, props) ← describe convert (Item.node n outer).attributes data index
      let children ← (Item.node n outer).children.zipIdx.attach.mapM fun ⟨(c, i), _⟩ =>
        visit reg data i c
      return .element type props children
termination_by item.size
decreasing_by
  exact Item.size_lt_of_mem_children (List.fst_mem_of_mem_zipIdx ‹_›)

def visitNode (reg : Registry m) (data : Value) (index : Nat) (n : Node) (outer : Scope) :
    m Descriptor :=
  visit reg data index (.node n outer)

def parseStrict : Value → Except Problem Node
  | .str t =>
    match parseDocument t with
    | .ok root => .ok root
    | .error e => .error (.invalidXml e)
  | v => .error (.fault (.missingMember v.typeName "encode"))

def invalidXmlWarning : String := "Unable to parse invalid XML input. Please input valid XML."

/-- A document read for conversion: its root element, or none with the warnings logged.
Only text is read; any other value gives none and logs nothing. -/
def readForConversion (xml : Value) : Option Node × List String :=
  match xml with
  | .str t =>
    match parseDocument t with
    | .ok root => (some root, [])
    | .error _ => (none, [invalidXmlWarning])
  | _ => (none, [])

/-- What a conversion gives: the tree, and the warnings logged on the way. -/
structure Outcome where
  tree : Descriptor
  warnings : List String

/-- Convert a document: the tree of its root element, or a skipped node when `xml` is not
text or not a well-formed document. -/
def convert (reg : Registry m) (xml : Value) (data : Value) : m Outcome :=
  match readForConversion xml with
  | (some root, ws) => do return ⟨← visitNode reg data 0 root [], ws⟩
  | (none, ws) => pure ⟨.skipped, ws⟩

end XmlView.Conversion
