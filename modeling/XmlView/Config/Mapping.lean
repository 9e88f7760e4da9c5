import XmlView.Conversion.Registry
import XmlView.Value.Display
/-! Tag mappings: for each tag, the type of the element it becomes, its own props, the rule
that turns attributes into props, and the key attribute whose value replaces the sibling
index under `key`. Later additions win over earlier ones. -/
namespace XmlView.Config

/-- How an element's attributes become props: all under their own names, none, or the
listed ones, each under the prop name it is paired with. -/
inductive AttributeRule where
  | keepAll
  | dropAll
  | rename (pairs : List (Text × Text))
  deriving Inhabited, DecidableEq

/-- How one tag is converted. -/
structure TagMapping where
  tag : Text
  type : Text
  props : Dict
  attributes : AttributeRule := .keepAll
  key : Option Text := none
  deriving Inhabited

/-- The mappings of a configuration, one per tag, in the order the tags first appear. -/
abbrev Mappings := List TagMapping

def textKey (t : Text) : Value := .str t

namespace TagMapping

def ruleProps (m : TagMapping) (attributes : Dict) : Dict :=
  match m.attributes with
  | .keepAll => attributes.foldl (fun d (k, v) => Dict.put d k v) m.props
  | .dropAll => m.props
  | .rename pairs =>
    pairs.foldl (fun d (name, prop) =>
      match Dict.get? attributes (textKey name) with
      | some v => Dict.put d (textKey prop) v
      | none => d) m.props

/-- Props with the value of the mapping's key attribute, when the element has it, under
`key`. -/
def keyedProps (m : TagMapping) (attributes : Dict) (props : Dict) : Dict :=
  match m.key with
  | some k =>
    if k.isEmpty then props
    else
      match Dict.get? attributes (textKey k) with
      | some v => Dict.put props (textKey (Text.ofString "key")) v
      | none => props
  | none => props

def apply (m : TagMapping) (attributes : Dict) : Value :=
  .dict [(textKey (Text.ofString "type"), .str m.type),
    (textKey (Text.ofString "props"), .dict (m.keyedProps attributes (m.ruleProps attributes)))]

/-- The converter of a mapping: it never fails. -/
def converter [Monad n] (m : TagMapping) : Conversion.Converter n := fun attrs _ =>
  pure (m.apply (attrs.map fun (k, v) => (textKey (Text.ofString k), textKey (Text.ofString v))))

/-- The name of the converter: `convert_` and the tag, with `:` and `-` as `_`. -/
def converterName (m : TagMapping) : Text :=
  Text.ofString "convert_" ++
    ⟨m.tag.points.map fun p => if p == 0x3A || p == 0x2D then 0x5F else p⟩

end TagMapping

def offer [Monad n] (c : Mappings) : Conversion.Offer n :=
  some (c.map fun m => (m.tag, .converter m.converter))

end XmlView.Config
