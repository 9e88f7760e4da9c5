import XmlView.Value.Dict
import XmlView.Problem
/-! Registries of converters. A converter takes an element's attributes and the data of
a conversion and gives a result value, whose `type` and `props` make the element's
descriptor. A registry is made from a mapping offered by a caller, and only from a
non-empty one that holds nothing but converters: `Registry.ofOffer` says exactly when. -/
namespace XmlView.Conversion

/-- A converter running in the monad `m`: from an element's attributes, by name, and the
data of a conversion to a result. -/
abbrev Converter (m : Type → Type) := List (String × String) → Value → m Value

/-- What a mapping offered as a registry holds under a tag: a converter, or a plain value,
which cannot be called. -/
inductive Slot (m : Type → Type) where
  | converter (f : Converter m)
  | plain (v : Value)

/-- A mapping offered as a registry, tags to slots, in insertion order; `none` when the
value offered is no mapping at all. -/
abbrev Offer (m : Type → Type) := Option (List (Text × Slot m))

/-- Converters by tag, in registration order. -/
structure Registry (m : Type → Type) where
  entries : List (Text × Converter m)

def invalidRegistryMessage : String :=
  "XMLToElements: Invalid value for converter map argument. " ++
    "Please use a mapping with functions as values."

namespace Registry

def converters? : List (Text × Slot m) → Option (List (Text × Converter m))
  | [] => some []
  | (t, .converter f) :: rest => (converters? rest).map ((t, f) :: ·)
  | (_, .plain _) :: _ => none

/-- The registry an offer makes: only a mapping that is not empty and holds converters
only makes one. -/
def ofOffer : Offer m → Option (Registry m)
  | some [] => none
  | some slots => (converters? slots).map Registry.mk
  | none => none

def make (o : Offer m) : Except Problem (Registry m) :=
  match ofOffer o with
  | some r => .ok r
  | none => .error (.invalidRegistry invalidRegistryMessage)

def accepts (o : Offer m) : Bool := (ofOffer o).isSome

def find? (r : Registry m) (tag : String) : Option (Converter m) :=
  (r.entries.find? fun e => e.1 == Text.ofString tag).map (·.2)

def tags (r : Registry m) : List Text := r.entries.map (·.1)

/-- A registry is fixed once made: putting a converter under a tag is refused. -/
def assign (_r : Registry m) (_tag : Text) (_f : Converter m) : Except Problem (Registry m) :=
  .error (.fault (.wrongType "'mappingproxy' object does not support item assignment"))

/-- The registry with no converter: it skips every element. -/
def empty : Registry m := ⟨[]⟩

end Registry

end XmlView.Conversion
