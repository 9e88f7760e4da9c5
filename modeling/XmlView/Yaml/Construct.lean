import XmlView.Yaml.Composer
import XmlView.Yaml.Scalar
import XmlView.Value.Dict
import XmlView.Value.SetOrder
import XmlView.CodePoint.Case
/-! Values from nodes, by tag. Collections are filled one level at a time, so the first
failure reported is the first in that order; merge keys `<<` bring their pairs in first. -/
namespace XmlView.Yaml

inductive Shape where
  | null | bool | int | float | binary | timestamp | str
  | seq | map | set | omap | pairs
  deriving DecidableEq

namespace Shape

def ofTag (tag : String) : Option Shape :=
  let name := if tag.startsWith tagPrefix then some (tag.drop tagPrefix.length).toString else none
  match name with
  | some "null" => some .null
  | some "bool" => some .bool
  | some "int" => some .int
  | some "float" => some .float
  | some "binary" => some .binary
  | some "timestamp" => some .timestamp
  | some "str" => some .str
  | some "seq" => some .seq
  | some "map" => some .map
  | some "set" => some .set
  | some "omap" => some .omap
  | some "pairs" => some .pairs
  | _ => none

def isCollection : Shape → Bool
  | .seq | .map | .set | .omap | .pairs => true
  | _ => false

end Shape

def constructorError (context : Option String) (contextMark : Option Mark) (problem : String)
    (m : Mark) : Failure :=
  .marked {
    context := context
    contextMark := contextMark
    problem := problem
    problemMark := some m }

def scalarValue (shape : Shape) (value : List Nat) (start : Mark) : Except Failure Value :=
  let lift := fun {α : Type} (x : Except Fault α) => x.mapError Failure.fault
  match shape with
  | .null => .ok .none
  | .bool => (lift (boolOf value)).map .bool
  | .int => (lift (intOf value)).map .int
  | .float => (lift (floatOf value)).map .float
  | .binary => (bytesOf value start).map .bytes
  | .timestamp => lift (timestampOf value)
  | _ => .ok (.str ⟨value⟩)

def flatten : Nat → Mark → List (Node × Node) → Except Failure (List (Node × Node))
  | 0, _, pairs => .ok pairs
  | fuel + 1, start, pairs => do
    let mut merged : List (Node × Node) := []
    let mut own : List (Node × Node) := []
    for (k, v) in pairs do
      if k.tag == tagPrefix ++ "merge" then
        match v with
        | .mapping _ ps m => merged := merged ++ (← flatten fuel m ps)
        | .sequence _ items _ =>
          let mut groups : List (List (Node × Node)) := []
          for sub in items do
            match sub with
            | .mapping _ ps m => groups := groups ++ [← flatten fuel m ps]
            | _ =>
              throw (constructorError (some "while constructing a mapping") (some start)
                ("expected a mapping for merging, but found " ++ sub.kindName) sub.start)
          merged := merged ++ groups.reverse.flatten
        | _ =>
          throw (constructorError (some "while constructing a mapping") (some start)
            ("expected a mapping or list of mappings for merging, but found " ++ v.kindName)
            v.start)
      else if k.tag == tagPrefix ++ "value" then own := own ++ [(k.withTag (tagPrefix ++ "str"), v)]
      else own := own ++ [(k, v)]
    return merged ++ own

def shapeOf (n : Node) : Except Failure Shape :=
  match Shape.ofTag n.tag with
  | some s => .ok s
  | none =>
    .error (constructorError none none
      ("could not determine a constructor for the tag " ++ (Text.ofString n.tag).literal) n.start)

def meet (n : Node) (level : Array Node) : Except Failure (Array Node) := do
  let shape ← shapeOf n
  if shape.isCollection then return level.push n
  match n with
  | .scalar _ value start =>
    let _ ← scalarValue shape value start
    return level
  | _ =>
    throw (constructorError none none ("expected a scalar node, but found " ++ n.kindName) n.start)

def singlePairs (what : String) (n : Node) : Except Failure (List (Node × Node)) := do
  let context := some ("while constructing " ++ what)
  match n with
  | .sequence _ items start =>
    items.mapM fun sub =>
      match sub with
      | .mapping _ [p] _ => .ok p
      | .mapping _ ps _ =>
        .error (constructorError context (some start)
          ("expected a single mapping item, but found " ++ toString ps.length ++ " items") sub.start)
      | _ =>
        .error (constructorError context (some start)
          ("expected a mapping of length 1, but found " ++ sub.kindName) sub.start)
  | _ =>
    .error (constructorError context (some n.start)
      ("expected a sequence, but found " ++ n.kindName) n.start)

def mappingPairs (n : Node) : Except Failure (List (Node × Node)) :=
  match n with
  | .mapping _ ps start => flatten (ps.length + 1) start ps
  | _ => .error (constructorError none none ("expected a mapping node, but found " ++ n.kindName) n.start)

def fill (n : Node) (level : Array Node) : Except Failure (Array Node) := do
  match ← shapeOf n with
  | .seq =>
    match n with
    | .sequence _ items _ => items.foldlM (fun acc c => meet c acc) level
    | _ => throw (constructorError none none ("expected a sequence node, but found " ++ n.kindName) n.start)
  | .omap | .pairs =>
    let what := if (← shapeOf n) == .omap then "an ordered map" else "pairs"
    let ps ← singlePairs what n
    ps.foldlM (fun acc (k, v) => do meet v (← meet k acc)) level
  | _ =>
    let ps ← mappingPairs n
    ps.foldlM (fun acc (k, v) => do
      let acc ← meet k acc
      if (← shapeOf k).isCollection then
        throw (constructorError (some "while constructing a mapping") (some n.start)
          "found unhashable key" k.start)
      meet v acc) level

def seenBefore (seen : List (Nat × String)) (n : Node) : Bool :=
  seen.contains (n.start.index, n.kindName)

def check (root : Node) (fuel : Nat) : Except Failure Unit := do
  let mut level ← meet root #[]
  let mut seen : List (Nat × String) := []
  for _ in [0:fuel] do
    if level.isEmpty then break
    let mut next : Array Node := #[]
    for n in level do
      if !seenBefore seen n then
        seen := (n.start.index, n.kindName) :: seen
        next ← fill n next
    level := next

/-- Whether a node is a `.nan` scalar read as a double. All of these stand for one object,
so as keys of a mapping they are one key; any other not-a-number is a key of its own. -/
def isSharedNaN (n : Node) : Bool :=
  match n, Shape.ofTag n.tag with
  | .scalar _ value _, some .float =>
    let ps := CodePoint.lower (value.filter (· != 0x5F))
    let ps := match ps with
      | 0x2D :: rest | 0x2B :: rest => rest
      | rest => rest
    ps == ".nan".toList.map Char.toNat
  | _, _ => false

def putPair (key : Node) (k v : Value) : Dict × Option Nat → Dict × Option Nat
  | (d, shared) =>
    if isSharedNaN key then
      match shared with
      | some i => (d.mapIdx (fun j e => if j == i then (e.1, v) else e), shared)
      | none => (d ++ [(k, v)], some d.length)
    else (d.put k v, shared)

/-- The value of a node whose reading does not fail. A cycle back to a collection being
read around the node is a reference back to it, as the collection holds itself. -/
def build : Nat → Node → Except Failure Value
  | 0, _ => .ok .none
  | _ + 1, .cycle _ isMapping _ => .ok (.cyclic isMapping)
  | fuel + 1, n => do
    let shape ← shapeOf n
    match shape with
    | .seq =>
      match n with
      | .sequence _ items _ => return .list (← items.mapM (build fuel))
      | _ => return .list []
    | .omap | .pairs =>
      let ps ← singlePairs "pairs" n
      return .list (← ps.mapM fun (k, v) => do
        return .tuple [← build fuel k, ← build fuel v])
    | .map | .set =>
      let ps ← mappingPairs n
      let ((d : Dict), _) ← ps.foldlM (fun acc (k, v) => do
        return putPair k (← build fuel k) (← build fuel v) acc) (([] : Dict), none)
      return if shape == .set then .set (Value.iterationOrder (Dict.keys d)) else .dict d
    | _ =>
      match n with
      | .scalar _ value start => scalarValue shape value start
      | _ => return .none

def construct (root : Node) (fuel : Nat) : Except Failure Value := do
  check root fuel
  build fuel root

end XmlView.Yaml
