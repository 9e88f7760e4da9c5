import XmlView.Value.Dict
/-! Descriptor trees, what converting a document gives: text leaves, skipped nodes, and
elements with a type, props and children; and the counts a command shows of them. -/
namespace XmlView.Conversion

inductive Descriptor where
  | text (t : Text)
  | skipped
  | element (type : Value) (props : Dict) (children : List Descriptor)
  deriving Inhabited

/-- Counts describing a descriptor tree. -/
structure Summary where
  elements : Nat := 0
  texts : Nat := 0
  skipped : Nat := 0
  maxDepth : Nat := 0
  deriving DecidableEq, Repr, Inhabited

namespace Summary

def join (a b : Summary) : Summary :=
  ⟨a.elements + b.elements, a.texts + b.texts, a.skipped + b.skipped, max a.maxDepth b.maxDepth⟩

def ofDescriptorAt (depth : Nat) : Descriptor → Summary
  | .text _ => { texts := 1 }
  | .skipped => { skipped := 1 }
  | .element _ _ cs =>
    (cs.attach.map fun ⟨c, _⟩ => ofDescriptorAt (depth + 1) c).foldl join
      { elements := 1, maxDepth := depth }

def ofDescriptor (d : Descriptor) : Summary := ofDescriptorAt 1 d

/-- The counts gathered by a walk that keeps its own stack of trees with their depths, the
top first: it takes the top tree, counts it, and for an element pushes the children one
level deeper, so that the last child is taken next. `fuel` bounds the steps. -/
def walk : Nat → List (Descriptor × Nat) → Summary → Summary
  | 0, _, s => s
  | _ + 1, [], s => s
  | fuel + 1, (.text _, _) :: rest, s => walk fuel rest { s with texts := s.texts + 1 }
  | fuel + 1, (.skipped, _) :: rest, s => walk fuel rest { s with skipped := s.skipped + 1 }
  | fuel + 1, (.element _ _ cs, depth) :: rest, s =>
    walk fuel ((cs.map (·, depth + 1)).reverse ++ rest)
      { s with elements := s.elements + 1, maxDepth := max s.maxDepth depth }

end Summary

def Descriptor.size : Descriptor → Nat
  | .element _ _ cs => 1 + (cs.attach.map fun ⟨c, _⟩ => c.size).foldr (· + ·) 0
  | _ => 1

def Summary.ofDescriptorByWalk (d : Descriptor) : Summary := Summary.walk d.size [(d, 1)] {}

namespace Descriptor

/-- The first fault of a list of results, taken from the right. -/
def lastFault : List (Except Fault α) → Except Fault (List α)
  | [] => .ok []
  | r :: rs =>
    match lastFault rs with
    | .error f => .error f
    | .ok xs => r.map (· :: xs)

def childItems? (v : Value) : Option (List Value) := Dict.items? v

def leaf : Value → Except Fault Descriptor
  | .none => .ok .skipped
  | .str t => .ok (.text t)
  | v => .error (.missingMember v.typeName "children")

/-- Read a value as a descriptor tree. None is a skipped node and text a text leaf; a
dictionary with a `type` is an element, whose `props` (by default empty) are merged into a
fresh dictionary and whose `children` (by default none) are iterated; any other value has
no children and is refused.

The outer result reports a value that is not a tree, searching the way a walk with a stack
meets them: a node, then its children from the last. The inner one reports props that
cannot be merged, in document order: an element's props before its children's. -/
def read : Value → Except Fault (Except Fault Descriptor)
  | .none => .ok (.ok .skipped)
  | .str t => .ok (.ok (.text t))
  | .dict es =>
    match es.attach.find? (fun e => Value.same e.1.1 (.str (Text.ofString "type"))) with
    | none => .error (.missingMember "dict" "children")
    | some ⟨(_, type), _⟩ =>
      let props : Except Fault Dict :=
        match es.find? (fun e => Value.same e.1 (.str (Text.ofString "props"))) with
        | some (_, p) => Dict.update [] p
        | none => .ok []
      let items : Except Fault (List Value) :=
        match es.find? (fun e => Value.same e.1 (.str (Text.ofString "children"))) with
        | some (_, v) =>
          match childItems? v with
          | some cs => .ok cs
          | none => .error (.wrongType ("'" ++ v.typeName ++ "' object is not iterable"))
        | none => .ok []
      match items with
      | .error f => .error f
      | .ok _ =>
        match es.attach.find? (fun e => Value.same e.1.1 (.str (Text.ofString "children"))) with
        | some ⟨(_, .list cs), _⟩ =>
          (lastFault (cs.attach.map fun ⟨c, _⟩ => read c)).map fun inner => do
            let ps ← props
            let ds ← inner.mapM id
            return .element type ps ds
        | some ⟨(_, .tuple cs), _⟩ =>
          (lastFault (cs.attach.map fun ⟨c, _⟩ => read c)).map fun inner => do
            let ps ← props
            let ds ← inner.mapM id
            return .element type ps ds
        | _ =>
          -- the items of text, bytes or a mapping hold no trees of their own
          let cs := match items with | .ok cs => cs | .error _ => []
          (lastFault (cs.map leaf)).map fun ds => props.map fun ps => .element type ps ds
  | v => .error (.missingMember v.typeName "children")
termination_by v => sizeOf v
decreasing_by
  all_goals
    have h1 := List.sizeOf_lt_of_mem ‹_ ∈ cs›
    have h2 := List.sizeOf_lt_of_mem ‹_ ∈ es›
    simp_all
    omega

def ofValue (v : Value) : Except Fault Descriptor := (read v).bind id

/-- The plain value a tree is written as: an element is a dictionary of its type, its
props and its children; a text leaf is text and a skipped node none. -/
def asValue : Descriptor → Value
  | .text t => .str t
  | .skipped => .none
  | .element type props cs =>
    .dict [(.str (Text.ofString "type"), type), (.str (Text.ofString "props"), .dict props),
      (.str (Text.ofString "children"), .list (cs.attach.map fun ⟨c, _⟩ => asValue c))]
decreasing_by
  have := List.sizeOf_lt_of_mem ‹_ ∈ cs›
  simp_all
  omega

end Descriptor

end XmlView.Conversion
