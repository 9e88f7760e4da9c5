/-! The tree of a well-formed document as the reader builds it; no two text nodes stand side
by side, and an element keeps its written name, declarations and attributes. -/
namespace XmlView.Markup

/-- A namespace declaration: the prefix (`none` for the default namespace) and its URI. -/
structure Binding where
  pre : Option String
  uri : String
  deriving DecidableEq, Repr, Inhabited

structure Attribute where
  pre : Option String
  name : String
  uri : Option String
  value : String
  deriving DecidableEq, Repr, Inhabited

inductive Node where
  | element (pre : Option String) (name : String) (uri : Option String)
      (decls : List Binding) (attrs : List Attribute) (children : List Node)
  | text (s : String)
  | comment (s : String)
  | instruction (target : String) (data : String)
  | reference (name : String)
  deriving Repr, Inhabited

namespace Node

def children : Node → List Node
  | .element _ _ _ _ _ cs => cs
  | _ => []

def decls : Node → List Binding
  | .element _ _ _ ds _ _ => ds
  | _ => []

def attrs : Node → List Attribute
  | .element _ _ _ _ as _ => as
  | _ => []

def isElement : Node → Bool
  | .element .. => true
  | _ => false

def isText : Node → Bool
  | .text _ => true
  | _ => false

def charData : Node → String
  | .text s => s
  | _ => ""

def size : Node → Nat
  | .element _ _ _ _ _ cs => 1 + (cs.map size).foldr (· + ·) 0
  | _ => 1

theorem size_le_sum_of_mem {c : Node} :
    ∀ {cs : List Node}, c ∈ cs → c.size ≤ (cs.map size).foldr (· + ·) 0
  | _ :: _, .head _ => by simp only [List.map_cons, List.foldr_cons]; omega
  | _ :: _, .tail _ h => by
    have := size_le_sum_of_mem h
    simp only [List.map_cons, List.foldr_cons]
    omega

theorem size_lt_of_mem {c : Node} {cs : List Node} (h : c ∈ cs) (pre name uri decls attrs) :
    c.size < (Node.element pre name uri decls attrs cs).size := by
  have := size_le_sum_of_mem h
  simp only [size]
  omega

end Node

end XmlView.Markup
