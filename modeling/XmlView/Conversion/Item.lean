import XmlView.Markup.Tree
/-! What conversion sees of a read document: nothing, a run of text, or a node with the
namespaces in scope around it. An element shows its written name, its attributes after the
declarations made on it, and its children with each run of character data as one item. -/
namespace XmlView.Conversion

open Markup

/-- The namespaces in scope at an element, prefix and URI, innermost declaration first,
each prefix once. -/
abbrev Scope := List (Option String × String)

namespace Scope

def find? (s : Scope) (pre : Option String) : Option String :=
  (List.find? (fun b => b.1 == pre) s).map (·.2)

/-- The scope inside an element that makes the declarations `decls`: those first, then the
outer ones whose prefix they do not declare again. -/
def extend (outer : Scope) (decls : List Binding) : Scope :=
  List.foldl (fun acc b => if acc.any (·.1 == b.1) then acc else acc ++ [b]) []
    (decls.map (fun d => (d.pre, d.uri)) ++ outer)

/-- The first prefix (not the default namespace) bound to a URI. -/
def prefixOf? (s : Scope) (uri : String) : Option String :=
  s.findSome? fun b => if b.2 == uri then b.1 else none

end Scope

def qualify : Option String → String → String
  | some p, n => p ++ ":" ++ n
  | none, n => n

/-- An item of the view. -/
inductive Item where
  | nothing
  | text (value : String)
  | node (n : Node) (outer : Scope)
  deriving Inhabited

/-- Put an entry in a list of named entries: in place if the name is there, else at the end. -/
def putEntry (es : List (String × String)) (k v : String) : List (String × String) :=
  if es.any (·.1 == k) then es.map fun e => if e.1 == k then (k, v) else e
  else es ++ [(k, v)]

/-- The text nodes of an element's content before its first other child, and each other
child with the text nodes after it up to the next one: the `text` of the element and the
`tail` of each child, before their text is joined. -/
def textRuns : List Node → List Node × List (Node × List Node)
  | [] => ([], [])
  | c :: cs =>
    let runs := textRuns cs
    if c.isText then (c :: runs.1, runs.2) else ([], (c, runs.1) :: runs.2)

def joinText (ns : List Node) : String := String.join (ns.map Node.charData)

def textItem (s : String) : List Item := if s.isEmpty then [] else [.text s]

namespace Item

def tag? : Item → Option String
  | .node (.element pre name uri _ _ _) _ => some (if uri.isSome then qualify pre name else name)
  | _ => none

/-- The name an attribute is shown under: its local name, after `xml:` in the XML
namespace, or after the first prefix of the scope bound to its namespace. -/
def attributeName (scope : Scope) (a : Attribute) : String :=
  match a.uri with
  | none => a.name
  | some "" => a.name
  | some u =>
    if u == xmlNamespaceName then "xml:" ++ a.name
    else qualify (scope.prefixOf? u) a.name
where
  xmlNamespaceName : String := "http://www.w3.org/XML/1998/namespace"

/-- The attributes of an element, by name: first a declaration for each namespace in the
element's scope that differs from the outer scope, then the attributes written. A later
entry of a name already present replaces its value. -/
def attributes : Item → List (String × String)
  | .node (.element _ _ _ decls attrs _) outer =>
    let scope := outer.extend decls
    let declared := scope.filterMap fun b =>
      if outer.find? b.1 == some b.2 then none
      else some ((match b.1 with | some p => "xmlns:" ++ p | none => "xmlns"), b.2)
    List.foldl (fun acc a => putEntry acc (attributeName scope a) a.value)
      (List.foldl (fun acc e => putEntry acc e.1 e.2) [] declared) attrs
  | _ => []

/-- The children of an element in document order, as the element's text and tails show its
content: its text first, then each child that is not text followed by that child's tail. A run of
character data that is empty gives no item. -/
def children : Item → List Item
  | .node (.element _ _ _ decls _ cs) outer =>
    let scope := outer.extend decls
    let runs := textRuns cs
    textItem (joinText runs.1) ++
      runs.2.flatMap fun (c, tail) => .node c scope :: textItem (joinText tail)
  | _ => []

def root (n : Node) : Item := .node n []

def size : Item → Nat
  | .node n _ => n.size
  | _ => 0

theorem mem_textRuns {c : Node} {tail : List Node} :
    ∀ {cs : List Node}, (c, tail) ∈ (textRuns cs).2 → c ∈ cs
  | [], h => by simp [textRuns] at h
  | d :: cs, h => by
    by_cases hd : d.isText
    · simp only [textRuns, hd, if_true] at h
      exact List.mem_cons_of_mem _ (mem_textRuns h)
    · simp only [textRuns, hd, Bool.false_eq_true, if_false, List.mem_cons, Prod.mk.injEq] at h
      rcases h with ⟨rfl, -⟩ | h
      · exact List.mem_cons_self
      · exact List.mem_cons_of_mem _ (mem_textRuns h)

theorem size_lt_of_mem_children {c : Item} {n : Node} {outer : Scope}
    (h : c ∈ (Item.node n outer).children) : c.size < (Item.node n outer).size := by
  match n, h with
  | .element pre name uri decls attrs cs, h =>
    simp only [children, textItem, List.mem_append, List.mem_flatMap, List.mem_cons] at h
    have hpos : 0 < (Node.element pre name uri decls attrs cs).size := by
      simp only [Node.size]; omega
    rcases h with h | ⟨⟨d, tail⟩, hd, rfl | h⟩
    · split at h <;> simp_all [size]
    · exact Node.size_lt_of_mem (mem_textRuns hd) pre name uri decls attrs
    · split at h <;> simp_all [size]

end Item

end XmlView.Conversion
