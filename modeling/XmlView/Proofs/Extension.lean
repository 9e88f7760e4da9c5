import XmlView.Proofs.Pure

/-! Converting with more converters fills in some skipped nodes and changes nothing else,
since a skipped node keeps its sibling slot. -/

namespace XmlView.Conversion
open Markup

namespace Descriptor

/-- `d.Approx d'`: `d'` is `d` with some of its skipped nodes replaced by trees. -/
inductive Approx : Descriptor → Descriptor → Prop
  | skipped (d : Descriptor) : Approx .skipped d
  | text (t : Text) : Approx (.text t) (.text t)
  | element (type : Value) (props : Dict) {cs cs' : List Descriptor} :
      List.Forall₂ Approx cs cs' → Approx (.element type props cs) (.element type props cs')

end Descriptor

variable {m : Type → Type}

/-- `R'` has every converter of `R`, under the same name. -/
def Registry.Extends (R R' : Registry m) : Prop :=
  ∀ tag f, R.find? tag = some f → R'.find? tag = some f

theorem Registry.Extends.bind {R R' : Registry m} (h : R.Extends R') {tag? : Option String}
    {f : Converter m} (hf : tag?.bind R.find? = some f) : tag?.bind R'.find? = some f := by
  cases tag? with
  | none => cases hf
  | some t => exact h t f hf

theorem Registry.Extends.maps {R R' : Registry (Except Fault)} (h : R.Extends R')
    (hmaps : R'.Maps) : R.Maps :=
  fun tag f hf => hmaps tag f (h tag f hf)

section Extending

variable {R R' : Registry (Except Fault)} (hext : R.Extends R') (hmaps : R'.Maps) (data : Value)
include hext hmaps

/-- Converting an item under a registry and under one that extends it: both succeed, and the
second tree fills some skipped nodes of the first. -/
theorem visit_approx (k : Nat) (item : Item) :
    ∃ d d', visit R data k item = .ok d ∧ visit R' data k item = .ok d' ∧ d.Approx d' := by
  match item with
  | .nothing => exact ⟨_, _, by rw [visit]; rfl, by rw [visit]; rfl, .skipped _⟩
  | .text s => exact ⟨_, _, by rw [visit]; rfl, by rw [visit]; rfl, .text _⟩
  | .node n outer =>
    cases hf : (Item.node n outer).tag?.bind R.find? with
    | none =>
      -- an element the smaller registry skips: whatever the larger one makes of it
      obtain ⟨d', hd'⟩ := visit_ok hmaps data k (.node n outer)
      exact ⟨_, d', visit_node_of_none R data k hf, hd', .skipped d'⟩
    | some f =>
      have hf' := hext.bind hf
      obtain ⟨t, -, ht⟩ := Option.bind_eq_some_iff.mp hf
      obtain ⟨v, hv, hm⟩ := hext.maps hmaps t f ht (Item.node n outer).attributes data
      obtain ⟨type, hdesc⟩ := describe_of_mapped k hv hm
      -- the same converter on both sides, and the children slot by slot
      obtain ⟨cs, cs', hcs, hcs', hrel⟩ := mapM_forall₂ (l := (Item.node n outer).children.zipIdx)
        (f := fun x : Item × Nat => visit R data x.2 x.1)
        (g := fun x : Item × Nat => visit R' data x.2 x.1) (r := Descriptor.Approx)
        fun x hx => visit_approx x.2 x.1
      exact ⟨_, _, visit_node_of_some R data k hf hdesc hcs,
        visit_node_of_some R' data k hf' hdesc hcs', .element type (keyFirst k (propsOf v)) hrel⟩
termination_by item.size
decreasing_by exact Item.size_lt_of_mem_children (List.fst_mem_of_mem_zipIdx hx)

/-- With converters that return mappings, converting a document under a registry that
extends another never fails, and gives the tree the smaller registry gives with some of its
skipped nodes filled in: no element changes its type, props or key, and no text is lost. -/
theorem convert_approx_of_extends (xml : Value) :
    ∃ o o', convert R xml data = .ok o ∧ convert R' xml data = .ok o' ∧ o.tree.Approx o'.tree := by
  rw [convert_eq, convert_eq]
  cases readForConversion xml with
  | mk root? ws =>
    cases root? with
    | none => exact ⟨_, _, rfl, rfl, .skipped _⟩
    | some root =>
      obtain ⟨d, d', hd, hd', happrox⟩ := visit_approx hext hmaps data 0 (Item.root root)
      exact ⟨⟨d, ws⟩, ⟨d', ws⟩, by simp only [hd]; rfl, by simp only [hd']; rfl, happrox⟩

end Extending

/-- Registering a converter for `b` beside the one for `a` fills the slot of the `b` element. -/
theorem convert_approx_of_extends_by_one_tag :
    let conv : Converter (Except Fault) := fun _ _ =>
      .ok (.dict [(.str (Text.ofString "type"), .str (Text.ofString "T"))])
    let R : Registry (Except Fault) := ⟨[(Text.ofString "a", conv)]⟩
    let R' : Registry (Except Fault) := ⟨[(Text.ofString "a", conv), (Text.ofString "b", conv)]⟩
    let xml : Value := .str (Text.ofString "<a><b/>x</a>")
    R.Extends R' ∧ R'.Maps ∧
      ∃ o o', convert R xml .none = .ok o ∧ convert R' xml .none = .ok o' ∧ o.tree.Approx o'.tree := by
  intro conv R R' xml
  have hext : R.Extends R' := by
    intro tag f hf
    simp only [Registry.find?, R, List.find?_cons, List.find?_nil] at hf
    split at hf
    · -- the name is `a`, which `R'` finds first too
      simp only [Option.map_some, Option.some.injEq] at hf
      subst hf
      simp_all [Registry.find?, R']
    · cases hf
  have hmaps : R'.Maps := by
    intro tag f hf _ _
    obtain ⟨e, he, rfl⟩ := Registry.mem_entries_of_find? hf
    have hconv : e.2 = conv := by
      simp only [R', List.mem_cons, List.not_mem_nil, or_false] at he
      rcases he with rfl | rfl <;> rfl
    rw [hconv]
    exact ⟨_, rfl, ⟨_, rfl⟩, .inl rfl⟩
  exact ⟨hext, hmaps, convert_approx_of_extends hext hmaps .none xml⟩

end XmlView.Conversion
