import XmlView.Proofs.Pure
import XmlView.Markup.Document

/-! The attributes of an element as conversion lists them: the declarations that change the
scope, then each attribute under the first prefix bound to its namespace. In a
namespace-well-formed document that listing loses nothing, and it is the start tag's own
list exactly when no declaration repeats its binding and every prefix is the first. -/

namespace XmlView.Conversion

open Markup

def declName : Option String → String
  | some p => "xmlns:" ++ p
  | none => "xmlns"

namespace Item

/-- The attributes an element's start tag writes, in order: its namespace declarations, each
under `xmlns` or `xmlns:` and its prefix, then its other attributes under the names written.
Other items write none. -/
def writtenAttributes : Item → List (String × String)
  | .node (.element _ _ _ decls attrs _) _ =>
    decls.map (fun d => (declName d.pre, d.uri)) ++ attrs.map fun a => (qualify a.pre a.name, a.value)
  | _ => []

/-- The items of the view of an item: the item, and every child of an item below it. -/
inductive Below (top : Item) : Item → Prop
  | refl : Below top top
  | child {i c : Item} : Below top i → c ∈ i.children → Below top c

end Item

section WellFormed

/-- A binding a namespace-well-formed document puts in scope: a prefix is a name with no colon,
other than `xmlns`, bound to a URI that is not empty; the prefix `xml` and the XML namespace go
only with each other. The default namespace may be bound to anything. -/
def Bindable : Option String × String → Prop
  | (some p, u) => p ≠ "xmlns" ∧ ':' ∉ p.toList ∧ u ≠ "" ∧
      (p = "xml" ↔ u = Item.attributeName.xmlNamespaceName)
  | (none, _) => True

instance : DecidablePred Bindable
  | (some p, u) => inferInstanceAs (Decidable (p ≠ "xmlns" ∧ ':' ∉ p.toList ∧ u ≠ "" ∧
      (p = "xml" ↔ u = Item.attributeName.xmlNamespaceName)))
  | (none, _) => inferInstanceAs (Decidable True)

/-- An attribute of a namespace-well-formed element, in the scope the element makes: its local
name has no colon and it is no namespace declaration; without a prefix it is in no namespace,
under `xml` in the XML namespace, and under another prefix in the namespace the scope binds
that prefix to. -/
def AttributeWellFormed (scope : Scope) (a : Attribute) : Prop :=
  ':' ∉ a.name.toList ∧
    match a.pre with
    | none => a.name ≠ "xmlns" ∧ a.uri = none
    | some p => p ≠ "xmlns" ∧
        if p = "xml" then a.uri = some Item.attributeName.xmlNamespaceName
        else (scope.find? (some p)).isSome ∧ a.uri = scope.find? (some p)

instance (scope : Scope) (a : Attribute) : Decidable (AttributeWellFormed scope a) :=
  match a with
  | ⟨none, name, uri, _⟩ =>
    inferInstanceAs (Decidable (':' ∉ name.toList ∧ (name ≠ "xmlns" ∧ uri = none)))
  | ⟨some p, name, uri, _⟩ =>
    inferInstanceAs (Decidable (':' ∉ name.toList ∧ (p ≠ "xmlns" ∧
        if p = "xml" then uri = some Item.attributeName.xmlNamespaceName
        else (scope.find? (some p)).isSome ∧ uri = scope.find? (some p))))

/-- An element of a namespace-well-formed document, in the scope `outer` around it: it declares
each prefix once and only bindings that can be in scope, its attributes are well-formed in the
scope it makes, and no two of them have the same local name and namespace. -/
structure ElementWellFormed (outer : Scope) (decls : List Binding) (attrs : List Attribute) :
    Prop where
  decls_nodup : (decls.map (·.pre)).Nodup
  bindable : ∀ d ∈ decls, Bindable (d.pre, d.uri)
  attributes : ∀ a ∈ attrs, AttributeWellFormed (outer.extend decls) a
  unique : attrs.Pairwise fun a b => ¬(a.name = b.name ∧ a.uri = b.uri)

instance (outer : Scope) (decls : List Binding) (attrs : List Attribute) :
    Decidable (ElementWellFormed outer decls attrs) :=
  decidable_of_iff ((decls.map (·.pre)).Nodup ∧ (∀ d ∈ decls, Bindable (d.pre, d.uri)) ∧
      (∀ a ∈ attrs, AttributeWellFormed (outer.extend decls) a) ∧
      attrs.Pairwise fun a b => ¬(a.name = b.name ∧ a.uri = b.uri))
    ⟨fun h => ⟨h.1, h.2.1, h.2.2.1, h.2.2.2⟩,
      fun h => ⟨h.decls_nodup, h.bindable, h.attributes, h.unique⟩⟩

end WellFormed

end XmlView.Conversion

namespace XmlView.Markup.Node

open Conversion

mutual

/-- Whether every element of a tree is namespace-well-formed in the scope around it, its
content in the scope it makes. -/
def namespaceWellFormed : Scope → Node → Bool
  | outer, .element _ _ _ decls attrs cs =>
    decide (ElementWellFormed outer decls attrs) && allNamespaceWellFormed (outer.extend decls) cs
  | _, _ => true

def allNamespaceWellFormed : Scope → List Node → Bool
  | _, [] => true
  | scope, c :: cs => c.namespaceWellFormed scope && allNamespaceWellFormed scope cs

end

theorem allNamespaceWellFormed_iff (scope : Scope) (cs : List Node) :
    allNamespaceWellFormed scope cs = true ↔ ∀ c ∈ cs, c.namespaceWellFormed scope = true := by
  induction cs with
  | nil => simp [allNamespaceWellFormed]
  | cons c cs ih => simp [allNamespaceWellFormed, ih]

theorem namespaceWellFormed_element {outer : Scope} {pre name uri decls attrs cs} :
    (Node.element pre name uri decls attrs cs).namespaceWellFormed outer = true ↔
      ElementWellFormed outer decls attrs ∧
        ∀ c ∈ cs, c.namespaceWellFormed (outer.extend decls) = true := by
  simp [namespaceWellFormed, allNamespaceWellFormed_iff]

end XmlView.Markup.Node

namespace XmlView.Conversion

open Markup

namespace Scope

/-- A scope as elements make it: each prefix once, each binding one that can be in scope. -/
def Proper (s : Scope) : Prop := (s.map Prod.fst).Nodup ∧ ∀ b ∈ s, Bindable b

theorem proper_nil : Proper [] := ⟨List.nodup_nil, by simp⟩

theorem foldl_first_bindings : ∀ (acc l : Scope), (l.map Prod.fst).Nodup →
    l.foldl (fun acc b => if acc.any (·.1 == b.1) then acc else acc ++ [b]) acc =
      acc ++ l.filter fun b => !acc.any (·.1 == b.1)
  | acc, [], _ => by simp
  | acc, b :: l, h => by
    rw [List.map_cons, List.nodup_cons] at h
    rw [List.foldl_cons]
    cases hany : acc.any (·.1 == b.1)
    · -- a prefix not bound yet: the binding is added, and no later one has its prefix
      simp only [Bool.false_eq_true, if_false]
      rw [foldl_first_bindings (acc ++ [b]) l h.2, List.filter_cons_of_pos (by simp [hany])]
      have hrest : (l.filter fun c => !(acc ++ [b]).any (·.1 == c.1)) =
          l.filter fun c => !acc.any (·.1 == c.1) := by
        refine List.filter_congr fun c hc => ?_
        have hne : b.1 ≠ c.1 := fun heq => h.1 (heq ▸ List.mem_map_of_mem hc)
        simp [List.any_append, hne]
      rw [hrest]
      simp
    · simp only [if_true]
      rw [foldl_first_bindings acc l h.2, List.filter_cons_of_neg (by simp [hany])]

theorem extend_eq {outer : Scope} {decls : List Binding} (hd : (decls.map (·.pre)).Nodup)
    (ho : (outer.map Prod.fst).Nodup) :
    outer.extend decls = decls.map (fun d => (d.pre, d.uri)) ++
      outer.filter fun b => !(decls.map fun d => (d.pre, d.uri)).any (·.1 == b.1) := by
  have hd' : ((decls.map fun d => (d.pre, d.uri)).map Prod.fst).Nodup := by
    simpa [Function.comp_def] using hd
  unfold extend
  rw [List.foldl_append, foldl_first_bindings [] _ hd', foldl_first_bindings _ _ ho]
  simp

theorem Proper.extend {outer : Scope} {decls : List Binding} (ho : outer.Proper)
    (hd : (decls.map (·.pre)).Nodup) (hb : ∀ d ∈ decls, Bindable (d.pre, d.uri)) :
    (outer.extend decls).Proper := by
  rw [extend_eq hd ho.1]
  refine ⟨?_, fun b hb' => ?_⟩
  · rw [List.map_append, List.nodup_append]
    refine ⟨by simpa [Function.comp_def] using hd,
      List.Nodup.sublist (List.Sublist.map _ List.filter_sublist) ho.1, fun p hp q hq hpq => ?_⟩
    -- an outer binding is kept only when no declaration binds its prefix
    obtain ⟨x, hx, rfl⟩ := List.mem_map.mp hp
    obtain ⟨d, hd, rfl⟩ := List.mem_map.mp hx
    obtain ⟨b, hb, rfl⟩ := List.mem_map.mp hq
    have hkept := (List.mem_filter.mp hb).2
    simp only [Bool.not_eq_true', List.any_eq_false, List.mem_map] at hkept
    exact hkept _ ⟨d, hd, rfl⟩ (by simpa using hpq)
  · rcases List.mem_append.mp hb' with h | h
    · obtain ⟨d, hd, rfl⟩ := List.mem_map.mp h
      exact hb d hd
    · exact ho.2 b (List.mem_of_mem_filter h)

theorem find?_eq_of_mem {s : Scope} (hs : (s.map Prod.fst).Nodup) {b : Option String × String}
    (h : b ∈ s) : s.find? b.1 = some b.2 := by
  induction s with
  | nil => simp at h
  | cons c s ih =>
    rw [List.map_cons, List.nodup_cons] at hs
    rcases List.mem_cons.mp h with rfl | h
    · simp [find?]
    · have hne : c.1 ≠ b.1 := fun heq => hs.1 (heq ▸ List.mem_map_of_mem h)
      have hs' := ih hs.2 h
      unfold find? at hs' ⊢
      simp [hne, hs']

theorem mem_of_find? {s : Scope} {p : Option String} {u : String} (h : s.find? p = some u) :
    (p, u) ∈ s := by
  unfold find? at h
  obtain ⟨b, hb, rfl⟩ := Option.map_eq_some_iff.mp h
  have hp : b.1 = p := by simpa using List.find?_some hb
  rw [← hp]
  exact List.mem_of_find?_eq_some hb

theorem uri_eq_of_mem {s : Scope} (hs : (s.map Prod.fst).Nodup) {p : Option String}
    {u u' : String} (h : (p, u) ∈ s) (h' : (p, u') ∈ s) : u = u' :=
  Option.some.inj ((find?_eq_of_mem hs h).symm.trans (find?_eq_of_mem hs h'))

theorem mem_of_prefixOf? {s : Scope} {u q : String} (h : s.prefixOf? u = some q) :
    (some q, u) ∈ s := by
  unfold prefixOf? at h
  obtain ⟨b, hb, hq⟩ := List.exists_of_findSome?_eq_some h
  split at hq
  · rename_i hu
    have hb' : b = (some q, u) := Prod.ext hq (by simpa using hu)
    exact hb' ▸ hb
  · cases hq

theorem prefixOf?_isSome {s : Scope} {p u : String} (h : (some p, u) ∈ s) :
    (s.prefixOf? u).isSome := by
  unfold prefixOf?
  exact List.findSome?_isSome_iff.mpr ⟨_, h, by simp⟩

end Scope

end XmlView.Conversion

namespace XmlView.Conversion

open Markup

section Names

def ColonFree (x : Option String × String) : Prop :=
  (∀ p, x.1 = some p → ':' ∉ p.toList) ∧ ':' ∉ x.2.toList

theorem toList_qualify_some (p n : String) :
    (qualify (some p) n).toList = p.toList ++ ':' :: n.toList := by
  simp [qualify, String.toList_append]

theorem colon_mem_qualify_some (p n : String) : ':' ∈ (qualify (some p) n).toList := by
  simp [toList_qualify_some]

theorem qualify_injOn {x y : Option String × String} (hx : ColonFree x) (hy : ColonFree y)
    (h : qualify x.1 x.2 = qualify y.1 y.2) : x = y := by
  obtain ⟨_ | p, n⟩ := x <;> obtain ⟨_ | q, m⟩ := y
  · simpa [qualify] using h
  · -- a name with no prefix would carry the other's colon
    exact absurd (show n = qualify (some q) m from h ▸ rfl) fun hn =>
      hx.2 (hn ▸ colon_mem_qualify_some q m)
  · exact absurd (show m = qualify (some p) n from h ▸ rfl) fun hm =>
      hy.2 (hm ▸ colon_mem_qualify_some p n)
  · have h' := congrArg String.toList h
    rw [toList_qualify_some, toList_qualify_some] at h'
    obtain ⟨hpq, -, hnm⟩ := (List.append_cons_inj_of_notMem (hx.1 p rfl) hx.2).mp h'
    rw [String.toList_inj] at hpq hnm
    rw [hpq]
    exact congrArg _ hnm

def declParts : Option String → Option String × String
  | some p => (some "xmlns", p)
  | none => (none, "xmlns")

theorem declName_eq (pre : Option String) :
    declName pre = qualify (declParts pre).1 (declParts pre).2 := by
  cases pre with
  | none => rfl
  | some p => simp only [declName, declParts, qualify, String.append_assoc]; rfl

theorem declParts_injective : Function.Injective declParts := by
  intro x y h
  cases x <;> cases y <;> simp_all [declParts]

theorem declParts_colonFree {pre : Option String} {u : String} (hb : Bindable (pre, u)) :
    ColonFree (declParts pre) := by
  cases pre with
  | none => exact ⟨by simp [declParts], by decide⟩
  | some p =>
    refine ⟨?_, hb.2.1⟩
    rintro q ⟨⟩
    decide

end Names

section Shown

def shownPrefix (scope : Scope) (a : Attribute) : Option String :=
  match a.uri with
  | none => none
  | some u =>
    if u = "" then none
    else if u = Item.attributeName.xmlNamespaceName then some "xml" else scope.prefixOf? u

theorem attributeName_eq (scope : Scope) (a : Attribute) :
    Item.attributeName scope a = qualify (shownPrefix scope a) a.name := by
  obtain ⟨pre, name, _ | u, value⟩ := a
  · rfl
  · unfold Item.attributeName shownPrefix
    split
    · simp_all
    · -- the empty namespace is shown as no namespace
      simp_all [qualify]
    · simp_all
      split <;> simp_all [qualify, String.append_assoc]

variable {scope : Scope} {a b : Attribute} {q : String}

theorem xmlNamespaceName_ne_empty : Item.attributeName.xmlNamespaceName ≠ "" := by decide

theorem AttributeWellFormed.of_pre_none (ha : AttributeWellFormed scope a) (h : a.pre = none) :
    a.name ≠ "xmlns" ∧ a.uri = none := by
  obtain ⟨pre, name, uri, value⟩ := a
  subst h
  exact ha.2

theorem AttributeWellFormed.xml (ha : AttributeWellFormed scope a) (h : a.pre = some "xml") :
    a.uri = some Item.attributeName.xmlNamespaceName := by
  obtain ⟨pre, name, uri, value⟩ := a
  obtain rfl : pre = some "xml" := h
  exact ha.2.2

theorem AttributeWellFormed.bound (ha : AttributeWellFormed scope a) {p : String}
    (h : a.pre = some p) (hx : p ≠ "xml") : ∃ u, a.uri = some u ∧ (some p, u) ∈ scope := by
  obtain ⟨pre, name, uri, value⟩ := a
  obtain rfl : pre = some p := h
  obtain ⟨-, -, hp⟩ := ha
  rw [if_neg hx] at hp
  obtain ⟨hsome, rfl⟩ := hp
  obtain ⟨u, hu⟩ := Option.isSome_iff_exists.mp hsome
  exact ⟨u, hu, Scope.mem_of_find? hu⟩

theorem uri_of_shownPrefix (h : shownPrefix scope a = some q) :
    ∃ u, a.uri = some u ∧
      (q = "xml" ∧ u = Item.attributeName.xmlNamespaceName ∨ (some q, u) ∈ scope) := by
  unfold shownPrefix at h
  cases hu : a.uri with
  | none => simp [hu] at h
  | some u =>
    simp only [hu] at h
    refine ⟨u, rfl, ?_⟩
    by_cases h0 : u = ""
    · simp [h0] at h
    by_cases hx : u = Item.attributeName.xmlNamespaceName
    · rw [if_neg h0, if_pos hx, Option.some.injEq] at h
      exact .inl ⟨h.symm, hx⟩
    · rw [if_neg h0, if_neg hx] at h
      exact .inr (Scope.mem_of_prefixOf? h)

theorem Scope.Proper.xml_uri {s : Scope} (hs : s.Proper) {u : String}
    (h : (some "xml", u) ∈ s) : u = Item.attributeName.xmlNamespaceName :=
  (hs.2 _ h).2.2.2.mp rfl

theorem shownPrefix_bindable (hs : scope.Proper) (h : shownPrefix scope a = some q) :
    ':' ∉ q.toList ∧ q ≠ "xmlns" := by
  obtain ⟨u, -, ⟨rfl, -⟩ | hmem⟩ := uri_of_shownPrefix h
  · decide
  · exact ⟨(hs.2 _ hmem).2.1, (hs.2 _ hmem).1⟩

theorem shownPrefix_of_xml (ha : AttributeWellFormed scope a) (h : a.pre = some "xml") :
    shownPrefix scope a = some "xml" := by
  simp [shownPrefix, ha.xml h, xmlNamespaceName_ne_empty]

theorem shownPrefix_of_bound (hs : scope.Proper) (ha : AttributeWellFormed scope a) {p : String}
    (h : a.pre = some p) (hx : p ≠ "xml") :
    ∃ u, a.uri = some u ∧ (some p, u) ∈ scope ∧ shownPrefix scope a = scope.prefixOf? u := by
  obtain ⟨u, hu, hmem⟩ := ha.bound h hx
  obtain ⟨-, -, hne, hiff⟩ := hs.2 _ hmem
  -- a binding other than `xml`'s is to a URI that is neither empty nor the XML namespace
  have hnx : u ≠ Item.attributeName.xmlNamespaceName := fun h => hx (hiff.mpr h)
  exact ⟨u, hu, hmem, by simp [shownPrefix, hu, hne, hnx]⟩

theorem pre_eq_none_of_shownPrefix (hs : scope.Proper) (ha : AttributeWellFormed scope a)
    (h : shownPrefix scope a = none) : a.pre = none := by
  cases hp : a.pre with
  | none => rfl
  | some p =>
    exfalso
    by_cases hx : p = "xml"
    · subst hx
      rw [shownPrefix_of_xml ha hp] at h
      cases h
    · obtain ⟨u, -, hmem, hshown⟩ := shownPrefix_of_bound hs ha hp hx
      rw [hshown] at h
      simpa [h] using Scope.prefixOf?_isSome hmem

theorem uri_eq_of_shownPrefix (hs : scope.Proper) (ha : AttributeWellFormed scope a)
    (hb : AttributeWellFormed scope b) (h : shownPrefix scope a = shownPrefix scope b) :
    a.uri = b.uri := by
  cases hq : shownPrefix scope a with
  | none =>
    rw [(ha.of_pre_none (pre_eq_none_of_shownPrefix hs ha hq)).2,
      (hb.of_pre_none (pre_eq_none_of_shownPrefix hs hb (h ▸ hq))).2]
  | some q =>
    obtain ⟨u, hu, hau⟩ := uri_of_shownPrefix hq
    obtain ⟨v, hv, hbv⟩ := uri_of_shownPrefix (h ▸ hq)
    rw [hu, hv, Option.some.injEq]
    -- the XML namespace is the only one `xml` can be bound to
    rcases hau with ⟨rfl, rfl⟩ | hau <;> rcases hbv with ⟨hx, rfl⟩ | hbv
    · rfl
    · exact (hs.xml_uri hbv).symm
    · exact hs.xml_uri (hx ▸ hau)
    · exact Scope.uri_eq_of_mem hs.1 hau hbv

theorem attrParts_colonFree (hs : scope.Proper) (ha : AttributeWellFormed scope a) :
    ColonFree (shownPrefix scope a, a.name) :=
  ⟨fun _ hq => (shownPrefix_bindable hs hq).1, ha.1⟩

theorem declParts_ne_attrParts (hs : scope.Proper) (ha : AttributeWellFormed scope a)
    (pre : Option String) : declParts pre ≠ (shownPrefix scope a, a.name) := by
  intro h
  cases pre with
  | some p => exact (shownPrefix_bindable hs (congrArg Prod.fst h).symm).2 rfl
  | none =>
    exact (ha.of_pre_none (pre_eq_none_of_shownPrefix hs ha (congrArg Prod.fst h).symm)).1
      (congrArg Prod.snd h).symm

end Shown

end XmlView.Conversion

namespace XmlView.Conversion

open Markup

section Element

theorem foldl_putEntry_of_nodup {α : Type} (k v : α → String) :
    ∀ (acc : List (String × String)) (es : List α), (acc.map Prod.fst ++ es.map k).Nodup →
      es.foldl (fun acc e => putEntry acc (k e) (v e)) acc = acc ++ es.map fun e => (k e, v e)
  | acc, [], _ => by simp
  | acc, e :: es, h => by
    rw [List.map_cons, List.nodup_append] at h
    have hnew : acc.any (·.1 == k e) = false := by
      rw [List.any_eq_false]
      intro x hx heq
      exact h.2.2 _ (List.mem_map_of_mem hx) _ List.mem_cons_self (by simpa using heq)
    have hrest : ((acc ++ [(k e, v e)]).map Prod.fst ++ es.map k).Nodup := by
      rw [List.map_append, List.append_assoc]
      exact List.nodup_append.mpr ⟨h.1, h.2.1, fun a ha b hb => h.2.2 a ha b (by simpa using hb)⟩
    rw [List.foldl_cons, putEntry, if_neg (by simp [hnew]), foldl_putEntry_of_nodup k v _ es hrest]
    simp

theorem filterMap_changed_map (outer : Scope) (decls : List Binding) :
    ((decls.map fun d => (d.pre, d.uri)).filterMap fun b =>
        if outer.find? b.1 == some b.2 then none else some (declName b.1, b.2)) =
      (decls.filter fun d => outer.find? d.pre ≠ some d.uri).map
        fun d => (declName d.pre, d.uri) := by
  induction decls with
  | nil => rfl
  | cons d decls ih =>
    rw [List.map_cons, List.filterMap_cons, List.filter_cons, ih]
    by_cases h : outer.find? d.pre = some d.uri
    · simp [h]
    · simp [h]

theorem filterMap_changed_eq_nil {outer l : Scope} (hl : ∀ b ∈ l, outer.find? b.1 = some b.2) :
    (l.filterMap fun b =>
        if outer.find? b.1 == some b.2 then none else some (declName b.1, b.2)) = [] :=
  List.filterMap_eq_nil_iff.mpr fun b hb => by simp [hl b hb]

variable {outer : Scope} {decls : List Binding} {attrs : List Attribute}

/-- The declarations conversion derives by comparing an element's scope with the one around
it are the element's own declarations that change a binding, in the order written. -/
theorem changed_bindings (hd : (decls.map (·.pre)).Nodup) (ho : (outer.map Prod.fst).Nodup) :
    ((outer.extend decls).filterMap fun b =>
        if outer.find? b.1 == some b.2 then none else some (declName b.1, b.2)) =
      (decls.filter fun d => outer.find? d.pre ≠ some d.uri).map
        fun d => (declName d.pre, d.uri) := by
  rw [Scope.extend_eq hd ho, List.filterMap_append, filterMap_changed_map,
    filterMap_changed_eq_nil fun b hb => Scope.find?_eq_of_mem ho (List.mem_of_mem_filter hb),
    List.append_nil]

def listingParts (outer : Scope) (decls : List Binding) (attrs : List Attribute) :
    List (Option String × String) :=
  (decls.filter fun d => outer.find? d.pre ≠ some d.uri).map (declParts ·.pre) ++
    attrs.map fun a => (shownPrefix (outer.extend decls) a, a.name)

theorem colonFree_of_mem_listingParts (ho : outer.Proper)
    (he : ElementWellFormed outer decls attrs) {x : Option String × String}
    (hx : x ∈ listingParts outer decls attrs) : ColonFree x := by
  rcases List.mem_append.mp hx with hx | hx
  · obtain ⟨d, hd, rfl⟩ := List.mem_map.mp hx
    exact declParts_colonFree (he.bindable d (List.mem_of_mem_filter hd))
  · obtain ⟨a, ha, rfl⟩ := List.mem_map.mp hx
    exact attrParts_colonFree (ho.extend he.decls_nodup he.bindable) (he.attributes a ha)

theorem nodup_listingParts (ho : outer.Proper) (he : ElementWellFormed outer decls attrs) :
    (listingParts outer decls attrs).Nodup := by
  have hs := ho.extend he.decls_nodup he.bindable
  refine List.nodup_append.mpr ⟨?_, ?_, ?_⟩
  · have hsub : (decls.filter fun d => outer.find? d.pre ≠ some d.uri).Sublist decls :=
      List.filter_sublist
    have hpre := (hsub.map (·.pre)).nodup he.decls_nodup
    simpa [List.map_map, Function.comp_def] using hpre.map declParts_injective
  · rw [List.Nodup, List.pairwise_map]
    refine he.unique.imp_of_mem fun ha hb hne heq => hne ⟨congrArg Prod.snd heq, ?_⟩
    exact uri_eq_of_shownPrefix hs (he.attributes _ ha) (he.attributes _ hb) (congrArg Prod.fst heq)
  · rintro _ hx _ hy heq
    obtain ⟨d, -, rfl⟩ := List.mem_map.mp hx
    obtain ⟨a, ha, rfl⟩ := List.mem_map.mp hy
    exact declParts_ne_attrParts hs (he.attributes a ha) d.pre heq

theorem nodup_listing_names (ho : outer.Proper) (he : ElementWellFormed outer decls attrs) :
    ((decls.filter fun d => outer.find? d.pre ≠ some d.uri).map (fun d => declName d.pre) ++
      attrs.map (Item.attributeName (outer.extend decls))).Nodup := by
  have hnames : (decls.filter fun d => outer.find? d.pre ≠ some d.uri).map
        (fun d => declName d.pre) ++ attrs.map (Item.attributeName (outer.extend decls)) =
      (listingParts outer decls attrs).map fun x => qualify x.1 x.2 := by
    simp [listingParts, Function.comp_def, declName_eq, attributeName_eq]
  rw [hnames]
  exact (nodup_listingParts ho he).map_on fun x hx y hy h =>
    qualify_injOn (colonFree_of_mem_listingParts ho he hx) (colonFree_of_mem_listingParts ho he hy) h

theorem attributes_element (pre : Option String) (name : String) (uri : Option String)
    (decls : List Binding) (attrs : List Attribute) (cs : List Node) (outer : Scope) :
    (Item.node (.element pre name uri decls attrs cs) outer).attributes =
      List.foldl (fun acc a => putEntry acc (Item.attributeName (outer.extend decls) a) a.value)
        (List.foldl (fun acc e => putEntry acc e.1 e.2) []
          ((outer.extend decls).filterMap fun b =>
            if outer.find? b.1 == some b.2 then none else some (declName b.1, b.2))) attrs :=
  rfl

/-- The attributes conversion lists for an element of a well-formed document: each declaration
of its own that changes the binding around it, under its written name, then each attribute under
the name it is shown under, with nothing replaced on the way. -/
theorem attributes_element_eq {pre : Option String} {name : String} {uri : Option String}
    {cs : List Node} (ho : outer.Proper) (he : ElementWellFormed outer decls attrs) :
    (Item.node (.element pre name uri decls attrs cs) outer).attributes =
      (decls.filter fun d => outer.find? d.pre ≠ some d.uri).map (fun d => (declName d.pre, d.uri)) ++
        attrs.map fun a => (Item.attributeName (outer.extend decls) a, a.value) := by
  have hn := nodup_listing_names ho he
  -- the declarations are put first into an empty listing, then the attributes after them
  rw [attributes_element, changed_bindings he.decls_nodup ho.1,
    foldl_putEntry_of_nodup Prod.fst Prod.snd [] _
      (by simpa [Function.comp_def] using (List.nodup_append.mp hn).1),
    foldl_putEntry_of_nodup _ _ _ _ (by simpa [Function.comp_def] using hn)]
  simp

end Element

end XmlView.Conversion

namespace XmlView.Conversion

open Markup

namespace Item

theorem node_mem_children {pre name uri decls attrs cs} {outer scope : Scope} {c : Node}
    (h : Item.node c scope ∈ (Item.node (.element pre name uri decls attrs cs) outer).children) :
    c ∈ cs ∧ scope = outer.extend decls := by
  simp only [Item.children, List.mem_append, List.mem_flatMap, List.mem_cons, mem_textItem,
    reduceCtorEq, false_and, false_or, or_false] at h
  obtain ⟨⟨d, tail⟩, hp, ⟨rfl, rfl⟩⟩ := h
  exact ⟨mem_textRuns hp, rfl⟩

/-- An item of a namespace-well-formed document: a node stands in a proper scope and is
namespace-well-formed in it. -/
def WellScoped : Item → Prop
  | .node n outer => outer.Proper ∧ n.namespaceWellFormed outer = true
  | _ => True

theorem wellScoped_root {root : Node} (h : root.namespaceWellFormed [] = true) :
    (Item.root root).WellScoped :=
  ⟨Scope.proper_nil, h⟩

/-- The step of the view: each child of a well-scoped item is well-scoped, since an element's
children stand in the scope it makes, which is proper when the element is well-formed. -/
theorem WellScoped.child {i c : Item} (hi : i.WellScoped) (hc : c ∈ i.children) :
    c.WellScoped := by
  cases c with
  | nothing | text _ => trivial
  | node n scope =>
    cases i with
    | nothing | text _ => simp [Item.children] at hc
    | node e outer =>
      cases e with
      | element pre name uri decls attrs cs =>
        obtain ⟨hn, rfl⟩ := node_mem_children hc
        obtain ⟨ho, hwf⟩ := hi
        obtain ⟨he, hcs⟩ := Node.namespaceWellFormed_element.mp hwf
        exact ⟨ho.extend he.decls_nodup he.bindable, hcs n hn⟩
      | text _ | comment _ | instruction _ _ | reference _ => simp [Item.children] at hc

/-- The whole view: every item below a well-scoped item is well-scoped. -/
theorem WellScoped.below {top i : Item} (ht : top.WellScoped) (h : top.Below i) :
    i.WellScoped := by
  induction h with
  | refl => exact ht
  | child _ hc ih => exact ih.child hc

end Item

/-- In a namespace-well-formed document, the attributes conversion lists for an element lose
nothing: one entry for each declaration of the element that changes the binding around it, one
for each attribute with its value, and no two entries under one name. -/
theorem attributes_lose_nothing {root : Node} (hwf : root.namespaceWellFormed [] = true)
    {pre : Option String} {name : String} {uri : Option String} {decls : List Binding}
    {attrs : List Attribute} {cs : List Node} {outer : Scope}
    (hin : (Item.root root).Below (.node (.element pre name uri decls attrs cs) outer)) :
    (Item.node (.element pre name uri decls attrs cs) outer).attributes =
        (decls.filter fun d => outer.find? d.pre ≠ some d.uri).map
            (fun d => (declName d.pre, d.uri)) ++
          attrs.map (fun a => (Item.attributeName (outer.extend decls) a, a.value)) ∧
      ((Item.node (.element pre name uri decls attrs cs) outer).attributes.map Prod.fst).Nodup := by
  obtain ⟨ho, hnode⟩ := (Item.wellScoped_root hwf).below hin
  have he := (Node.namespaceWellFormed_element.mp hnode).1
  refine ⟨attributes_element_eq ho he, ?_⟩
  rw [attributes_element_eq ho he]
  simpa [Function.comp_def] using nodup_listing_names ho he

theorem attributes_lose_nothing_of_prefixed :
    let decls : List Binding := [⟨some "p", "http://u"⟩]
    let attrs : List Attribute := [⟨some "p", "x", some "http://u", "1"⟩, ⟨none, "y", none, "2"⟩]
    let root := Node.element none "a" none decls attrs []
    root.namespaceWellFormed [] = true ∧ (Item.root root).Below (.node root []) ∧
      ((Item.node root []).attributes =
          (decls.filter fun d => Scope.find? [] d.pre ≠ some d.uri).map
              (fun d => (declName d.pre, d.uri)) ++
            attrs.map (fun a => (Item.attributeName (Scope.extend [] decls) a, a.value)) ∧
        ((Item.node root []).attributes.map Prod.fst).Nodup) := by
  intro decls attrs root
  have hwf : root.namespaceWellFormed [] = true := by decide
  exact ⟨hwf, .refl, attributes_lose_nothing hwf .refl⟩

section Written

variable {scope : Scope} {a : Attribute}

theorem writtenParts_colonFree (hs : scope.Proper) (ha : AttributeWellFormed scope a) :
    ColonFree (a.pre, a.name) := by
  refine ⟨fun p hp => ?_, ha.1⟩
  by_cases hx : p = "xml"
  · subst hx
    decide
  · obtain ⟨u, -, hmem⟩ := ha.bound hp hx
    exact (hs.2 _ hmem).2.1

theorem shownPrefix_eq_pre_iff (hs : scope.Proper) (ha : AttributeWellFormed scope a) :
    shownPrefix scope a = a.pre ↔
      ∀ p u, a.pre = some p → a.uri = some u → p ≠ "xml" → scope.prefixOf? u = some p := by
  cases hp : a.pre with
  | none => simp [shownPrefix, (ha.of_pre_none hp).2]
  | some p =>
    by_cases hx : p = "xml"
    · -- `xml` is shown as written, and the condition leaves it out
      subst hx
      simp only [shownPrefix_of_xml ha hp, true_iff, Option.some.injEq]
      rintro _ _ rfl - hne
      exact absurd rfl hne
    · obtain ⟨u, hu, -, hshown⟩ := shownPrefix_of_bound hs ha hp hx
      simp [hshown, hu, hx]

theorem attributeName_eq_written_iff (hs : scope.Proper) (ha : AttributeWellFormed scope a) :
    Item.attributeName scope a = qualify a.pre a.name ↔ shownPrefix scope a = a.pre := by
  rw [attributeName_eq]
  constructor
  · intro h
    exact congrArg Prod.fst
      (qualify_injOn (attrParts_colonFree hs ha) (writtenParts_colonFree hs ha) h)
  · intro h
    rw [h]

end Written

/-- In a namespace-well-formed document, the attributes conversion lists for an element are the
ones its start tag writes exactly when no declaration of the element repeats the binding around
it and every attribute's prefix other than `xml` is the first one in scope bound to its
namespace. -/
theorem attributes_eq_written_iff {root : Node} (hwf : root.namespaceWellFormed [] = true)
    {pre : Option String} {name : String} {uri : Option String} {decls : List Binding}
    {attrs : List Attribute} {cs : List Node} {outer : Scope}
    (hin : (Item.root root).Below (.node (.element pre name uri decls attrs cs) outer)) :
    (Item.node (.element pre name uri decls attrs cs) outer).attributes =
        (Item.node (.element pre name uri decls attrs cs) outer).writtenAttributes ↔
      (∀ d ∈ decls, outer.find? d.pre ≠ some d.uri) ∧
        ∀ a ∈ attrs, ∀ p u, a.pre = some p → a.uri = some u → p ≠ "xml" →
          (outer.extend decls).prefixOf? u = some p := by
  obtain ⟨ho, hnode⟩ := (Item.wellScoped_root hwf).below hin
  have he := (Node.namespaceWellFormed_element.mp hnode).1
  have hs := ho.extend he.decls_nodup he.bindable
  -- an attribute's entry is the one written exactly when its prefix is the first in scope
  have hattr : ∀ a ∈ attrs,
      (Item.attributeName (outer.extend decls) a, a.value) = (qualify a.pre a.name, a.value) ↔
        ∀ p u, a.pre = some p → a.uri = some u → p ≠ "xml" →
          (outer.extend decls).prefixOf? u = some p := fun a ha => by
    rw [Prod.mk.injEq, and_iff_left rfl, attributeName_eq_written_iff hs (he.attributes a ha),
      shownPrefix_eq_pre_iff hs (he.attributes a ha)]
  rw [attributes_element_eq ho he, Item.writtenAttributes]
  constructor
  · intro h
    obtain ⟨hdecls, hattrs⟩ := List.append_inj' h (by simp)
    refine ⟨?_, fun a ha => (hattr a ha).mp (List.map_inj_left.mp hattrs a ha)⟩
    -- every declaration is kept: the kept ones are as many as all of them
    have hlen := congrArg List.length hdecls
    rw [List.length_map, List.length_map, List.length_filter_eq_length_iff] at hlen
    simpa using hlen
  · rintro ⟨hdecls, hattrs⟩
    rw [List.filter_eq_self.mpr (by simpa using hdecls),
      List.map_inj_left.mpr fun a ha => (hattr a ha).mpr (hattrs a ha)]

theorem attributes_eq_written_iff_of_prefixed :
    let decls : List Binding := [⟨some "p", "http://u"⟩]
    let attrs : List Attribute := [⟨some "p", "x", some "http://u", "1"⟩]
    let root := Node.element none "a" none decls attrs []
    root.namespaceWellFormed [] = true ∧ (Item.root root).Below (.node root []) ∧
      ((Item.node root []).attributes = (Item.node root []).writtenAttributes ↔
        (∀ d ∈ decls, Scope.find? [] d.pre ≠ some d.uri) ∧
          ∀ a ∈ attrs, ∀ p u, a.pre = some p → a.uri = some u → p ≠ "xml" →
            (Scope.extend [] decls).prefixOf? u = some p) := by
  intro decls attrs root
  have hwf : root.namespaceWellFormed [] = true := by decide
  exact ⟨hwf, .refl, attributes_eq_written_iff hwf .refl⟩

/-- A declaration that repeats the binding around it is written on the start tag but left out
of the attributes conversion lists. -/
theorem attributes_omit_repeated_declaration :
    ∃ root, parseDocument (Text.ofString
        "<a xmlns:p=\"http://u\"><b xmlns:p=\"http://u\" p:x=\"1\"/></a>") = .ok root ∧
      root.namespaceWellFormed [] = true ∧
      ∃ item, (Item.root root).Below item ∧ item.attributes = [("p:x", "1")] ∧
        item.writtenAttributes = [("xmlns:p", "http://u"), ("p:x", "1")] := by
  have h : (parseDocument (Text.ofString
        "<a xmlns:p=\"http://u\"><b xmlns:p=\"http://u\" p:x=\"1\"/></a>")).toOption.map
      (fun root => (root.namespaceWellFormed [],
        (Item.root root).children.map fun c => (c.attributes, c.writtenAttributes))) =
      some (true, [([("p:x", "1")], [("xmlns:p", "http://u"), ("p:x", "1")])]) := by
    decide +kernel
  obtain ⟨root, hroot, hsum⟩ := Option.map_eq_some_iff.mp h
  obtain ⟨hwf, hchildren⟩ := Prod.mk.inj hsum
  obtain ⟨c, hc, hcv⟩ := List.map_eq_singleton_iff.mp hchildren
  obtain ⟨hattrs, hwritten⟩ := Prod.mk.inj hcv
  exact ⟨root, except_eq_ok_of_toOption hroot, hwf, c,
    .child .refl (hc ▸ List.mem_singleton_self c), hattrs, hwritten⟩

end XmlView.Conversion
