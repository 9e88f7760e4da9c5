import XmlView.Proofs.Outcome

/-! The summary of a converted tree read off the document: the reached elements, their
non-empty texts and tails, their skipped children, and the longest chain of reached
elements. -/

namespace XmlView.Conversion
open Markup

namespace Summary

theorem foldl_join (l : List Summary) (a : Summary) :
    l.foldl join a = ⟨a.elements + (l.map (·.elements)).sum, a.texts + (l.map (·.texts)).sum,
      a.skipped + (l.map (·.skipped)).sum, max a.maxDepth ((l.map (·.maxDepth)).foldr max 0)⟩ := by
  induction l generalizing a with
  | nil => simp
  | cons x l ih =>
    rw [List.foldl_cons, ih]
    simp only [join, List.map_cons, List.sum_cons, List.foldr_cons, Summary.mk.injEq]
    refine ⟨by omega, by omega, by omega, ?_⟩
    rw [Nat.max_assoc]

theorem ofDescriptorAt_element (D : Nat) (type : Value) (props : Dict) (cs : List Descriptor) :
    ofDescriptorAt D (.element type props cs) =
      (cs.map (ofDescriptorAt (D + 1))).foldl join { elements := 1, maxDepth := D } := by
  rw [ofDescriptorAt, List.map_subtype (g := ofDescriptorAt (D + 1)) (fun _ _ => rfl),
    List.unattach_attach]

theorem ofDescriptorAt_erase (D : Nat) (d : Descriptor) :
    ofDescriptorAt D d.erase = ofDescriptorAt D d := by
  cases d with
  | element type props cs =>
    rw [Descriptor.erase, ofDescriptorAt_element, ofDescriptorAt_element, List.map_map]
    congr 1
    exact List.map_congr_left fun c hc => ofDescriptorAt_erase (D + 1) c
  | text _ | skipped => simp [Descriptor.erase]
termination_by sizeOf d
decreasing_by
  have := List.sizeOf_lt_of_mem hc
  simp only [Descriptor.element.sizeOf_spec]
  omega

end Summary

variable {m : Type → Type}

namespace Item

def texts : Item → List String
  | .node (.element _ _ _ _ _ cs) _ =>
    joinText (textRuns cs).1 :: (textRuns cs).2.map fun p => joinText p.2
  | _ => []

def skippedChildren (reg : Registry m) : Item → List Node
  | .node (.element _ _ _ decls _ cs) outer =>
    cs.filter fun c => !c.isText && ((Item.node c (outer.extend decls)).tag?.bind reg.find?).isNone
  | _ => []

/-- The number of elements on the longest chain down from an item through elements whose
names have converters; none when the item is not such an element. -/
def reachDepth (reg : Registry m) (item : Item) : Nat :=
  match item with
  | .node n outer =>
    match (Item.node n outer).tag?.bind reg.find? with
    | none => 0
    | some _ => 1 + ((Item.node n outer).slots.attach.map fun ⟨c, _⟩ => c.reachDepth reg).foldr max 0
  | _ => 0
termination_by item.size
decreasing_by exact Item.size_lt_of_mem_slots ‹_›

/-- Whether a conversion skips an item: it is no text, and its name has no converter. -/
def isSkipped (reg : Registry m) (c : Item) : Bool := !c.isText && (c.tag?.bind reg.find?).isNone

/-- The counts a converted document is expected to have: one skipped node when the root's
name has no converter, and otherwise the elements the conversion reaches, their texts that
are not empty, their skipped children, and the longest chain of reached elements. -/
def census (reg : Registry m) (root : Item) : Summary :=
  match root.tag?.bind reg.find? with
  | none => { skipped := 1 }
  | some _ =>
    { elements := (reached reg 0 root).length
      texts := ((reached reg 0 root).map fun r => r.element.texts.countP (· != "")).sum
      skipped := ((reached reg 0 root).map fun r => (r.element.skippedChildren reg).length).sum
      maxDepth := root.reachDepth reg }

end Item

namespace Item

variable (reg : Registry m)

theorem reached_node_of_none {n : Node} {outer : Scope} (k : Nat)
    (h : (Item.node n outer).tag?.bind reg.find? = none) : reached reg k (.node n outer) = [] := by
  rw [reached]
  cases ht : (Item.node n outer).tag? with
  | none => rfl
  | some t =>
    rw [ht, Option.bind_some] at h
    simp only [h]

theorem reached_node_of_some {n : Node} {outer : Scope} {f : Converter m} (k : Nat)
    (h : (Item.node n outer).tag?.bind reg.find? = some f) :
    ∃ t, reached reg k (.node n outer) = ⟨t, .node n outer, k, f⟩ ::
      (Item.node n outer).slots.zipIdx.flatMap fun x => reached reg x.2 x.1 := by
  obtain ⟨t, ht, hf⟩ := Option.bind_eq_some_iff.mp h
  refine ⟨t, ?_⟩
  rw [reached, ht]
  simp only [hf]
  rw [List.flatMap_subtype (g := fun x => reached reg x.2 x.1) (fun _ _ => rfl),
    List.unattach_attach]

theorem shape_node_of_find {n : Node} {outer : Scope} {f : Converter m}
    (h : (Item.node n outer).tag?.bind reg.find? = some f) :
    (Item.node n outer).shape reg = .element .none [] ((Item.node n outer).slots.map (shape reg)) := by
  rw [shape, h]
  simp only
  rw [List.map_subtype (g := shape reg) (fun _ _ => rfl), List.unattach_attach]

theorem reachDepth_node_of_none {n : Node} {outer : Scope}
    (h : (Item.node n outer).tag?.bind reg.find? = none) : (Item.node n outer).reachDepth reg = 0 := by
  rw [reachDepth, h]

theorem reachDepth_node_of_find {n : Node} {outer : Scope} {f : Converter m}
    (h : (Item.node n outer).tag?.bind reg.find? = some f) :
    (Item.node n outer).reachDepth reg =
      1 + ((Item.node n outer).slots.map (reachDepth reg)).foldr max 0 := by
  rw [reachDepth, h]
  simp only
  rw [List.map_subtype (g := reachDepth reg) (fun _ _ => rfl), List.unattach_attach]

theorem countP_isText_textItem (s : String) : (textItem s).countP isText = [s].countP (· != "") := by
  by_cases h : s = ""
  · simp [textItem, h]
  · simp [textItem, String.isEmpty_iff, h, isText]

theorem countP_isText_slots (e : Item) : e.slots.countP isText = e.texts.countP (· != "") := by
  rw [← children_eq_slots]
  match e with
  | .node (.element _ _ _ decls _ cs) outer =>
    simp only [children, texts, List.countP_append, List.countP_cons, countP_isText_textItem]
    -- each child that is not text adds its tail, as a slot and as a text
    induction (textRuns cs).2 with
    | nil => simp
    | cons p ps ih =>
      obtain ⟨c, tail⟩ := p
      simp [List.countP_cons, countP_isText_textItem, isText] at ih ⊢
      omega
  | .node (.text _) _ | .node (.comment _) _ | .node (.instruction _ _) _
  | .node (.reference _) _ | .text _ | .nothing => rfl

theorem countP_isSkipped_textItem (s : String) : (textItem s).countP (isSkipped reg) = 0 := by
  by_cases h : s = ""
  · simp [textItem, h]
  · simp [textItem, String.isEmpty_iff, h, isSkipped, isText]

theorem countP_isSkipped_slots (e : Item) :
    e.slots.countP (isSkipped reg) = (e.skippedChildren reg).length := by
  rw [← children_eq_slots]
  match e with
  | .node (.element _ _ _ decls _ cs) outer =>
    simp only [children, skippedChildren, List.countP_append, countP_isSkipped_textItem,
      Nat.zero_add]
    -- a text node is no slot of its own and no child that is skipped; any other node is both
    induction cs with
    | nil => rfl
    | cons c cs ih =>
      cases hc : c.isText
      · have hsk : isSkipped reg (.node c (outer.extend decls)) =
            ((Item.node c (outer.extend decls)).tag?.bind reg.find?).isNone := rfl
        cases hs : ((Item.node c (outer.extend decls)).tag?.bind reg.find?).isNone <;>
          simp [textRuns_cons_other cs hc, countP_isSkipped_textItem, ih, hsk, hs, hc]
      · simp [textRuns_cons_text cs hc, ih, hc]
  | .node (.text _) _ | .node (.comment _) _ | .node (.instruction _ _) _
  | .node (.reference _) _ | .text _ | .nothing => rfl

/-- The counts expected of converting an item in slot `k` whose element would stand at depth
`D + 1`: the elements it reaches; its own text mark and the texts of those elements that are
not empty; its own skip mark and the skipped children of those elements; and the depth of the
deepest of them. -/
def countsAt (D k : Nat) (c : Item) : Summary where
  elements := (reached reg k c).length
  texts := c.isText.toNat + ((reached reg k c).map fun r => r.element.texts.countP (· != "")).sum
  skipped := (c.isSkipped reg).toNat +
    ((reached reg k c).map fun r => (r.element.skippedChildren reg).length).sum
  maxDepth := if c.reachDepth reg = 0 then 0 else D + c.reachDepth reg

end Item

section Lists

variable {α β : Type}

theorem sum_map_toNat (l : List α) (p : α → Bool) : (l.map fun a => (p a).toNat).sum = l.countP p := by
  induction l with
  | nil => rfl
  | cons a l ih => cases h : p a <;> simp [h, ih, Nat.add_comm]

theorem sum_map_flatMap (l : List α) (f : α → List β) (g : β → Nat) :
    ((l.flatMap f).map g).sum = (l.map fun a => ((f a).map g).sum).sum := by
  simp [List.flatMap_def, List.sum_flatten, Function.comp_def]

theorem map_zipIdx_fst (l : List α) (k : Nat) (g : α → β) :
    (l.zipIdx k).map (fun x => g x.1) = l.map g := by
  have h := congrArg (List.map g) (List.zipIdx_map_fst k l)
  rwa [List.map_map] at h

theorem max_foldr_shift (a : Nat) (l : List Nat) :
    max a ((l.map fun r => if r = 0 then 0 else a + r).foldr max 0) = a + l.foldr max 0 := by
  induction l with
  | nil => simp
  | cons r l ih =>
    simp only [List.map_cons, List.foldr_cons]
    split <;> omega

end Lists

variable (reg : Registry m)

/-- The counts of converting an item are those expected of it: by induction on the item, an
element whose name has a converter counting itself, the marks of its slots and what each
slot reaches. -/
theorem Summary.ofDescriptorAt_shape (D k : Nat) (c : Item) :
    Summary.ofDescriptorAt (D + 1) (c.shape reg) = c.countsAt reg D k := by
  match c with
  | .nothing => simp [Item.shape, reached, Item.reachDepth, Item.countsAt, Item.isSkipped,
      Item.isText, Item.tag?, Summary.ofDescriptorAt]
  | .text s => simp [Item.shape, reached, Item.reachDepth, Item.countsAt, Item.isSkipped,
      Item.isText, Summary.ofDescriptorAt]
  | .node n outer =>
    cases hf : (Item.node n outer).tag?.bind reg.find? with
    | none =>
      simp [shape_node_of_none hf, Item.countsAt, Item.reached_node_of_none reg k hf,
        Item.reachDepth_node_of_none reg hf, Item.isSkipped, Item.isText, hf,
        Summary.ofDescriptorAt]
    | some f =>
      obtain ⟨t, hr⟩ := Item.reached_node_of_some reg k hf
      -- each slot counts as expected of it, by induction
      have hslots : (Item.node n outer).slots.map (Summary.ofDescriptorAt (D + 1 + 1) ∘ Item.shape reg) =
          (Item.node n outer).slots.zipIdx.map fun x => x.1.countsAt reg (D + 1) x.2 := by
        rw [← map_zipIdx_fst _ 0]
        exact List.map_congr_left fun x hx => ofDescriptorAt_shape (D + 1) x.2 x.1
      rw [Item.shape_node_of_find reg hf, Summary.ofDescriptorAt_element, List.map_map, hslots,
        Summary.foldl_join]
      simp only [Item.countsAt, hr, Summary.mk.injEq]
      refine ⟨?_, ?_, ?_, ?_⟩
      · simp [List.length_flatMap, Function.comp_def]
        omega
      · -- the text slots of the element are its texts that are not empty
        have hmarks : ((Item.node n outer).slots.zipIdx.map fun x => x.1.isText.toNat).sum =
            (Item.node n outer).texts.countP (· != "") := by
          rw [map_zipIdx_fst _ 0 (fun c : Item => c.isText.toNat), sum_map_toNat,
            Item.countP_isText_slots]
        simp only [List.map_map, Function.comp_def, List.map_cons, List.sum_cons,
          sum_map_flatMap, List.sum_map_add, hmarks]
        simp [Item.isText]
      · -- the skipped slots of the element are its skipped children
        have hmarks :
            ((Item.node n outer).slots.zipIdx.map fun x => (x.1.isSkipped reg).toNat).sum =
            ((Item.node n outer).skippedChildren reg).length := by
          rw [map_zipIdx_fst _ 0 (fun c : Item => (c.isSkipped reg).toNat), sum_map_toNat,
            Item.countP_isSkipped_slots]
        simp only [List.map_map, Function.comp_def, List.map_cons, List.sum_cons,
          sum_map_flatMap, List.sum_map_add, hmarks]
        simp [Item.isSkipped, Item.isText, hf]
      · -- the element stands at depth `D + 1`, the deepest chain below it one level lower
        have hdepths : ((Item.node n outer).slots.zipIdx.map fun x =>
              if x.1.reachDepth reg = 0 then 0 else D + 1 + x.1.reachDepth reg) =
            ((Item.node n outer).slots.map (Item.reachDepth reg)).map
              (fun r => if r = 0 then 0 else D + 1 + r) := by
          rw [List.map_map]
          exact map_zipIdx_fst _ 0 fun c : Item =>
            if c.reachDepth reg = 0 then 0 else D + 1 + c.reachDepth reg
        simp only [List.map_map, Function.comp_def]
        rw [hdepths, max_foldr_shift, Item.reachDepth_node_of_find reg hf, if_neg (by omega)]
        omega
termination_by c.size
decreasing_by exact Item.size_lt_of_mem_slots (List.fst_mem_of_mem_zipIdx hx)

theorem Item.census_eq_countsAt (n : Node) (outer : Scope) :
    (Item.node n outer).census reg = (Item.node n outer).countsAt reg 0 0 := by
  cases hf : (Item.node n outer).tag?.bind reg.find? with
  | none =>
    simp [Item.census, Item.countsAt, hf, Item.reached_node_of_none reg 0 hf,
      Item.reachDepth_node_of_none reg hf, Item.isSkipped, Item.isText]
  | some f =>
    have hdepth : (Item.node n outer).reachDepth reg ≠ 0 := by
      rw [Item.reachDepth_node_of_find reg hf]
      omega
    simp [Item.census, Item.countsAt, hf, hdepth, Item.isSkipped, Item.isText]

theorem Summary.ofDescriptor_shape (n : Node) (outer : Scope) :
    Summary.ofDescriptor ((Item.node n outer).shape reg) = (Item.node n outer).census reg := by
  rw [Item.census_eq_countsAt]
  exact Summary.ofDescriptorAt_shape reg 0 0 _

section World

variable {σ : Type} {reg : Registry (Conv σ)}

theorem Registry.NeverRaises.noting (h : reg.NeverRaises) : reg.noting.NeverRaises := by
  intro tag f hf attrs data s
  rw [Registry.find?_noting] at hf
  obtain ⟨g, hg, rfl⟩ := Option.map_eq_some_iff.mp hf
  exact h tag g hg attrs data s.1

theorem Registry.ReturnsMappings.noting (h : reg.ReturnsMappings) : reg.noting.ReturnsMappings := by
  intro tag f hf attrs data s v hv
  rw [Registry.find?_noting] at hf
  obtain ⟨g, hg, rfl⟩ := Option.map_eq_some_iff.mp hf
  exact h tag g hg attrs data s.1 v hv

/-- With converters that never raise and return mappings, the counts of a converted document
are the census of its root, and the converters are called once for each element counted. -/
theorem convert_counts_eq_census (hraise : reg.NeverRaises) (hmap : reg.ReturnsMappings)
    (xml data : Value) (s : σ) {root : Node} (hroot : (readForConversion xml).1 = some root) :
    (∃ o, ((convert reg xml data).run.run s).1 = .ok o ∧
      Summary.ofDescriptor o.tree = (Item.root root).census reg) ∧
    ((convert reg.noting xml data).run.run (s, [])).2.2.length =
      ((Item.root root).census reg).elements := by
  have hread : readForConversion xml = (some root, (readForConversion xml).2) := Prod.ext hroot rfl
  constructor
  · obtain ⟨d, hd⟩ := run_visit_ok reg data hraise hmap 0 (Item.root root) s
    have hshape := erase_of_run_visit reg data 0 (Item.root root) s hd
    refine ⟨⟨d, (readForConversion xml).2⟩, ?_, ?_⟩
    · rw [run_convert, hread]
      simp only [hd, Except.map]
    · -- the counts do not see types and props, so they are those of the root's shape
      change Summary.ofDescriptorAt 1 d = _
      rw [← Summary.ofDescriptorAt_erase, hshape]
      exact Summary.ofDescriptor_shape reg root []
  · obtain ⟨d, hd⟩ := run_visit_ok reg.noting data hraise.noting hmap.noting 0 (Item.root root) (s, [])
    obtain ⟨-, hok, -⟩ := run_visit_noted reg data 0 (Item.root root) s
    have hcalls := congrArg List.length (hok d hd).1
    rw [List.length_map, List.length_map] at hcalls
    rw [run_convert, hread]
    change _ = ((Item.node root []).census reg).elements
    rw [Item.census_eq_countsAt]
    exact hcalls

end World

end XmlView.Conversion
