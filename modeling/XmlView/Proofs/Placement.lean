import XmlView.Proofs.CallOrder
import XmlView.Proofs.Props

/-! Where the descriptors of a conversion stand: each element descriptor at its element's
sibling slot, with one child per slot and its converter's props merged over that slot. -/

namespace XmlView.Conversion
open Markup

namespace Descriptor

/-- The element descriptors of a tree in document order, each with its position among its
parent's children (`k` for the tree itself), its props and the number of its children. -/
def placed (k : Nat) (d : Descriptor) : List (Nat × Dict × Nat) :=
  match d with
  | .element _ props cs =>
    (k, props, cs.length) :: cs.zipIdx.attach.flatMap fun ⟨(c, i), _⟩ => placed i c
  | _ => []
termination_by sizeOf d
decreasing_by
  have := List.sizeOf_lt_of_mem (List.fst_mem_of_mem_zipIdx ‹_›)
  dsimp only at this
  simp only [Descriptor.element.sizeOf_spec]
  omega

theorem placed_element (k : Nat) (type : Value) (props : Dict) (cs : List Descriptor) :
    (Descriptor.element type props cs).placed k =
      (k, props, cs.length) :: cs.zipIdx.flatMap fun p => p.1.placed p.2 := by
  rw [placed]
  congr 1
  exact List.flatMap_subtype (g := fun p : Descriptor × Nat => p.1.placed p.2) (fun _ _ => rfl) |>.trans
    (by rw [List.unattach_attach])

theorem placed_props (k : Nat) (d : Descriptor) :
    (d.placed k).map (·.2.1) = d.heads.map (·.2) := by
  cases d with
  | element type props cs =>
    rw [placed_element, heads, List.map_cons, List.map_cons, List.map_flatMap, List.map_flatMap]
    congr 1
    -- each child by induction, whatever its position
    calc cs.zipIdx.flatMap (fun p => (p.1.placed p.2).map (·.2.1))
        = cs.zipIdx.flatMap (fun p => p.1.heads.map (·.2)) :=
          List.flatMap_congr fun p hp => placed_props p.2 p.1
      _ = (cs.zipIdx.map Prod.fst).flatMap (fun c => c.heads.map (·.2)) := by
          rw [List.flatMap_map]
      _ = cs.flatMap (fun c => c.heads.map (·.2)) := by rw [List.zipIdx_map_fst]
  | text _ | skipped => simp [placed, heads]
termination_by sizeOf d
decreasing_by
  have := List.sizeOf_lt_of_mem (List.fst_mem_of_mem_zipIdx hp)
  simp only [Descriptor.element.sizeOf_spec]
  omega

theorem placed_erase (k : Nat) (d : Descriptor) :
    (d.erase.placed k).map (fun p => (p.1, p.2.2)) = (d.placed k).map (fun p => (p.1, p.2.2)) := by
  cases d with
  | element type props cs =>
    rw [erase, placed_element, placed_element, List.map_cons, List.map_cons, List.length_map,
      List.map_flatMap, List.map_flatMap, List.zipIdx_map, List.flatMap_map]
    congr 1
    exact List.flatMap_congr fun p hp => placed_erase p.2 p.1
  | text _ | skipped => simp [erase]
termination_by sizeOf d
decreasing_by
  have := List.sizeOf_lt_of_mem (List.fst_mem_of_mem_zipIdx hp)
  simp only [Descriptor.element.sizeOf_spec]
  omega

end Descriptor

variable {m : Type → Type}

/-- Converting an item places an element descriptor for each element it reaches, in
document order, at that element's position among the sibling slots of its parent's content,
with one child for each sibling slot of its own content. -/
theorem placed_shape (reg : Registry m) (k : Nat) (item : Item) :
    ((item.shape reg).placed k).map (fun p => (p.1, p.2.2)) =
      (reached reg k item).map (fun r => (r.slot, r.element.slots.length)) := by
  cases item with
  | nothing | text _ => simp [Item.shape, reached, Descriptor.placed]
  | node n outer =>
    rw [Item.shape, reached]
    cases htag : (Item.node n outer).tag? with
    | none => simp [Descriptor.placed]
    | some t =>
      cases hf : reg.find? t with
      | none => simp [hf, Descriptor.placed]
      | some f =>
        simp only [Option.bind_some, hf]
        rw [List.map_subtype (g := Item.shape reg) (fun _ _ => rfl), List.unattach_attach,
          List.flatMap_subtype (g := fun p : Item × Nat => reached reg p.2 p.1) (fun _ _ => rfl),
          List.unattach_attach, Descriptor.placed_element, List.map_cons, List.map_cons,
          List.length_map, List.map_flatMap, List.map_flatMap, List.zipIdx_map, List.flatMap_map]
        congr 1
        exact List.flatMap_congr fun p hp => placed_shape reg p.2 p.1
termination_by item.size
decreasing_by exact Item.size_lt_of_mem_slots (List.fst_mem_of_mem_zipIdx hp)

theorem find?_of_mem_reached {reg : Registry m} {r : Reached m} (k : Nat) (item : Item) :
    r ∈ reached reg k item → reg.find? r.tag = some r.convert := by
  cases item with
  | nothing | text _ => simp [reached]
  | node n outer =>
    intro h
    rw [reached] at h
    cases htag : (Item.node n outer).tag? with
    | none => simp [htag] at h
    | some t =>
      cases hf : reg.find? t with
      | none => simp [htag, hf] at h
      | some f =>
        simp only [htag, hf, List.mem_cons, List.mem_flatMap] at h
        rcases h with rfl | ⟨p, hp, hr⟩
        · exact hf
        · exact find?_of_mem_reached p.1.2 p.1.1 hr
termination_by item.size
decreasing_by exact Item.size_lt_of_mem_slots (List.fst_mem_of_mem_zipIdx p.2)

theorem Registry.mem_entries_of_find? {reg : Registry m} {tag : String} {f : Converter m}
    (h : reg.find? tag = some f) : ∃ e ∈ reg.entries, e.2 = f := by
  obtain ⟨e, he, rfl⟩ := Option.map_eq_some_iff.mp h
  exact ⟨e, List.mem_of_find?_eq_some he, rfl⟩

theorem eq_zipWith_parts : ∀ L : List (Nat × Dict × Nat),
    L = List.zipWith (fun a b => (a.1, b, a.2)) (L.map fun p => (p.1, p.2.2)) (L.map (·.2.1))
  | [] => rfl
  | p :: L => by
    rw [List.map_cons, List.map_cons, List.zipWith_cons_cons, ← eq_zipWith_parts L]

theorem map_of_mapM_eq_ok {α β γ ε : Type} {f : α → Except ε β} {g : β → γ} {h : α → γ} :
    ∀ {l : List α} {hs : List β}, (∀ a ∈ l, ∀ b, f a = .ok b → g b = h a) →
      l.mapM f = .ok hs → hs.map g = l.map h
  | [], hs, _, hl => by
    simp only [List.mapM_nil] at hl
    cases hl
    rfl
  | a :: l, hs, hfg, hl => by
    simp only [List.mapM_cons] at hl
    cases ha : f a with
    | error e => rw [ha] at hl; cases hl
    | ok b =>
      rw [ha] at hl
      cases hrest : l.mapM f with
      | error e => rw [hrest] at hl; cases hl
      | ok bs =>
        rw [hrest] at hl
        cases hl
        rw [List.map_cons, List.map_cons, hfg a List.mem_cons_self b ha,
          map_of_mapM_eq_ok (fun a' ha' => hfg a' (List.mem_cons_of_mem _ ha')) hrest]

section Noted

variable {σ : Type} (reg : Registry (Conv σ)) (data : Value)

/-- Every converter of the registry, whenever it returns, returns a mapping whose props are
absent, none or a mapping. -/
def Registry.ReturnsMappings : Prop :=
  ∀ tag f, reg.find? tag = some f →
    ∀ attrs data s v, ((f attrs data).run.run s).1 = .ok v → Mapped v

def notedProps (n : Note) : Dict :=
  match n.2 with
  | .ok v => propsOf v
  | .error _ => []

theorem noted_head_props (hreg : reg.ReturnsMappings) {r : Reached (Conv σ)} {n : Note}
    (hr : reg.find? r.tag = some r.convert) (hn : r.Noted data n) {b : Value × Dict}
    (hb : n.2.bind (resultHead r.slot) = .ok b) : b.2 = keyFirst r.slot (notedProps n) := by
  obtain ⟨s, hs⟩ := hn
  cases hv : n.2 with
  | error f => rw [hv] at hb; cases hb
  | ok v =>
    rw [hv] at hb hs
    obtain ⟨type, ht⟩ := resultHead_of_mapped (k := r.slot) (hreg r.tag r.convert hr _ _ s v hs.symm)
    have hb' : resultHead r.slot v = .ok b := hb
    rw [ht] at hb'
    cases hb'
    simp [notedProps, hv]

theorem zipWith_parts_zip {m : Type → Type} :
    ∀ {rs : List (Reached m)} {ns : List Note}, ns.length = rs.length →
      List.zipWith (fun a b => (a.1, b, a.2)) (rs.map fun r => (r.slot, r.element.slots.length))
          ((ns.zip rs).map fun p => keyFirst p.2.slot (notedProps p.1)) =
        rs.zipWith (fun r n => (r.slot, keyFirst r.slot (notedProps n), r.element.slots.length)) ns
  | [], [], _ => rfl
  | r :: rs, n :: ns, hlen => by
    simp only [List.map_cons, List.zip_cons_cons, List.zipWith_cons_cons]
    rw [zipWith_parts_zip (by simpa using hlen)]

/-- A conversion of an item that succeeds places each element it reaches at its sibling
slot, with the props of that element's converter call merged over the slot, `key` first, and
one child per sibling slot of the element's content. -/
theorem placed_of_run_visit (hreg : reg.ReturnsMappings) (k : Nat) (item : Item) (s : σ)
    {d : Descriptor} (h : ((visit reg.noting data k item).run.run (s, [])).1 = .ok d) :
    d.placed k = (reached reg k item).zipWith
      (fun r n => (r.slot, keyFirst r.slot (notedProps n), r.element.slots.length))
      ((visit reg.noting data k item).run.run (s, [])).2.2 := by
  obtain ⟨hnoted, hok, -⟩ := run_visit_noted reg data k item s
  obtain ⟨hcalls, hmapM⟩ := hok d h
  have hlen : ((visit reg.noting data k item).run.run (s, [])).2.2.length =
      (reached reg k item).length := by
    simpa using congrArg List.length hcalls
  have hpos : (d.placed k).map (fun p => (p.1, p.2.2)) =
      (reached reg k item).map (fun r => (r.slot, r.element.slots.length)) := by
    rw [← Descriptor.placed_erase, erase_of_run_visit reg.noting data k item (s, []) h,
      placed_shape, reached_noting, List.map_map]
    rfl
  -- the props each descriptor carries are what its element's noted outcome read as
  have hprops : (d.placed k).map (·.2.1) =
      (((visit reg.noting data k item).run.run (s, [])).2.2.zip (reached reg k item)).map
        fun p => keyFirst p.2.slot (notedProps p.1) := by
    rw [Descriptor.placed_props]
    exact map_of_mapM_eq_ok (fun p hp _ hb => noted_head_props reg data hreg
      (find?_of_mem_reached k item (List.of_mem_zip hp).2) (hnoted p hp) hb) hmapM
  rw [eq_zipWith_parts (d.placed k), hpos, hprops]
  exact zipWith_parts_zip hlen

/-- Converting a document with converters that return mappings places every element
descriptor of the tree, in document order, at its element's position among the sibling
slots of its parent's content (0 for the root); its props are those its converter gave, as
an ordered mapping merged over that position with `key` first, and it has one child for each
sibling slot of the element's own content. -/
theorem convert_places_descriptors (hreg : reg.ReturnsMappings) (xml : Value) (s : σ)
    {root : Node} (hroot : (readForConversion xml).1 = some root) {o : Outcome}
    (h : ((convert reg.noting xml data).run.run (s, [])).1 = .ok o) :
    o.tree.placed 0 = (reached reg 0 (Item.root root)).zipWith
      (fun r n => (r.slot, keyFirst r.slot (notedProps n), r.element.slots.length))
      ((convert reg.noting xml data).run.run (s, [])).2.2 := by
  have hrun := run_convert reg.noting xml data (s, [])
  cases hread : readForConversion xml with
  | mk root? ws =>
    obtain rfl : root? = some root := by rw [hread] at hroot; exact hroot
    rw [hread] at hrun
    cases hv : ((visit reg.noting data 0 (Item.root root)).run.run (s, [])).1 with
    | error f => simp [hrun, hv, Except.map] at h
    | ok d =>
      have ho : o.tree = d := by
        simp only [hrun, hv, Except.map, Except.ok.injEq] at h
        rw [← h]
      rw [ho, hrun]
      exact placed_of_run_visit reg data hreg 0 (Item.root root) s hv

set_option maxRecDepth 4000 in
/-- A root whose content is text, a comment and two elements: the first element's converter
gives `key` among its props, which is kept first; the second gets its slot. -/
theorem convert_places_descriptors_by_slot :
    let conv : Converter (Conv Unit) := fun attrs _ => pure (.dict
      [(.str (Text.ofString "type"), .str (Text.ofString "T")),
        (.str (Text.ofString "props"), .dict (attrs.map fun p =>
          (.str (Text.ofString p.1), .str (Text.ofString p.2))))])
    let reg : Registry (Conv Unit) := ⟨[(Text.ofString "a", conv), (Text.ofString "b", conv)]⟩
    let xml : Value := .str (Text.ofString "<a>x<!--c--><b key=\"k\" n=\"1\"/><b/></a>")
    let root : Node := .element none "a" none [] [] [.text "x", .comment "c",
      .element none "b" none [] [⟨none, "key", none, "k"⟩, ⟨none, "n", none, "1"⟩] [],
      .element none "b" none [] [] []]
    let t : Value := .str (Text.ofString "T")
    let o : Outcome := ⟨.element t [(keyName, .int 0)] [.text (Text.ofString "x"), .skipped,
      .element t [(keyName, .str (Text.ofString "k")),
        (.str (Text.ofString "n"), .str (Text.ofString "1"))] [],
      .element t [(keyName, .int 3)] []], []⟩
    reg.ReturnsMappings ∧ (readForConversion xml).1 = some root ∧
      ((convert reg.noting xml .none).run.run ((), [])).1 = .ok o ∧
      o.tree.placed 0 = (reached reg 0 (Item.root root)).zipWith
        (fun r n => (r.slot, keyFirst r.slot (notedProps n), r.element.slots.length))
        ((convert reg.noting xml .none).run.run ((), [])).2.2 := by
  intro conv reg xml root t o
  have hreg : reg.ReturnsMappings := by
    intro tag f hf attrs _ _ v hv
    obtain ⟨e, he, rfl⟩ := Registry.mem_entries_of_find? hf
    have hconv : e.2 = conv := by
      simp only [reg, List.mem_cons, List.not_mem_nil, or_false] at he
      rcases he with rfl | rfl <;> rfl
    rw [hconv] at hv
    cases hv
    exact ⟨⟨_, rfl⟩, .inr ⟨_, rfl⟩⟩
  have hread : readForConversion xml = (some root, []) := by cbv
  have hroot : (readForConversion xml).1 = some root := by rw [hread]
  have hrun : ((convert reg.noting xml .none).run.run ((), [])).1 = .ok o := by
    rw [run_convert, hread]
    cbv
  exact ⟨hreg, hroot, hrun, convert_places_descriptors reg .none hreg xml () hroot hrun⟩

end Noted

end XmlView.Conversion
