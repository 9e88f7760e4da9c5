import XmlView.Proofs.Simulation

/-! The text leaves of a converted tree, in document order, are the document's character
data with the unconverted elements and other nodes cut out; no list of children holds empty
text or two texts side by side. -/

namespace XmlView.Conversion
open Markup

namespace Descriptor

def isText : Descriptor → Bool
  | .text _ => true
  | _ => false

/-- The text leaves of a tree, read in document order and joined. -/
def leafText : Descriptor → Text
  | .text t => t
  | .skipped => Text.empty
  | .element _ _ cs => Text.join (cs.map leafText)

def Apart (a b : Descriptor) : Prop := a.isText = false ∨ b.isText = false

/-- Every list of children in the tree holds no empty text and no two texts side by side. -/
inductive Spaced : Descriptor → Prop
  | text (t : Text) : Spaced (.text t)
  | skipped : Spaced .skipped
  | element {type : Value} {props : Dict} {cs : List Descriptor}
      (nonempty : ∀ t, Descriptor.text t ∈ cs → t ≠ Text.empty)
      (apart : cs.IsChain Apart) (children : ∀ c ∈ cs, Spaced c) :
      Spaced (.element type props cs)

@[simp] theorem leafText_element (type : Value) (props : Dict) (cs : List Descriptor) :
    (Descriptor.element type props cs).leafText = Text.join (cs.map leafText) := by
  simp [leafText]

@[simp] theorem isText_erase (d : Descriptor) : d.erase.isText = d.isText := by
  cases d <;> simp [erase, isText]

theorem leafText_erase (d : Descriptor) : d.erase.leafText = d.leafText := by
  match d with
  | .text _ | .skipped => simp [erase]
  | .element _ _ cs =>
    simp only [erase, leafText_element, List.map_map]
    congr 1
    exact List.map_congr_left fun c _ => leafText_erase c

theorem Spaced.of_erase {d : Descriptor} (h : d.erase.Spaced) : d.Spaced := by
  match d, h with
  | .text t, _ => exact .text t
  | .skipped, _ => exact .skipped
  | .element _ _ cs, h =>
    simp only [erase] at h
    cases h with
    | element nonempty apart children =>
      refine .element (fun t ht => nonempty t ?_) ?_ fun c hc => ?_
      · exact List.mem_map.mpr ⟨.text t, ht, by simp [erase]⟩
      · exact ((List.isChain_map erase).mp apart).imp fun _ _ h => by simpa only [Apart, isText_erase] using h
      · exact Spaced.of_erase (children c.erase (List.mem_map_of_mem hc))

end Descriptor

variable {m : Type → Type}

/-- The character data of a node in the scope `outer` that a conversion with the registry
`reg` keeps: for an element whose name has a converter, the text of each of its text
children and what each other child keeps, in order; nothing of any other node. -/
def keptText (reg : Registry m) (outer : Scope) (n : Node) : Text :=
  match n with
  | .element pre name uri decls attrs cs =>
    match (Item.node (.element pre name uri decls attrs cs) outer).tag?.bind reg.find? with
    | some _ => Text.join (cs.attach.map fun ⟨c, _⟩ =>
        if c.isText then Text.ofString c.charData else keptText reg (outer.extend decls) c)
    | none => Text.empty
  | _ => Text.empty
termination_by n.size
decreasing_by exact Node.size_lt_of_mem ‹_› _ _ _ _ _

/-- The character data of an item that a conversion keeps. -/
def Item.keptText (reg : Registry m) : Item → Text
  | .text s => Text.ofString s
  | .node n outer => Conversion.keptText reg outer n
  | .nothing => Text.empty

theorem mem_children_node {pre name uri decls attrs cs} {outer scope : Scope} {c : Node}
    (h : Item.node c scope ∈ (Item.node (.element pre name uri decls attrs cs) outer).children) :
    c.isText = false ∧ scope = outer.extend decls := by
  simp only [Item.children, List.mem_append, List.mem_flatMap, List.mem_cons, mem_textItem,
    reduceCtorEq, false_and, false_or, or_false] at h
  obtain ⟨p, hp, ⟨rfl, rfl⟩⟩ := h
  exact ⟨(textRuns_snd_run hp).1, rfl⟩

section Shape

variable (reg : Registry m)

theorem isText_shape (item : Item) : (item.shape reg).isText = item.isText := by
  match item with
  | .nothing | .text _ => simp [Item.shape, Descriptor.isText, Item.isText]
  | .node n outer =>
    rw [Item.shape]
    cases (Item.node n outer).tag?.bind reg.find? <;> rfl

theorem eq_text_of_shape {item : Item} {t : Text} (h : item.shape reg = .text t) :
    ∃ s, item = .text s ∧ t = Text.ofString s := by
  match item, h with
  | .nothing, h => simp [Item.shape] at h
  | .text s, h =>
    rw [Item.shape] at h
    exact ⟨s, rfl, (Descriptor.text.inj h).symm⟩
  | .node n outer, h =>
    rw [Item.shape] at h
    split at h <;> simp at h

theorem keptText_of_find {pre name uri decls attrs cs} {outer : Scope} {f : Converter m}
    (h : (Item.node (.element pre name uri decls attrs cs) outer).tag?.bind reg.find? = some f) :
    keptText reg outer (.element pre name uri decls attrs cs) =
      Text.join (cs.map fun c =>
        if c.isText then Text.ofString c.charData else keptText reg (outer.extend decls) c) := by
  rw [keptText, h]
  simp

/-- One step of `leafText_shape`: an element with a converter keeps, read as text, what its
slots keep. -/
theorem leafText_shape_of_slots {pre name uri decls attrs cs} {outer : Scope} {f : Converter m}
    (hreg : (Item.node (.element pre name uri decls attrs cs) outer).tag?.bind reg.find? = some f)
    (ih : ∀ c ∈ (Item.node (.element pre name uri decls attrs cs) outer).slots,
      (c.shape reg).leafText = c.keptText reg) :
    ((Item.node (.element pre name uri decls attrs cs) outer).shape reg).leafText =
      keptText reg outer (.element pre name uri decls attrs cs) := by
  -- each slot keeps what it holds as a child of the element's content: a run of text all of
  -- its text, a child node what that node keeps
  have hslot : ∀ c ∈ (Item.node (.element pre name uri decls attrs cs) outer).slots,
      (c.shape reg).leafText = c.textWith fun c =>
        if c.isText then Text.ofString c.charData else keptText reg (outer.extend decls) c := by
    intro c hc
    rw [ih c hc]
    rw [← Item.children_eq_slots] at hc
    cases c with
    | text _ | nothing => rfl
    | node _ _ =>
      obtain ⟨hnt, rfl⟩ := mem_children_node hc
      simp [Item.keptText, Item.textWith, hnt]
  rw [Item.shape, hreg]
  calc _ = Text.join ((Item.node (.element pre name uri decls attrs cs) outer).children.map
          (Item.textWith fun c => if c.isText then Text.ofString c.charData
            else keptText reg (outer.extend decls) c)) := by
        rw [Descriptor.leafText_element,
          List.map_subtype (g := Item.shape reg) (fun _ _ => rfl), List.unattach_attach,
          List.map_map, Item.children_eq_slots]
        exact congrArg Text.join (List.map_congr_left hslot)
    _ = Text.join (cs.map fun c => if c.isText then Text.ofString c.charData
          else keptText reg (outer.extend decls) c) :=
        join_children _ (fun _ => rfl) pre name uri decls attrs outer cs
    _ = _ := (keptText_of_find reg hreg).symm

/-- Read as text, what converting an item gives is what the item keeps. -/
theorem leafText_shape (item : Item) : (item.shape reg).leafText = item.keptText reg := by
  cases item with
  | nothing | text _ => simp [Item.shape, Descriptor.leafText, Item.keptText]
  | node n outer =>
    cases n with
    | element pre name uri decls attrs cs =>
      cases hreg : (Item.node (.element pre name uri decls attrs cs) outer).tag?.bind
          reg.find? with
      | none =>
        rw [Item.shape]
        simp [Item.keptText, keptText, hreg, Descriptor.leafText]
      | some f => exact leafText_shape_of_slots reg hreg fun c hc => leafText_shape c
    | text _ | comment _ | instruction _ _ | reference _ =>
      simp [Item.shape, Item.tag?, Descriptor.leafText, Item.keptText, keptText]
termination_by item.size
decreasing_by exact Item.size_lt_of_mem_slots hc

theorem spaced_shape (item : Item) : (item.shape reg).Spaced := by
  match item with
  | .nothing => simpa [Item.shape] using Descriptor.Spaced.skipped
  | .text s => simpa [Item.shape] using Descriptor.Spaced.text (Text.ofString s)
  | .node n outer =>
    rw [Item.shape]
    cases (Item.node n outer).tag?.bind reg.find? with
    | none => exact .skipped
    | some f =>
      dsimp only
      rw [List.map_subtype (g := Item.shape reg) (fun _ _ => rfl), List.unattach_attach]
      refine .element (fun t ht => ?_) ?_ fun c hc => ?_
      · obtain ⟨c, hc, hct⟩ := List.mem_map.mp ht
        obtain ⟨s, rfl, rfl⟩ := eq_text_of_shape reg hct
        rw [← Item.children_eq_slots] at hc
        exact Text.ofString_ne_empty (ne_empty_of_text_mem_children hc)
      · rw [List.isChain_map, ← Item.children_eq_slots]
        exact (children_isChain _).imp fun a b h => by
          simpa only [Descriptor.Apart, Item.Apart, isText_shape] using h
      · obtain ⟨c', hc', rfl⟩ := List.mem_map.mp hc
        exact spaced_shape c'
termination_by item.size
decreasing_by exact Item.size_lt_of_mem_slots hc'

end Shape

/-- Converting a document keeps its character data: read in document order, the text leaves
of the tree are the text of the root element with the content of every element that has no
converter, and every comment, processing instruction and entity reference, cut out, and the
text after each of them kept. No list of children holds empty text or two texts side by
side. -/
theorem convert_keeps_character_data {σ : Type} (reg : Registry (Conv σ)) (xml data : Value)
    (s : σ) {root : Node} (hroot : (readForConversion xml).1 = some root) {o : Outcome}
    (h : ((convert reg xml data).run.run s).1 = .ok o) :
    o.tree.Spaced ∧ o.tree.leafText = keptText reg [] root := by
  have hrun := run_convert reg xml data s
  cases hread : readForConversion xml with
  | mk root? ws =>
    rw [hread] at hroot hrun
    obtain rfl : root? = some root := hroot
    rw [hrun] at h
    cases hv : ((visit reg data 0 (Item.root root)).run.run s).1 with
    | error f => simp [hv, Except.map] at h
    | ok d =>
      have hd : o.tree = d := by
        simp only [hv, Except.map, Except.ok.injEq] at h
        rw [← h]
      have hshape := erase_of_run_visit reg data 0 (Item.root root) s hv
      rw [hd]
      exact ⟨.of_erase (hshape ▸ spaced_shape reg _),
        by rw [← Descriptor.leafText_erase, hshape, leafText_shape]; rfl⟩

/-- A document whose root has a converter and holds an element without one and a comment:
their content is cut out, and the text around them kept in three leaves. -/
theorem convert_keeps_character_data_around_skipped :
    let reg : Registry (Conv Unit) := ⟨[(Text.ofString "a", fun _ _ => pure (.dict []))]⟩
    let xml : Value := .str (Text.ofString "<a>x<b>hidden</b>y<!--c-->z</a>")
    let root : Node := .element none "a" none [] []
      [.text "x", .element none "b" none [] [] [.text "hidden"], .text "y", .comment "c",
        .text "z"]
    let o : Outcome := ⟨.element .none [(.str (Text.ofString "key"), .int 0)]
      [.text (Text.ofString "x"), .skipped, .text (Text.ofString "y"), .skipped,
        .text (Text.ofString "z")], []⟩
    (readForConversion xml).1 = some root ∧ ((convert reg xml .none).run.run ()).1 = .ok o ∧
      o.tree.Spaced ∧ o.tree.leafText = keptText reg [] root := by
  intro reg xml root o
  have hread : readForConversion xml = (some root, []) := by cbv
  have hroot : (readForConversion xml).1 = some root := by rw [hread]
  have hrun : ((convert reg xml .none).run.run ()).1 = .ok o := by
    rw [run_convert, hread]
    cbv
  exact ⟨hroot, hrun, convert_keeps_character_data reg xml .none () hroot hrun⟩

end XmlView.Conversion
