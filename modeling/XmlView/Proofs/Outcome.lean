import XmlView.Proofs.Placement

/-! What a conversion gives as a whole, with converters that never raise and return
mappings: never a failure, and a skipped node, a warning or the root's tree according to
what reading the value gives. -/

namespace XmlView.Conversion
open Markup

section Reading

/-- A text that does not read as a document: it cannot be written as UTF-8, or the reader
reports a diagnostic of any level, or finds no root element. -/
def Rejected (t : Text) : Prop :=
  (∃ f, t.encode = .error f) ∨
    ∃ b, t.encode = .ok b ∧ ((readChars b.toList).1 ≠ #[] ∨ (readChars b.toList).2 = none)

/-- A text written as UTF-8 and read with no diagnostic at all, `root` its root element. -/
def ReadsCleanly (t : Text) (root : Node) : Prop :=
  ∃ b, t.encode = .ok b ∧ readChars b.toList = (#[], some root)

theorem parseDocument_eq_ok_iff {t : Text} {root : Node} :
    parseDocument t = .ok root ↔ ReadsCleanly t root := by
  unfold parseDocument ReadsCleanly
  cases he : t.encode with
  | error f => simp
  | ok b =>
    rcases hr : readChars b.toList with ⟨diags, _ | r⟩ <;> by_cases hd : diags = #[] <;>
      simp [hr, hd]

theorem parseDocument_eq_error_iff {t : Text} :
    (∃ e, parseDocument t = .error e) ↔ Rejected t := by
  unfold parseDocument Rejected
  cases he : t.encode with
  | error f => simp
  | ok b =>
    rcases hr : readChars b.toList with ⟨diags, _ | r⟩ <;> by_cases hd : diags = #[] <;>
      simp [hr, hd]

theorem readForConversion_of_rejected {t : Text} (h : Rejected t) :
    readForConversion (.str t) = (none, [invalidXmlWarning]) := by
  obtain ⟨e, he⟩ := parseDocument_eq_error_iff.mpr h
  simp [readForConversion, he]

theorem readForConversion_of_readsCleanly {t : Text} {root : Node} (h : ReadsCleanly t root) :
    readForConversion (.str t) = (some root, []) := by
  simp [readForConversion, parseDocument_eq_ok_iff.mpr h]

theorem readForConversion_of_not_str {xml : Value} (h : ∀ t, xml ≠ .str t) :
    readForConversion xml = (none, []) := by
  cases xml with
  | str t => exact absurd rfl (h t)
  | _ => rfl

end Reading

namespace Descriptor

theorem erase_eq_skipped_iff {d : Descriptor} : d.erase = .skipped ↔ d = .skipped := by
  cases d <;> simp [erase]

theorem exists_element_of_erase {d : Descriptor} {type : Value} {props : Dict}
    {cs : List Descriptor} (h : d.erase = .element type props cs) :
    ∃ type props cs, d = .element type props cs := by
  cases d with
  | element type props cs => exact ⟨type, props, cs, rfl⟩
  | text _ | skipped => simp [erase] at h

end Descriptor

variable {m : Type → Type}

theorem shape_node_of_none {reg : Registry m} {n : Node} {outer : Scope}
    (h : (Item.node n outer).tag?.bind reg.find? = none) : (Item.node n outer).shape reg = .skipped := by
  rw [Item.shape, h]

theorem shape_node_of_some {reg : Registry m} {n : Node} {outer : Scope} {f : Converter m}
    (h : (Item.node n outer).tag?.bind reg.find? = some f) :
    ∃ cs, (Item.node n outer).shape reg = .element .none [] cs := by
  rw [Item.shape, h]
  exact ⟨_, rfl⟩

/-- What a conversion of `xml` gives when nothing fails: a value that is not text gives a
skipped node and no warning, text that does not read gives a skipped node and the one
warning, and a document gives no warning and the tree of its root, a skipped node when the
root's name has no converter and an element otherwise. -/
structure Outcome.Expected (reg : Registry m) (xml : Value) (o : Outcome) : Prop where
  not_text : (∀ t, xml ≠ .str t) → o = ⟨.skipped, []⟩
  rejected : ∀ t, xml = .str t → Rejected t → o = ⟨.skipped, [invalidXmlWarning]⟩
  silent : ∀ t root, xml = .str t → ReadsCleanly t root → o.warnings = []
  unconverted : ∀ t root, xml = .str t → ReadsCleanly t root →
    (Item.root root).tag?.bind reg.find? = none → o.tree = .skipped
  converted : ∀ t root f, xml = .str t → ReadsCleanly t root →
    (Item.root root).tag?.bind reg.find? = some f → ∃ type props cs, o.tree = .element type props cs

/-- The outcome expected of `xml` is settled by what reading it gives: a skipped node with
the reading's warnings when no root was read, and otherwise the reading's warnings with a
tree that is skipped exactly when the root's name has no converter. -/
theorem Outcome.expected_of_reading {reg : Registry m} {xml : Value} {o : Outcome}
    (hnone : (readForConversion xml).1 = none → o = ⟨.skipped, (readForConversion xml).2⟩)
    (hsome : ∀ root, (readForConversion xml).1 = some root →
      o.warnings = (readForConversion xml).2 ∧
        ((Item.root root).tag?.bind reg.find? = none → o.tree = .skipped) ∧
        ∀ f, (Item.root root).tag?.bind reg.find? = some f →
          ∃ type props cs, o.tree = .element type props cs) :
    o.Expected reg xml where
  not_text hnot := by
    simpa [readForConversion_of_not_str hnot] using hnone
  rejected t ht hrej := by
    subst ht
    simpa [readForConversion_of_rejected hrej] using hnone
  silent t root ht hclean := by
    subst ht
    simpa [readForConversion_of_readsCleanly hclean] using (hsome root (by
      simp [readForConversion_of_readsCleanly hclean])).1
  unconverted t root ht hclean := by
    subst ht
    exact (hsome root (by simp [readForConversion_of_readsCleanly hclean])).2.1
  converted t root f ht hclean := by
    subst ht
    exact (hsome root (by simp [readForConversion_of_readsCleanly hclean])).2.2 f

section Total

variable {σ : Type} (reg : Registry (Conv σ)) (data : Value)

/-- Every converter of the registry returns, from any world. -/
def Registry.NeverRaises : Prop :=
  ∀ tag f, reg.find? tag = some f → ∀ attrs data s, ∃ v, ((f attrs data).run.run s).1 = .ok v

theorem run_describe_of_mapped {f : Converter (Conv σ)} {attrs : List (String × String)}
    {k : Nat} {s : σ} {v : Value} (hv : ((f attrs data).run.run s).1 = .ok v) (hm : Mapped v) :
    ∃ type, (describe f attrs data k).run.run s =
      (.ok (type, keyFirst k (propsOf v)), ((f attrs data).run.run s).2) := by
  obtain ⟨type, ht⟩ := resultHead_of_mapped (k := k) hm
  refine ⟨type, ?_⟩
  rw [describe_conv, Conv.run_bind]
  cases h : (f attrs data).run.run s with
  | mk r s' =>
    rw [h] at hv
    cases hv
    dsimp only
    rw [Conv.run_liftFault, ht]

theorem run_steps_ok (hraise : reg.NeverRaises) (hmap : reg.ReturnsMappings) :
    ∀ (rs : List (Reached (Conv σ))), (∀ r ∈ rs, reg.find? r.tag = some r.convert) →
      ∀ s : σ, ∃ hs, ((rs.mapM (Reached.describe data)).run.run s).1 = .ok hs
  | [], _, _ => ⟨[], rfl⟩
  | r :: rs, hrs, s => by
    have hr := hrs r List.mem_cons_self
    obtain ⟨v, hv⟩ := hraise r.tag r.convert hr r.element.attributes data s
    obtain ⟨type, hstep⟩ :=
      run_describe_of_mapped data (k := r.slot) hv (hmap r.tag r.convert hr _ _ s v hv)
    obtain ⟨hs, hrest⟩ := run_steps_ok hraise hmap rs
      (fun r' h => hrs r' (List.mem_cons_of_mem _ h)) ((r.convert r.element.attributes data).run.run s).2
    refine ⟨(type, keyFirst r.slot (propsOf v)) :: hs, ?_⟩
    rw [Conv.run_mapM_cons, Reached.describe, hstep]
    dsimp only
    rw [hrest]
    rfl

/-- A conversion of any item with converters that never raise and return mappings never
fails. -/
theorem run_visit_ok (hraise : reg.NeverRaises) (hmap : reg.ReturnsMappings) (k : Nat)
    (item : Item) (s : σ) : ∃ d, ((visit reg data k item).run.run s).1 = .ok d := by
  obtain ⟨hs, hhs⟩ := run_steps_ok reg data hraise hmap (reached reg k item)
    (fun _ hr => find?_of_mem_reached k item hr) s
  have hheads := run_visit_heads reg data k item s
  rw [steps, hhs] at hheads
  cases hv : ((visit reg data k item).run.run s).1 with
  | ok d => exact ⟨d, rfl⟩
  | error f =>
    rw [hv] at hheads
    cases hheads

/-- With converters that never raise and return mappings, a conversion never fails, and
gives the outcome expected of what `xml` is: nothing and no warning for a value that is not
text, nothing and the one warning for text that does not read as a document, and otherwise
no warning and the tree of the root, nothing exactly when the root's name has no
converter. -/
theorem convert_gives_expected_outcome (hraise : reg.NeverRaises) (hmap : reg.ReturnsMappings)
    (xml : Value) (s : σ) :
    ∃ o, ((convert reg xml data).run.run s).1 = .ok o ∧ o.Expected reg xml := by
  have hrun := run_convert reg xml data s
  cases hread : readForConversion xml with
  | mk root? ws =>
    rw [hread] at hrun
    cases root? with
    | none =>
      refine ⟨⟨.skipped, ws⟩, by rw [hrun], Outcome.expected_of_reading (by simp [hread]) ?_⟩
      intro root h
      simp [hread] at h
    | some root =>
      obtain ⟨d, hd⟩ := run_visit_ok reg data hraise hmap 0 (Item.root root) s
      have hshape := erase_of_run_visit reg data 0 (Item.root root) s hd
      refine ⟨⟨d, ws⟩, by simp only [hrun, hd, Except.map],
        Outcome.expected_of_reading (by simp [hread]) ?_⟩
      intro root' h
      simp only [hread, Option.some.injEq] at h
      subst h
      -- the tree is the root's, whose shape says whether it has a converter
      refine ⟨by simp [hread], fun hnone => ?_, fun f hsome => ?_⟩
      · exact Descriptor.erase_eq_skipped_iff.mp (hshape.trans (shape_node_of_none hnone))
      · obtain ⟨cs, hcs⟩ := shape_node_of_some hsome
        exact Descriptor.exists_element_of_erase (hshape.trans hcs)

/-- A registry whose one converter returns an empty mapping, on a document whose root has
it and whose child has none. -/
theorem convert_gives_expected_outcome_with_empty_mapping :
    let reg : Registry (Conv Unit) := ⟨[(Text.ofString "a", fun _ _ => pure (.dict []))]⟩
    let xml : Value := .str (Text.ofString "<a><b/></a>")
    reg.NeverRaises ∧ reg.ReturnsMappings ∧
      ∃ o, ((convert reg xml .none).run.run ()).1 = .ok o ∧ o.Expected reg xml := by
  intro reg xml
  have hraise : reg.NeverRaises := by
    intro tag f hf _ _ _
    obtain ⟨e, he, rfl⟩ := Registry.mem_entries_of_find? hf
    simp only [reg, List.mem_singleton] at he
    subst he
    exact ⟨_, rfl⟩
  have hmap : reg.ReturnsMappings := by
    intro tag f hf _ _ _ v hv
    obtain ⟨e, he, rfl⟩ := Registry.mem_entries_of_find? hf
    simp only [reg, List.mem_singleton] at he
    subst he
    cases hv
    exact ⟨⟨[], rfl⟩, .inl rfl⟩
  exact ⟨hraise, hmap, convert_gives_expected_outcome reg .none hraise hmap xml ()⟩

end Total

end XmlView.Conversion
