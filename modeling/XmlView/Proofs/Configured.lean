import XmlView.Proofs.Pure
import XmlView.Config.Parse

/-! Converting with the converters of a configuration that reads: they make a registry and
always return mappings, so conversion never fails and each descriptor has its mapping's
type. -/

namespace XmlView

namespace Dict

def TextKeyed (d : Dict) : Prop := ∀ e ∈ d, ∃ t, e.1 = .str t

variable {d : Dict}

theorem key_mem_put {k v : Value} {e : Value × Value} (h : e ∈ d.put k v) :
    (∃ e' ∈ d, e.1 = e'.1) ∨ e.1 = k := by
  unfold put at h
  split at h
  · obtain ⟨e', he', rfl⟩ := List.mem_map.mp h
    exact .inl ⟨e', he', by split <;> rfl⟩
  · rcases List.mem_append.mp h with h | h
    · exact .inl ⟨e, h, rfl⟩
    · exact .inr (by rw [List.mem_singleton.mp h])

theorem textKeyed_nil : TextKeyed [] := fun _ h => nomatch h

theorem TextKeyed.put (hd : d.TextKeyed) (t : Text) (v : Value) :
    (d.put (.str t) v).TextKeyed := by
  intro e he
  rcases key_mem_put he with ⟨e', he', h⟩ | h
  · rw [h]
    exact hd e' he'
  · exact ⟨t, h⟩

theorem TextKeyed.erase (hd : d.TextKeyed) (k : Value) : (d.erase k).TextKeyed :=
  fun e he => hd e (List.mem_of_mem_filter he)

theorem TextKeyed.ofEntries {es : Dict} (hes : es.TextKeyed) : (ofEntries es).TextKeyed :=
  List.foldlRecOn es _ textKeyed_nil fun acc hacc e he => by
    obtain ⟨t, ht⟩ := hes e he
    rw [ht]
    exact hacc.put t e.2

end Dict

theorem Conversion.textKeyed_keyFirst {ps : Dict} (h : ps.TextKeyed) (k : Nat) :
    (Conversion.keyFirst k ps).TextKeyed := by
  intro e he
  rcases List.mem_cons.mp he with rfl | he
  · exact ⟨_, rfl⟩
  · exact h.erase Conversion.keyName e he

namespace Config
open Conversion

section Reading

variable {v : Value} {C : Mappings}

theorem parse_eq_ok (h : parse v = .ok C) :
    ∃ raw : Dict, raw ≠ [] ∧ raw.foldlM addEntry [] = .ok C := by
  unfold parse at h
  split at h
  case h_2 => cases h
  simp only [pure_bind] at h
  split at h
  · cases h
  split at h
  · rename_i raw _
    split at h
    · cases h
    · rename_i hempty
      exact ⟨raw, by simpa using hempty, h⟩
  · cases h

theorem addEntry_eq_ok {c c' : Mappings} {entry : Value × Value} (h : addEntry c entry = .ok c') :
    ∃ t mp, nameOf entry.1 = .ok t ∧ parseMapping t entry.2 = .ok mp ∧ c' = putMapping c mp := by
  unfold addEntry at h
  simp only [except_bind_eq_ok] at h
  obtain ⟨t, ht, mp, hmp, h⟩ := h
  cases h
  exact ⟨t, mp, ht, hmp, rfl⟩

theorem parseMapping_eq_ok {t : Text} {entry : Value} {mp : TagMapping}
    (h : parseMapping t entry = .ok mp) : ∃ ps, textProps ps = .ok mp.props := by
  unfold parseMapping at h
  split at h
  · cases h
  · simp only [except_bind_eq_ok] at h
    obtain ⟨es, -, _, -, type, -, ps, -, attrs, -, key, -, props, hprops, h⟩ := h
    cases h
    exact ⟨ps, hprops⟩

theorem textKeyed_of_textProps {ps d : Dict} (h : textProps ps = .ok d) : d.TextKeyed := by
  unfold textProps at h
  refine foldlM_inv Dict.TextKeyed ?_ Dict.textKeyed_nil h
  intro acc e acc' hacc he
  obtain ⟨k, v⟩ := e
  obtain ⟨t, -, he⟩ := except_bind_eq_ok.mp he
  cases he
  exact hacc.put t v

theorem mem_putMapping {c : Mappings} {mp mp' : TagMapping} (h : mp' ∈ putMapping c mp) :
    mp' ∈ c ∨ mp' = mp := by
  unfold putMapping at h
  split at h
  · obtain ⟨e, he, rfl⟩ := List.mem_map.mp h
    split
    · exact .inr rfl
    · exact .inl he
  · simpa using h

theorem putMapping_ne_nil (c : Mappings) (mp : TagMapping) : putMapping c mp ≠ [] := by
  unfold putMapping
  split
  · rename_i hany
    obtain ⟨e, he, -⟩ := List.any_eq_true.mp hany
    exact List.map_eq_nil_iff.not.mpr (List.ne_nil_of_mem he)
  · simp

theorem parse_ne_nil (h : parse v = .ok C) : C ≠ [] := by
  obtain ⟨raw, hraw, hfold⟩ := parse_eq_ok h
  obtain ⟨e, rest, rfl⟩ := List.exists_cons_of_ne_nil hraw
  rw [List.foldlM_cons] at hfold
  obtain ⟨c, hc, hrest⟩ := except_bind_eq_ok.mp hfold
  -- every configuration an entry is read into is non-empty
  refine foldlM_inv (· ≠ []) (fun _ e c' _ he => ?_) ?_ hrest
  · obtain ⟨_, mp, -, -, rfl⟩ := addEntry_eq_ok he
    exact putMapping_ne_nil _ mp
  · obtain ⟨_, mp, -, -, rfl⟩ := addEntry_eq_ok hc
    exact putMapping_ne_nil _ mp

theorem textKeyed_of_parse (h : parse v = .ok C) : ∀ mp ∈ C, mp.props.TextKeyed := by
  obtain ⟨raw, -, hfold⟩ := parse_eq_ok h
  refine foldlM_inv (fun c : Mappings => ∀ mp ∈ c, mp.props.TextKeyed) ?_ (by simp) hfold
  intro c e c' hc he mp' hmp'
  obtain ⟨_, mp, -, hmp, rfl⟩ := addEntry_eq_ok he
  rcases mem_putMapping hmp' with hmp' | rfl
  · exact hc mp' hmp'
  · obtain ⟨ps, hps⟩ := parseMapping_eq_ok hmp
    exact textKeyed_of_textProps hps

end Reading

section Converters

def registryOf (C : Mappings) : Registry (Except Fault) := ⟨C.map fun mp => (mp.tag, mp.converter)⟩

theorem converters?_offer (C : Mappings) :
    Registry.converters? (C.map fun mp => (mp.tag, Slot.converter (m := Except Fault) mp.converter)) =
      some (C.map fun mp => (mp.tag, mp.converter)) := by
  induction C with
  | nil => rfl
  | cons mp C ih => simp [Registry.converters?, ih]

theorem make_offer {C : Mappings} (h : C ≠ []) :
    Registry.make (offer C : Offer (Except Fault)) = .ok (registryOf C) := by
  obtain ⟨mp, C', rfl⟩ := List.exists_cons_of_ne_nil h
  have hslots := converters?_offer (mp :: C')
  simp only [Registry.make, Registry.ofOffer, offer, List.map_cons] at hslots ⊢
  rw [hslots]
  rfl

theorem tags_registryOf (C : Mappings) : (registryOf C).tags = C.map (·.tag) := by
  simp [Registry.tags, registryOf]

theorem find?_registryOf (C : Mappings) (tag : String) :
    (registryOf C).find? tag =
      (C.find? fun mp => mp.tag == Text.ofString tag).map TagMapping.converter := by
  simp [Registry.find?, registryOf, List.find?_map, Function.comp_def]

def attributeDict (attrs : List (String × String)) : Dict :=
  attrs.map fun (k, v) => (textKey (Text.ofString k), textKey (Text.ofString v))

theorem textKeyed_attributeDict (attrs : List (String × String)) :
    (attributeDict attrs).TextKeyed := by
  intro e he
  obtain ⟨⟨k, v⟩, -, rfl⟩ := List.mem_map.mp he
  exact ⟨_, rfl⟩

theorem textKeyed_ruleProps {mp : TagMapping} {attrs : Dict} (hp : mp.props.TextKeyed)
    (ha : attrs.TextKeyed) : (mp.ruleProps attrs).TextKeyed := by
  unfold TagMapping.ruleProps
  split
  · exact List.foldlRecOn attrs _ hp fun acc hacc e he => by
      obtain ⟨t, ht⟩ := ha e he
      obtain ⟨k, v⟩ := e
      cases ht
      exact hacc.put t v
  · exact hp
  · exact List.foldlRecOn _ _ hp fun acc hacc e _ => by
      obtain ⟨name, prop⟩ := e
      dsimp only
      split
      · exact hacc.put prop _
      · exact hacc

theorem textKeyed_keyedProps (mp : TagMapping) (attrs : Dict) {ps : Dict} (h : ps.TextKeyed) :
    (mp.keyedProps attrs ps).TextKeyed := by
  unfold TagMapping.keyedProps
  split
  · split
    · exact h
    · split
      · exact h.put _ _
      · exact h
  · exact h

theorem resultHead_typed (k : Nat) (type : Text) (ps : Dict) :
    resultHead k (.dict [(textKey (Text.ofString "type"), .str type),
      (textKey (Text.ofString "props"), .dict ps)]) =
      .ok (.str type, keyFirst k (Dict.ofEntries ps)) := by
  have hread : resultHead k (.dict [(textKey (Text.ofString "type"), .str type),
      (textKey (Text.ofString "props"), .dict ps)]) =
      elementProps k (.dict ps) >>= fun props => pure (.str type, props) := rfl
  rw [hread, elementProps_of_mapping (.inr ⟨ps, rfl⟩)]
  rfl

theorem maps_registryOf (C : Mappings) : (registryOf C).Maps := by
  intro tag f hf attrs _
  obtain ⟨mp, -, rfl⟩ := Option.map_eq_some_iff.mp ((find?_registryOf C tag).symm.trans hf)
  exact ⟨_, rfl, ⟨_, rfl⟩, .inr ⟨_, rfl⟩⟩

theorem describe_converter {mp : TagMapping} (hp : mp.props.TextKeyed)
    (attrs : List (String × String)) (data : Value) (k : Nat) :
    ∃ props : Dict, describe (mp.converter : Converter (Except Fault)) attrs data k =
      .ok (.str mp.type, props) ∧ props.TextKeyed := by
  have hkeyed := textKeyed_keyedProps mp (attributeDict attrs)
    (textKeyed_ruleProps hp (textKeyed_attributeDict attrs))
  refine ⟨_, ?_, textKeyed_keyFirst hkeyed.ofEntries k⟩
  rw [describe_eq_bind]
  exact resultHead_typed k mp.type _

end Converters

/-- What a configuration says of the descriptor of an element named `tag`: it has the type of
the configuration's mapping for that name, and props named by text. -/
def Describes (C : Mappings) (tag : String) (head : Value × Dict) : Prop :=
  (∃ mp, C.find? (fun mp => mp.tag == Text.ofString tag) = some mp ∧ head.1 = .str mp.type) ∧
    head.2.TextKeyed

/-- The converters of a configuration that reads make a registry, under the configuration's
tags in order; converting any value with any data then never fails, and each element
descriptor of the tree, in document order, has the type of the mapping for the name of the
element it comes from and props named by text. -/
theorem convert_with_configuration {v : Value} {C : Mappings} (h : parse v = .ok C) :
    ∃ reg, Registry.make (offer C : Offer (Except Fault)) = .ok reg ∧ reg.tags = C.map (·.tag) ∧
      ∀ xml data, ∃ o, convert reg xml data = .ok o ∧
        ∀ root, (readForConversion xml).1 = some root →
          List.Forall₂ (fun r head => Describes C r.tag head) (reached reg 0 (Item.root root))
            o.tree.heads := by
  have hkeyed := textKeyed_of_parse h
  refine ⟨registryOf C, make_offer (parse_ne_nil h), tags_registryOf C, fun xml data => ?_⟩
  obtain ⟨o, ho⟩ := convert_ok (maps_registryOf C) data xml
  refine ⟨o, ho, fun root hroot => ?_⟩
  rw [convert_eq] at ho
  cases hread : readForConversion xml with
  | mk root? ws =>
    rw [hread] at ho hroot
    cases hroot
    dsimp only at ho
    cases hd : visit (registryOf C) data 0 (Item.root root) with
    | error f => rw [hd] at ho; cases ho
    | ok d =>
      rw [hd] at ho
      cases ho
      -- the element descriptors are what the steps of the reached elements gave
      have hsteps := forall₂_of_mapM_eq_ok (heads_of_visit _ data 0 _ hd).1
      refine ((List.forall₂_and_left _ _).mpr
        ⟨fun r hr => find?_of_mem_reached 0 (Item.root root) hr, hsteps⟩).imp ?_
      rintro r head ⟨hfind, hdesc⟩
      obtain ⟨mp, hmp, hconv⟩ := Option.map_eq_some_iff.mp ((find?_registryOf C r.tag).symm.trans hfind)
      obtain ⟨props, hprops, hkp⟩ := describe_converter (hkeyed mp (List.mem_of_find?_eq_some hmp))
        r.element.attributes data r.slot
      rw [Reached.describe, ← hconv, hprops] at hdesc
      cases hdesc
      exact ⟨⟨mp, hmp, rfl⟩, hkp⟩

/-- A configuration of one entry, a tag with its type alone. -/
theorem convert_with_configuration_of_one_entry :
    let v : Value := .dict [(.str (Text.ofString "converters"),
      .dict [(.str (Text.ofString "p"), .str (Text.ofString "Paragraph"))])]
    let C : Mappings := [{ tag := Text.ofString "p", type := Text.ofString "Paragraph", props := [] }]
    parse v = .ok C ∧
      ∃ reg, Registry.make (offer C : Offer (Except Fault)) = .ok reg ∧ reg.tags = C.map (·.tag) ∧
        ∀ xml data, ∃ o, convert reg xml data = .ok o ∧
          ∀ root, (readForConversion xml).1 = some root →
            List.Forall₂ (fun r head => Describes C r.tag head) (reached reg 0 (Item.root root))
              o.tree.heads := by
  intro v C
  have h : parse v = .ok C := rfl
  exact ⟨h, convert_with_configuration h⟩

end Config

end XmlView
