import XmlView.Proofs.Configured

/-! What reading a configuration guarantees: every entry is of a kind reading accepts, every
mapping is sound, and a tag read twice keeps its first place and its last mapping. Two
checks are looser than their messages: falsy `props` and blank names in `attributes` lists. -/

namespace XmlView

namespace Dict

def Proper (d : Dict) : Prop := d.Pairwise fun a b => Value.same a.1 b.1 = false

variable {d : Dict}

theorem contains_eq_false {k : Value} :
    d.contains k = false ↔ ∀ a ∈ d, Value.same a.1 k = false := by
  simp [contains]

theorem proper_nil : Proper [] := List.Pairwise.nil

theorem Proper.put (h : d.Proper) (k v : Value) : (d.put k v).Proper := by
  cases hc : d.contains k
  · rw [put_of_not_contains hc]
    refine List.pairwise_append.mpr ⟨h, List.pairwise_singleton _ _, fun a ha b hb => ?_⟩
    rw [List.mem_singleton.mp hb]
    exact contains_eq_false.mp hc a ha
  · rw [put_of_contains hc]
    exact List.pairwise_map.mpr (h.imp fun hab => by simpa using hab)

theorem Proper.foldl_put (h : d.Proper) (es : Dict) :
    (es.foldl (fun acc e => acc.put e.1 e.2) d).Proper :=
  List.foldlRecOn es _ h fun _ hacc e _ => hacc.put e.1 e.2

end Dict

namespace Config

section Fields

def TypeAccepted : Option Value → Prop
  | some (.str t) => blank t = false
  | _ => False

/-- What reading accepts as the `props` of an entry: nothing, a mapping, or any other value
that counts as false, which is read as no props. -/
def PropsAccepted : Option Value → Prop
  | none => True
  | some (.dict _) => True
  | some v => v.truthy = false

/-- What reading accepts as the `attributes` of an entry: nothing, none, `all`, `none`, a list
of values that read as names, or a mapping from values that read as names to prop names that
are not blank. -/
def AttributesAccepted : Option Value → Prop
  | none | some .none => True
  | some (.str t) => t = Text.ofString "all" ∨ t = Text.ofString "none"
  | some (.list xs) => ∀ x ∈ xs, ∃ n, nameOf x = .ok n
  | some (.dict es) => ∀ e ∈ es, (∃ n, nameOf e.1 = .ok n) ∧ ∃ p, e.2 = .str p ∧ blank p = false
  | some _ => False

def KeyAccepted : Option Value → Prop
  | none | some .none => True
  | some (.str k) => blank k = false
  | some _ => False

/-- What reading accepts as an entry: a type name that is not blank, or a mapping of known
fields, each of a kind that reading accepts. -/
def EntryAccepted : Value → Prop
  | .str t => blank t = false
  | .dict es =>
    (∀ k ∈ Dict.keys es, knownFields.any fun n => Value.same k (.str (Text.ofString n))) ∧
      TypeAccepted (member es "type") ∧ PropsAccepted (member es "props") ∧
      AttributesAccepted (member es "attributes") ∧ KeyAccepted (member es "key")
  | _ => False

/-- A renaming rule names each attribute once, and either takes every name as its own prop
name (from a list) or gives each a prop name that is not blank (from a mapping). -/
def RuleSound : AttributeRule → Prop
  | .rename pairs => (pairs.map Prod.fst).Nodup ∧
      ((∀ p ∈ pairs, p.2 = p.1) ∨ ∀ p ∈ pairs, blank p.2 = false)
  | _ => True

/-- What reading guarantees of every mapping: tag, type and key attribute are not blank, the
props are a dictionary keyed by text, and the attribute rule is sound. -/
structure TagMapping.Sound (mp : TagMapping) : Prop where
  tag : blank mp.tag = false
  type : blank mp.type = false
  props : mp.props.TextKeyed ∧ mp.props.Proper
  attributes : RuleSound mp.attributes
  key : ∀ k, mp.key = some k → blank k = false

end Fields

section Loops

variable {α β ε : Type}

theorem foldlM_step_ok {f : β → α → Except ε β} :
    ∀ {l : List α} {b r : β}, l.foldlM f b = .ok r → ∀ a ∈ l, ∃ c c', f c a = .ok c'
  | [], _, _, _ => by simp
  | a :: l, b, r, h => by
    rw [List.foldlM_cons] at h
    obtain ⟨b', hb', hl⟩ := Conversion.except_bind_eq_ok.mp h
    intro x hx
    rcases List.mem_cons.mp hx with rfl | hx
    · exact ⟨b, b', hb'⟩
    · exact foldlM_step_ok hl x hx

theorem forIn_yield_inv {f : α → β → Except ε (ForInStep β)} (P : α → Prop) (Q : β → Prop)
    (hf : ∀ a b s, Q b → f a b = .ok s → P a ∧ ∃ b', s = .yield b' ∧ Q b') :
    ∀ {l : List α} {b r : β}, Q b → forIn l b f = .ok r → (∀ a ∈ l, P a) ∧ Q r
  | [], _, _, hb, h => by
    cases h
    exact ⟨by simp, hb⟩
  | a :: l, b, r, hb, h => by
    rw [List.forIn_cons] at h
    obtain ⟨s, hs, h⟩ := Conversion.except_bind_eq_ok.mp h
    obtain ⟨ha, b', rfl, hb'⟩ := hf a b s hb hs
    obtain ⟨hl, hr⟩ := forIn_yield_inv P Q hf hb' h
    exact ⟨fun x hx => (List.mem_cons.mp hx).elim (· ▸ ha) (hl x), hr⟩

end Loops

section Inversion

variable {tag field : String} {es : Dict}

theorem fail_ne_ok {α : Type} {message field : String} {a : α} : fail message field ≠ .ok a := by
  simp [fail]

theorem mem_putPair {ps : List (Text × Text)} {k v : Text} {p : Text × Text}
    (h : p ∈ putPair ps k v) : p ∈ ps ∨ p = (k, v) := by
  unfold putPair at h
  split at h
  · obtain ⟨e, he, rfl⟩ := List.mem_map.mp h
    split
    · exact .inr (by simp_all)
    · exact .inl he
  · simpa using h

theorem putPair_inv {Q : Text × Text → Prop} {ps : List (Text × Text)} {k v : Text}
    (h : (ps.map Prod.fst).Nodup ∧ ∀ p ∈ ps, Q p) (hkv : Q (k, v)) :
    ((putPair ps k v).map Prod.fst).Nodup ∧ ∀ p ∈ putPair ps k v, Q p := by
  refine ⟨?_, fun p hp => (mem_putPair hp).elim (h.2 p) (· ▸ hkv)⟩
  unfold putPair
  split
  · have hfst : (ps.map fun e => if e.1 == k then (k, v) else e).map Prod.fst =
        ps.map Prod.fst := by
      rw [List.map_map]
      refine List.map_congr_left fun e _ => ?_
      by_cases he : e.1 = k <;> simp [he]
    rw [hfst]
    exact h.1
  · rename_i hk
    rw [List.map_append, List.nodup_append]
    refine ⟨h.1, List.nodup_singleton _, fun a ha b hb => ?_⟩
    rw [List.mem_singleton.mp hb]
    rintro rfl
    obtain ⟨e, he, rfl⟩ := List.mem_map.mp ha
    exact hk (List.any_eq_true.mpr ⟨e, he, by simp⟩)

theorem entryFields_eq_ok {entry : Value} (h : entryFields tag field entry = .ok es) :
    (∃ t, entry = .str t ∧ es = [(.str (Text.ofString "type"), .str t)]) ∨ entry = .dict es := by
  unfold entryFields at h
  split at h
  · cases h
    exact .inl ⟨_, rfl, rfl⟩
  · cases h
    exact .inr rfl
  · exact absurd h fail_ne_ok

theorem checkFields_eq_ok (h : checkFields field es = .ok ()) :
    ∀ k ∈ Dict.keys es, knownFields.any fun n => Value.same k (.str (Text.ofString n)) := by
  unfold checkFields at h
  dsimp only at h
  split at h
  · obtain ⟨_, -, h⟩ := Conversion.except_bind_eq_ok.mp h
    exact absurd h fail_ne_ok
  · rename_i hempty
    have hknown : ∀ k ∈ Dict.keys es, ∃ n ∈ knownFields,
        Value.same k (.str (Text.ofString n)) = true := by
      simpa using hempty
    intro k hk
    simpa using hknown k hk

theorem entryType_eq_ok {t : Text} (h : entryType tag field es = .ok t) :
    member es "type" = some (.str t) ∧ blank t = false := by
  unfold entryType at h
  split at h
  · rename_i t' hm
    split at h
    · exact absurd h fail_ne_ok
    · rename_i hb
      cases h
      exact ⟨hm, by simpa using hb⟩
  · exact absurd h fail_ne_ok

theorem entryProps_eq_ok {ps : Dict} (h : entryProps tag field es = .ok ps) :
    PropsAccepted (member es "props") := by
  unfold entryProps at h
  cases hm : member es "props" with
  | none => trivial
  | some v =>
    rw [hm] at h
    dsimp only at h
    cases hv : v.truthy
    · -- props that count as false are no props, whatever they are
      cases v <;> trivial
    · simp only [hv, if_true] at h
      cases v with
      | dict _ => trivial
      | _ => exact absurd h fail_ne_ok

theorem entryKey_eq_ok {k : Option Text} (h : entryKey tag field es = .ok k) :
    KeyAccepted (member es "key") ∧ ∀ x, k = some x → blank x = false := by
  unfold entryKey at h
  split at h
  · rename_i hm
    cases h
    rw [hm]
    exact ⟨trivial, by simp⟩
  · rename_i hm
    cases h
    rw [hm]
    exact ⟨trivial, by simp⟩
  · rename_i x hm
    split at h
    · exact absurd h fail_ne_ok
    · rename_i hb
      cases h
      rw [hm]
      have hb : blank x = false := by simpa using hb
      exact ⟨hb, by simpa using hb⟩
  · exact absurd h fail_ne_ok

theorem parseAttributes_eq_ok {a : Value} {r : AttributeRule} (h : parseAttributes tag a = .ok r) :
    AttributesAccepted (some a) ∧ RuleSound r := by
  unfold parseAttributes at h
  split at h
  · cases h
    exact ⟨trivial, trivial⟩
  · rename_i t
    split at h
    · rename_i hall
      cases h
      exact ⟨.inl (by simpa using hall), trivial⟩
    · split at h
      · rename_i hnone
        cases h
        exact ⟨.inr (by simpa using hnone), trivial⟩
      · exact absurd h fail_ne_ok
  · -- a list: each name read becomes its own prop name
    rename_i names
    obtain ⟨pairs, hpairs, h⟩ := Conversion.except_bind_eq_ok.mp h
    cases h
    refine ⟨fun x hx => ?_, ?_⟩
    · obtain ⟨c, c', hc⟩ := foldlM_step_ok hpairs x hx
      obtain ⟨n, hn, -⟩ := Conversion.except_bind_eq_ok.mp hc
      exact ⟨n, hn⟩
    · have hinv := Conversion.foldlM_inv (fun ps => (ps.map Prod.fst).Nodup ∧ ∀ p ∈ ps, p.2 = p.1)
        ?_ ⟨List.nodup_nil, by simp⟩ hpairs
      · exact ⟨hinv.1, .inl hinv.2⟩
      · intro ps x ps' hps hstep
        obtain ⟨n, -, hstep⟩ := Conversion.except_bind_eq_ok.mp hstep
        cases hstep
        exact putPair_inv hps rfl
  · -- a mapping: each prop name is checked not to be blank
    rename_i es'
    obtain ⟨pairs, hpairs, h⟩ := Conversion.except_bind_eq_ok.mp h
    cases h
    have hloop := forIn_yield_inv
      (fun e : Value × Value => (∃ n, nameOf e.1 = .ok n) ∧ ∃ p, e.2 = .str p ∧ blank p = false)
      (fun ps => (ps.map Prod.fst).Nodup ∧ ∀ p ∈ ps, blank p.2 = false) ?_
      ⟨List.nodup_nil, by simp⟩ hpairs
    · exact ⟨hloop.1, hloop.2.1, .inr hloop.2.2⟩
    · intro e ps s hps hs
      dsimp only at hs
      split at hs
      · rename_i p hp
        split at hs
        · obtain ⟨_, -, hs⟩ := Conversion.except_bind_eq_ok.mp hs
          exact absurd hs fail_ne_ok
        · rename_i hb
          obtain ⟨n, hn, hs⟩ := Conversion.except_bind_eq_ok.mp hs
          cases hs
          have hb : blank p = false := by simpa using hb
          exact ⟨⟨⟨n, hn⟩, p, hp, hb⟩, _, rfl, putPair_inv hps hb⟩
      · obtain ⟨_, -, hs⟩ := Conversion.except_bind_eq_ok.mp hs
        obtain ⟨_, hs, -⟩ := Conversion.except_bind_eq_ok.mp hs
        exact absurd hs fail_ne_ok
  · exact absurd h fail_ne_ok

theorem proper_of_textProps {ps d : Dict} (h : textProps ps = .ok d) : d.Proper := by
  unfold textProps at h
  refine Conversion.foldlM_inv Dict.Proper ?_ Dict.proper_nil h
  intro acc e acc' hacc he
  obtain ⟨t, -, he⟩ := Conversion.except_bind_eq_ok.mp he
  cases he
  exact hacc.put _ _

theorem attributesAccepted_of_getD {a : Option Value} {r : AttributeRule}
    (h : parseAttributes tag (a.getD (.str (Text.ofString "all"))) = .ok r) :
    AttributesAccepted a := by
  cases a with
  | none => trivial
  | some a => exact (parseAttributes_eq_ok h).1

/-- A mapping that reads comes from an accepted entry, carries the tag it was read under, and
is sound. -/
theorem parseMapping_sound {t : Text} {entry : Value} {mp : TagMapping}
    (h : parseMapping t entry = .ok mp) : EntryAccepted entry ∧ mp.tag = t ∧ mp.Sound := by
  unfold parseMapping at h
  split at h
  · cases h
  · rename_i htag
    simp only [Conversion.except_bind_eq_ok] at h
    obtain ⟨es, hes, _, hcheck, type, htype, ps, hps, attrs, hattrs, key, hkey, props, hprops, h⟩ := h
    cases h
    obtain ⟨hmtype, htypeb⟩ := entryType_eq_ok htype
    refine ⟨?_, rfl, ⟨by simpa using htag, htypeb,
      ⟨textKeyed_of_textProps hprops, proper_of_textProps hprops⟩,
      (parseAttributes_eq_ok hattrs).2, (entryKey_eq_ok hkey).2⟩⟩
    rcases entryFields_eq_ok hes with ⟨t', rfl, rfl⟩ | rfl
    · -- a type name alone: it is the type read
      have ht' : t' = type := by simpa [member, Dict.get?] using hmtype
      rw [ht']
      exact htypeb
    · exact ⟨checkFields_eq_ok hcheck, by rw [hmtype]; exact htypeb, entryProps_eq_ok hps,
        attributesAccepted_of_getD hattrs, (entryKey_eq_ok hkey).1⟩

end Inversion

section Layout

def lastEntry (raw : Dict) (t : Text) : Option (Value × Value) :=
  raw.reverse.find? fun e => (nameOf e.1).toOption == some t

theorem tags_putMapping (c : Mappings) (mp : TagMapping) :
    (putMapping c mp).map (·.tag) =
      if mp.tag ∈ c.map (·.tag) then c.map (·.tag) else c.map (·.tag) ++ [mp.tag] := by
  unfold putMapping
  split
  · rename_i hany
    have hmem : mp.tag ∈ c.map (·.tag) := by
      obtain ⟨e, he, heq⟩ := List.any_eq_true.mp hany
      exact List.mem_map.mpr ⟨e, he, by simpa using heq⟩
    rw [if_pos hmem, List.map_map]
    refine List.map_congr_left fun e _ => ?_
    by_cases he : e.tag = mp.tag <;> simp [he]
  · rename_i hany
    have hmem : mp.tag ∉ c.map (·.tag) := by
      intro hm
      obtain ⟨e, he, heq⟩ := List.mem_map.mp hm
      exact hany (List.any_eq_true.mpr ⟨e, he, by simp [heq]⟩)
    rw [if_neg hmem, List.map_append]
    rfl

theorem mem_putMapping_cases {c : Mappings} {mp m : TagMapping} (h : m ∈ putMapping c mp) :
    m = mp ∨ (m ∈ c ∧ m.tag ≠ mp.tag) := by
  unfold putMapping at h
  split at h
  · obtain ⟨e, he, rfl⟩ := List.mem_map.mp h
    by_cases heq : e.tag = mp.tag
    · simp [heq]
    · simp [heq, he]
  · rename_i hany
    rcases List.mem_append.mp h with h | h
    · refine .inr ⟨h, fun heq => hany (List.any_eq_true.mpr ⟨m, h, by simp [heq]⟩)⟩
    · exact .inl (by simpa using h)

theorem eraseDups_append_singleton {l : List Text} {t : Text} :
    (l ++ [t]).eraseDups = if t ∈ l then l.eraseDups else l.eraseDups ++ [t] := by
  rw [List.eraseDups_append]
  by_cases ht : t ∈ l <;> simp [ht, List.removeAll, List.eraseDups_cons]

/-- Reading entries one after another: the tags of the mappings are those of the entries, each
where it first occurs, and the mapping of a tag is what its last entry reads as. -/
theorem layout_of_foldlM {raw : Dict} {C : Mappings} (h : raw.foldlM addEntry [] = .ok C) :
    (∃ tags, raw.mapM (fun e => nameOf e.1) = .ok tags ∧ C.map (·.tag) = tags.eraseDups) ∧
      ∀ mp ∈ C, ∃ e, lastEntry raw mp.tag = some e ∧ parseMapping mp.tag e.2 = .ok mp := by
  induction raw using List.reverseRecOn generalizing C with
  | nil =>
    cases h
    exact ⟨⟨[], rfl, rfl⟩, by simp⟩
  | append_singleton raw e ih =>
    rw [List.foldlM_append] at h
    obtain ⟨C', hC', h⟩ := Conversion.except_bind_eq_ok.mp h
    obtain ⟨C'', hC'', h⟩ := Conversion.except_bind_eq_ok.mp h
    cases h
    obtain ⟨t, mp, ht, hmp, rfl⟩ := addEntry_eq_ok hC''
    have htag : mp.tag = t := (parseMapping_sound hmp).2.1
    obtain ⟨⟨tags, htags, hC'tags⟩, hlast⟩ := ih hC'
    refine ⟨⟨tags ++ [t], by simp [List.mapM_append, htags, ht]; rfl, ?_⟩, fun m hm => ?_⟩
    · rw [tags_putMapping, eraseDups_append_singleton, hC'tags, htag]
      simp [List.mem_eraseDups]
    · -- the mapping just put comes from the last entry; any other, from an earlier one
      rcases mem_putMapping_cases hm with rfl | ⟨hm, hne⟩
      · refine ⟨e, ?_, by rw [htag]; exact hmp⟩
        simp [lastEntry, ht, htag, Except.toOption]
      · obtain ⟨e', he', hparse⟩ := hlast m hm
        refine ⟨e', ?_, hparse⟩
        have hskip : ((nameOf e.1).toOption == some m.tag) = false := by
          simp [ht, Except.toOption, Ne.symm (htag ▸ hne)]
        simpa [lastEntry, hskip] using he'

theorem nodup_tags_of_foldlM {raw : Dict} {C : Mappings} (h : raw.foldlM addEntry [] = .ok C) :
    (C.map (·.tag)).Nodup := by
  refine Conversion.foldlM_inv (fun c : Mappings => (c.map fun m : TagMapping => m.tag).Nodup) ?_ ?_ h
  · intro c e c' hc he
    obtain ⟨_, mp, -, -, rfl⟩ := addEntry_eq_ok he
    rw [tags_putMapping]
    split
    · exact hc
    · rename_i hnew
      refine List.nodup_append.mpr ⟨hc, List.nodup_singleton _, fun a ha b hb => ?_⟩
      rw [List.mem_singleton.mp hb]
      rintro rfl
      exact hnew ha
  · exact List.nodup_nil

end Layout

theorem parse_converters {v : Value} {C : Mappings} (h : parse v = .ok C) :
    ∃ top raw, v = .dict top ∧ member top "converters" = some (.dict raw) ∧ raw ≠ [] ∧
      raw.foldlM addEntry [] = .ok C := by
  unfold parse at h
  split at h
  case h_2 => cases h
  rename_i top
  simp only [pure_bind] at h
  split at h
  · cases h
  split at h
  · rename_i raw hraw
    split at h
    · cases h
    · rename_i hempty
      exact ⟨top, raw, rfl, hraw, by simpa using hempty, h⟩
  · cases h

theorem nodup_tags_of_parse {v : Value} {C : Mappings} (h : parse v = .ok C) :
    (C.map (·.tag)).Nodup := by
  obtain ⟨_, _, -, -, -, hfold⟩ := parse_converters h
  exact nodup_tags_of_foldlM hfold

theorem sound_of_parse {v : Value} {C : Mappings} (h : parse v = .ok C) : ∀ mp ∈ C, mp.Sound := by
  intro mp hmp
  obtain ⟨_, _, -, -, -, hfold⟩ := parse_converters h
  obtain ⟨e, -, hparse⟩ := (layout_of_foldlM hfold).2 mp hmp
  exact (parseMapping_sound hparse).2.2

/-- What reading the entries `raw` into the mappings `C` guarantees: every entry has a tag
that reads as text that is not blank and is of a kind reading accepts; every mapping is sound;
the tags of the mappings are those of the entries, each where it first occurs; and the mapping
of a tag is what its last entry reads as. -/
structure EntriesRead (raw : Dict) (C : Mappings) : Prop where
  accepted : ∀ e ∈ raw, (∃ t, nameOf e.1 = .ok t ∧ blank t = false) ∧ EntryAccepted e.2
  sound : ∀ mp ∈ C, mp.Sound
  first_place : ∃ tags, raw.mapM (fun e => nameOf e.1) = .ok tags ∧ C.map (·.tag) = tags.eraseDups
  last_entry : ∀ mp ∈ C, ∃ e, lastEntry raw mp.tag = some e ∧ parseMapping mp.tag e.2 = .ok mp

/-- A configuration that reads has the guarantees of reading its `converters`. -/
theorem parse_guarantees {v : Value} {C : Mappings} (h : parse v = .ok C) :
    ∃ top raw, v = .dict top ∧ member top "converters" = some (.dict raw) ∧ raw ≠ [] ∧
      EntriesRead raw C := by
  obtain ⟨top, raw, hv, hraw, hne, hfold⟩ := parse_converters h
  obtain ⟨hlayout, hlast⟩ := layout_of_foldlM hfold
  refine ⟨top, raw, hv, hraw, hne, ⟨fun e he => ?_, sound_of_parse h, hlayout, hlast⟩⟩
  obtain ⟨c, c', hstep⟩ := foldlM_step_ok hfold e he
  obtain ⟨t, mp, ht, hmp, -⟩ := addEntry_eq_ok hstep
  obtain ⟨hacc, rfl, hsound⟩ := parseMapping_sound hmp
  exact ⟨⟨mp.tag, ht, hsound.tag⟩, hacc⟩

/-- A configuration of a type name alone and of an entry with every field. -/
theorem parse_guarantees_of_two_entries :
    let top : Dict := [(.str (Text.ofString "converters"), .dict [
      (.str (Text.ofString "a"), .str (Text.ofString "A")),
      (.str (Text.ofString "p"), .dict [(.str (Text.ofString "type"), .str (Text.ofString "P")),
        (.str (Text.ofString "props"), .dict [(.str (Text.ofString "cls"), .str (Text.ofString "x"))]),
        (.str (Text.ofString "attributes"),
          .dict [(.str (Text.ofString "href"), .str (Text.ofString "to"))]),
        (.str (Text.ofString "key"), .str (Text.ofString "id"))])])]
    let C : Mappings := [{ tag := Text.ofString "a", type := Text.ofString "A", props := [] },
      { tag := Text.ofString "p", type := Text.ofString "P",
        props := [(.str (Text.ofString "cls"), .str (Text.ofString "x"))],
        attributes := .rename [(Text.ofString "href", Text.ofString "to")],
        key := some (Text.ofString "id") }]
    parse (.dict top) = .ok C ∧
      ∃ top' raw, Value.dict top = .dict top' ∧ member top' "converters" = some (.dict raw) ∧
        raw ≠ [] ∧ EntriesRead raw C := by
  intro top C
  have h : parse (.dict top) = .ok C := rfl
  exact ⟨h, parse_guarantees h⟩

/-- Reading takes a blank name in an `attributes` list as its own prop name, so the mapping it
gives renames an attribute to a blank prop name; the same blank prop name in an `attributes`
mapping is refused. -/
theorem parse_accepts_blank_list_name :
    parse (.dict [(.str (Text.ofString "converters"), .dict [(.str (Text.ofString "a"),
        .dict [(.str (Text.ofString "type"), .str (Text.ofString "A")),
          (.str (Text.ofString "attributes"), .list [.str Text.empty])])])]) =
      .ok [{ tag := Text.ofString "a", type := Text.ofString "A", props := [],
             attributes := .rename [(Text.empty, Text.empty)] }] ∧
    blank Text.empty = true ∧
    (parse (.dict [(.str (Text.ofString "converters"), .dict [(.str (Text.ofString "a"),
        .dict [(.str (Text.ofString "type"), .str (Text.ofString "A")),
          (.str (Text.ofString "attributes"),
            .dict [(.str Text.empty, .str Text.empty)])])])])).toOption = none :=
  ⟨rfl, rfl, rfl⟩

end Config

end XmlView
