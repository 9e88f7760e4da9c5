import XmlView.Proofs.ConfigReading

/-! The props a mapping gives an element, read as an ordered mapping: `key` first, holding
by precedence the key attribute, the rule's last write, the mapping's own value or the
position; then the mapping's props with the rule's writes over them. -/

namespace XmlView

namespace Dict

variable {d : Dict}

theorem foldl_put_of_proper : ∀ {es acc : Dict}, (acc ++ es).Proper →
    es.foldl (fun acc e => acc.put e.1 e.2) acc = acc ++ es
  | [], acc, _ => by simp
  | e :: es, acc, h => by
    have hnew : acc.contains e.1 = false := contains_eq_false.mpr fun a ha =>
      (List.pairwise_append.mp h).2.2 a ha e List.mem_cons_self
    rw [List.foldl_cons, put_of_not_contains hnew, foldl_put_of_proper (by simpa using h)]
    simp

theorem ofEntries_of_proper (h : d.Proper) : ofEntries d = d :=
  foldl_put_of_proper (by simpa using h)

theorem ofEntries_append (h : d.Proper) (es : Dict) :
    ofEntries (d ++ es) = es.foldl (fun acc e => acc.put e.1 e.2) d := by
  have hd := ofEntries_of_proper h
  unfold ofEntries at hd ⊢
  rw [List.foldl_append, hd]

theorem get?_put_str (k v : Value) (t : Text) :
    (d.put k v).get? (.str t) = ((Dict.put [] k v).get? (.str t)).or (d.get? (.str t)) := by
  by_cases hk : k = .str t
  · subst hk
    rw [get?_put_str_self, get?_put_str_self]
    rfl
  · rw [get?_put_of_ne hk, get?_put_of_ne hk]
    rfl

theorem get?_foldl_put (t : Text) (es : Dict) : ∀ d : Dict,
    (es.foldl (fun acc e => acc.put e.1 e.2) d).get? (.str t) =
      ((ofEntries es).get? (.str t)).or (d.get? (.str t)) := by
  induction es with
  | nil => intro d; rfl
  | cons e es ih =>
    intro d
    have hfirst : ofEntries (e :: es) =
        es.foldl (fun acc e => acc.put e.1 e.2) (Dict.put [] e.1 e.2) := rfl
    rw [List.foldl_cons, ih, hfirst, ih, get?_put_str (d := d), Option.or_assoc]

end Dict

namespace Config
open Conversion

theorem isEmpty_eq_false_of_blank {k : Text} (h : blank k = false) : k.isEmpty = false := by
  obtain ⟨ps⟩ := k
  cases ps with
  | nil => exact absurd h (by decide)
  | cons p ps => rfl

namespace TagMapping

variable (mp : TagMapping) (A : Dict)

def selected : Dict :=
  match mp.attributes with
  | .keepAll => A
  | .dropAll => []
  | .rename pairs => pairs.filterMap fun p => (A.get? (textKey p.1)).map ((textKey p.2, ·))

def keyAttribute? : Option Value := mp.key.bind fun k => A.get? (textKey k)

/-- The props of the descriptor of an element at position `i` under the mapping: `key` first,
holding the key attribute's value, else the value the rule last writes under `key`, else the
mapping's own, else the position; then the mapping's props with the rule's writes over them,
each where it was first written. -/
def expectedProps (i : Nat) : Dict :=
  (keyName, (((mp.keyAttribute? A).or ((Dict.ofEntries (mp.selected A)).get? keyName)).or
      (mp.props.get? keyName)).getD (.int i)) ::
    (Dict.ofEntries (mp.props ++ mp.selected A)).erase keyName

theorem ruleProps_eq : mp.ruleProps A = (mp.selected A).foldl (fun acc e => acc.put e.1 e.2) mp.props := by
  obtain ⟨tag, type, props, attributes, key⟩ := mp
  unfold ruleProps selected
  cases attributes with
  | keepAll => rfl
  | dropAll => rfl
  | rename pairs =>
    dsimp only
    rw [List.foldl_filterMap]
    congr 1
    funext acc p
    cases A.get? (textKey p.1) <;> rfl

variable {mp A}

theorem keyedProps_of_some {v : Value} (hk : ∀ k, mp.key = some k → blank k = false)
    (h : mp.keyAttribute? A = some v) (ps : Dict) : mp.keyedProps A ps = ps.put keyName v := by
  unfold keyAttribute? at h
  unfold keyedProps
  obtain ⟨k, hkey, hv⟩ := Option.bind_eq_some_iff.mp h
  rw [hkey]
  simp only [isEmpty_eq_false_of_blank (hk k hkey), Bool.false_eq_true, if_false, hv]
  rfl

theorem keyedProps_of_none (h : mp.keyAttribute? A = none) (ps : Dict) :
    mp.keyedProps A ps = ps := by
  unfold keyAttribute? at h
  unfold keyedProps
  cases hkey : mp.key with
  | none => rfl
  | some k =>
    rw [hkey] at h
    simp only [Option.bind_some] at h
    simp only [h]
    split <;> rfl

theorem keyFirst_keyedProps (hs : mp.Sound) (i : Nat) :
    keyFirst i (Dict.ofEntries (mp.keyedProps A (mp.ruleProps A))) = mp.expectedProps A i := by
  have hproper : (mp.ruleProps A).Proper := by
    rw [ruleProps_eq]
    exact hs.props.2.foldl_put _
  have hrule : mp.ruleProps A = Dict.ofEntries (mp.props ++ mp.selected A) := by
    rw [ruleProps_eq, Dict.ofEntries_append hs.props.2]
  cases hkey : mp.keyAttribute? A with
  | some v =>
    -- the key attribute's value is written last, under `key`
    rw [keyedProps_of_some hs.key hkey, Dict.ofEntries_of_proper (hproper.put _ _), keyFirst,
      expectedProps, hkey, keyName, Dict.get?_put_str_self, Dict.erase_put_str_self, hrule]
    rfl
  | none =>
    -- the value under `key` is the rule's last write, else the mapping's own
    rw [keyedProps_of_none hkey, Dict.ofEntries_of_proper hproper, keyFirst, expectedProps, hkey]
    have hget : (mp.ruleProps A).get? keyName =
        ((Dict.ofEntries (mp.selected A)).get? keyName).or (mp.props.get? keyName) := by
      rw [ruleProps_eq]
      exact Dict.get?_foldl_put _ _ _
    rw [hget, hrule]
    rfl

end TagMapping

theorem describe_sound_converter {mp : TagMapping} (hs : mp.Sound)
    (attrs : List (String × String)) (data : Value) (i : Nat) :
    describe (mp.converter : Converter (Except Fault)) attrs data i =
      .ok (.str mp.type, mp.expectedProps (attributeDict attrs) i) := by
  rw [describe_eq_bind, ← mp.keyFirst_keyedProps hs]
  exact resultHead_typed i mp.type _

/-- In a conversion with the converters of a configuration, the head of each element
descriptor is what the converter of the configuration's first mapping for the element's name
gives the element. -/
theorem heads_with_configuration (C : Mappings) (xml data : Value) :
    ∃ o, convert (registryOf C) xml data = .ok o ∧
      ∀ root, (readForConversion xml).1 = some root →
        List.Forall₂ (fun r head => ∃ mp, C.find? (fun mp => mp.tag == Text.ofString r.tag) = some mp ∧
            describe (mp.converter : Converter (Except Fault)) r.element.attributes data r.slot =
              .ok head)
          (reached (registryOf C) 0 (Item.root root)) o.tree.heads := by
  obtain ⟨o, ho⟩ := convert_ok (maps_registryOf C) data xml
  refine ⟨o, ho, fun root hroot => ?_⟩
  rw [convert_eq] at ho
  cases hread : readForConversion xml with
  | mk root? ws =>
    rw [hread] at ho hroot
    cases hroot
    dsimp only at ho
    cases hd : visit (registryOf C) data 0 (Item.root root) with
    | error f => rw [hd] at ho; cases ho
    | ok d =>
      rw [hd] at ho
      cases ho
      have hsteps := forall₂_of_mapM_eq_ok (heads_of_visit _ data 0 _ hd).1
      refine ((List.forall₂_and_left _ _).mpr
        ⟨fun r hr => find?_of_mem_reached 0 (Item.root root) hr, hsteps⟩).imp ?_
      rintro r head ⟨hfind, hdesc⟩
      obtain ⟨mp, hmp, hconv⟩ :=
        Option.map_eq_some_iff.mp ((find?_registryOf C r.tag).symm.trans hfind)
      rw [Reached.describe, ← hconv] at hdesc
      exact ⟨mp, hmp, hdesc⟩

/-- With the converters of a configuration that reads, every element a conversion reaches gets,
from the mapping for its name, the props that mapping describes for its attributes and its
position among its siblings. -/
theorem convert_props_by_precedence {v : Value} {C : Mappings} (h : parse v = .ok C) :
    ∃ reg, Registry.make (offer C : Offer (Except Fault)) = .ok reg ∧
      ∀ xml data, ∃ o, convert reg xml data = .ok o ∧
        ∀ root, (readForConversion xml).1 = some root →
          List.Forall₂ (fun r head => ∀ mp ∈ C, mp.tag = Text.ofString r.tag →
              head.2 = mp.expectedProps (attributeDict r.element.attributes) r.slot)
            (reached reg 0 (Item.root root)) o.tree.heads := by
  refine ⟨registryOf C, make_offer (parse_ne_nil h), fun xml data => ?_⟩
  obtain ⟨o, ho, hheads⟩ := heads_with_configuration C xml data
  refine ⟨o, ho, fun root hroot => (hheads root hroot).imp ?_⟩
  rintro r head ⟨mp', hfind, hdesc⟩ mp hmp htag
  -- the mapping found is the one for the tag, since the tags of a configuration are distinct
  have hmp' : mp' ∈ C := List.mem_of_find?_eq_some hfind
  have hfound : mp'.tag = Text.ofString r.tag := by simpa using List.find?_some hfind
  have hsame : mp = mp' :=
    List.inj_on_of_nodup_map (nodup_tags_of_parse h) hmp hmp' (htag.trans hfound.symm)
  subst hsame
  rw [describe_sound_converter (sound_of_parse h mp hmp)] at hdesc
  cases hdesc
  rfl

/-- A configuration of one mapping with its own `key` prop, a renaming rule and a key
attribute. -/
theorem convert_props_by_precedence_of_link :
    let v : Value := .dict [(.str (Text.ofString "converters"), .dict [(.str (Text.ofString "a"),
      .dict [(.str (Text.ofString "type"), .str (Text.ofString "Link")),
        (.str (Text.ofString "props"), .dict [(keyName, .str (Text.ofString "k"))]),
        (.str (Text.ofString "attributes"),
          .dict [(.str (Text.ofString "href"), .str (Text.ofString "to"))]),
        (.str (Text.ofString "key"), .str (Text.ofString "id"))])])]
    let C : Mappings :=
      [{ tag := Text.ofString "a", type := Text.ofString "Link",
         props := [(keyName, .str (Text.ofString "k"))],
         attributes := .rename [(Text.ofString "href", Text.ofString "to")],
         key := some (Text.ofString "id") }]
    parse v = .ok C ∧
      ∃ reg, Registry.make (offer C : Offer (Except Fault)) = .ok reg ∧
        ∀ xml data, ∃ o, convert reg xml data = .ok o ∧
          ∀ root, (readForConversion xml).1 = some root →
            List.Forall₂ (fun r head => ∀ mp ∈ C, mp.tag = Text.ofString r.tag →
                head.2 = mp.expectedProps (attributeDict r.element.attributes) r.slot)
              (reached reg 0 (Item.root root)) o.tree.heads := by
  intro v C
  have h : parse v = .ok C := rfl
  exact ⟨h, convert_props_by_precedence h⟩

example :
    describe ((⟨Text.ofString "a", Text.ofString "Link", [(keyName, .str (Text.ofString "k"))],
        .rename [(Text.ofString "href", Text.ofString "to")], some (Text.ofString "id")⟩ :
          TagMapping).converter : Converter (Except Fault))
      [("href", "/x"), ("id", "i7")] .none 2 =
    .ok (.str (Text.ofString "Link"),
      [(keyName, .str (Text.ofString "i7")), (.str (Text.ofString "to"), .str (Text.ofString "/x"))]) := by
  rfl

end Config

end XmlView
