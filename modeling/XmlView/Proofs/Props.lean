import XmlView.Proofs.Simulation

/-! The props of an element descriptor: a converter's props merged over the position kept
under `key`. Read as an ordered mapping, `key` comes first, then the converter's other props. -/

namespace XmlView

namespace Value

theorem same_str_left (t : Text) (v : Value) : Value.same (.str t) v = true ↔ v = .str t := by
  cases v with
  | str u => simpa [Value.same] using eq_comm
  | _ => simp [Value.same, Value.numeric?]

theorem same_str_right (t : Text) (v : Value) : Value.same v (.str t) = true ↔ v = .str t := by
  cases v <;> simp [Value.same, Value.numeric?]

@[simp] theorem same_str_self (t : Text) : Value.same (.str t) (.str t) = true :=
  (same_str_left t _).mpr rfl

end Value

namespace Dict

variable {t : Text} {m : Dict} {x v : Value}

/-- The ordered mapping a list of entries stands for: each key where it first occurs, with
the value it last has. -/
def ofEntries (es : Dict) : Dict := es.foldl (fun acc e => acc.put e.1 e.2) []

/-- The entries of a dictionary after `put x v` replaced them in place. -/
abbrev putEntry (x v : Value) (e : Value × Value) : Value × Value :=
  if Value.same e.1 x then (e.1, v) else e

@[simp] theorem putEntry_fst (e : Value × Value) : (putEntry x v e).1 = e.1 := by
  unfold putEntry
  split <;> rfl

theorem find?_map_putEntry (k : Value) :
    (m.map (putEntry x v)).find? (fun e => Value.same e.1 k) =
      (m.find? fun e => Value.same e.1 k).map (putEntry x v) := by
  rw [List.find?_map]
  congr 2
  funext e
  simp

theorem erase_map_putEntry (k : Value) :
    Dict.erase (m.map (putEntry x v)) k = (m.erase k).map (putEntry x v) := by
  rw [erase, erase, List.filter_map]
  congr 2
  funext e
  simp

theorem find?_eq_none_of_contains {m : Dict} {k : Value} (h : m.contains k = false) :
    m.find? (fun e => Value.same e.1 k) = none := by
  rw [List.find?_eq_none]
  intro e he hs
  have : m.contains k = true := List.any_eq_true.mpr ⟨e, he, hs⟩
  simp_all

theorem put_of_contains (h : m.contains x = true) : m.put x v = m.map (putEntry x v) := by
  simp [put, h]

theorem put_of_not_contains (h : m.contains x = false) : m.put x v = m ++ [(x, v)] := by
  simp [put, h]

theorem get?_put_str_self : (m.put (.str t) v).get? (.str t) = some v := by
  cases hc : m.contains (.str t)
  · simp [get?, put_of_not_contains hc, List.find?_append, find?_eq_none_of_contains hc]
  · obtain ⟨e, hfind⟩ := Option.isSome_iff_exists.mp
      (List.find?_isSome.mpr (List.any_eq_true.mp hc))
    have hse := List.find?_some hfind
    simp [get?, put_of_contains hc, hfind, putEntry, hse]

theorem map_putEntry_erase : (m.erase (.str t)).map (putEntry (.str t) v) = m.erase (.str t) := by
  refine (List.map_congr_left fun e he => ?_).trans (List.map_id _)
  have hne : Value.same e.1 (.str t) = false := by simpa using (List.mem_filter.mp he).2
  simp [putEntry, hne]

theorem erase_put_str_self : (m.put (.str t) v).erase (.str t) = m.erase (.str t) := by
  cases hc : m.contains (.str t)
  · simp [erase, put_of_not_contains hc]
  · rw [put_of_contains hc, erase_map_putEntry, map_putEntry_erase]

theorem put_cons_of_not_same {e : Value × Value} (h : Value.same e.1 x = false) :
    Dict.put (e :: m) x v = e :: m.put x v := by
  cases hc : m.contains x
  · have hc' : Dict.contains (e :: m) x = false := by
      simp only [contains, List.any_cons, h, Bool.false_or]
      exact hc
    rw [put_of_not_contains hc, put_of_not_contains hc']
    rfl
  · have hc' : Dict.contains (e :: m) x = true := by
      simp only [contains, List.any_cons, h, Bool.false_or]
      exact hc
    rw [put_of_contains hc, put_of_contains hc', List.map_cons]
    simp [putEntry, h]

theorem get?_put_of_ne (hx : x ≠ .str t) : (m.put x v).get? (.str t) = m.get? (.str t) := by
  cases hc : m.contains x
  · have hlast : Value.same x (.str t) = false := by
      exact Bool.eq_false_iff.mpr fun h => hx ((Value.same_str_right t x).mp h)
    simp [get?, put_of_not_contains hc, List.find?_append, hlast]
  · rw [get?, put_of_contains hc, find?_map_putEntry, get?]
    cases hfind : m.find? (fun e => Value.same e.1 (.str t)) with
    | none => rfl
    | some e =>
      -- the entry found under the key is not one `put` changes
      have hs := List.find?_some hfind
      have he : e.1 = .str t := (Value.same_str_right t _).mp hs
      have hne : Value.same e.1 x = false := by
        rw [he]
        exact Bool.eq_false_iff.mpr fun h => hx ((Value.same_str_left t x).mp h)
      simp [putEntry, hne]

theorem contains_erase_of_ne (hx : x ≠ .str t) :
    (m.erase (.str t)).contains x = m.contains x := by
  simp only [contains, erase, List.any_filter]
  congr 1
  funext e
  cases hs : Value.same e.1 x
  · simp
  · -- an entry under `x` is not under the key
    have hne : Value.same e.1 (.str t) = false := by
      cases ht : Value.same e.1 (.str t)
      · rfl
      · have he := (Value.same_str_right t _).mp ht
        rw [he, Value.same_str_left] at hs
        exact absurd hs hx
    simp [hne]

theorem erase_put_of_ne (hx : x ≠ .str t) :
    (m.put x v).erase (.str t) = (m.erase (.str t)).put x v := by
  cases hc : m.contains x
  · have hlast : Value.same x (.str t) = false := by
      exact Bool.eq_false_iff.mpr fun h => hx ((Value.same_str_right t x).mp h)
    rw [put_of_not_contains hc, put_of_not_contains (by rw [contains_erase_of_ne hx, hc])]
    simp [erase, List.filter_append, hlast]
  · rw [put_of_contains hc, put_of_contains (by rw [contains_erase_of_ne hx, hc]),
      erase_map_putEntry]

end Dict

namespace Conversion

def keyName : Value := .str (Text.ofString "key")

/-- The props of a descriptor at position `k` whose converter gave the ordered mapping
`ps`: `key` first, holding the converter's value for it if there is one and `k` otherwise,
then the converter's other props in their order. -/
def keyFirst (k : Nat) (ps : Dict) : Dict :=
  (keyName, (ps.get? keyName).getD (.int k)) :: ps.erase keyName

theorem put_keyFirst (k : Nat) (m : Dict) (x v : Value) :
    (keyFirst k m).put x v = keyFirst k (m.put x v) := by
  by_cases hx : x = keyName
  · -- the key itself: its value is replaced at the front, and nothing else changes
    subst hx
    have hc : Dict.contains (keyFirst k m) keyName = true := by
      simp [keyFirst, Dict.contains, keyName]
    rw [Dict.put_of_contains hc, keyFirst, keyFirst, List.map_cons, keyName,
      Dict.map_putEntry_erase, Dict.get?_put_str_self, Dict.erase_put_str_self]
    simp [Dict.putEntry]
  · -- another key: it goes where it goes among the rest
    have hne : Value.same keyName x = false :=
      Bool.eq_false_iff.mpr fun h => hx ((Value.same_str_left _ x).mp h)
    rw [keyFirst, keyFirst, Dict.put_cons_of_not_same hne]
    unfold keyName at hx ⊢
    rw [Dict.get?_put_of_ne hx, Dict.erase_put_of_ne hx]

theorem foldl_put_keyFirst (k : Nat) (es : Dict) (m : Dict) :
    es.foldl (fun acc e => acc.put e.1 e.2) (keyFirst k m) =
      keyFirst k (es.foldl (fun acc e => acc.put e.1 e.2) m) := by
  induction es generalizing m with
  | nil => rfl
  | cons e es ih => simp only [List.foldl_cons, put_keyFirst, ih]

/-- Merging a converter's props over an element's position: `key` first, holding the
converter's value for it if there is one and the position otherwise, then the converter's
other props in their order. -/
theorem update_keyFirst (k : Nat) (es : Dict) :
    Dict.update [(keyName, .int k)] (.dict es) = .ok (keyFirst k (Dict.ofEntries es)) := by
  have hbase : [(keyName, Value.int k)] = keyFirst k [] := rfl
  rw [Dict.update, hbase, foldl_put_keyFirst]
  rfl

example : Dict.update [(keyName, .int 3)]
      (.dict [(.str (Text.ofString "a"), .int 1), (keyName, .str (Text.ofString "k"))]) =
    .ok [(keyName, .str (Text.ofString "k")), (.str (Text.ofString "a"), .int 1)] := by
  cbv

def mappingOf : Value → Dict
  | .dict es => Dict.ofEntries es
  | _ => []

theorem elementProps_of_mapping {k : Nat} {props : Value}
    (h : props = .none ∨ ∃ es, props = .dict es) :
    elementProps k props = .ok (keyFirst k (mappingOf props)) := by
  rcases h with rfl | ⟨es, rfl⟩
  · rfl
  · cases es with
    | nil => rfl
    | cons e es =>
      simp only [elementProps, Value.truthy, List.isEmpty_cons, Bool.not_false, if_true, mappingOf]
      exact update_keyFirst k (e :: es)

def propsMember : Value → Value
  | .dict rs => (Dict.get? rs (.str (Text.ofString "props"))).getD .none
  | _ => .none

def Mapped (v : Value) : Prop :=
  (∃ rs, v = .dict rs) ∧ (propsMember v = .none ∨ ∃ es, propsMember v = .dict es)

def propsOf (v : Value) : Dict := mappingOf (propsMember v)

theorem resultHead_of_mapped {k : Nat} {v : Value} (h : Mapped v) :
    ∃ type, resultHead k v = .ok (type, keyFirst k (propsOf v)) := by
  obtain ⟨⟨rs, rfl⟩, hprops⟩ := h
  have hp := elementProps_of_mapping (k := k) hprops
  simp only [propsMember] at hp
  refine ⟨(Dict.get? rs (.str (Text.ofString "type"))).getD .none, ?_⟩
  simp [resultHead, member, hp, propsOf, propsMember]

end Conversion

end XmlView
