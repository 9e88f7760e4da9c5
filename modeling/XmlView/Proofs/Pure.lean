import XmlView.Proofs.Placement

/-! Conversion with converters that act on no world, as those of a configuration: when each
returns a mapping, conversion never fails and carries what they gave, in document order. -/

namespace XmlView.Conversion
open Markup

section ExceptLists

variable {α β γ ε : Type}

theorem except_bind_eq_ok {x : Except ε α} {f : α → Except ε β} {b : β} :
    x >>= f = .ok b ↔ ∃ a, x = .ok a ∧ f a = .ok b := by
  cases x <;> simp [bind, Except.bind]

theorem except_eq_ok_of_toOption {x : Except ε α} {a : α} (h : x.toOption = some a) :
    x = .ok a := by
  cases x <;> simp_all [Except.toOption]

theorem foldlM_inv {f : β → α → Except ε β} (P : β → Prop)
    (hf : ∀ b a b', P b → f b a = .ok b' → P b') :
    ∀ {l : List α} {b r : β}, P b → l.foldlM f b = .ok r → P r
  | [], _, _, hb, h => by
    cases h
    exact hb
  | a :: l, b, r, hb, h => by
    rw [List.foldlM_cons] at h
    obtain ⟨b', hb', hl⟩ := except_bind_eq_ok.mp h
    exact foldlM_inv P hf (hf b a b' hb hb') hl

theorem mapM_ok_of_forall {f : α → Except ε β} :
    ∀ {l : List α}, (∀ x ∈ l, ∃ b, f x = .ok b) → ∃ bs, l.mapM f = .ok bs
  | [], _ => ⟨[], rfl⟩
  | x :: l, h => by
    obtain ⟨b, hb⟩ := h x List.mem_cons_self
    obtain ⟨bs, hbs⟩ := mapM_ok_of_forall fun y hy => h y (List.mem_cons_of_mem _ hy)
    exact ⟨b :: bs, by rw [List.mapM_cons, hb, hbs]; rfl⟩

theorem forall₂_of_mapM_eq_ok {f : α → Except ε β} :
    ∀ {l : List α} {bs : List β}, l.mapM f = .ok bs → List.Forall₂ (fun a b => f a = .ok b) l bs
  | [], bs, h => by
    cases h
    exact .nil
  | x :: l, bs, h => by
    rw [List.mapM_cons] at h
    cases hx : f x with
    | error e => rw [hx] at h; cases h
    | ok b =>
      cases hl : l.mapM f with
      | error e => rw [hx, hl] at h; cases h
      | ok cs =>
        rw [hx, hl] at h
        cases h
        exact .cons hx (forall₂_of_mapM_eq_ok hl)

theorem mapM_forall₂ {f : α → Except ε β} {g : α → Except ε γ} {r : β → γ → Prop} :
    ∀ {l : List α}, (∀ x ∈ l, ∃ b c, f x = .ok b ∧ g x = .ok c ∧ r b c) →
      ∃ bs cs, l.mapM f = .ok bs ∧ l.mapM g = .ok cs ∧ List.Forall₂ r bs cs
  | [], _ => ⟨[], [], rfl, rfl, .nil⟩
  | x :: l, h => by
    obtain ⟨b, c, hb, hc, hbc⟩ := h x List.mem_cons_self
    obtain ⟨bs, cs, hbs, hcs, hrest⟩ :=
      mapM_forall₂ fun y hy => h y (List.mem_cons_of_mem _ hy)
    refine ⟨b :: bs, c :: cs, ?_, ?_, .cons hbc hrest⟩
    · rw [List.mapM_cons, hb, hbs]; rfl
    · rw [List.mapM_cons, hc, hcs]; rfl

end ExceptLists

/-- Every converter of the registry returns, whatever it is given, a mapping whose props are
absent, none or a mapping. -/
def Registry.Maps (reg : Registry (Except Fault)) : Prop :=
  ∀ tag f, reg.find? tag = some f → ∀ attrs data, ∃ v, f attrs data = .ok v ∧ Mapped v

theorem describe_eq_bind (f : Converter (Except Fault)) (attrs : List (String × String))
    (data : Value) (index : Nat) :
    describe f attrs data index = (f attrs data).bind (resultHead index) := by
  unfold describe
  show _ >>= _ = _ >>= _
  congr 1
  funext v
  cases v with
  | dict es =>
    simp only [member, resultHead, pure_bind]
    cases elementProps index ((Dict.get? es (.str (Text.ofString "props"))).getD .none) <;> rfl
  | _ => rfl

theorem describe_of_mapped {f : Converter (Except Fault)} {attrs : List (String × String)}
    {data v : Value} (k : Nat) (hv : f attrs data = .ok v) (hm : Mapped v) :
    ∃ type, describe f attrs data k = .ok (type, keyFirst k (propsOf v)) := by
  obtain ⟨type, ht⟩ := resultHead_of_mapped (k := k) hm
  exact ⟨type, by rw [describe_eq_bind, hv]; exact ht⟩

section Maps

variable {reg : Registry (Except Fault)} (hmaps : reg.Maps) (data : Value)
include hmaps

theorem steps_ok (k : Nat) (item : Item) : ∃ hs, steps reg data k item = .ok hs :=
  mapM_ok_of_forall fun r hr => by
    obtain ⟨v, hv, hm⟩ := hmaps r.tag r.convert (find?_of_mem_reached k item hr)
      r.element.attributes data
    obtain ⟨type, h⟩ := describe_of_mapped r.slot hv hm
    exact ⟨_, h⟩

end Maps

section Run

variable (reg : Registry (Except Fault)) (data : Value) (k : Nat) (item : Item)

theorem heads_of_visit {d : Descriptor} (h : visit reg data k item = .ok d) :
    steps reg data k item = .ok d.heads ∧ d.erase = item.shape reg := by
  have hsim := visit_sim reg data k item
  rw [h] at hsim
  cases hs : steps reg data k item with
  | error e => rw [hs] at hsim; cases hsim
  | ok hs' =>
    rw [hs] at hsim
    simp only [Functor.map, Except.map, Except.ok.injEq, Prod.mk.injEq] at hsim
    exact ⟨congrArg Except.ok hsim.1.symm, hsim.2⟩

theorem visit_ok_of_steps {hs : List (Value × Dict)} (h : steps reg data k item = .ok hs) :
    ∃ d, visit reg data k item = .ok d := by
  have hsim := visit_sim reg data k item
  rw [h] at hsim
  cases hv : visit reg data k item with
  | error e => rw [hv] at hsim; cases hsim
  | ok d => exact ⟨d, rfl⟩

theorem visit_node_of_none {n : Node} {outer : Scope}
    (h : (Item.node n outer).tag?.bind reg.find? = none) :
    visit reg data k (.node n outer) = .ok .skipped := by
  rw [visit, h]
  rfl

theorem visit_node_of_some {n : Node} {outer : Scope} {f : Converter (Except Fault)}
    (hf : (Item.node n outer).tag?.bind reg.find? = some f) {head : Value × Dict}
    (hd : describe f (Item.node n outer).attributes data k = .ok head) {cs : List Descriptor}
    (hcs : (Item.node n outer).children.zipIdx.mapM (fun x => visit reg data x.2 x.1) = .ok cs) :
    visit reg data k (.node n outer) = .ok (.element head.1 head.2 cs) := by
  rw [visit, hf]
  dsimp only
  rw [hd, List.mapM_subtype (g := fun x : Item × Nat => visit reg data x.2 x.1) (fun _ _ => rfl),
    List.unattach_attach, hcs]
  rfl

theorem convert_eq (xml : Value) :
    convert reg xml data =
      match readForConversion xml with
      | (some root, ws) => (visit reg data 0 (Item.root root)).map (⟨·, ws⟩)
      | (none, ws) => .ok ⟨.skipped, ws⟩ := by
  unfold convert
  cases readForConversion xml with
  | mk root? ws =>
    cases root? with
    | none => rfl
    | some root =>
      dsimp only
      change (visit reg data 0 (Item.root root) >>= fun t => pure (⟨t, ws⟩ : Outcome)) = _
      cases visit reg data 0 (Item.root root) <;> rfl

end Run

variable {reg : Registry (Except Fault)} (hmaps : reg.Maps) (data : Value)
include hmaps

theorem visit_ok (k : Nat) (item : Item) : ∃ d, visit reg data k item = .ok d := by
  obtain ⟨hs, h⟩ := steps_ok hmaps data k item
  exact visit_ok_of_steps reg data k item h

theorem convert_ok (xml : Value) : ∃ o, convert reg xml data = .ok o := by
  rw [convert_eq]
  cases readForConversion xml with
  | mk root? ws =>
    cases root? with
    | none => exact ⟨_, rfl⟩
    | some root =>
      obtain ⟨d, hd⟩ := visit_ok hmaps data 0 (Item.root root)
      exact ⟨⟨d, ws⟩, by simp only [hd]; rfl⟩

end XmlView.Conversion
