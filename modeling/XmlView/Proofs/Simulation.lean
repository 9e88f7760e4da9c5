import XmlView.Proofs.Content
import XmlView.Conversion.Visit
/-! Converting an item has exactly the effects of the steps of the elements it reaches, one
after another in document order; what is left with types and props dropped, its shape,
depends only on the document and on which names have converters. -/
namespace XmlView.Conversion
open Markup

namespace Descriptor

/-- The element descriptors of a tree in pre-order, each as its type and props. -/
def heads : Descriptor → List (Value × Dict)
  | .element type props cs => (type, props) :: cs.flatMap heads
  | _ => []

def erase : Descriptor → Descriptor
  | .element _ _ cs => .element .none [] (cs.map erase)
  | d => d

end Descriptor

variable {m : Type → Type} [Monad m] [MonadExcept Fault m]

/-- An element a conversion reaches with a converter: its name, the element in its scope,
its position among the sibling slots of its parent's content, and its converter. -/
structure Reached (m : Type → Type) where
  tag : String
  element : Item
  slot : Nat
  convert : Converter m

def Reached.describe (data : Value) (r : Reached m) : m (Value × Dict) :=
  Conversion.describe r.convert r.element.attributes data r.slot

/-- The elements a conversion of an item at position `k` reaches with a converter, in
document order: an element whose name has one, then those reached from each of its sibling
slots. An element whose name has no converter reaches nothing, whatever it holds. -/
def reached (reg : Registry m) (k : Nat) (item : Item) : List (Reached m) :=
  match item with
  | .node n outer =>
    match (Item.node n outer).tag? with
    | none => []
    | some t =>
      match reg.find? t with
      | none => []
      | some f =>
        ⟨t, .node n outer, k, f⟩ ::
          (Item.node n outer).slots.zipIdx.attach.flatMap fun ⟨(c, i), _⟩ => reached reg i c
  | _ => []
termination_by item.size
decreasing_by exact Item.size_lt_of_mem_slots (List.fst_mem_of_mem_zipIdx ‹_›)

/-- What converting an item gives once the type and props of its elements are dropped: it
depends on the document and on which names have converters, nothing else. -/
def Item.shape (reg : Registry m) (item : Item) : Descriptor :=
  match item with
  | .nothing => .skipped
  | .text s => .text (Text.ofString s)
  | .node n outer =>
    match (Item.node n outer).tag?.bind reg.find? with
    | none => .skipped
    | some _ => .element .none [] ((Item.node n outer).slots.attach.map fun ⟨c, _⟩ => c.shape reg)
termination_by item.size
decreasing_by exact Item.size_lt_of_mem_slots ‹_›

@[simp] theorem Reached.describe_mk (data : Value) (t : String) (e : Item) (k : Nat)
    (f : Converter m) :
    Reached.describe data ⟨t, e, k, f⟩ = Conversion.describe f e.attributes data k := rfl

/-- The steps a conversion of an item takes: that of each element it reaches, in order. -/
def steps (reg : Registry m) (data : Value) (k : Nat) (item : Item) : m (List (Value × Dict)) :=
  (reached reg k item).mapM (Reached.describe data)

omit [MonadExcept Fault m] in
theorem mapM_flatMap [LawfulMonad m] (l : List α) (R : α → List β) (g : β → m γ) :
    (l.flatMap R).mapM g = List.flatten <$> l.mapM fun x => (R x).mapM g := by
  induction l with
  | nil => simp
  | cons x l ih => simp [List.flatMap_cons, List.mapM_append, ih]

omit [MonadExcept Fault m] in
/-- Converting the items of a list one after another, when each conversion has the effects
of its own steps and leaves its own shape. -/
theorem mapM_sim [LawfulMonad m] {L : List α} {V : α → m Descriptor}
    {T : α → m (List (Value × Dict))} {S : α → Descriptor}
    (h : ∀ x ∈ L, (fun d => (d.heads, d.erase)) <$> V x = (fun hs => (hs, S x)) <$> T x) :
    (fun ds => (ds.flatMap Descriptor.heads, ds.map Descriptor.erase)) <$> L.mapM V =
      (fun hss => (hss.flatten, L.map S)) <$> L.mapM T := by
  induction L with
  | nil => simp
  | cons x L ih =>
    have hx := h x List.mem_cons_self
    have hL := ih fun y hy => h y (List.mem_cons_of_mem _ hy)
    have lhs : (fun ds => (ds.flatMap Descriptor.heads, ds.map Descriptor.erase)) <$>
        (x :: L).mapM V =
        ((fun d => (d.heads, d.erase)) <$> V x) >>= fun p =>
          ((fun ds => (ds.flatMap Descriptor.heads, ds.map Descriptor.erase)) <$> L.mapM V) >>=
            fun q => pure (p.1 ++ q.1, p.2 :: q.2) := by
      simp [List.flatMap_cons]
    have rhs : (fun hss => (hss.flatten, (x :: L).map S)) <$> (x :: L).mapM T =
        ((fun hs => (hs, S x)) <$> T x) >>= fun p =>
          ((fun hss => (hss.flatten, L.map S)) <$> L.mapM T) >>=
            fun q => pure (p.1 ++ q.1, p.2 :: q.2) := by
      simp
    rw [lhs, rhs, hx, hL]

theorem visit_sim [LawfulMonad m] (reg : Registry m) (data : Value) (k : Nat) (item : Item) :
    (fun d => (d.heads, d.erase)) <$> visit reg data k item =
      (fun hs => (hs, item.shape reg)) <$> steps reg data k item := by
  unfold steps
  match item with
  | .nothing => simp [visit, reached, Item.shape, Descriptor.heads, Descriptor.erase]
  | .text s => simp [visit, reached, Item.shape, Descriptor.heads, Descriptor.erase]
  | .node n outer =>
    rw [visit, reached, Item.shape]
    cases htag : (Item.node n outer).tag? with
    | none => simp [Descriptor.heads, Descriptor.erase]
    | some t =>
      cases hf : reg.find? t with
      | none => simp [hf, Descriptor.heads, Descriptor.erase]
      | some f =>
        -- the children are converted one after another, each with the effects of its own
        -- reached elements: `mapM_sim` over the slots, with the claim itself for each slot
        have hc := mapM_sim (L := (Item.node n outer).slots.zipIdx)
          (V := fun x => visit reg data x.2 x.1)
          (T := fun x => (reached reg x.2 x.1).mapM (·.describe data))
          (S := fun x => x.1.shape reg) (fun x _ => by simpa [steps] using visit_sim reg data x.2 x.1)
        have hshape : (Item.node n outer).slots.zipIdx.map (fun x => x.1.shape reg) =
            (Item.node n outer).slots.map (Item.shape reg) := by
          rw [← List.zipIdx_map_fst 0 (Item.node n outer).slots, List.map_map, List.zipIdx_map_fst]
          rfl
        simp only [Option.bind_some, hf]
        rw [List.mapM_subtype (g := fun x : Item × Nat => visit reg data x.2 x.1) (fun _ _ => rfl),
          List.flatMap_subtype (g := fun x : Item × Nat => reached reg x.2 x.1) (fun _ _ => rfl),
          List.map_subtype (g := Item.shape reg) (fun _ _ => rfl), List.unattach_attach,
          List.unattach_attach, List.unattach_attach, Item.children_eq_slots, List.mapM_cons,
          mapM_flatMap]
        have lhs : ∀ (D : m (Value × Dict)) (M : m (List Descriptor)),
            (fun d => (d.heads, d.erase)) <$>
                (D >>= fun h => M >>= fun ds => pure (Descriptor.element h.1 h.2 ds)) =
              D >>= fun h => (fun q => (h :: q.1, Descriptor.element .none [] q.2)) <$>
                ((fun ds => (ds.flatMap Descriptor.heads, ds.map Descriptor.erase)) <$> M) := by
          intro D M
          simp [map_bind, Descriptor.heads, Descriptor.erase]
        rw [lhs, hc, ← hshape]
        simp [map_bind]
termination_by item.size
decreasing_by exact Item.size_lt_of_mem_slots (List.fst_mem_of_mem_zipIdx ‹_›)

/-- Converters with a world: each call may read and change a state of type `σ`, and may
fail. -/
abbrev Conv (σ : Type) := ExceptT Fault (StateM σ)

theorem Conv.run_map (f : α → β) (x : Conv σ α) (s : σ) :
    (f <$> x).run.run s = ((x.run.run s).1.map f, (x.run.run s).2) := by
  simp only [ExceptT.run_map, StateT.run_map]
  rfl

/-- What the conversion reads from a converter's result: its type, and its props merged
over the element's position `index`. -/
def resultHead (index : Nat) (result : Value) : Except Fault (Value × Dict) := do
  let type ← member result "type"
  let props ← member result "props"
  let props ← elementProps index props
  return (type, props)

theorem Conv.run_bind (x : Conv σ α) (g : α → Conv σ β) (s : σ) :
    (x >>= g).run.run s =
      match (x.run.run s) with
      | (.ok a, s') => (g a).run.run s'
      | (.error e, s') => (.error e, s') := by
  simp only [ExceptT.run_bind, StateT.run_bind]
  cases x.run.run s with
  | mk r s' => cases r <;> rfl

theorem Conv.run_mapM_cons (x : α → Conv σ β) (a : α) (as : List α) (s : σ) :
    ((a :: as).mapM x).run.run s =
      match (x a).run.run s with
      | (.ok b, s') => (((as.mapM x).run.run s').1.map (b :: ·), ((as.mapM x).run.run s').2)
      | (.error e, s') => (.error e, s') := by
  rw [List.mapM_cons, Conv.run_bind]
  cases (x a).run.run s with
  | mk r s' =>
    cases r with
    | error e => rfl
    | ok b =>
      dsimp only
      rw [Conv.run_bind]
      cases (as.mapM x).run.run s' with
      | mk q s'' => cases q <;> rfl

theorem Conv.run_liftFault (r : Except Fault α) (s : σ) :
    (liftFault r : Conv σ α).run.run s = (r, s) := by
  cases r <;> rfl

theorem describe_conv (f : Converter (Conv σ)) (attrs : List (String × String))
    (data : Value) (index : Nat) :
    describe f attrs data index = f attrs data >>= fun v => liftFault (resultHead index v) := by
  unfold describe
  congr 1
  funext v
  cases v with
  | dict es =>
    simp only [member, resultHead, pure_bind]
    cases elementProps index ((Dict.get? es (.str (Text.ofString "props"))).getD .none) <;> rfl
  | _ => rfl

section World

variable {σ : Type} (reg : Registry (Conv σ)) (data : Value) (k : Nat) (item : Item) (s : σ)

theorem run_visit_sim :
    ((visit reg data k item).run.run s).1.map (fun d => (d.heads, d.erase)) =
        ((steps reg data k item).run.run s).1.map
          (fun hs => (hs, item.shape reg)) ∧
      ((visit reg data k item).run.run s).2 =
        ((steps reg data k item).run.run s).2 := by
  have h := congrArg (fun x => x.run.run s) (visit_sim reg data k item)
  simp only [Conv.run_map] at h
  exact Prod.mk.inj h

theorem run_visit_state :
    ((visit reg data k item).run.run s).2 =
      ((steps reg data k item).run.run s).2 :=
  (run_visit_sim reg data k item s).2

/-- A conversion fails exactly when the steps of the elements it reaches fail, with the same
fault, and otherwise its elements carry what those steps gave, in order. -/
theorem run_visit_heads :
    ((visit reg data k item).run.run s).1.map Descriptor.heads =
      ((steps reg data k item).run.run s).1 := by
  have h := (run_visit_sim reg data k item s).1
  cases hr : ((visit reg data k item).run.run s).1 <;>
    cases hq : ((steps reg data k item).run.run s).1 <;> simp_all [Except.map]

theorem erase_of_run_visit {d : Descriptor} (h : ((visit reg data k item).run.run s).1 = .ok d) :
    d.erase = item.shape reg := by
  have hsim := (run_visit_sim reg data k item s).1
  rw [h] at hsim
  cases hq : ((steps reg data k item).run.run s).1 <;>
    simp_all [Except.map]

end World

/-- A conversion of a document that reads runs the conversion of its root; any other
conversion calls nothing and gives a skipped node. -/
theorem run_convert (reg : Registry (Conv σ)) (xml data : Value) (s : σ) :
    (convert reg xml data).run.run s =
      match readForConversion xml with
      | (some root, ws) =>
        (((visit reg data 0 (Item.root root)).run.run s).1.map (⟨·, ws⟩),
          ((visit reg data 0 (Item.root root)).run.run s).2)
      | (none, ws) => (.ok ⟨.skipped, ws⟩, s) := by
  unfold convert
  cases readForConversion xml with
  | mk root? ws =>
    cases root? with
    | none => rfl
    | some root =>
      dsimp only
      rw [← Conv.run_map]
      rfl

end XmlView.Conversion
