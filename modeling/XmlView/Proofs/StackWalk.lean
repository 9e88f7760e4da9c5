import XmlView.Proofs.Census

/-! The counts a walk with a stack gathers are the fold of the tree from its leaves. The loop
invariant: the counts so far joined with those of the trees on the stack are the counts of
the whole tree. -/

namespace XmlView.Conversion

def Descriptor.links : Descriptor → Nat
  | .element _ _ cs => cs.length + (cs.attach.map fun ⟨c, _⟩ => c.links).sum
  | _ => 0

namespace Descriptor

theorem links_element (type : Value) (props : Dict) (cs : List Descriptor) :
    (element type props cs).links = cs.length + (cs.map links).sum := by
  rw [links, List.map_subtype (g := links) (fun _ _ => rfl), List.unattach_attach]

theorem size_element (type : Value) (props : Dict) (cs : List Descriptor) :
    (element type props cs).size = 1 + (cs.map size).sum := by
  rw [size, List.map_subtype (g := size) (fun _ _ => rfl), List.unattach_attach,
    List.sum_eq_foldr]

theorem size_pos (d : Descriptor) : 0 < d.size := by
  cases d with
  | element type props cs => rw [size_element]; omega
  | text _ | skipped => simp [size]

end Descriptor

namespace Summary

open Descriptor

/-- The counts of a tree folded up from its leaves: a text leaf is one text and a skipped
node one skipped node, at depth zero; an element is one element more than its children
together, one level deeper than the deepest of them. -/
def fold : Descriptor → Summary
  | .text _ => { texts := 1 }
  | .skipped => { skipped := 1 }
  | .element _ _ cs =>
    let parts := cs.attach.map fun ⟨c, _⟩ => fold c
    { elements := 1 + (parts.map (·.elements)).sum
      texts := (parts.map (·.texts)).sum
      skipped := (parts.map (·.skipped)).sum
      maxDepth := 1 + (parts.map (·.maxDepth)).foldr max 0 }

def pending (stack : List (Descriptor × Nat)) (s : Summary) : Summary :=
  (stack.map fun p => ofDescriptorAt p.2 p.1).foldl join s

def stackSize (stack : List (Descriptor × Nat)) : Nat := (stack.map fun p => p.1.size).sum

theorem fold_element (type : Value) (props : Dict) (cs : List Descriptor) :
    fold (.element type props cs) =
      { elements := 1 + (cs.map fun c => (fold c).elements).sum
        texts := (cs.map fun c => (fold c).texts).sum
        skipped := (cs.map fun c => (fold c).skipped).sum
        maxDepth := 1 + (cs.map fun c => (fold c).maxDepth).foldr max 0 } := by
  rw [fold]
  simp only [List.map_map]
  rw [List.map_subtype (g := fun c => (fold c).elements) (fun _ _ => rfl),
    List.map_subtype (g := fun c => (fold c).texts) (fun _ _ => rfl),
    List.map_subtype (g := fun c => (fold c).skipped) (fun _ _ => rfl),
    List.map_subtype (g := fun c => (fold c).maxDepth) (fun _ _ => rfl), List.unattach_attach]

theorem foldr_max_append (l₁ l₂ : List Nat) :
    (l₁ ++ l₂).foldr max 0 = max (l₁.foldr max 0) (l₂.foldr max 0) := by
  induction l₁ with
  | nil => simp
  | cons a l ih =>
    rw [List.cons_append, List.foldr_cons, ih, List.foldr_cons]
    omega

theorem foldr_max_reverse (l : List Nat) : l.reverse.foldr max 0 = l.foldr max 0 := by
  induction l with
  | nil => rfl
  | cons a l ih =>
    rw [List.reverse_cons, foldr_max_append, ih, List.foldr_cons, List.foldr_cons,
      List.foldr_nil]
    omega

/-! ### One step of the walk -/

@[simp] theorem pending_nil (s : Summary) : pending [] s = s := rfl

theorem pending_text (t : Text) (D : Nat) (rest : List (Descriptor × Nat)) (s : Summary) :
    pending ((.text t, D) :: rest) s = pending rest { s with texts := s.texts + 1 } := by
  simp only [pending, List.map_cons, List.foldl_cons, ofDescriptorAt]
  congr 1
  simp [join]

theorem pending_skipped (D : Nat) (rest : List (Descriptor × Nat)) (s : Summary) :
    pending ((.skipped, D) :: rest) s = pending rest { s with skipped := s.skipped + 1 } := by
  simp only [pending, List.map_cons, List.foldl_cons, ofDescriptorAt]
  congr 1
  simp [join]

/-- Taking an element off the stack and pushing its children one level deeper, the last on
top, keeps the counts of the whole tree. -/
theorem pending_element (type : Value) (props : Dict) (cs : List Descriptor) (D : Nat)
    (rest : List (Descriptor × Nat)) (s : Summary) :
    pending ((.element type props cs, D) :: rest) s =
      pending ((cs.map (·, D + 1)).reverse ++ rest)
        { s with elements := s.elements + 1, maxDepth := max s.maxDepth D } := by
  simp only [pending, List.map_cons, List.foldl_cons, ofDescriptorAt_element, List.map_append,
    List.map_reverse, List.map_map]
  rw [foldl_join, foldl_join, foldl_join]
  simp only [join, List.map_append, List.map_reverse, List.map_map, Function.comp_def,
    List.sum_append, List.sum_reverse, foldr_max_append, foldr_max_reverse, Summary.mk.injEq]
  refine ⟨by omega, by omega, by omega, by omega⟩

theorem stackSize_cons (d : Descriptor) (D : Nat) (rest : List (Descriptor × Nat)) :
    stackSize ((d, D) :: rest) = d.size + stackSize rest := by
  simp [stackSize]

theorem stackSize_push (cs : List Descriptor) (D : Nat) (rest : List (Descriptor × Nat)) :
    stackSize ((cs.map (·, D)).reverse ++ rest) = (cs.map Descriptor.size).sum + stackSize rest := by
  simp [stackSize, Function.comp_def]

/-! ### The whole walk -/

/-- With at least one step for each node on its stack, the walk ends with the counts
gathered so far joined with those of the trees on the stack. -/
theorem walk_eq_pending (n : Nat) (stack : List (Descriptor × Nat)) (s : Summary)
    (h : stackSize stack ≤ n) : walk n stack s = pending stack s := by
  -- on the fuel: each step spends one unit of it and takes one node off the stack
  induction n generalizing stack s with
  | zero =>
    cases stack with
    | nil => rfl
    | cons p rest =>
      have := size_pos p.1
      simp [stackSize] at h
      omega
  | succ n ih =>
    match stack, h with
    | [], _ => rfl
    | (.text t, D) :: rest, h =>
      rw [stackSize_cons] at h
      rw [walk, pending_text, ih rest _ (by simp [Descriptor.size] at h; omega)]
    | (.skipped, D) :: rest, h =>
      rw [stackSize_cons] at h
      rw [walk, pending_skipped, ih rest _ (by simp [Descriptor.size] at h; omega)]
    | (.element type props cs, D) :: rest, h =>
      rw [stackSize_cons, size_element] at h
      rw [walk, pending_element, ih _ _ (by rw [stackSize_push]; omega)]

theorem ofDescriptorAt_succ (D : Nat) (d : Descriptor) :
    ofDescriptorAt (D + 1) d =
      { fold d with maxDepth := if (fold d).maxDepth = 0 then 0 else D + (fold d).maxDepth } := by
  cases d with
  | element type props cs =>
    have hcs : cs.map (ofDescriptorAt (D + 1 + 1)) = cs.map fun c =>
        { fold c with maxDepth := if (fold c).maxDepth = 0 then 0 else (D + 1) + (fold c).maxDepth } :=
      List.map_congr_left fun c hc => ofDescriptorAt_succ (D + 1) c
    -- the element's own depth `D + 1` bounds the shifted depths of its children from below
    have hshift := max_foldr_shift (D + 1) (cs.map fun c => (fold c).maxDepth)
    rw [ofDescriptorAt_element, hcs, foldl_join, fold_element]
    simp only [List.map_map, Function.comp_def, Summary.mk.injEq, Nat.zero_add, true_and]
      at hshift ⊢
    rw [if_neg (by omega)]
    omega
  | text _ | skipped => simp [ofDescriptorAt, fold]
termination_by sizeOf d
decreasing_by
  have := List.sizeOf_lt_of_mem hc
  simp only [Descriptor.element.sizeOf_spec]
  omega

theorem ofDescriptor_eq_fold (d : Descriptor) : ofDescriptor d = fold d := by
  rw [ofDescriptor, ofDescriptorAt_succ 0 d]
  obtain ⟨e, t, s, m⟩ := fold d
  split <;> simp_all

theorem fold_nodes (d : Descriptor) :
    (fold d).elements + (fold d).texts + (fold d).skipped = 1 + d.links := by
  cases d with
  | element type props cs =>
    have hcs : (cs.map fun c => (fold c).elements + (fold c).texts + (fold c).skipped) =
        cs.map fun c => 1 + c.links :=
      List.map_congr_left fun c hc => fold_nodes c
    have hsum := congrArg List.sum hcs
    simp only [List.sum_map_add] at hsum
    rw [fold_element, links_element]
    simp at hsum ⊢
    omega
  | text _ | skipped => simp [fold, Descriptor.links]
termination_by sizeOf d
decreasing_by
  have := List.sizeOf_lt_of_mem hc
  simp only [Descriptor.element.sizeOf_spec]
  omega

/-- The walk with a stack ends within one step for each node of the tree, and then holds the
fold of the tree, which is also the summary of the tree; so elements, texts and skipped nodes
together are one more than the links from elements to their children. -/
theorem walk_ends_with_fold (d : Descriptor) :
    (∀ k, walk (d.size + k) [(d, 1)] {} = fold d) ∧ ofDescriptorByWalk d = fold d ∧
      ofDescriptor d = fold d ∧
      (fold d).elements + (fold d).texts + (fold d).skipped = 1 + d.links := by
  have hwalk (k : Nat) : walk (d.size + k) [(d, 1)] {} = fold d := by
    rw [walk_eq_pending _ _ _ (by simp [stackSize]), pending, List.map_singleton,
      List.foldl_cons, List.foldl_nil, ← ofDescriptor_eq_fold, ofDescriptor]
    simp [join]
  exact ⟨hwalk, by simpa [ofDescriptorByWalk] using hwalk 0, ofDescriptor_eq_fold d, fold_nodes d⟩

end Summary

end XmlView.Conversion
