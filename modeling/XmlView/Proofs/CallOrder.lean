import XmlView.Proofs.Simulation

/-! Which converters a conversion calls, and in which order. The calls are observed by
giving every converter of a registry a log beside its world: each call appends what it was
given and what came of it. A conversion then calls, in document order, exactly the converters
of the elements it reaches, and a fault ends it at the call whose outcome could not be read. -/

namespace XmlView.Conversion
open Markup

/-- A converter call: the name its converter is registered under, and what it is given. -/
structure Call where
  tag : Text
  attrs : List (String × String)
  data : Value

/-- A call noted with its outcome: what the converter returned, or the fault it raised. -/
abbrev Note := Call × Except Fault Value

variable {σ : Type} {m : Type → Type}

/-- A converter that notes each of its calls, with the outcome, in a log kept beside the
world it acts on, and otherwise does what `f` does. -/
def noting (tag : Text) (f : Converter (Conv σ)) : Converter (Conv (σ × List Note)) :=
  fun attrs data => ExceptT.mk fun (s, log) =>
    let (r, s') := (f attrs data).run.run s
    (r, (s', log ++ [(⟨tag, attrs, data⟩, r)]))

def Registry.noting (reg : Registry (Conv σ)) : Registry (Conv (σ × List Note)) :=
  ⟨reg.entries.map fun (t, f) => (t, Conversion.noting t f)⟩

theorem Registry.find?_noting (reg : Registry (Conv σ)) (tag : String) :
    reg.noting.find? tag = (reg.find? tag).map (Conversion.noting (Text.ofString tag)) := by
  simp only [Registry.find?, Registry.noting, List.find?_map]
  cases h : reg.entries.find? (fun e => e.1 == Text.ofString tag) with
  | none => simp [h]
  | some e =>
    have he := List.find?_some h
    simp only [beq_iff_eq] at he
    simp [h, he]

def Reached.call (data : Value) (r : Reached m) : Call :=
  ⟨Text.ofString r.tag, r.element.attributes, data⟩

def Reached.noting (r : Reached (Conv σ)) : Reached (Conv (σ × List Note)) :=
  ⟨r.tag, r.element, r.slot, Conversion.noting (Text.ofString r.tag) r.convert⟩

theorem reached_noting (reg : Registry (Conv σ)) (k : Nat) (item : Item) :
    reached reg.noting k item = (reached reg k item).map Reached.noting := by
  cases item with
  | nothing => simp [reached]
  | text _ => simp [reached]
  | node n outer =>
    rw [reached, reached]
    cases htag : (Item.node n outer).tag? with
    | none => rfl
    | some t =>
      dsimp only
      rw [Registry.find?_noting]
      cases hf : reg.find? t with
      | none => rfl
      | some f =>
        simp only [Option.map_some, List.map_cons, List.map_flatMap]
        refine congrArg _ (List.flatMap_congr fun p _ => ?_)
        exact reached_noting reg p.1.2 p.1.1
termination_by item.size
decreasing_by exact Item.size_lt_of_mem_slots (List.fst_mem_of_mem_zipIdx p.2)

theorem run_describe_noting (tag : Text) (f : Converter (Conv σ)) (attrs : List (String × String))
    (data : Value) (index : Nat) (s : σ) (log : List Note) :
    (describe (noting tag f) attrs data index).run.run (s, log) =
      (((f attrs data).run.run s).1.bind (resultHead index),
        (((f attrs data).run.run s).2, log ++ [(⟨tag, attrs, data⟩, ((f attrs data).run.run s).1)])) := by
  rw [describe_conv, Conv.run_bind]
  cases h : (f attrs data).run.run s with
  | mk r s' =>
    simp only [StateT.run] at h
    cases r with
    | error e => simp [noting, h, ExceptT.run_mk, StateT.run, Except.bind]
    | ok v =>
      simp only [noting, h, ExceptT.run_mk, StateT.run, Except.bind]
      exact Conv.run_liftFault _ _

/-- A note that holds an outcome of the reached element's own converter, called with its
attributes and the data in some state of the world. -/
def Reached.Noted (data : Value) (r : Reached (Conv σ)) (n : Note) : Prop :=
  ∃ s, n.2 = ((r.convert r.element.attributes data).run.run s).1

theorem mapM_cons_ok {ε α β : Type} {f : α → Except ε β} {a : α} {l : List α} {b : β}
    {bs : List β} (ha : f a = .ok b) (hl : l.mapM f = .ok bs) :
    (a :: l).mapM f = .ok (b :: bs) := by
  simp only [List.mapM_cons, ha, hl]
  rfl

/-- The noted steps of reached elements, run from a log: they note the calls of the elements
in order, each with its outcome, and stop after the first outcome that does not read as a
type and props, failing with that fault; when none fails they give what the outcomes read
as. -/
theorem run_noted_steps (rs : List (Reached (Conv σ))) (data : Value) (s : σ)
    (log : List Note) :
    let q := ((rs.map Reached.noting).mapM (Reached.describe data)).run.run (s, log)
    ∃ notes, q.2.2 = log ++ notes ∧ (∀ p ∈ notes.zip rs, p.2.Noted data p.1) ∧
      ((∃ hs, q.1 = .ok hs ∧ notes.map Prod.fst = rs.map (Reached.call data) ∧
          (notes.zip rs).mapM (fun p => p.1.2.bind (resultHead p.2.slot)) = .ok hs) ∨
        (∃ f j, q.1 = .error f ∧ j < rs.length ∧
          notes.map Prod.fst = (rs.map (Reached.call data)).take (j + 1) ∧
          (∃ hs, ((notes.zip rs).take j).mapM (fun p => p.1.2.bind (resultHead p.2.slot)) =
            .ok hs) ∧
          ∃ n ∈ notes.getLast?, ∃ r ∈ rs[j]?, n.2.bind (resultHead r.slot) = .error f)) := by
  induction rs generalizing s log with
  | nil => exact ⟨[], by simp; rfl, by simp, .inl ⟨[], rfl, rfl, rfl⟩⟩
  | cons r rs ih =>
    intro q
    let out := (r.convert r.element.attributes data).run.run s
    let n : Note := (r.call data, out.1)
    have hstep : ((Reached.noting r).describe data).run.run (s, log) =
        (out.1.bind (resultHead r.slot), (out.2, log ++ [n])) :=
      run_describe_noting _ _ _ _ _ _ _
    cases hread : out.1.bind (resultHead r.slot) with
    | error f =>
      refine ⟨[n], ?_, by simpa using ⟨s, rfl⟩,
        .inr ⟨f, 0, ?_, by simp, by simp [n], ⟨[], rfl⟩, n, by simp, r, by simp, hread⟩⟩
      all_goals simp only [q, List.map_cons, Conv.run_mapM_cons, hstep, hread]
    | ok h =>
      let rest := ((rs.map Reached.noting).mapM (Reached.describe data)).run.run
        (out.2, log ++ [n])
      obtain ⟨notes, hlog, hnoted, hcase⟩ := ih out.2 (log ++ [n])
      have hq : q = (rest.1.map (h :: ·), rest.2) := by
        simp only [q, List.map_cons, Conv.run_mapM_cons, hstep, hread]
        rfl
      have hlog' : rest.2.2 = log ++ [n] ++ notes := hlog
      refine ⟨n :: notes, by rw [hq, hlog']; simp, ?_, ?_⟩
      · intro p hp
        rw [List.zip_cons_cons, List.mem_cons] at hp
        rcases hp with rfl | hp
        · exact ⟨s, rfl⟩
        · exact hnoted p hp
      rcases hcase with ⟨hs, hok, hcalls, hreads⟩ | ⟨f, j, herr, hj, hcalls, ⟨hs, hpre⟩, hlast⟩
      · have hok' : rest.1 = .ok hs := hok
        refine .inl ⟨h :: hs, by rw [hq, hok']; rfl, by simp [hcalls, n], ?_⟩
        rw [List.zip_cons_cons]
        exact mapM_cons_ok hread hreads
      · have herr' : rest.1 = .error f := herr
        refine .inr ⟨f, j + 1, by rw [hq, herr']; rfl, by simpa using hj,
          by simp [hcalls, n], ⟨h :: hs, ?_⟩, ?_⟩
        · rw [List.zip_cons_cons, List.take_succ_cons]
          exact mapM_cons_ok hread hpre
        obtain ⟨last, hlast', r', hr', hfail⟩ := hlast
        have hlast'' : notes.getLast? = some last := hlast'
        exact ⟨last, by simp [List.getLast?_cons, hlast''], r', by simpa using hr', hfail⟩

/-- A conversion of an item with noting converters, run from an empty log: the log notes
the calls of the elements it reaches, each with its own converter's outcome. When it succeeds
every reached element was called, in order, and the outcomes read as what its elements carry;
when it fails the calls stop at an element whose outcome failed to read with that fault. -/
theorem run_visit_noted (reg : Registry (Conv σ)) (data : Value) (k : Nat) (item : Item) (s : σ) :
    let V := (visit reg.noting data k item).run.run (s, [])
    let rs := reached reg k item
    (∀ p ∈ V.2.2.zip rs, p.2.Noted data p.1) ∧
      (∀ d, V.1 = .ok d → V.2.2.map Prod.fst = rs.map (Reached.call data) ∧
          (V.2.2.zip rs).mapM (fun p => p.1.2.bind (resultHead p.2.slot)) = .ok d.heads) ∧
      ∀ f, V.1 = .error f → ∃ j < rs.length,
        V.2.2.map Prod.fst = (rs.map (Reached.call data)).take (j + 1) ∧
        (∃ hs, ((V.2.2.zip rs).take j).mapM (fun p => p.1.2.bind (resultHead p.2.slot)) =
          .ok hs) ∧
        ∃ n ∈ V.2.2.getLast?, ∃ r ∈ rs[j]?, n.2.bind (resultHead r.slot) = .error f := by
  intro V rs
  have hS : (steps reg.noting data k item).run.run (s, []) =
      ((rs.map Reached.noting).mapM (Reached.describe data)).run.run (s, []) := by
    simp only [rs, steps, reached_noting]
  obtain ⟨notes, hlog, hnoted, hcase⟩ := run_noted_steps rs data s []
  have hlog' : V.2.2 = notes := by
    simp only [V, run_visit_state, hS, hlog, List.nil_append]
  have hheads : V.1.map Descriptor.heads =
      (((rs.map Reached.noting).mapM (Reached.describe data)).run.run (s, [])).1 := by
    rw [← hS]
    exact run_visit_heads reg.noting data k item (s, [])
  rw [hlog']
  refine ⟨hnoted, fun d hd => ?_, fun f hf => ?_⟩
  -- the steps end as the conversion does, so only the matching case of them remains
  all_goals rcases hcase with ⟨hs, hq, hcalls, hreads⟩ | ⟨g, j, hq, hj, hcalls, hpre, hlast⟩
  · rw [hd, hq] at hheads
    cases hheads
    exact ⟨hcalls, hreads⟩
  · rw [hd, hq] at hheads
    cases hheads
  · rw [hf, hq] at hheads
    cases hheads
  · rw [hf, hq] at hheads
    cases hheads
    exact ⟨j, hj, hcalls, hpre, hlast⟩

/-- Converting a document calls, in document order, the converter of each element whose
name and whose ancestors' names all have converters, once, with the element's attributes and
the data; the outcomes read as the types and props of the tree it gives. When the outcome of
a call cannot be read as a type and props (the converter raised, returned no mapping, or gave
props that do not merge), the conversion fails with that fault: every earlier outcome read,
and no later element's converter is called. -/
theorem convert_calls_in_document_order (reg : Registry (Conv σ)) (xml data : Value) (s : σ) :
    let run := (convert reg.noting xml data).run.run (s, [])
    let expected := match (readForConversion xml).1 with
      | some root => reached reg 0 (Item.root root)
      | none => []
    (∀ o, run.1 = .ok o → run.2.2.map Prod.fst = expected.map (Reached.call data) ∧
        (run.2.2.zip expected).mapM (fun p => p.1.2.bind (resultHead p.2.slot)) =
          .ok o.tree.heads) ∧
      ∀ f, run.1 = .error f → ∃ j < expected.length,
        run.2.2.map Prod.fst = (expected.map (Reached.call data)).take (j + 1) ∧
        (∃ hs, ((run.2.2.zip expected).take j).mapM
          (fun p => p.1.2.bind (resultHead p.2.slot)) = .ok hs) ∧
        ∃ n ∈ run.2.2.getLast?, ∃ r ∈ expected[j]?, n.2.bind (resultHead r.slot) = .error f := by
  intro run expected
  have hrun := run_convert reg.noting xml data (s, [])
  cases hread : readForConversion xml with
  | mk root? ws =>
    rw [hread] at hrun
    cases root? with
    | none =>
      simp [run, expected, hread, hrun, Descriptor.heads]
      rfl
    | some root =>
      obtain ⟨-, hok, herr⟩ := run_visit_noted reg data 0 (Item.root root) s
      simp only [run, expected, hread, hrun]
      refine ⟨fun o ho => ?_, fun f hf => ?_⟩
      -- the outcome is the root's tree with the warnings, so it ends as the root's conversion
      · cases hv : ((visit reg.noting data 0 (Item.root root)).run.run (s, [])).1 with
        | ok d =>
          rw [hv] at ho
          cases ho
          exact hok d hv
        | error g =>
          rw [hv] at ho
          cases ho
      · cases hv : ((visit reg.noting data 0 (Item.root root)).run.run (s, [])).1 with
        | ok d =>
          rw [hv] at hf
          cases hf
        | error g =>
          rw [hv] at hf
          cases hf
          exact herr _ hv

end XmlView.Conversion
