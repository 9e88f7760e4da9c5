import XmlView.Proofs.Writing
import XmlView.Proofs.Census
import XmlView.Proofs.Configured
import XmlView.Proofs.StatusLines
import XmlView.Command.Convert

/-! Running the conversion command on a disk. Its steps act on a console and on the disk and
may stop; each stage is read here once, by a lemma that says what it gives from what reading
the disk gives, and `ended` puts them together: a run ends in one of seven ways, at the
first stage that fails or after writing the tree. -/

namespace XmlView

namespace Config

theorem ofFile_eq_ok {path : String} {read : Except Files.OsError (List UInt8)} {C : Mappings}
    (h : ofFile path read = .ok C) : ∃ v, parse v = .ok C := by
  unfold ofFile at h
  -- past reading, decoding and loading the YAML, only a mapping is parsed
  split at h
  · simp only [pure_bind] at h
    split at h
    · split at h
      · split at h
        · contradiction
        · exact ⟨_, h⟩
        · contradiction
      · contradiction
      · contradiction
    · contradiction
  · contradiction

theorem ne_nil_of_ofFile {path : String} {read : Except Files.OsError (List UInt8)} {C : Mappings}
    (h : ofFile path read = .ok C) : C ≠ [] := by
  obtain ⟨v, hv⟩ := ofFile_eq_ok h
  exact parse_ne_nil hv

end Config

namespace Files.Disk

def makeParents (d : Disk) (path : String) : Except OsError Disk :=
  let dir := dirName path
  if dir.isEmpty then .ok d else makeDirs ((components dir).length + 2) d dir

def openFor (d : Disk) (path : String) : Except OsError Disk :=
  (d.makeParents path).bind (·.create path)

theorem moreDirs_of_makeParents {d d' : Disk} {path : String} (h : d.makeParents path = .ok d') :
    MoreDirs d d' := by
  unfold makeParents at h
  dsimp only at h
  split at h
  · cases h
    exact MoreDirs.refl d
  · exact moreDirs_of_makeDirs _ h

theorem openFor_eq_ok {d d₂ : Disk} {path : String} (h : d.openFor path = .ok d₂) :
    ∃ d₁ place, MoreDirs d d₁ ∧ d₁.locate path = .ok place ∧
      d₁.lookup place ≠ some .directory ∧ path.endsWith "/" = false ∧
      d₂ = d₁.put place (.file []) := by
  obtain ⟨d₁, hd₁, hc⟩ := Conversion.except_bind_eq_ok.mp h
  obtain ⟨place, hl, hplace, hslash, rfl⟩ := create_eq_ok hc
  exact ⟨d₁, place, moreDirs_of_makeParents hd₁, hl, hplace, hslash, rfl⟩

theorem read_append_of_openFor {d d₂ : Disk} {path : String} (h : d.openFor path = .ok d₂)
    (bs : List UInt8) : (d₂.append path bs).read path = .ok bs := by
  obtain ⟨d₁, place, -, hl, hplace, hslash, rfl⟩ := openFor_eq_ok h
  rw [append_put_file hl hplace, List.nil_append]
  exact read_put_file hl hplace hslash bs

theorem emptied_of_openFor {d d₂ : Disk} {path : String} (h : d.openFor path = .ok d₂) :
    ∃ place, d₂.locate path = .ok place ∧ d₂.read path = .ok [] ∧
      ∀ q, q ≠ place → d₂.fileAt q = d.fileAt q := by
  obtain ⟨d₁, place, hmore, hl, hplace, hslash, rfl⟩ := openFor_eq_ok h
  refine ⟨place, locate_put hl hplace _, read_put_file hl hplace hslash [], fun q hq => ?_⟩
  rw [fileAt_put_of_ne d₁ _ hq]
  exact hmore.1 q

end Files.Disk

namespace Conversion.Descriptor

def isElement : Descriptor → Bool
  | .element .. => true
  | _ => false

end Conversion.Descriptor

namespace Command

open Conversion Files

/-- Steps run on a console and a disk: what they give, and the console and the disk after. -/
def exec {α : Type} (x : Steps (StateM Disk) α) (c : Console) (d : Disk) :
    (Except Stop α × Console) × Disk :=
  (x.run.run c).run d

section Exec

variable {α β : Type} (c : Console) (d : Disk)

theorem exec_bind (x : Steps (StateM Disk) α) (f : α → Steps (StateM Disk) β) :
    exec (x >>= f) c d = match exec x c d with
      | ((.ok a, c'), d') => exec (f a) c' d'
      | ((.error e, c'), d') => ((.error e, c'), d') := by
  unfold exec
  simp only [ExceptT.run_bind, StateT.run_bind]
  rcases h : ((x.run.run c).run d) with ⟨⟨r, c'⟩, d'⟩
  cases r <;> simp_all [StateT.run] <;> rfl

@[simp] theorem exec_pure (a : α) : exec (pure a) c d = ((.ok a, c), d) := rfl

@[simp] theorem exec_throw (s : Stop) :
    exec (throw s : Steps (StateM Disk) α) c d = ((.error s, c), d) := rfl

@[simp] theorem exec_say (f : Console → Console) : exec (say f) c d = ((.ok (), f c), d) := rfl

@[simp] theorem exec_check (r : Except Problem α) :
    exec (check r) c d = ((r.mapError Stop.problem, c), d) := by
  cases r <;> rfl

@[simp] theorem exec_lift (x : StateM Disk α) :
    exec (liftM x : Steps (StateM Disk) α) c d = ((.ok (x.run d).1, c), (x.run d).2) := rfl

end Exec

section Stages

variable (c : Console) (d : Disk)

@[simp] theorem run_load (path : String) :
    (XmlView.Config.load path : StateM Disk (Except Problem XmlView.Config.Mappings)).run d =
      (XmlView.Config.ofFile path (d.read path), d) := rfl

@[simp] theorem run_read (path : String) :
    (FileSystem.read path : StateM Disk (Except OsError (List UInt8))).run d = (d.read path, d) := rfl

@[simp] theorem run_append (path : String) (bs : List UInt8) :
    (FileSystem.append path bs : StateM Disk Unit).run d = ((), d.append path bs) := rfl

theorem run_makeDirs (path : String) :
    (FileSystem.makeDirs path : StateM Disk (Except OsError Unit)).run d =
      match Disk.makeDirs ((components path).length + 2) d path with
      | .ok d' => (.ok (), d')
      | .error e => (.error e, d) := by
  simp only [FileSystem.makeDirs, StateT.run_bind, StateT.run_get, pure_bind]
  cases Disk.makeDirs ((components path).length + 2) d path <;> rfl

theorem run_create (path : String) :
    (FileSystem.create path : StateM Disk (Except OsError Unit)).run d =
      match d.create path with
      | .ok d' => (.ok (), d')
      | .error e => (.error e, d) := by
  simp only [FileSystem.create, StateT.run_bind, StateT.run_get, pure_bind]
  cases d.create path <;> rfl

theorem exec_makeParents (path : String) :
    exec (makeParents path) c d = match d.makeParents path with
      | .ok d' => ((.ok (), c), d')
      | .error e => ((.error (.problem (.output path (some e.message))), c), d) := by
  unfold makeParents Disk.makeParents
  by_cases hdir : (Disk.dirName path).isEmpty = true
  · simp [hdir]
  · have hdir' : (Disk.dirName path).isEmpty = false := by simpa using hdir
    simp only [hdir', Bool.not_false, if_true, Bool.false_eq_true, if_false, exec_bind, exec_lift,
      run_makeDirs]
    cases Disk.makeDirs ((components (Disk.dirName path)).length + 2) d (Disk.dirName path) <;> rfl

theorem exec_openOutput (path : String) :
    exec (openOutput path) c d = match d.makeParents path with
      | .ok d₁ =>
        match d₁.create path with
        | .ok d₂ => ((.ok (), c), d₂)
        | .error e => ((.error (.problem (.output path (some e.message))), c), d₁)
      | .error e => ((.error (.problem (.output path (some e.message))), c), d) := by
  unfold openOutput
  rw [exec_bind, exec_makeParents]
  cases d.makeParents path with
  | error e => rfl
  | ok d₁ =>
    simp only [exec_bind, exec_lift, run_create]
    cases d₁.create path <;> rfl

theorem exec_writeFile (path : String) (text : Text) :
    exec (writeFile path text) c d = match text.encode with
      | .ok s => ((.ok (), c), d.append path (s ++ "\n").toUTF8.toList)
      | .error f => ((.error (.problem (.general f.message)), c), d) := by
  unfold writeFile
  cases text.encode <;> rfl

theorem exec_loadRegistry_of_error (o : Options) {p : Problem}
    (h : XmlView.Config.ofFile o.configPath (d.read o.configPath) = .error p) :
    exec (loadRegistry o) c d = ((.error (.problem p), c), d) := by
  unfold loadRegistry
  simp only [exec_bind, exec_lift, run_load, h, exec_check]
  rfl

theorem exec_loadRegistry_of_ok (o : Options) {C : XmlView.Config.Mappings}
    (h : XmlView.Config.ofFile o.configPath (d.read o.configPath) = .ok C) :
    exec (loadRegistry o) c d = ((.ok (XmlView.Config.registryOf C), c), d) := by
  unfold loadRegistry
  simp only [exec_bind, exec_lift, run_load, h, exec_check, Except.mapError,
    XmlView.Config.make_offer (XmlView.Config.ne_nil_of_ofFile h)]

theorem exec_readInput_of_error (o : Options) {p : Problem}
    (h : readXml o.xmlPath (d.read o.xmlPath) = .error p) :
    exec (readInput o) c d = ((.error (.problem p), c), d) := by
  unfold readInput
  simp only [exec_bind, exec_lift, run_read, h, exec_check]
  rfl

theorem exec_readInput_of_ok (o : Options) {t : Text}
    (h : readXml o.xmlPath (d.read o.xmlPath) = .ok t) :
    exec (readInput o) c d = ((.ok t, c.debug (readNote o t)), d) := by
  unfold readInput
  simp only [exec_bind, exec_lift, run_read, h, exec_check]
  rfl

theorem exec_convertInput {reg : Registry (Except Fault)} {xml : Text} {out : Outcome}
    (h : convert reg (.str xml) .none = .ok out) :
    exec (convertInput reg xml) c d =
      ((if out.tree.isElement then .ok out.tree else .error .noTree,
        out.warnings.foldl Console.record c), d) := by
  unfold convertInput
  simp only [exec_bind, h, exec_check, Except.mapError, exec_say]
  obtain ⟨tree, ws⟩ := out
  cases tree <;> rfl

def Console.withSummary (c : Console) (o : Options) (counts : Summary) : Console :=
  (if counts.skipped > 0 then c.warning (skippedNote o counts.skipped) else c).summary counts

theorem exec_showCounts (o : Options) (tree : Descriptor) :
    exec (showCounts o tree) c d = ((.ok (), c.withSummary o (Summary.ofDescriptor tree)), d) := by
  unfold showCounts Console.withSummary
  by_cases h : (Summary.ofDescriptor tree).skipped > 0
  · simp [h, exec_bind]
  · simp [h]

end Stages

/-- How writing the JSON text of a tree ends, from a console and a disk. -/
inductive Wrote (o : Options) (text : Text) (c : Console) (d : Disk) :
    (Except Stop Unit × Console) × Disk → Prop
  /-- Standard output takes bytes, and the text as the terminal shows it is not UTF-8. -/
  | refused {f : Text.EncodeFault} : o.output = none → o.encodedOutput = true →
      Text.firstFault 0 (onTerminal text.points) = some f →
      Wrote o text c d ((.error (.problem (.general (f.message ++ "\n" ++ encodingHint))), c), d)
  /-- The text goes to standard output. -/
  | shown : o.output = none →
      (o.encodedOutput = true → Text.firstFault 0 (onTerminal text.points) = none) →
      Wrote o text c d ((.ok (), c.data text), d)
  /-- The output file cannot be opened; directories of its path may have been made. -/
  | unopened {path : String} {e : OsError} {d' : Disk} : o.output = some path →
      d.openFor path = .error e → d.MoreDirs d' →
      Wrote o text c d ((.error (.problem (.output path (some e.message))), c), d')
  /-- The output file is opened, so left empty, and the text is not UTF-8. -/
  | unencodable {path : String} {d' : Disk} {f : Text.EncodeFault} : o.output = some path →
      d.openFor path = .ok d' → text.encode = .error f →
      Wrote o text c d ((.error (.problem (.general f.message)), c), d')
  /-- The output file holds the text as UTF-8, then a line feed. -/
  | file {path : String} {d' : Disk} {s : String} : o.output = some path →
      d.openFor path = .ok d' → text.encode = .ok s →
      Wrote o text c d ((.ok (), c.success (wroteNote path)),
        d'.append path (s ++ "\n").toUTF8.toList)

theorem wrote (o : Options) (text : Text) (c : Console) (d : Disk) :
    Wrote o text c d (exec (writeTree o text) c d) := by
  unfold writeTree
  cases ho : o.output with
  | none =>
    unfold showData
    cases he : o.encodedOutput <;> cases hf : Text.firstFault 0 (onTerminal text.points)
    · exact .shown ho (fun h => by simp [he] at h)
    · exact .shown ho (fun h => by simp [he] at h)
    · exact .shown ho (fun _ => hf)
    · exact .refused ho he hf
  | some path =>
    dsimp only
    rw [exec_bind, exec_openOutput]
    cases hp : d.makeParents path with
    | error e =>
      refine .unopened ho ?_ (.refl d)
      simp [Disk.openFor, hp, Except.bind]
    | ok d₁ =>
      dsimp only
      cases hc : d₁.create path with
      | error e =>
        refine .unopened ho ?_ (Disk.moreDirs_of_makeParents hp)
        simp [Disk.openFor, hp, hc, Except.bind]
      | ok d₂ =>
        -- the file is open: what is left is to write the text into it
        have hopen : d.openFor path = .ok d₂ := by simp [Disk.openFor, hp, hc, Except.bind]
        dsimp only
        rw [exec_bind, exec_writeFile]
        cases hs : text.encode with
        | error f => exact .unencodable ho hopen hs
        | ok s => exact .file ho hopen hs

/-- The console once the XML text `t` has been read and converted: what reading it says,
from verbosity two on, and the warnings `ws` of reading it in the log. -/
def Console.afterReading (c : Console) (o : Options) (t : Text) (ws : List String) : Console :=
  ws.foldl Console.record (c.debug (readNote o t))


namespace Console

/-! Only `data` writes on standard output; the other operations write status lines or the
log. -/

variable (c : Console) (m : String)

@[simp] theorem stdout_line : (c.line m).stdout = c.stdout := rfl

@[simp] theorem stdout_success : (c.success m).stdout = c.stdout := rfl

@[simp] theorem stdout_error : (c.error m).stdout = c.stdout := rfl

@[simp] theorem stdout_warning : (c.warning m).stdout = c.stdout := rfl

@[simp] theorem stdout_record : (c.record m).stdout = c.stdout := rfl

@[simp] theorem stdout_debug : (c.debug m).stdout = c.stdout := by
  unfold debug
  split <;> rfl

@[simp] theorem stdout_summary (s : Summary) : (c.summary s).stdout = c.stdout := by
  unfold summary
  split
  · rfl
  · dsimp only
    split <;> rfl

@[simp] theorem stdout_data (t : Text) :
    (c.data t).stdout = c.stdout ++ ⟨onTerminal t.points⟩ ++ Text.ofString "\n" := rfl

@[simp] theorem stdout_records (ws : List String) :
    (ws.foldl Console.record c).stdout = c.stdout := by
  induction ws generalizing c with
  | nil => rfl
  | cons w ws ih => exact ih (c.record w)

@[simp] theorem stderr_records (ws : List String) :
    (ws.foldl Console.record c).stderr = c.stderr := by
  induction ws generalizing c with
  | nil => rfl
  | cons w ws ih => exact ih (c.record w)

theorem stderr_debug :
    (c.debug m).stderr = c.stderr ∨
      (c.debug m).stderr = c.stderr ++ shown c.emoji (dimMarkup m) ++ "\n" := by
  unfold debug
  split
  · exact .inr rfl
  · exact .inl rfl

@[simp] theorem stdout_afterReading (o : Options) (t : Text) (ws : List String) :
    (c.afterReading o t ws).stdout = c.stdout := by
  simp [afterReading]

@[simp] theorem emoji_records (ws : List String) :
    (ws.foldl Console.record c).emoji = c.emoji := by
  induction ws generalizing c with
  | nil => rfl
  | cons w ws ih => exact ih (c.record w)

@[simp] theorem emoji_debug : (c.debug m).emoji = c.emoji := by
  unfold debug
  split <;> rfl

@[simp] theorem emoji_afterReading (o : Options) (t : Text) (ws : List String) :
    (c.afterReading o t ws).emoji = c.emoji := by
  simp [afterReading]

@[simp] theorem stdout_withSummary (o : Options) (counts : Summary) :
    (c.withSummary o counts).stdout = c.stdout := by
  unfold withSummary
  split <;> simp

end Console

section Ending

variable (o : Options) (c : Console) (d : Disk)

/-- The configuration loads as `C`, the XML file reads as `t`, and converting `t` with the
converters of `C` gives `out`. -/
def Converts (C : XmlView.Config.Mappings) (t : Text) (out : Outcome) : Prop :=
  XmlView.Config.ofFile o.configPath (d.read o.configPath) = .ok C ∧
    readXml o.xmlPath (d.read o.xmlPath) = .ok t ∧
    convert (XmlView.Config.registryOf C) (.str t) .none = .ok out

/-- How the steps after a conversion that gave `out` end, from the console after reading:
with no element, with no JSON text for it, with the text not written, or written and the
counts shown. -/
inductive Converted (out : Outcome) : (Except Stop Unit × Console) × Disk → Prop
  | noTree : out.tree.isElement = false → Converted out ((.error .noTree, c), d)
  | untexted {f : Fault} : out.tree.isElement = true → treeText out.tree o.indent = .error f →
      Converted out ((.error (.problem (.fault f)), c), d)
  | unwritten {text : Text} {s : Stop} {c' : Console} {d' : Disk} : out.tree.isElement = true →
      treeText out.tree o.indent = .ok text → Wrote o text c d ((.error s, c'), d') →
      Converted out ((.error s, c'), d')
  | written {text : Text} {c' : Console} {d' : Disk} : out.tree.isElement = true →
      treeText out.tree o.indent = .ok text → Wrote o text c d ((.ok (), c'), d') →
      Converted out ((.ok (), c'.withSummary o (Summary.ofDescriptor out.tree)), d')

/-- How the steps of a command end, from a console and a disk: with a configuration that
does not load, an XML file that does not read, or after converting it. -/
inductive Ended : (Except Stop Unit × Console) × Disk → Prop
  | config {p : Problem} : XmlView.Config.ofFile o.configPath (d.read o.configPath) = .error p →
      Ended ((.error (.problem p), c), d)
  | input {C : XmlView.Config.Mappings} {p : Problem} :
      XmlView.Config.ofFile o.configPath (d.read o.configPath) = .ok C →
      readXml o.xmlPath (d.read o.xmlPath) = .error p → Ended ((.error (.problem p), c), d)
  | converted {C : XmlView.Config.Mappings} {t : Text} {out : Outcome}
      {E : (Except Stop Unit × Console) × Disk} : Converts o d C t out →
      Converted o (c.afterReading o t out.warnings) d out E → Ended E

/-- The steps of a command end in one of the ways `Ended` lists. -/
theorem ended : Ended o c d (exec (steps o) c d) := by
  unfold steps
  rw [exec_bind]
  cases hC : XmlView.Config.ofFile o.configPath (d.read o.configPath) with
  | error p =>
    rw [exec_loadRegistry_of_error c d o hC]
    exact .config hC
  | ok C =>
    rw [exec_loadRegistry_of_ok c d o hC]
    dsimp only
    rw [exec_bind]
    cases ht : readXml o.xmlPath (d.read o.xmlPath) with
    | error p =>
      rw [exec_readInput_of_error c d o ht]
      exact .input hC ht
    | ok t =>
      rw [exec_readInput_of_ok c d o ht]
      dsimp only
      rw [exec_bind]
      -- the converters of a configuration return mappings, so the conversion succeeds
      obtain ⟨out, hout⟩ := convert_ok (XmlView.Config.maps_registryOf C) .none (.str t)
      refine .converted ⟨hC, ht, hout⟩ ?_
      rw [exec_convertInput _ _ hout]
      cases hel : out.tree.isElement with
      | false => exact .noTree hel
      | true =>
        rw [if_pos rfl]
        dsimp only
        rw [exec_bind, exec_check]
        cases htext : treeText out.tree o.indent with
        | error f => exact .untexted hel htext
        | ok text =>
          dsimp only [Except.mapError]
          rw [exec_bind]
          have hw := wrote o text (out.warnings.foldl Console.record (c.debug (readNote o t))) d
          rcases hx : exec (writeTree o text) (out.warnings.foldl Console.record
            (c.debug (readNote o t))) d with ⟨⟨r, c'⟩, d'⟩
          rw [hx] at hw
          cases r with
          | error s => exact .unwritten hel htext hw
          | ok u =>
            dsimp only
            rw [exec_showCounts]
            exact .written hel htext hw

/-- The report and the disk a command leaves, from how its steps ended: exit code zero and
the console when they succeed, and otherwise the report of why they stopped. -/
def finish : (Except Stop Unit × Console) × Disk → Report × Disk
  | ((.ok (), c), d') => (⟨0, c⟩, d')
  | ((.error s, c), d') => (⟨(report o s c).1, (report o s c).2⟩, d')

theorem run_eq :
    (run o : StateM Disk Report).run d =
      finish o (exec (steps o) { verbosity := o.verbosity, emoji := o.emoji } d) := by
  unfold run runAfter exec
  simp only [StateT.run_bind]
  rcases ((steps o : Steps (StateM Disk) Unit).run.run
    { verbosity := o.verbosity, emoji := o.emoji }).run d with ⟨⟨r, c'⟩, d'⟩
  cases r <;> rfl

def Stop.code : Stop → Nat
  | .noTree => 2
  | .problem _ => 1

/-- The report of a stop: its code, the standard output as it was, and one error line added to
standard error. -/
@[simp] theorem report_exit (s : Stop) : (report o s c).1 = s.code := by
  unfold report
  cases s with
  | noTree => rfl
  | problem p => cases p <;> rfl

theorem report_stdout (s : Stop) : (report o s c).2.stdout = c.stdout := by
  unfold report
  cases s with
  | noTree => rfl
  | problem p => cases p <;> rfl

theorem report_stderr (s : Stop) :
    ∃ msg, (report o s c).2.stderr = c.stderr ++ statusLine c.emoji "✗ " msg ++ "\n" := by
  unfold report
  cases s with
  | noTree => exact ⟨_, Console.stderr_error _ _⟩
  | problem p => cases p <;> exact ⟨_, Console.stderr_error _ _⟩

namespace Ended

variable {o c d} {E : (Except Stop Unit × Console) × Disk}

theorem eq_of_config_error (hE : Ended o c d E) {p : Problem}
    (h : XmlView.Config.ofFile o.configPath (d.read o.configPath) = .error p) :
    E = ((.error (.problem p), c), d) := by
  cases hE with
  | config hp =>
    rw [h] at hp
    cases hp
    rfl
  | input hC _ =>
    rw [h] at hC
    cases hC
  | converted hconv _ =>
    have hC := hconv.1
    rw [h] at hC
    cases hC

/-- Once the configuration loads and the XML file reads, the steps end after converting it,
with the outcome of that conversion. -/
theorem converted_of_converts (hE : Ended o c d E) {C : XmlView.Config.Mappings} {t : Text}
    {out : Outcome} (h : Converts o d C t out) :
    Converted o (c.afterReading o t out.warnings) d out E := by
  obtain ⟨hC, ht, hout⟩ := h
  cases hE with
  | config hp =>
    rw [hC] at hp
    cases hp
  | input hC' ht' =>
    rw [ht] at ht'
    cases ht'
  | converted hconv hend =>
    obtain ⟨hC', ht', hout'⟩ := hconv
    -- the same configuration, text and outcome
    rw [hC] at hC'
    cases hC'
    rw [ht] at ht'
    cases ht'
    rw [hout] at hout'
    cases hout'
    exact hend

end Ended

end Ending

end Command

end XmlView
