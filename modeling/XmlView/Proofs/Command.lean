import XmlView.Proofs.Run

/-! What a conversion command does on a disk: when it succeeds, where the JSON text goes,
which exit code it ends with, and what a failure leaves on the console and the disk. -/

namespace XmlView.Command
open Conversion Files

variable (o : Options) (d : Disk)

/-- Whether the JSON text can be written where the options say: standard output that takes
bytes takes UTF-8 only; a file must open, and the text must be UTF-8. -/
def Writable (text : Text) : Prop :=
  match o.output with
  | none => o.encodedOutput = true → Text.firstFault 0 (onTerminal text.points) = none
  | some path => (∃ d', d.openFor path = .ok d') ∧ ∃ s, text.encode = .ok s

/-- The command converts an element whose JSON text can be written. -/
def Succeeds : Prop :=
  ∃ C t out text, Converts o d C t out ∧ out.tree.isElement = true ∧
    treeText out.tree o.indent = .ok text ∧ Writable o d text

/-- The command reads its configuration and its XML file, and the conversion gives no
element. -/
def FindsNoTree : Prop :=
  ∃ C t out, Converts o d C t out ∧ out.tree.isElement = false

/-- Where the JSON text went: onto standard output, with no file touched, or into the output
file as UTF-8 and a line feed, with nothing on standard output. -/
def Delivered (text : Text) (r : Report) (d' : Disk) : Prop :=
  match o.output with
  | none => r.console.stdout = ⟨onTerminal text.points⟩ ++ Text.ofString "\n" ∧ d' = d
  | some path => r.console.stdout = Text.empty ∧
      ∃ s, text.encode = .ok s ∧ d'.read path = .ok (s ++ "\n").toUTF8.toList

/-- Standard error holds one error line, after at most one debug line. -/
def OneError (emoji : Bool) (stderr : String) : Prop :=
  ∃ pre msg, stderr = pre ++ statusLine emoji "✗ " msg ++ "\n" ∧
    (pre = "" ∨ ∃ s, pre = shown emoji (dimMarkup s) ++ "\n")

/-- No file is changed or added, except that an output file opened for a JSON text that is
not UTF-8 is left empty. -/
def KeptFiles (d' : Disk) : Prop :=
  (∀ q, d'.fileAt q = d.fileAt q) ∨
    ∃ path place, o.output = some path ∧
      (∃ C t out text f, Converts o d C t out ∧ treeText out.tree o.indent = .ok text ∧
        text.encode = .error f) ∧
      d'.locate path = .ok place ∧ d'.read path = .ok [] ∧
      ∀ q, q ≠ place → d'.fileAt q = d.fileAt q

/-- What a conversion command does on the disk `d`, when it reports `r` and leaves `d'`. -/
structure Expected (r : Report) (d' : Disk) : Prop where
  /-- It succeeds exactly when it converts an element whose JSON text can be written. -/
  succeeds : r.exit = 0 ↔ Succeeds o d
  /-- When it succeeds, the JSON text is where the options say, once. -/
  delivered : r.exit = 0 → ∀ C t out text, Converts o d C t out →
    treeText out.tree o.indent = .ok text → Delivered o d text r d'
  /-- It ends with code two exactly when the conversion gives no element. -/
  noTree : r.exit = 2 ↔ FindsNoTree o d
  /-- It ends with code one otherwise. -/
  general : r.exit = 1 ↔ ¬ Succeeds o d ∧ ¬ FindsNoTree o d
  /-- When it fails, standard output is empty, standard error has one error line, and no
  file is changed but an output file left empty. -/
  failed : r.exit ≠ 0 → r.console.stdout = Text.empty ∧ OneError o.emoji r.console.stderr ∧
    KeptFiles o d d'
  /-- A configuration that does not load is what is reported, whatever the XML file holds,
  and nothing else is done. -/
  configFirst : ∀ p, Config.ofFile o.configPath (d.read o.configPath) = .error p →
    (r.exit, r.console) = report o (.problem p) { verbosity := o.verbosity, emoji := o.emoji } ∧
      d' = d

namespace Wrote

variable {o : Options} {d : Disk} {text : Text} {c c' : Console} {d' : Disk}

theorem of_error {s : Stop} (h : Wrote o text c d ((.error s, c'), d')) :
    c' = c ∧ ∃ p, s = .problem p := by
  cases h <;> exact ⟨rfl, _, rfl⟩

theorem writable (h : Wrote o text c d ((.ok (), c'), d')) : Writable o d text := by
  cases h with
  | shown ho hf =>
    simp only [Writable, ho]
    exact hf
  | file ho hopen hs =>
    simp only [Writable, ho]
    exact ⟨⟨_, hopen⟩, _, hs⟩

theorem ok_of_writable {r : Except Stop Unit} (h : Wrote o text c d ((r, c'), d'))
    (hw : Writable o d text) : r = .ok () := by
  cases h with
  | refused ho he hf =>
    simp only [Writable, ho] at hw
    rw [hw he] at hf
    cases hf
  | shown => rfl
  | unopened ho hopen =>
    simp only [Writable, ho] at hw
    obtain ⟨⟨d₁, hd₁⟩, -⟩ := hw
    rw [hd₁] at hopen
    cases hopen
  | unencodable ho _ hs =>
    simp only [Writable, ho] at hw
    obtain ⟨-, s, hs'⟩ := hw
    rw [hs'] at hs
    cases hs
  | file => rfl

theorem eq_of_unencodable {E : (Except Stop Unit × Console) × Disk} (h : Wrote o text c d E)
    {path : String} {d₂ : Disk} {f : Text.EncodeFault} (ho : o.output = some path)
    (hopen : d.openFor path = .ok d₂) (hs : text.encode = .error f) :
    E = ((.error (.problem (.general f.message)), c), d₂) := by
  cases h with
  | refused ho' | shown ho' =>
    rw [ho] at ho'
    cases ho'
  | unopened ho' hopen' =>
    rw [ho] at ho'
    cases ho'
    rw [hopen] at hopen'
    cases hopen'
  | unencodable ho' hopen' hs' =>
    rw [ho] at ho'
    cases ho'
    rw [hopen] at hopen'
    cases hopen'
    rw [hs] at hs'
    cases hs'
    rfl
  | file _ _ hs' =>
    rw [hs] at hs'
    cases hs'

end Wrote

theorem Console.stderr_afterReading (c : Console) (o : Options) (t : Text) (ws : List String) :
    (c.afterReading o t ws).stderr = c.stderr ∨
      ∃ m, (c.afterReading o t ws).stderr = c.stderr ++ shown c.emoji (dimMarkup m) ++ "\n" := by
  simp only [Console.afterReading, Console.stderr_records]
  rcases Console.stderr_debug c (readNote o t) with h | h
  · exact .inl h
  · exact .inr ⟨_, h⟩

theorem oneError_report (s : Stop) {c : Console}
    (h : c.stderr = "" ∨ ∃ m, c.stderr = shown c.emoji (dimMarkup m) ++ "\n") :
    OneError c.emoji (report o s c).2.stderr := by
  obtain ⟨msg, hmsg⟩ := report_stderr o c s
  exact ⟨c.stderr, msg, hmsg, h⟩

namespace Ended

variable {o : Options} {c : Console} {d : Disk} {r : Except Stop Unit} {c' : Console} {d' : Disk}

theorem ok_iff (hE : Ended o c d ((r, c'), d')) : r = .ok () ↔ Succeeds o d := by
  constructor
  · rintro rfl
    cases hE with
    | converted hconv hend =>
      cases hend with
      | written hel htext hw => exact ⟨_, _, _, _, hconv, hel, htext, hw.writable⟩
  · rintro ⟨C, t, out, text, hconv, hel, htext, hw⟩
    cases hE.converted_of_converts hconv with
    | noTree h =>
      rw [hel] at h
      cases h
    | untexted _ h =>
      rw [htext] at h
      cases h
    | unwritten _ h hw' =>
      rw [htext] at h
      cases h
      exact hw'.ok_of_writable hw
    | written => rfl

theorem noTree_iff (hE : Ended o c d ((r, c'), d')) : r = .error .noTree ↔ FindsNoTree o d := by
  constructor
  · rintro rfl
    cases hE with
    | converted hconv hend =>
      cases hend with
      | noTree hel => exact ⟨_, _, _, hconv, hel⟩
      | unwritten _ _ hw =>
        obtain ⟨-, p, hp⟩ := hw.of_error
        cases hp
  · rintro ⟨C, t, out, hconv, hel⟩
    cases hE.converted_of_converts hconv with
    | noTree => rfl
    | untexted h =>
      rw [hel] at h
      cases h
    | unwritten h =>
      rw [hel] at h
      cases h
    | written h =>
      rw [hel] at h
      cases h

theorem delivered (hE : Ended o c d ((.ok (), c'), d')) (hc : c.stdout = Text.empty)
    {C : XmlView.Config.Mappings} {t text : Text} {out : Outcome} (hconv : Converts o d C t out)
    (htext : treeText out.tree o.indent = .ok text) : Delivered o d text ⟨0, c'⟩ d' := by
  cases hE.converted_of_converts hconv with
  | written _ htext' hw =>
    rw [htext] at htext'
    cases htext'
    cases hw with
    | shown ho =>
      simp only [Delivered, ho]
      simp [hc]
    | file ho hopen hs =>
      simp only [Delivered, ho]
      exact ⟨by simp [hc], _, hs, Disk.read_append_of_openFor hopen _⟩

/-- Steps that fail write nothing on standard output and at most the line of reading on
standard error, and keep every file but an output file opened for a text that is not UTF-8. -/
theorem failed {s : Stop} (hE : Ended o c d ((.error s, c'), d')) :
    c'.stdout = c.stdout ∧ c'.emoji = c.emoji ∧
      (c'.stderr = c.stderr ∨ ∃ m, c'.stderr = c.stderr ++ shown c.emoji (dimMarkup m) ++ "\n") ∧
      KeptFiles o d d' := by
  have hkept : ∀ q, d.fileAt q = d.fileAt q := fun _ => rfl
  cases hE with
  | config => exact ⟨rfl, rfl, .inl rfl, .inl hkept⟩
  | input => exact ⟨rfl, rfl, .inl rfl, .inl hkept⟩
  | converted hconv hend =>
    -- a failure after reading leaves the console as reading left it
    cases hend with
    | noTree =>
      exact ⟨Console.stdout_afterReading .., Console.emoji_afterReading ..,
        Console.stderr_afterReading .., .inl hkept⟩
    | untexted =>
      exact ⟨Console.stdout_afterReading .., Console.emoji_afterReading ..,
        Console.stderr_afterReading .., .inl hkept⟩
    | unwritten _ htext hw =>
      obtain ⟨rfl, -⟩ := hw.of_error
      refine ⟨Console.stdout_afterReading .., Console.emoji_afterReading ..,
        Console.stderr_afterReading .., ?_⟩
      cases hw with
      | refused => exact .inl hkept
      | unopened _ _ hmore => exact .inl hmore.1
      | unencodable ho hopen hs =>
        obtain ⟨place, hl, hread, hrest⟩ := Disk.emptied_of_openFor hopen
        exact .inr ⟨_, place, ho, ⟨_, _, _, _, _, hconv, htext, hs⟩, hl, hread, hrest⟩

theorem eq_of_unencodable {E : (Except Stop Unit × Console) × Disk} (hE : Ended o c d E)
    {C : XmlView.Config.Mappings} {t text : Text} {out : Outcome} {path : String} {d₂ : Disk}
    {f : Text.EncodeFault} (hconv : Converts o d C t out) (hel : out.tree.isElement = true)
    (htext : treeText out.tree o.indent = .ok text) (ho : o.output = some path)
    (hopen : d.openFor path = .ok d₂) (hs : text.encode = .error f) :
    E = ((.error (.problem (.general f.message)), c.afterReading o t out.warnings), d₂) := by
  cases hE.converted_of_converts hconv with
  | noTree h =>
    rw [hel] at h
    cases h
  | untexted _ h =>
    rw [htext] at h
    cases h
  | unwritten _ h hw =>
    rw [htext] at h
    cases h
    exact hw.eq_of_unencodable ho hopen hs
  | written _ h hw =>
    rw [htext] at h
    cases h
    cases hw.eq_of_unencodable ho hopen hs

end Ended

/-- Whatever way the steps of a command end, from an empty console, the report and the disk
it leaves are as `Expected` says. -/
theorem expected_of_ended {E : (Except Stop Unit × Console) × Disk}
    (hE : Ended o { verbosity := o.verbosity, emoji := o.emoji } d E) :
    Expected o d (finish o E).1 (finish o E).2 := by
  rcases E with ⟨⟨r, c'⟩, d'⟩
  cases r with
  | ok u =>
    cases u
    have hs : Succeeds o d := hE.ok_iff.mp rfl
    have hn : ¬ FindsNoTree o d := fun h => by cases hE.noTree_iff.mpr h
    exact {
      succeeds := iff_of_true rfl hs
      delivered := fun _ _ _ _ _ hconv htext => hE.delivered rfl hconv htext
      noTree := iff_of_false (by simp [finish]) hn
      general := iff_of_false (by simp [finish]) fun h => h.1 hs
      failed := fun h => absurd rfl h
      configFirst := fun _ hp => by cases hE.eq_of_config_error hp }
  | error s =>
    have hs : ¬ Succeeds o d := fun h => by cases hE.ok_iff.mpr h
    obtain ⟨hout, hemoji, herr, hkept⟩ := hE.failed
    -- what a failure leaves does not depend on why the steps stopped
    have hfailed : (finish o ((.error s, c'), d')).1.console.stdout = Text.empty ∧
        OneError o.emoji (finish o ((.error s, c'), d')).1.console.stderr ∧
        KeptFiles o d (finish o ((.error s, c'), d')).2 := by
      refine ⟨by simp [finish, report_stdout, hout], ?_, hkept⟩
      have h := oneError_report o s (c := c') (by simpa [hemoji] using herr)
      rwa [hemoji] at h
    cases s with
    | noTree =>
      have hn : FindsNoTree o d := hE.noTree_iff.mp rfl
      exact {
        succeeds := iff_of_false (by simp [finish, Stop.code]) hs
        delivered := fun h => absurd h (by simp [finish, Stop.code])
        noTree := iff_of_true (by simp [finish, Stop.code]) hn
        general := iff_of_false (by simp [finish, Stop.code]) fun h => h.2 hn
        failed := fun _ => hfailed
        configFirst := fun _ hp => by cases hE.eq_of_config_error hp }
    | problem p =>
      have hn : ¬ FindsNoTree o d := fun h => by cases hE.noTree_iff.mpr h
      exact {
        succeeds := iff_of_false (by simp [finish, Stop.code]) hs
        delivered := fun h => absurd h (by simp [finish, Stop.code])
        noTree := iff_of_false (by simp [finish, Stop.code]) hn
        general := iff_of_true (by simp [finish, Stop.code]) ⟨hs, hn⟩
        failed := fun _ => hfailed
        configFirst := fun _ hp => by
          cases hE.eq_of_config_error hp
          exact ⟨rfl, rfl⟩ }

/-- What a conversion command does, on every disk and with every option. -/
theorem run_expected :
    Expected o d ((run o : StateM Disk Report).run d).1 ((run o : StateM Disk Report).run d).2 := by
  rw [run_eq]
  exact expected_of_ended o d (ended o _ d)

end XmlView.Command

namespace XmlView.Config

def TagMapping.fields (mp : TagMapping) : Text × Text × Bool × AttributeRule × Option Text :=
  (mp.tag, mp.type, mp.props.isEmpty, mp.attributes, mp.key)

theorem TagMapping.eq_of_fields {mp mp' : TagMapping} (hp : mp'.props = [])
    (h : TagMapping.fields mp = TagMapping.fields mp') : mp = mp' := by
  obtain ⟨tag, type, props, attributes, key⟩ := mp
  obtain ⟨tag', type', props', attributes', key'⟩ := mp'
  dsimp only at hp
  subst hp
  simp only [TagMapping.fields, Prod.mk.injEq, List.isEmpty_nil, List.isEmpty_iff] at h
  obtain ⟨rfl, rfl, rfl, rfl, rfl⟩ := h
  rfl

theorem eq_of_fields : ∀ {C C' : Mappings}, (∀ mp ∈ C', mp.props = []) →
    C.map TagMapping.fields = C'.map TagMapping.fields → C = C'
  | [], [], _, _ => rfl
  | [], _ :: _, _, h => by cases h
  | _ :: _, [], _, h => by cases h
  | mp :: C, mp' :: C', hp, h => by
    simp only [List.map_cons, List.cons.injEq] at h
    rw [TagMapping.eq_of_fields (hp mp' List.mem_cons_self) h.1,
      eq_of_fields (fun m hm => hp m (List.mem_cons_of_mem _ hm)) h.2]

theorem ofFile_eq_of_fields {path : String} {read : Except Files.OsError (List UInt8)} {C : Mappings}
    (h : (ofFile path read).toOption.map (·.map TagMapping.fields) = some (C.map TagMapping.fields))
    (hp : ∀ mp ∈ C, mp.props = []) : ofFile path read = .ok C := by
  obtain ⟨C', hC', hmap⟩ := Option.map_eq_some_iff.mp h
  rw [Conversion.except_eq_ok_of_toOption hC', eq_of_fields hp hmap]

end XmlView.Config

namespace XmlView.Command

open Conversion Files

def surrogateOptions : Options :=
  { configPath := "converters.yaml", xmlPath := "page.xml", output := some "o.json" }

/-- A disk whose configuration gives the tag `a` a type that ends in a lone surrogate, written
as a YAML escape, and whose XML file is one empty `a` element. -/
def surrogateDisk : Disk :=
  ⟨[(["converters.yaml"], .file "converters:\n  a: \"x\\ud800\"\n".toUTF8.toList),
    (["page.xml"], .file "<a/>".toUTF8.toList)]⟩

set_option synthInstance.maxSize 512 in
/-- A type that is not UTF-8 converts, but its JSON text cannot be written: the command fails
with code one and leaves behind the output file it opened, empty, where there was none. -/
theorem run_leaves_empty_output_of_lone_surrogate :
    (surrogateDisk.read "o.json").toOption = none ∧
      ((run surrogateOptions : StateM Disk Report).run surrogateDisk).1.exit = 1 ∧
      ((run surrogateOptions : StateM Disk Report).run surrogateDisk).2.read "o.json" = .ok [] := by
  let C : XmlView.Config.Mappings := [{ tag := Text.ofString "a", type := ⟨[120, 55296]⟩, props := [] }]
  let root : Markup.Node := .element none "a" none [] [] []
  let out : Outcome := ⟨.element (.str ⟨[120, 55296]⟩) [(.str (Text.ofString "key"), .int 0)] [], []⟩
  let text : Text := Json.write ⟨some [32, 32], false⟩ (.obj [(Text.ofString "type", .str ⟨[120, 55296]⟩),
    (Text.ofString "props", .obj [(Text.ofString "key", .int 0)]), (Text.ofString "children", .arr [])])
  -- each stage, evaluated
  have hC : XmlView.Config.ofFile "converters.yaml" (surrogateDisk.read "converters.yaml") = .ok C :=
    XmlView.Config.ofFile_eq_of_fields (by decide +kernel) (by simp [C])
  have ht : readXml "page.xml" (surrogateDisk.read "page.xml") = .ok (Text.ofString "<a/>") :=
    Conversion.except_eq_ok_of_toOption (by decide +kernel)
  have hread : readForConversion (.str (Text.ofString "<a/>")) = (some root, []) := by cbv
  have hout : convert (XmlView.Config.registryOf C) (.str (Text.ofString "<a/>")) .none = .ok out := by
    unfold convert
    rw [hread]
    cbv
  have hbound : Value.digitBound ≠ 0 := by decide +kernel
  have htext : treeText out.tree (.indented [32, 32]) = .ok text := by
    simp [out, treeText, Descriptor.asValue, Json.ofValue, Json.keyText, hbound]
    rfl
  obtain ⟨f, hs⟩ : ∃ f, text.encode = .error f := by
    cases h : text.encode with
    | error f => exact ⟨f, rfl⟩
    | ok s =>
      have hnone : text.encode.toOption = none := by decide +kernel
      rw [h] at hnone
      cases hnone
  obtain ⟨d₂, hopen⟩ : ∃ d₂, surrogateDisk.openFor "o.json" = .ok d₂ := by
    cases h : surrogateDisk.openFor "o.json" with
    | ok d₂ => exact ⟨d₂, rfl⟩
    | error e =>
      have hsome : (surrogateDisk.openFor "o.json").toOption.isSome = true := by decide +kernel
      rw [h] at hsome
      cases hsome
  -- so the steps stop on writing, with the file opened
  have hE := (ended surrogateOptions
    { verbosity := surrogateOptions.verbosity, emoji := surrogateOptions.emoji }
    surrogateDisk).eq_of_unencodable ⟨hC, ht, hout⟩ rfl htext rfl hopen hs
  obtain ⟨-, -, hempty, -⟩ := Disk.emptied_of_openFor hopen
  refine ⟨by decide +kernel, ?_, ?_⟩
  · rw [run_eq, hE]
    rfl
  · rw [run_eq, hE]
    exact hempty

end XmlView.Command
