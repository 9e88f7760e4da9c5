import XmlView.Proofs.Command

/-! The counts a command shows are the census of the document it converted, after a warning
naming the skipped nodes exactly when there are some. -/

namespace XmlView

open Conversion Files Markup

namespace Conversion

variable {reg : Registry (Except Fault)} {xml data : Value} {out : Outcome}

theorem counts_eq_census_of_convert (h : convert reg xml data = .ok out) {root : Node}
    (hroot : (readForConversion xml).1 = some root) :
    Summary.ofDescriptor out.tree = (Item.root root).census reg := by
  have hread : readForConversion xml = (some root, (readForConversion xml).2) := Prod.ext hroot rfl
  rw [convert_eq, hread] at h
  dsimp only at h
  cases hv : visit reg data 0 (Item.root root) with
  | error e =>
    rw [hv] at h
    cases h
  | ok tree =>
    rw [hv] at h
    cases h
    -- the counts do not see types and props, so they are those of the root's shape
    change Summary.ofDescriptorAt 1 tree = _
    rw [← Summary.ofDescriptorAt_erase, (heads_of_visit _ _ _ _ hv).2]
    exact Summary.ofDescriptor_shape reg root []

end Conversion

namespace Command

variable (o : Options) (d : Disk)

def Console.afterWriting (c : Console) (text : Text) : Console :=
  match o.output with
  | none => c.data text
  | some path => c.success (wroteNote path)

theorem Wrote.console_of_ok {text : Text} {c c' : Console} {d' : Disk}
    (h : Wrote o text c d ((.ok (), c'), d')) : c' = c.afterWriting o text := by
  cases h with
  | shown ho => simp only [Console.afterWriting, ho]
  | file ho => simp only [Console.afterWriting, ho]

/-- A command that succeeds ends with the console of reading and writing, then the census of
the document it converted: a warning naming the skipped nodes when there are some, and the
counts. -/
theorem run_shows_census {C : XmlView.Config.Mappings} {t : Text} {out : Outcome} {root : Node}
    (hconv : Converts o d C t out) (hroot : (readForConversion (.str t)).1 = some root)
    (hexit : ((run o : StateM Disk Report).run d).1.exit = 0) :
    ∃ text, treeText out.tree o.indent = .ok text ∧
      ((run o : StateM Disk Report).run d).1.console =
        ((({ verbosity := o.verbosity, emoji := o.emoji } : Console).afterReading o t
          out.warnings).afterWriting o text).withSummary o
          ((Item.root root).census (XmlView.Config.registryOf C)) := by
  rw [run_eq] at hexit ⊢
  have hE := ended o { verbosity := o.verbosity, emoji := o.emoji } d
  generalize exec (steps o) { verbosity := o.verbosity, emoji := o.emoji } d = E at hE hexit ⊢
  obtain ⟨⟨r, c'⟩, d'⟩ := E
  cases r with
  | error s => cases s <;> simp [finish, Stop.code] at hexit
  | ok u =>
    cases hE.converted_of_converts hconv with
    | written _ htext hw =>
      refine ⟨_, htext, ?_⟩
      rw [← counts_eq_census_of_convert hconv.2.2 hroot, ← Wrote.console_of_ok o d hw]
      rfl

end Command

/-- The counts of a converted document are its census: with converters that never raise and
return mappings, whatever world they act on, the converters are called once for each element
counted; and a command that succeeds shows the census of the document it converted, with the
warning about skipped nodes exactly when there are some. -/
theorem summary_is_census :
    (∀ {σ : Type} (reg : Registry (Conv σ)), reg.NeverRaises → reg.ReturnsMappings →
      ∀ (xml data : Value) (s : σ) (root : Node), (readForConversion xml).1 = some root →
        (∃ out, ((convert reg xml data).run.run s).1 = .ok out ∧
          Summary.ofDescriptor out.tree = (Item.root root).census reg) ∧
        ((convert reg.noting xml data).run.run (s, [])).2.2.length =
          ((Item.root root).census reg).elements) ∧
    ∀ (o : Command.Options) (d : Disk) (C : XmlView.Config.Mappings) (t : Text) (out : Outcome)
      (root : Node), Command.Converts o d C t out → (readForConversion (.str t)).1 = some root →
      ((Command.run o : StateM Disk Command.Report).run d).1.exit = 0 →
      ∃ text, Command.treeText out.tree o.indent = .ok text ∧
        ((Command.run o : StateM Disk Command.Report).run d).1.console =
          ((({ verbosity := o.verbosity, emoji := o.emoji } : Command.Console).afterReading o t
            out.warnings).afterWriting o text).withSummary o
            ((Item.root root).census (XmlView.Config.registryOf C)) :=
  ⟨fun _ hraise hmap xml data s _ hroot => convert_counts_eq_census hraise hmap xml data s hroot,
    fun o d _ _ _ _ hconv hroot hexit => Command.run_shows_census o d hconv hroot hexit⟩

set_option synthInstance.maxSize 512 in
/-- One element with a child that has no converter: with a converter that gives an empty
mapping, the conversion calls it once, and a command whose configuration gives `a` a type
succeeds and shows the census of the document, a warning included. -/
theorem summary_is_census_with_skipped_child :
    let reg : Registry (Conv Unit) := ⟨[(Text.ofString "a", fun _ _ => pure (.dict []))]⟩
    let xml : Text := Text.ofString "<a><b/></a>"
    let root : Node := .element none "a" none [] [] [.element none "b" none [] [] []]
    let o : Command.Options := { configPath := "converters.yaml", xmlPath := "page.xml" }
    let d : Disk := ⟨[(["converters.yaml"], .file "converters:\n  a: A\n".toUTF8.toList),
      (["page.xml"], .file "<a><b/></a>".toUTF8.toList)]⟩
    let C : XmlView.Config.Mappings := [{ tag := Text.ofString "a", type := Text.ofString "A", props := [] }]
    let out : Outcome :=
      ⟨.element (.str (Text.ofString "A")) [(.str (Text.ofString "key"), .int 0)] [.skipped], []⟩
    (reg.NeverRaises ∧ reg.ReturnsMappings ∧ (readForConversion (.str xml)).1 = some root ∧
      (∃ out, ((convert reg (.str xml) .none).run.run ()).1 = .ok out ∧
        Summary.ofDescriptor out.tree = (Item.root root).census reg) ∧
      ((convert reg.noting (.str xml) .none).run.run ((), [])).2.2.length =
        ((Item.root root).census reg).elements) ∧
    (Command.Converts o d C xml out ∧
      ((Command.run o : StateM Disk Command.Report).run d).1.exit = 0 ∧
      ∃ text, Command.treeText out.tree o.indent = .ok text ∧
        ((Command.run o : StateM Disk Command.Report).run d).1.console =
          ((({ verbosity := o.verbosity, emoji := o.emoji } : Command.Console).afterReading o xml
            out.warnings).afterWriting o text).withSummary o
            ((Item.root root).census (XmlView.Config.registryOf C))) := by
  intro reg xml root o d C out
  -- the converter of `a` gives an empty mapping, in any world
  have hfind : ∀ tag f, reg.find? tag = some f → f = fun _ _ => pure (.dict []) := by
    intro tag f hf
    obtain ⟨e, he, rfl⟩ := Registry.mem_entries_of_find? hf
    simp only [reg, List.mem_cons, List.not_mem_nil, or_false] at he
    rw [he]
  have hraise : reg.NeverRaises := by
    intro tag f hf attrs data s
    rw [hfind tag f hf]
    exact ⟨_, rfl⟩
  have hmap : reg.ReturnsMappings := by
    intro tag f hf attrs data s v hv
    rw [hfind tag f hf] at hv
    cases hv
    exact ⟨⟨_, rfl⟩, .inl rfl⟩
  have hread : readForConversion (.str xml) = (some root, []) := by cbv
  have hroot : (readForConversion (.str xml)).1 = some root := by rw [hread]
  -- the command's stages, evaluated
  have hC : XmlView.Config.ofFile o.configPath (d.read o.configPath) = .ok C :=
    XmlView.Config.ofFile_eq_of_fields (by decide +kernel) (by simp [C])
  have ht : Command.readXml o.xmlPath (d.read o.xmlPath) = .ok xml :=
    except_eq_ok_of_toOption (by decide +kernel)
  have hout : convert (XmlView.Config.registryOf C) (.str xml) .none = .ok out := by
    unfold convert
    rw [hread]
    cbv
  have hconv : Command.Converts o d C xml out := ⟨hC, ht, hout⟩
  have hbound : Value.digitBound ≠ 0 := by decide +kernel
  obtain ⟨text, htext⟩ : ∃ text, Command.treeText out.tree o.indent = .ok text :=
    ⟨_, by simp [out, o, Command.treeText, Descriptor.asValue, Json.ofValue, Json.keyText, hbound]; rfl⟩
  -- standard output takes text as it is, so the text is shown and the command succeeds
  have hexit : ((Command.run o : StateM Disk Command.Report).run d).1.exit = 0 := by
    rw [Command.run_eq]
    have hE := Command.ended o { verbosity := o.verbosity, emoji := o.emoji } d
    generalize Command.exec (Command.steps o)
      { verbosity := o.verbosity, emoji := o.emoji } d = E at hE ⊢
    obtain ⟨⟨r, c'⟩, d'⟩ := E
    have hok : r = .ok () :=
      hE.ok_iff.mpr ⟨C, xml, out, text, hconv, rfl, htext, fun h => by cases h⟩
    subst hok
    rfl
  exact ⟨⟨hraise, hmap, hroot, summary_is_census.1 reg hraise hmap (.str xml) .none () root hroot⟩,
    hconv, hexit, summary_is_census.2 o d C xml out root hconv hroot hexit⟩

end XmlView
