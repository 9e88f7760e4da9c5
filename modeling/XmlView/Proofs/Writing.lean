import XmlView.Proofs.Content
import XmlView.Files.Disk

/-! Writing to the disk. Making directories keeps every file as it was and every directory;
opening a file for writing leaves an empty file where the path leads, and adding bytes to it
leaves a file that holds them, read back through the same path. Nothing else changes: a
path leads where it led, as long as the directories it passes through are kept. -/

namespace XmlView.Files.Disk

def fileAt (d : Disk) (place : List String) : Option (List UInt8) :=
  match d.lookup place with
  | some (.file bs) => some bs
  | _ => none

/-- `d'` holds the files of `d` and no others, and at least its directories. -/
def MoreDirs (d d' : Disk) : Prop :=
  (∀ q, d'.fileAt q = d.fileAt q) ∧ ∀ q, d.lookup q = some .directory → d'.lookup q = some .directory

theorem MoreDirs.refl (d : Disk) : MoreDirs d d := ⟨fun _ => rfl, fun _ h => h⟩

theorem MoreDirs.trans {d₁ d₂ d₃ : Disk} (h₁ : MoreDirs d₁ d₂) (h₂ : MoreDirs d₂ d₃) :
    MoreDirs d₁ d₃ :=
  ⟨fun q => (h₂.1 q).trans (h₁.1 q), fun q h => h₂.2 q (h₁.2 q h)⟩

theorem lookup_nil (d : Disk) : d.lookup [] = some .directory := rfl

theorem lookup_put (d : Disk) (place q : List String) (e : Entry) (hq : q ≠ []) :
    (d.put place e).lookup q = if q = place then some e else d.lookup q := by
  have hne : q.isEmpty = false := by simpa using hq
  simp only [lookup, put, hne, Bool.false_eq_true, if_false, List.find?_append, List.find?_filter,
    List.find?_singleton, beq_iff_eq, bne_iff_ne, ne_eq]
  by_cases h : q = place
  · subst h
    have hnone : List.find? (fun _ => false) d.entries = none :=
      List.find?_eq_none.mpr fun _ _ => Bool.false_ne_true
    simp [hnone]
  · have hsame : List.find? (fun a => decide (¬a.1 = place ∧ a.1 = q)) d.entries =
        List.find? (fun a => a.1 == q) d.entries := by
      congr 1
      funext a
      by_cases ha : a.1 = q
      · simp [ha, h]
      · simp [ha]
    simp only [hsame, h, if_false]
    cases List.find? (fun a => a.1 == q) d.entries <;> simp [Ne.symm h]

theorem put_put (d : Disk) (place : List String) (e e' : Entry) :
    (d.put place e).put place e' = d.put place e' := by
  simp only [put, List.filter_append, List.filter_filter, List.filter_singleton, bne_self_eq_false,
    cond_false, List.append_nil, Disk.mk.injEq]
  congr 1
  exact List.filter_congr fun (a : List String × Entry) _ => by cases a.1 != place <;> rfl

theorem walk_of_dirs {d d' : Disk}
    (h : ∀ q, d.lookup q = some .directory → d'.lookup q = some .directory) :
    ∀ {here : List String} {cs : List String} {place : List String},
      d.walk here cs = .ok place → d'.walk here cs = .ok place
  | here, [], place, hw => hw
  | here, c :: rest, place, hw => by
    unfold walk at hw ⊢
    by_cases hup : (c == "..") = true
    · rw [if_pos hup] at hw ⊢
      exact walk_of_dirs h hw
    rw [if_neg hup] at hw ⊢
    by_cases hstay : (c == ".") = true
    · rw [if_pos hstay] at hw ⊢
      exact walk_of_dirs h hw
    rw [if_neg hstay] at hw ⊢
    dsimp only at hw ⊢
    by_cases hlast : rest.isEmpty = true
    · rw [if_pos hlast] at hw ⊢
      exact hw
    rw [if_neg hlast] at hw ⊢
    -- the walk goes on only through a directory, which `d'` keeps
    cases hnext : d.lookup (here ++ [c]) with
    | none => rw [hnext] at hw; cases hw
    | some e =>
      cases e with
      | file bs => rw [hnext] at hw; cases hw
      | directory =>
        rw [hnext] at hw
        rw [h _ hnext]
        exact walk_of_dirs h hw

theorem locate_of_dirs {d d' : Disk}
    (h : ∀ q, d.lookup q = some .directory → d'.lookup q = some .directory) {path : String}
    {place : List String} (hl : d.locate path = .ok place) : d'.locate path = .ok place := by
  unfold locate at hl ⊢
  split at hl
  · cases hl
  · rw [if_neg ‹_›]
    exact walk_of_dirs h hl

theorem lookup_put_of_dir {d : Disk} {place : List String} (e : Entry)
    (hplace : d.lookup place ≠ some .directory) (q : List String)
    (hq : d.lookup q = some .directory) : (d.put place e).lookup q = some .directory := by
  by_cases hnil : q = []
  · subst hnil
    rfl
  · rw [lookup_put d place q e hnil, if_neg]
    · exact hq
    · rintro rfl
      exact hplace hq

theorem fileAt_put_of_ne (d : Disk) {place q : List String} (e : Entry) (h : q ≠ place) :
    (d.put place e).fileAt q = d.fileAt q := by
  by_cases hnil : q = []
  · subst hnil
    rfl
  · simp only [fileAt, lookup_put d place q e hnil, if_neg h]

theorem fileAt_put_file (d : Disk) {place : List String} (bs : List UInt8) (h : place ≠ []) :
    (d.put place (.file bs)).fileAt place = some bs := by
  simp [fileAt, lookup_put d place place _ h]

theorem moreDirs_of_makeDir {d d' : Disk} {path : String} (h : d.makeDir path = .ok d') :
    MoreDirs d d' := by
  unfold makeDir at h
  split at h
  · cases h
  · rename_i place _
    split at h
    · cases h
      exact MoreDirs.refl d
    · cases h
    · rename_i hnone
      split at h
      · cases h
        refine ⟨fun q => ?_, lookup_put_of_dir _ (by simp [hnone])⟩
        by_cases hq : q = place
        · subst hq
          by_cases hnil : q = []
          · subst hnil
            rfl
          · simp [fileAt, lookup_put d q q _ hnil, hnone]
        · exact fileAt_put_of_ne d _ hq
      · cases h

theorem moreDirs_of_makeDirs (fuel : Nat) : ∀ {d d' : Disk} {path : String},
    makeDirs fuel d path = .ok d' → MoreDirs d d' := by
  induction fuel with
  | zero => exact fun h => moreDirs_of_makeDir h
  | succ fuel ih =>
    intro d d' path h
    rw [makeDirs] at h
    -- whatever is made of the parents, the directory itself is made last
    split at h
    split at h
    dsimp only at h
    split at h
    · split at h
      · rename_i d₁ hd₁
        have h₁ := ih hd₁
        split at h
        · injection h with h
          exact h ▸ h₁
        · exact h₁.trans (moreDirs_of_makeDir h)
      · split at h
        · contradiction
        · split at h
          · injection h with h
            exact h ▸ MoreDirs.refl d
          · exact moreDirs_of_makeDir h
    · exact moreDirs_of_makeDir h

/-- A file opened for writing is where its path leads, at a place that was no directory,
and is left empty. -/
theorem create_eq_ok {d d' : Disk} {path : String} (h : d.create path = .ok d') :
    ∃ place, d.locate path = .ok place ∧ d.lookup place ≠ some .directory ∧
      path.endsWith "/" = false ∧ d' = d.put place (.file []) := by
  unfold create at h
  split at h
  · cases h
  · rename_i place hl
    refine ⟨place, hl, ?_⟩
    split at h
    · cases h
    · rename_i hfile
      split at h
      · cases h
      · rename_i hslash
        injection h with h
        exact ⟨by simp [hfile], by simpa using hslash, h.symm⟩
    · rename_i hnone
      split at h
      · cases h
      · rename_i hslash
        split at h
        · injection h with h
          exact ⟨by simp [hnone], by simpa using hslash, h.symm⟩
        · cases h

theorem ne_nil_of_lookup {d : Disk} {place : List String} (h : d.lookup place ≠ some .directory) :
    place ≠ [] := by
  rintro rfl
  exact h rfl

section Written

variable {d : Disk} {path : String} {place : List String} (hl : d.locate path = .ok place)
  (hplace : d.lookup place ≠ some .directory)
include hl hplace

theorem locate_put (e : Entry) : (d.put place e).locate path = .ok place :=
  locate_of_dirs (lookup_put_of_dir e hplace) hl

theorem read_put_file (hslash : path.endsWith "/" = false) (bs : List UInt8) :
    (d.put place (.file bs)).read path = .ok bs := by
  unfold read
  rw [locate_put hl hplace]
  dsimp only
  rw [lookup_put _ _ _ _ (ne_nil_of_lookup hplace), if_pos rfl]
  simp [hslash]

theorem append_put_file (old bs : List UInt8) :
    (d.put place (.file old)).append path bs = d.put place (.file (old ++ bs)) := by
  unfold append
  rw [locate_put hl hplace]
  dsimp only
  rw [lookup_put _ _ _ _ (ne_nil_of_lookup hplace), if_pos rfl]
  exact put_put d place _ _

end Written

end XmlView.Files.Disk
