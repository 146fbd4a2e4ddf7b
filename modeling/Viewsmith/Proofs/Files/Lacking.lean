import Viewsmith.Proofs.Files.Apart

namespace Viewsmith.Files

namespace FileTree

theorem findEntry_filter (keep : Location → Bool) (entries : List (Location × Entry)) (l : Location) :
    findEntry (entries.filter fun entry => keep entry.1) l =
      if keep l then findEntry entries l else none := by
  induction entries with
  | nil => simp [findEntry]
  | cons entry rest ih =>
      obtain ⟨k, e⟩ := entry
      by_cases hk : k = l
      · subst hk
        cases hkeep : keep k <;> simp [findEntry, hkeep, ih]
      · cases hkeep : keep k <;> simp [findEntry, hkeep, hk, ih]

theorem get?_remove (t : FileTree) {p : Location} (hp : p ≠ []) (l : Location) :
    (t.remove p).get? l = if p <+: l then none else t.get? l := by
  cases l with
  | nil => simp [get?, hp]
  | cons n l =>
      refine (findEntry_filter (fun m => !p.isPrefixOf m) t.entries (n :: l)).trans ?_
      simp only [Bool.not_eq_true', ← List.isPrefixOf_iff_prefix]
      cases p.isPrefixOf (n :: l) <;> rfl

end FileTree

/-- The second tree is the first one without the file in a place. -/
structure Lacks (p : Location) (t u : FileTree) : Prop where
  file : isFileAt t p = true
  gone : u.get? p = none
  elsewhere : ∀ l, l ≠ p → u.get? l = t.get? l

/-- To remove a file is to remove no more than it. -/
theorem WellFormed.lacks_remove {t : FileTree} (hwell : WellFormed t) {p : Location}
    (hfile : isFileAt t p = true) : Lacks p t (t.remove p) := by
  obtain ⟨c, hc⟩ := (isFileAt_iff t p).mp hfile
  have hp : p ≠ [] := by
    rintro rfl
    cases hc
  refine ⟨hfile, by rw [t.get?_remove hp, if_pos List.prefix_rfl], fun l hl => ?_⟩
  rw [t.get?_remove hp]
  split
  · rename_i hbelow
    -- In a well-formed tree there is nothing below a file that could go with it.
    obtain ⟨names, rfl⟩ := hbelow
    have hnames : names ≠ [] := by
      rintro rfl
      exact hl (List.append_nil p)
    by_contra hthere
    rw [hwell.get?_of_append hnames (Ne.symm hthere)] at hc
    cases hc
  · rfl

namespace Lacks

variable {p : Location} {t u : FileTree} (h : Lacks p t u)

include h

theorem isFileAt_of (l : Location) (hl : isFileAt u l = true) : isFileAt t l = true := by
  by_cases hp : l = p
  · rw [hp]
    exact h.file
  · rwa [isFileAt, h.elsewhere l hp] at hl

theorem directory_iff (l : Location) :
    u.get? l = some .directory ↔ t.get? l = some .directory := by
  by_cases hp : l = p
  · obtain ⟨c, hc⟩ := (isFileAt_iff t p).mp h.file
    simp [hp, h.gone, hc]
  · rw [h.elsewhere l hp]

variable {path n : String} {steps : List Component}

theorem sameFound (hc : components path = steps ++ [.name n]) (hne : place path ≠ p) :
    SameFound t u path := by
  intro l e
  have hreach : InReach u path steps n ↔ InReach t path steps n :=
    ⟨inReach_mono fun m => (h.directory_iff m).mp, inReach_mono fun m => (h.directory_iff m).mpr⟩
  rw [find_eq_ok_iff_of_components hc, find_eq_ok_iff_of_components hc, h.elsewhere _ hne, hreach]

/-- A path into a directory that is there finds the same without the file, or fails in the same way. -/
theorem find_eq_of_walk (hc : components path = steps ++ [.name n]) (hne : place path ≠ p)
    (hw : walk t [] steps = .ok (follow [] steps)) : find u path = find t path := by
  cases hv : checkPath path with
  | error e => simp only [find, locate, hv]
  | ok _ =>
      have hw' := walk_mono (fun m => (h.directory_iff m).mpr) hw
      have hentry : entryIn u (follow [] steps) n = entryIn t (follow [] steps) n := by
        rw [entryIn, entryIn, ← place_of_components hc, h.elsewhere _ hne]
      simp only [find, locate_of_name hv hc, hw, hw', Except.map, hentry]

theorem isDirectory_of (hdir : isDirectory t path = true) : isDirectory u path = true := by
  have hv := checkPath_of_isDirectory hdir
  rw [isDirectory_iff_walk hv] at hdir ⊢
  exact walk_mono (fun m => (h.directory_iff m).mpr) hdir

theorem pathExists_self (hp : NamesFile path steps n) (hplace : place path = p) :
    pathExists u path = false := by
  rw [← Bool.not_eq_true, pathExists_iff hp, hplace, h.gone]
  simp

theorem creatable (hc : Creatable t path) : Creatable u path :=
  hc.imp_right fun hc => ⟨hc.1, hc.2.mono h.isFileAt_of⟩

theorem writable (hw : Writable t path) : Writable u path where
  valid := hw.valid
  short := hw.short
  dir := h.creatable hw.dir
  free hdir := hw.free ((h.directory_iff _).mp hdir)
  apart := by
    rw [opened_of_creatable hw.dir (h.creatable hw.dir)]
    exact hw.apart

end Lacks

end Viewsmith.Files
