import Viewsmith.Proofs.Files.WellFormed

namespace Viewsmith.Files

structure IsPlain (path : String) : Prop where
  relative : isAbsolute path = false
  forward : Component.up ∉ components path

/-- The paths are not the same, and neither of them is above the other. -/
def Apart (p q : String) : Prop :=
  ¬ components p <+: components q ∧ ¬ components q <+: components p

theorem IsPlain.components_join {path : String} (h : IsPlain path) (root : String) :
    ∃ names : List String, components path = names.map .name ∧
      components (join root path) = components root ++ names.map .name := by
  obtain ⟨names, hnames⟩ := exists_names h.forward
  exact ⟨names, hnames, by rw [Files.components_join root path h.relative, hnames]⟩

theorem IsPlain.grounded {t : FileTree} {root path : String} (h : IsPlain path)
    (hroot : Grounded t (components root)) : Grounded t (components (join root path)) := by
  obtain ⟨names, _, hpath⟩ := h.components_join root
  rw [hpath]
  exact hroot.append names

section

variable {t u : FileTree} {root p q : String}

theorem Apart.symm (h : Apart p q) : Apart q p := ⟨h.2, h.1⟩

theorem Apart.exists_components_eq (h : Apart p q) (hp : IsPlain p) (root : String) :
    ∃ steps n, components (join root p) = steps ++ [.name n] := by
  obtain ⟨names, hnames, hpath⟩ := hp.components_join root
  rcases List.eq_nil_or_concat names with rfl | ⟨above, n, rfl⟩
  · refine absurd ?_ h.1
    rw [hnames]
    exact List.nil_prefix
  · refine ⟨components root ++ above.map .name, n, ?_⟩
    rw [hpath, List.concat_eq_append, List.map_append, List.append_assoc]
    rfl

theorem Apart.place_ne (h : Apart p q) (hp : IsPlain p) (hq : IsPlain q) (root : String) :
    place (join root p) ≠ place (join root q) := by
  obtain ⟨a, ha, hpath⟩ := hp.components_join root
  obtain ⟨b, hb, hother⟩ := hq.components_join root
  intro hsame
  rw [place, place, hpath, hother, follow_append, follow_append, follow_names, follow_names] at hsame
  have hab : a = b := List.append_cancel_left hsame
  have hpq : components p = components q := by rw [ha, hb, hab]
  exact h.1 (hpq ▸ List.prefix_refl _)

/-- On the way to one path stands no place of the other that is still to be made. -/
theorem Apart.get?_of_isAbove (hwell : WellFormed t) (hroot : Grounded t (components root))
    (h : Apart p q) (hp : IsPlain p) (hq : IsPlain q)
    (habove : IsAbove (join root p) (place (join root q))) :
    t.get? (place (join root q)) = some .directory := by
  obtain ⟨a, ha, hpath⟩ := hp.components_join root
  obtain ⟨b, hb, hother⟩ := hq.components_join root
  rcases hwell.isAbove_cases hroot hpath habove with hdir | ⟨hbegins, _⟩
  · exact hdir
  · -- The place would be that of names on the way to the other path.
    rw [place, hother, follow_append, follow_names, List.prefix_append_right_inj] at hbegins
    refine absurd ?_ h.2
    rw [ha, hb]
    exact hbegins.map Component.name

theorem walk_of_directories {dir l : Location} {steps : List Component}
    (hw : walk u dir steps = .ok l)
    (hthere : ∀ above, above <+: steps → t.get? (follow dir above) = some .directory) :
    walk t dir steps = .ok l := by
  induction steps generalizing dir with
  | nil => exact hw
  | cons c steps ih =>
      have hrest (above : List Component) (habove : above <+: steps) :
          t.get? (follow dir (c :: above)) = some .directory :=
        hthere (c :: above) (List.cons_prefix_cons.mpr ⟨rfl, habove⟩)
      cases c with
      | up => exact ih hw hrest
      | name n =>
          obtain ⟨hn, _, hw⟩ := walk_name_eq_ok_iff.mp hw
          exact walk_name_eq_ok_iff.mpr ⟨hn, hrest [] List.nil_prefix, ih hw hrest⟩

/-- A path finds the same entry after changes that keep its place and all directories. -/
theorem WellFormed.find_eq_ok_iff_of_kept {path n : String} {steps : List Component}
    (hwell : WellFormed t) (hg : Grounded t (components path))
    (hc : components path = steps ++ [.name n])
    (hstay : ∀ l, t.get? l = some .directory → u.get? l = some .directory)
    (hsame : u.get? (place path) = t.get? (place path)) (l : Location) (e : Entry) :
    find u path = .ok (l, e) ↔ find t path = .ok (l, e) := by
  rw [find_eq_ok_iff_of_components hc, find_eq_ok_iff_of_components hc, hsame]
  constructor
  · rintro ⟨hr, hl, he, hwants⟩
    refine ⟨⟨hr.valid, hr.short, walk_of_directories hr.dir fun above habove => ?_⟩, hl, he, hwants⟩
    obtain ⟨below, hbelow⟩ := habove
    refine hwell.get?_of_isAbove hg ⟨above, below ++ [.name n], ?_, by simp, rfl⟩ (by simp [he])
    rw [hc, ← hbelow, List.append_assoc]
  · rintro ⟨hr, hfound⟩
    exact ⟨inReach_mono hstay hr, hfound⟩

def SameFound (t u : FileTree) (path : String) : Prop :=
  ∀ l e, find u path = .ok (l, e) ↔ find t path = .ok (l, e)

namespace SameFound

variable {path : String} (h : SameFound t u path)

include h

theorem pathExists_eq : pathExists u path = pathExists t path := by
  have hiff (v : FileTree) : pathExists v path = true ↔ ∃ l e, find v path = .ok (l, e) :=
    ⟨exists_find, fun ⟨_, _, hfind⟩ => pathExists_of_find hfind⟩
  rw [Bool.eq_iff_iff, hiff, hiff]
  exact exists_congr fun l => exists_congr fun e => h l e

theorem isDirectory_eq : isDirectory u path = isDirectory t path := by
  rw [Bool.eq_iff_iff, isDirectory_iff, isDirectory_iff]
  exact exists_congr fun l => h l .directory

theorem readText_eq (hexists : pathExists t path = true) : readText u path = readText t path := by
  obtain ⟨l, e, hfind⟩ := exists_find hexists
  rw [readText, readText, hfind, (h l e).mpr hfind]

theorem readText_eq_ok_iff (s : String) : readText u path = .ok s ↔ readText t path = .ok s := by
  constructor
  · intro hread
    obtain ⟨l, hl⟩ := readText_eq_ok hread
    exact readText_of_find ((h l _).mp hl)
  · intro hread
    obtain ⟨l, hl⟩ := readText_eq_ok hread
    exact readText_of_find ((h l _).mpr hl)

end SameFound

theorem WellFormed.isDirectory_eq_of_kept {path n : String} {steps : List Component}
    (hwell : WellFormed t) (hg : Grounded t (components path))
    (hc : components path = steps ++ [.name n])
    (hstay : ∀ l, t.get? l = some .directory → u.get? l = some .directory)
    (hsame : u.get? (place path) = t.get? (place path)) :
    isDirectory u path = isDirectory t path :=
  SameFound.isDirectory_eq (hwell.find_eq_ok_iff_of_kept hg hc hstay hsame)

end

end Viewsmith.Files
