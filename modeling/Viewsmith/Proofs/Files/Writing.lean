import Viewsmith.Proofs.Files.Paving

namespace Viewsmith.Files

def place (path : String) : Location := follow [] (components path)

def dirOf (path : String) : String := (parent? path).getD ""

structure NamesFile (path : String) (steps : List Component) (n : String) : Prop where
  components_eq : components path = steps ++ [.name n]
  bare : wantsDirectory path = false

structure InReach (t : FileTree) (path : String) (steps : List Component) (n : String) : Prop where
  valid : checkPath path = .ok ()
  short : n.utf8ByteSize ≤ nameLimit
  dir : walk t [] steps = .ok (follow [] steps)

theorem place_of_components {path n : String} {steps : List Component}
    (h : components path = steps ++ [.name n]) : place path = follow [] steps ++ [n] := by
  rw [place, h, follow_append]
  rfl

theorem components_dirOf {path : String} {steps : List Component} {c : Component}
    (h : components path = steps ++ [c]) : components (dirOf path) = steps := by
  have hne : path ≠ "" := by
    rintro rfl
    rw [show components "" = [] from rfl] at h
    exact absurd h.symm (by simp)
  unfold dirOf
  rcases parent?_spec hne with ⟨_, hc⟩ | ⟨above, habove, _, _, ⟨hc, _⟩ | ⟨c, hc⟩⟩
  · rw [h] at hc
    exact absurd hc (by simp)
  · rw [h] at hc
    exact absurd hc (by simp)
  · rw [h] at hc
    rw [habove, Option.getD_some]
    exact (List.append_inj_left' hc rfl).symm

namespace NamesFile

variable {path n : String} {steps : List Component}

theorem place_eq (h : NamesFile path steps n) : place path = follow [] steps ++ [n] :=
  place_of_components h.components_eq

theorem place_ne_nil (h : NamesFile path steps n) : place path ≠ [] := by
  rw [h.place_eq]
  simp

theorem components_dirOf (h : NamesFile path steps n) : components (dirOf path) = steps :=
  Files.components_dirOf h.components_eq

end NamesFile

section

variable {t : FileTree} {path : String}

theorem writeText_of_find {l : Location} {c : Content} (h : find t path = .ok (l, .file c))
    (s : String) : writeText t path s = .ok (t.put l (.file (.text s))) ∧
      t.get? l = some (.file c) ∧ l ≠ [] := by
  unfold find at h
  split at h
  · cases h
  · cases h
  · rename_i dir n hl
    split at h
    · cases h
    · cases h
    · cases h
    · rename_i c' he
      split at h
      · cases h
      · rename_i hw
        cases h
        refine ⟨?_, (entryIn_eq_ok he).2, by simp⟩
        simp only [writeText, hl, he, if_neg hw]

theorem readText_eq_ok {s : String} (h : readText t path = .ok s) :
    ∃ l, find t path = .ok (l, .file (.text s)) := by
  unfold readText at h
  split at h
  · cases h
  · cases h
  · rename_i l s' hf
    cases h
    exact ⟨l, hf⟩
  · cases h

theorem readText_of_find {l : Location} {s : String} (h : find t path = .ok (l, .file (.text s))) :
    readText t path = .ok s := by
  rw [readText, h]

theorem exists_find {t : FileTree} {path : String} (h : pathExists t path = true) :
    ∃ l e, find t path = .ok (l, e) := by
  unfold pathExists at h
  split at h
  · rename_i found hf
    exact ⟨found.1, found.2, hf⟩
  · cases h

theorem pathExists_of_find {l : Location} {e : Entry} (h : find t path = .ok (l, e)) :
    pathExists t path = true := by
  rw [pathExists, h]

variable {n : String} {steps : List Component}

/-- Out of reach, the entry of a path cannot even be looked for. -/
theorem locate_cases (hc : components path = steps ++ [.name n]) (t : FileTree) :
    (InReach t path steps n ∧ locate t path = .ok (.name (follow [] steps) n)) ∨
      (¬ InReach t path steps n ∧ ((∃ e, locate t path = .error e) ∨
        ∃ dir e, locate t path = .ok (.name dir n) ∧ entryIn t dir n = .error e)) := by
  cases hv : checkPath path with
  | error e =>
      refine .inr ⟨fun h => ?_, .inl ⟨e, by rw [locate, hv]⟩⟩
      rw [h.valid] at hv
      cases hv
  | ok _ =>
      have hl := locate_of_name hv hc t
      cases hw : walk t [] steps with
      | error e =>
          refine .inr ⟨fun h => ?_, .inl ⟨e, by rw [hl, hw]; rfl⟩⟩
          rw [h.dir] at hw
          cases hw
      | ok dir =>
          obtain ⟨rfl, _⟩ := walk_eq_ok hw
          rw [hw] at hl
          by_cases hn : n.utf8ByteSize ≤ nameLimit
          · exact .inl ⟨⟨hv, hn, hw⟩, hl⟩
          · refine .inr ⟨fun h => hn h.short, .inr ⟨_, .nameTooLong, hl, ?_⟩⟩
            rw [entryIn, if_pos (Nat.lt_of_not_le hn)]

/-- What a path finds, also one that can only mean a directory. -/
theorem find_eq_ok_iff_of_components (hc : components path = steps ++ [.name n]) (l : Location)
    (e : Entry) :
    find t path = .ok (l, e) ↔ InReach t path steps n ∧ l = place path ∧
      t.get? (place path) = some e ∧ (wantsDirectory path = true → e = .directory) := by
  rcases locate_cases hc t with ⟨hr, hl⟩ | ⟨hr, ⟨e', hl⟩ | ⟨dir, e', hl, he⟩⟩
  · simp only [find, hl, entryIn_of_le hr.short, ← place_of_components hc, hr, true_and]
    cases t.get? (place path) with
    | none => simp
    | some found =>
        cases found with
        | directory =>
            simp only [Except.ok.injEq, Prod.mk.injEq, Option.some.injEq]
            constructor
            · rintro ⟨hl, rfl⟩
              exact ⟨hl.symm, rfl, fun _ => rfl⟩
            · rintro ⟨hl, he, _⟩
              exact ⟨hl.symm, he⟩
        | file c =>
            cases wantsDirectory path with
            | false => simp [eq_comm]
            | true =>
                simp only [if_true, reduceCtorEq, false_iff, Option.some.injEq]
                rintro ⟨_, rfl, he⟩
                cases he trivial
  · simp [find, hl, hr]
  · simp [find, hl, he, hr]

theorem find_eq_ok_iff (hp : NamesFile path steps n) (l : Location) (e : Entry) :
    find t path = .ok (l, e) ↔
      InReach t path steps n ∧ l = place path ∧ t.get? (place path) = some e := by
  rw [find_eq_ok_iff_of_components hp.components_eq, hp.bare]
  simp

theorem wantsDirectory_of_readText {s : String} (h : readText t path = .ok s) :
    wantsDirectory path = false := by
  obtain ⟨l, hl⟩ := readText_eq_ok h
  unfold find at hl
  split at hl
  · cases hl
  · cases hl
  · split at hl
    · cases hl
    · cases hl
    · cases hl
    · split at hl
      · cases hl
      · rename_i hw
        exact Bool.not_eq_true _ ▸ hw

theorem wantsDirectory_of_writeText {s : String} {u : FileTree} (h : writeText t path s = .ok u) :
    wantsDirectory path = false := by
  unfold writeText at h
  split at h
  · cases h
  · cases h
  · split at h
    · cases h
    · cases h
    all_goals
      split at h
      · cases h
      · rename_i hw
        exact Bool.not_eq_true _ ▸ hw

theorem writeText_eq_ok_iff (hp : NamesFile path steps n) (s : String) (u : FileTree) :
    writeText t path s = .ok u ↔ InReach t path steps n ∧
      t.get? (place path) ≠ some .directory ∧ u = t.put (place path) (.file (.text s)) := by
  rcases locate_cases hp.components_eq t with ⟨hr, hl⟩ | ⟨hr, ⟨e', hl⟩ | ⟨dir, e', hl, he⟩⟩
  · simp only [writeText, hl, entryIn_of_le hr.short, ← hp.place_eq, hp.bare, hr, true_and]
    cases t.get? (place path) with
    | none => simp [eq_comm]
    | some found => cases found <;> simp [eq_comm]
  · simp [writeText, hl, hr]
  · simp [writeText, hl, he, hr]

theorem pathExists_iff (hp : NamesFile path steps n) :
    pathExists t path = true ↔ InReach t path steps n ∧ t.get? (place path) ≠ none := by
  unfold pathExists
  cases hf : find t path with
  | ok found =>
      obtain ⟨hr, _, hget⟩ := (find_eq_ok_iff hp found.1 found.2).mp hf
      simp [hr, hget]
  | error e =>
      have hnot : ¬ (InReach t path steps n ∧ t.get? (place path) ≠ none) := by
        rintro ⟨hr, hget⟩
        obtain ⟨e', he'⟩ := Option.ne_none_iff_exists'.mp hget
        rw [(find_eq_ok_iff hp _ e').mpr ⟨hr, rfl, he'⟩] at hf
        cases hf
      simp only [hnot, Bool.false_eq_true]

theorem readText_eq_ok_iff (hp : NamesFile path steps n) (s : String) :
    readText t path = .ok s ↔
      InReach t path steps n ∧ t.get? (place path) = some (.file (.text s)) := by
  constructor
  · intro h
    obtain ⟨l, hl⟩ := readText_eq_ok h
    obtain ⟨hr, _, hget⟩ := (find_eq_ok_iff hp l _).mp hl
    exact ⟨hr, hget⟩
  · rintro ⟨hr, hget⟩
    exact readText_of_find ((find_eq_ok_iff hp _ _).mpr ⟨hr, rfl, hget⟩)

/-- A whole file can be written at a path, with the directories above it: nothing is in the way,
and the place of the file is no directory and does not become one. -/
structure Writable (t : FileTree) (path : String) : Prop where
  valid : checkPath path = .ok ()
  short : ∀ n, (components path).getLast? = some (.name n) → n.utf8ByteSize ≤ nameLimit
  dir : Creatable t (dirOf path)
  free : t.get? (place path) ≠ some .directory
  apart : place path ∉ opened t (dirOf path)

theorem inReach_makePath (hp : NamesFile path steps n) (hv : checkPath path = .ok ())
    (hn : n.utf8ByteSize ≤ nameLimit) (hd : Creatable t (dirOf path)) :
    InReach (makePath t (dirOf path)).1 path steps n := by
  have hw := walk_makePath hd
  rw [hp.components_dirOf] at hw
  exact ⟨hv, hn, hw⟩

theorem isFileAt_of_mem_opened {path : String} {l : Location} (h : l ∈ opened t path) :
    isFileAt t l = false := by
  unfold opened at h
  split at h
  · exact isFileAt_of_mem_passed h
  · cases h

theorem isFileAt_put {t : FileTree} {l : Location} {c c' : Content}
    (h : t.get? l = some (.file c)) (m : Location) :
    isFileAt (t.put l (.file c')) m = isFileAt t m := by
  unfold isFileAt
  by_cases hm : l = m
  · subst hm
    cases l with
    | nil => cases h
    | cons n l => simp [FileTree.get?_put_self, h]
  · rw [FileTree.get?_put_of_ne _ _ hm]

theorem opened_congr {t u : FileTree} {path : String}
    (h : SameFiles t u [] (components path)) : opened u path = opened t path := by
  unfold opened
  split
  · exact passed_congr h
  · rfl

theorem short_iff (hp : NamesFile path steps n) :
    (∀ m, (components path).getLast? = some (.name m) → m.utf8ByteSize ≤ nameLimit) ↔
      n.utf8ByteSize ≤ nameLimit := by
  rw [hp.components_eq, List.getLast?_concat]
  simp

/-- The places that are opened are directories once the directories of a path were made. -/
theorem get?_makePath_of_mem_opened {path : String} {l : Location} (h : l ∈ opened t path) :
    (makePath t path).1.get? l = some .directory := by
  have hfile := isFileAt_of_mem_opened h
  rw [get?_makePath]
  cases hget : t.get? l with
  | none => rw [if_pos ⟨h, rfl⟩]
  | some e =>
      cases e with
      | directory => simp
      | file c => simp [isFileAt, hget] at hfile

theorem get?_makePath_place_iff (path : String) :
    (makePath t (dirOf path)).1.get? (place path) ≠ some .directory ↔
      t.get? (place path) ≠ some .directory ∧ place path ∉ opened t (dirOf path) := by
  by_cases ho : place path ∈ opened t (dirOf path)
  · simp [get?_makePath_of_mem_opened ho, ho]
  · rw [get?_makePath]
    simp [ho]

theorem writeText_makePath_iff (hp : NamesFile path steps n) (s : String) (u : FileTree) :
    (makePath t (dirOf path)).2 = none ∧ writeText (makePath t (dirOf path)).1 path s = .ok u ↔
      Writable t path ∧ u = (makePath t (dirOf path)).1.put (place path) (.file (.text s)) := by
  rw [makePath_eq_none_iff, writeText_eq_ok_iff hp, get?_makePath_place_iff]
  constructor
  · rintro ⟨hd, hr, ⟨hfree, hapart⟩, hu⟩
    exact ⟨⟨hr.valid, (short_iff hp).mpr hr.short, hd, hfree, hapart⟩, hu⟩
  · rintro ⟨hw, hu⟩
    exact ⟨hw.dir, inReach_makePath hp hw.valid ((short_iff hp).mp hw.short) hw.dir,
      ⟨hw.free, hw.apart⟩, hu⟩

theorem walk_mono {u : FileTree} {dir l : Location} {steps : List Component}
    (hstay : ∀ l, t.get? l = some .directory → u.get? l = some .directory)
    (h : walk t dir steps = .ok l) : walk u dir steps = .ok l := by
  induction steps generalizing dir with
  | nil => exact h
  | cons c steps ih =>
      cases c with
      | up => exact ih h
      | name n =>
          obtain ⟨hn, hdir, h⟩ := walk_name_eq_ok_iff.mp h
          exact walk_name_eq_ok_iff.mpr ⟨hn, hstay _ hdir, ih h⟩

theorem inReach_mono {u : FileTree}
    (hstay : ∀ l, t.get? l = some .directory → u.get? l = some .directory)
    (h : InReach t path steps n) : InReach u path steps n :=
  ⟨h.valid, h.short, walk_mono hstay h.dir⟩

def IsAbove (path : String) (l : Location) : Prop :=
  ∃ above below, components path = above ++ below ∧ below ≠ [] ∧ l = follow [] above

theorem exists_prefix_of_mem_passed {dir l : Location} {steps : List Component}
    (h : l ∈ passed t dir steps) : ∃ above, above <+: steps ∧ l = follow dir above := by
  induction steps generalizing dir with
  | nil => cases h
  | cons c steps ih =>
      cases c with
      | up =>
          obtain ⟨above, hbegin, hl⟩ := ih h
          exact ⟨.up :: above, List.cons_prefix_cons.mpr ⟨rfl, hbegin⟩, hl⟩
      | name n =>
          rw [passed] at h
          split at h
          · cases h
          · rcases List.mem_cons.mp h with hl | h
            · exact ⟨[.name n], List.cons_prefix_cons.mpr ⟨rfl, List.nil_prefix⟩, hl⟩
            · obtain ⟨above, hbegin, hl⟩ := ih h
              exact ⟨.name n :: above, List.cons_prefix_cons.mpr ⟨rfl, hbegin⟩, hl⟩

theorem isAbove_of_mem_opened (hc : components path = steps ++ [.name n]) {l : Location}
    (h : l ∈ opened t (dirOf path)) : IsAbove path l := by
  unfold opened at h
  split at h
  · rw [components_dirOf hc] at h
    obtain ⟨above, ⟨below, hsteps⟩, hl⟩ := exists_prefix_of_mem_passed h
    exact ⟨above, below ++ [.name n], by rw [hc, ← hsteps, List.append_assoc], by simp, hl⟩
  · cases h

def NeedsDirectory (t : FileTree) (path : String) : Prop :=
  ∃ l ∈ opened t (dirOf path), t.get? l = none

theorem get?_makePath_eq_iff (t : FileTree) (path : String) :
    (∀ l, (makePath t (dirOf path)).1.get? l = t.get? l) ↔ ¬ NeedsDirectory t path := by
  constructor
  · rintro h ⟨l, ho, hnone⟩
    have hl := h l
    rw [get?_makePath, if_pos ⟨ho, hnone⟩, hnone] at hl
    cases hl
  · intro h l
    rw [get?_makePath, if_neg]
    rintro ⟨ho, hnone⟩
    exact h ⟨l, ho, hnone⟩

theorem not_needsDirectory_of_inReach (hp : NamesFile path steps n)
    (hr : InReach t path steps n) : ¬ NeedsDirectory t path := by
  rintro ⟨l, ho, hnone⟩
  unfold opened at ho
  split at ho
  · rw [hp.components_dirOf] at ho
    have hl := get?_pave t [] steps l
    rw [if_pos ⟨ho, hnone⟩, (walk_eq_ok hr.dir).2, hnone] at hl
    cases hl
  · cases ho

theorem walk_of_passed {dir : Location} {steps : List Component} (hpass : Passable t dir steps)
    (hthere : ∀ l ∈ passed t dir steps, t.get? l ≠ none) :
    walk t dir steps = .ok (follow dir steps) := by
  induction steps generalizing dir with
  | nil => rfl
  | cons c steps ih =>
      cases c with
      | up => exact ih hpass hthere
      | name n =>
          obtain ⟨hn, hfile, hrest⟩ := hpass
          rw [passed_name hn hfile, List.forall_mem_cons] at hthere
          obtain ⟨e, he⟩ := Option.ne_none_iff_exists'.mp hthere.1
          cases e with
          | directory =>
              simp only [walk, entryIn_of_le hn, he]
              exact ih hrest hthere.2
          | file c => simp [isFileAt, he] at hfile

theorem inReach_or_needsDirectory (hp : NamesFile path steps n) (hw : Writable t path) :
    InReach t path steps n ∨ NeedsDirectory t path := by
  have hshort := (short_iff hp).mp hw.short
  by_cases hneed : NeedsDirectory t path
  · exact .inr hneed
  · refine .inl ⟨hw.valid, hshort, ?_⟩
    have hsteps := hp.components_dirOf
    rcases hw.dir with hempty | ⟨hv, hpass⟩
    · rw [← hsteps, hempty]
      rfl
    · rw [hsteps] at hpass
      refine walk_of_passed hpass ?_
      intro l hl hnone
      have hopened : l ∈ opened t (dirOf path) := by
        unfold opened
        rw [hv, hsteps]
        exact hl
      exact hneed ⟨l, hopened, hnone⟩

end

end Viewsmith.Files
