import Viewsmith.Proofs.Files.Writing

namespace Viewsmith.Files

def WellFormed (t : FileTree) : Prop :=
  ∀ l n, t.get? (l ++ [n]) ≠ none → t.get? l = some .directory

theorem wellFormed_of_entries {t : FileTree}
    (h : ∀ e ∈ t.entries, t.get? e.1.dropLast = some .directory) : WellFormed t := by
  intro l n hthere
  have hmem : ∃ e ∈ t.entries, e.1 = l ++ [n] := by
    have hfind : FileTree.findEntry t.entries (l ++ [n]) ≠ none := by
      cases hl : l ++ [n] with
      | nil => simp at hl
      | cons m rest =>
          rw [hl] at hthere
          exact hthere
    generalize t.entries = entries at hfind
    induction entries with
    | nil => exact absurd rfl hfind
    | cons e rest ih =>
        by_cases he : e.1 = l ++ [n]
        · exact ⟨e, List.mem_cons_self, he⟩
        · rw [FileTree.findEntry, if_neg he] at hfind
          obtain ⟨e', he', hl⟩ := ih hfind
          exact ⟨e', List.mem_cons_of_mem _ he', hl⟩
  obtain ⟨e, he, hl⟩ := hmem
  have hdir := h e he
  rw [hl, List.dropLast_concat] at hdir
  exact hdir

theorem get?_root (t : FileTree) : t.get? [] = some .directory := rfl

theorem follow_names (dir : Location) (names : List String) :
    follow dir (names.map Component.name) = dir ++ names := by
  induction names generalizing dir with
  | nil => simp [follow]
  | cons n names ih =>
      rw [List.map_cons, follow, ih, List.append_assoc]
      rfl

theorem walk_of_append {t : FileTree} {dir l : Location} {a b : List Component}
    (h : walk t dir (a ++ b) = .ok l) : walk t dir a = .ok (follow dir a) := by
  induction a generalizing dir with
  | nil => rfl
  | cons c a ih =>
      cases c with
      | up => exact ih h
      | name n =>
          obtain ⟨hn, hdir, h⟩ := walk_name_eq_ok_iff.mp h
          exact walk_name_eq_ok_iff.mpr ⟨hn, hdir, ih h⟩

theorem walk_append {t : FileTree} {dir l : Location} {a : List Component}
    (h : walk t dir a = .ok l) (b : List Component) : walk t dir (a ++ b) = walk t l b := by
  induction a generalizing dir with
  | nil =>
      obtain rfl := Except.ok.inj h
      rfl
  | cons c a ih =>
      cases c with
      | up => exact ih h
      | name n =>
          obtain ⟨hn, hdir, h⟩ := walk_name_eq_ok_iff.mp h
          rw [List.cons_append, walk, entryIn_of_le hn, hdir]
          exact ih h

theorem isDirectory_iff (t : FileTree) (path : String) :
    isDirectory t path = true ↔ ∃ l, find t path = .ok (l, .directory) := by
  unfold isDirectory
  cases find t path with
  | error e => simp
  | ok found =>
      obtain ⟨l, e⟩ := found
      cases e <;> simp

theorem isDirectory_iff_walk {t : FileTree} {path : String} (hv : checkPath path = .ok ()) :
    isDirectory t path = true ↔ walk t [] (components path) = .ok (place path) := by
  rcases List.eq_nil_or_concat (components path) with hc | ⟨steps, c, hc⟩
  · simp [isDirectory, find, locate, hv, hc, place, follow, walk]
  · rw [List.concat_eq_append] at hc
    cases c with
    | up =>
        rw [isDirectory, find, locate_of_up hv hc, place, hc]
        cases hw : walk t [] (steps ++ [.up]) with
        | error e => simp [Except.map]
        | ok l => simp [Except.map, (walk_eq_ok hw).1]
    | name n =>
        rw [isDirectory_iff, place_of_components hc]
        simp only [find_eq_ok_iff_of_components hc, place_of_components hc, hc]
        constructor
        · rintro ⟨l, hr, _, hget, _⟩
          rw [walk_append hr.dir]
          exact walk_name_eq_ok_iff.mpr ⟨hr.short, hget, rfl⟩
        · intro hw
          have hdir := walk_of_append hw
          rw [walk_append hdir] at hw
          obtain ⟨hn, hget, _⟩ := walk_name_eq_ok_iff.mp hw
          exact ⟨_, ⟨hv, hn, hdir⟩, rfl, hget, fun _ => trivial⟩

theorem checkPath_of_isDirectory {t : FileTree} {path : String} (h : isDirectory t path = true) :
    checkPath path = .ok () := by
  cases hv : checkPath path with
  | ok _ => rfl
  | error e => simp [isDirectory, find, locate, hv] at h

theorem exists_names {steps : List Component} (h : Component.up ∉ steps) :
    ∃ names : List String, steps = names.map .name := by
  induction steps with
  | nil => exact ⟨[], rfl⟩
  | cons c steps ih =>
      rw [List.mem_cons, not_or] at h
      obtain ⟨names, rfl⟩ := ih h.2
      cases c with
      | up => exact absurd rfl h.1
      | name n => exact ⟨n :: names, rfl⟩

/-- All that comes behind the last step back is names, and what comes before it is there. So it is with
every path without steps back, and with every path that leads to a directory. -/
def Grounded (t : FileTree) (steps : List Component) : Prop :=
  ∃ base, ∃ names : List String, steps = base ++ names.map Component.name ∧
    walk t [] base = .ok (follow [] base)

theorem Grounded.of_walk {t : FileTree} {l : Location} {steps : List Component}
    (h : walk t [] steps = .ok l) : Grounded t steps :=
  ⟨steps, [], by simp, by rw [h, (walk_eq_ok h).1]⟩

theorem Grounded.of_names {steps : List Component} (h : Component.up ∉ steps) (t : FileTree) :
    Grounded t steps := by
  obtain ⟨names, rfl⟩ := exists_names h
  exact ⟨[], names, rfl, rfl⟩

/-- A path that leads to a directory is grounded, whatever steps back it takes. -/
theorem grounded_of_isDirectory {t : FileTree} {path : String} (h : isDirectory t path = true) :
    Grounded t (components path) :=
  .of_walk ((isDirectory_iff_walk (checkPath_of_isDirectory h)).mp h)

theorem Grounded.append {t : FileTree} {steps : List Component} (h : Grounded t steps)
    (names : List String) : Grounded t (steps ++ names.map Component.name) := by
  obtain ⟨base, below, rfl, hbase⟩ := h
  exact ⟨base, below ++ names, by rw [List.map_append, List.append_assoc], hbase⟩

theorem Grounded.dropLast {t : FileTree} {steps : List Component} {c : Component}
    (h : Grounded t (steps ++ [c])) : Grounded t steps := by
  obtain ⟨base, names, hsplit, hbase⟩ := h
  rcases List.eq_nil_or_concat names with rfl | ⟨above, n, rfl⟩
  · rw [List.map_nil, List.append_nil] at hsplit
    rw [← hsplit] at hbase
    exact .of_walk (walk_of_append hbase)
  · rw [List.concat_eq_append, List.map_append, ← List.append_assoc] at hsplit
    exact ⟨base, above, List.append_inj_left' hsplit rfl, hbase⟩

theorem Grounded.mono {t u : FileTree} {steps : List Component} (h : Grounded t steps)
    (hstay : ∀ l, t.get? l = some .directory → u.get? l = some .directory) : Grounded u steps := by
  obtain ⟨base, names, hsteps, hbase⟩ := h
  exact ⟨base, names, hsteps, walk_mono hstay hbase⟩

namespace WellFormed

variable {t : FileTree} (h : WellFormed t)

include h

theorem get?_of_append {l : Location} {names : List String} (hne : names ≠ [])
    (hthere : t.get? (l ++ names) ≠ none) : t.get? l = some .directory := by
  induction names generalizing l with
  | nil => exact absurd rfl hne
  | cons n names ih =>
      refine h l n ?_
      by_cases hnames : names = []
      · rw [hnames] at hthere
        exact hthere
      · have hsplit : l ++ n :: names = l ++ [n] ++ names := by simp
        rw [hsplit] at hthere
        rw [ih hnames hthere]
        exact Option.some_ne_none _

theorem get?_dropLast {l : Location} (hl : t.get? l = some .directory) :
    t.get? l.dropLast = some .directory := by
  rcases List.eq_nil_or_concat l with rfl | ⟨above, n, rfl⟩
  · rfl
  · rw [List.concat_eq_append] at hl ⊢
    rw [List.dropLast_concat]
    exact h above n (by rw [hl]; exact Option.some_ne_none _)

theorem put {l : Location} {n : String} {e : Entry} (hl : t.get? l = some .directory)
    (he : e = .directory ∨ t.get? (l ++ [n]) ≠ some .directory) :
    WellFormed (t.put (l ++ [n]) e) := by
  intro m x hthere
  have hlonger : l ++ [n] = m ++ [x] → l ++ [n] ≠ m := by
    rintro hsame rfl
    simpa using congrArg List.length hsame
  have habove : t.get? m = some .directory := by
    by_cases hsame : l ++ [n] = m ++ [x]
    · rw [← List.append_inj_left' hsame rfl]
      exact hl
    · rw [FileTree.get?_put_of_ne t e hsame] at hthere
      exact h m x hthere
  by_cases hm : l ++ [n] = m
  · rcases he with rfl | hfile
    · rw [← hm, FileTree.get?_put_self t _ (by simp)]
    · rw [← hm] at habove
      exact absurd habove hfile
  · rw [FileTree.get?_put_of_ne t e hm, habove]

/-- Paving keeps a tree well formed, since it only makes directories in directories. -/
theorem pave {dir : Location} (hdir : t.get? dir = some .directory) (steps : List Component) :
    WellFormed (Files.pave t dir steps).1 ∧ ((Files.pave t dir steps).2 = true →
      (Files.pave t dir steps).1.get? (follow dir steps) = some .directory) := by
  induction steps generalizing t dir with
  | nil => exact ⟨h, fun _ => hdir⟩
  | cons c steps ih =>
      cases c with
      | up => exact ih h (h.get?_dropLast hdir)
      | name n =>
          rcases pave_name_cases t dir n steps with ⟨_, _, hp⟩ | ⟨_, hthere, hp⟩ | ⟨_, hp⟩
          · rw [hp]
            exact ih (h.put hdir (.inl rfl)) (FileTree.get?_put_self t _ (by simp))
          · rw [hp]
            exact ih h hthere
          · rw [hp]
            exact ⟨h, fun hreached => absurd hreached Bool.false_ne_true⟩

theorem makePath (path : String) : WellFormed (Files.makePath t path).1 := by
  cases hv : checkPath path with
  | ok _ =>
      rw [Files.makePath, (makeDirectories_eq_pave hv (Nat.lt_succ_self _)).1]
      exact (h.pave (get?_root t) _).1
  | error e =>
      by_cases hne : path = ""
      · rw [hne]
        exact h
      · rw [makePath_of_checkPath hv hne]
        exact h

theorem get?_of_walk {steps : List Component} (hw : walk t [] steps = .ok (follow [] steps)) :
    t.get? (follow [] steps) = some .directory := by
  have hpave := (walk_eq_ok hw).2
  have hend := (h.pave (get?_root t) steps).2
  rw [hpave] at hend
  exact hend rfl

variable {path n : String} {steps : List Component}

theorem put_place (hp : NamesFile path steps n) (hr : InReach t path steps n)
    (hfree : t.get? (place path) ≠ some .directory) (c : Content) :
    WellFormed (t.put (place path) (.file c)) := by
  rw [hp.place_eq] at hfree ⊢
  exact h.put (h.get?_of_walk hr.dir) (.inr hfree)

/-- On a way of names behind grounded steps stand directories that are there, and the places from
the end of the steps on. -/
theorem isAbove_cases {base : List Component} {names : List String} {l : Location}
    (hg : Grounded t base) (hpath : components path = base ++ names.map .name)
    (hl : IsAbove path l) :
    t.get? l = some .directory ∨
      l <+: follow [] base ++ names ∧ l ≠ follow [] base ++ names := by
  obtain ⟨start, below, rfl, hstart⟩ := hg
  obtain ⟨above, rest, hcut, hrest, rfl⟩ := hl
  rw [hpath, List.append_assoc, ← List.map_append] at hcut
  rw [follow_append, follow_names, List.append_assoc]
  rcases List.append_eq_append_iff.mp hcut with ⟨more, rfl, hnames⟩ | ⟨more, rfl, _⟩
  · obtain ⟨first, last, hsplit, rfl, rfl⟩ := List.map_eq_append_iff.mp hnames
    refine .inr ?_
    rw [follow_append, follow_names, hsplit, ← List.append_assoc]
    refine ⟨List.prefix_append _ _, fun hsame => hrest ?_⟩
    rw [List.self_eq_append_right.mp hsame]
    rfl
  · exact .inl (h.get?_of_walk (walk_of_append hstart))

/-- A place on a grounded way is there if the end of the way is. -/
theorem get?_of_isAbove {l : Location} (hg : Grounded t (components path)) (hl : IsAbove path l)
    (hthere : t.get? (place path) ≠ none) : t.get? l = some .directory := by
  have hpath : components path = components path ++ ([] : List String).map .name := by simp
  rcases h.isAbove_cases hg hpath hl with hdir | ⟨⟨more, hmore⟩, hne⟩
  · exact hdir
  · rw [List.append_nil] at hmore hne
    have hmoreNe : more ≠ [] := by
      rintro rfl
      exact hne (by rw [← hmore, List.append_nil])
    exact h.get?_of_append hmoreNe (by rw [hmore]; exact hthere)

/-- A path that can be written and leads to no entry that can be seen leads to none at all. -/
theorem get?_place_eq_none (hp : NamesFile path steps n) (hg : Grounded t (components path))
    (hw : Writable t path) (habsent : pathExists t path = false) : t.get? (place path) = none := by
  by_contra hthere
  rcases inReach_or_needsDirectory hp hw with hr | ⟨l, hl, hnone⟩
  · rw [(pathExists_iff hp).mpr ⟨hr, hthere⟩] at habsent
    cases habsent
  · rw [h.get?_of_isAbove hg (isAbove_of_mem_opened hp.components_eq hl) hthere] at hnone
    cases hnone

end WellFormed

end Viewsmith.Files
