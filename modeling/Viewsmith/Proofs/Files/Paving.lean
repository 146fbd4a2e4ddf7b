import Viewsmith.Proofs.Files.Components

namespace Viewsmith.Files

def follow : Location → List Component → Location
  | dir, [] => dir
  | dir, .up :: rest => follow dir.dropLast rest
  | dir, .name n :: rest => follow (dir ++ [n]) rest

def isFileAt (t : FileTree) (l : Location) : Bool :=
  match t.get? l with
  | some (.file _) => true
  | _ => false

theorem isFileAt_iff (t : FileTree) (l : Location) :
    isFileAt t l = true ↔ ∃ c, t.get? l = some (.file c) := by
  unfold isFileAt
  cases t.get? l with
  | none => simp
  | some e => cases e <;> simp

def Passable (t : FileTree) : Location → List Component → Prop
  | _, [] => True
  | dir, .up :: rest => Passable t dir.dropLast rest
  | dir, .name n :: rest =>
      n.utf8ByteSize ≤ nameLimit ∧ isFileAt t (dir ++ [n]) = false ∧ Passable t (dir ++ [n]) rest

instance decidablePassable (t : FileTree) :
    (dir : Location) → (steps : List Component) → Decidable (Passable t dir steps)
  | _, [] => .isTrue trivial
  | dir, .up :: rest => decidablePassable t dir.dropLast rest
  | dir, .name n :: rest =>
      have : Decidable (Passable t (dir ++ [n]) rest) := decidablePassable t (dir ++ [n]) rest
      inferInstanceAs (Decidable (_ ∧ _ ∧ _))

/-- The places on a way up to the first name that is too long and the first file. -/
def passed (t : FileTree) : Location → List Component → List Location
  | _, [] => []
  | dir, .up :: rest => passed t dir.dropLast rest
  | dir, .name n :: rest =>
      if nameLimit < n.utf8ByteSize || isFileAt t (dir ++ [n]) then []
      else (dir ++ [n]) :: passed t (dir ++ [n]) rest

/-- Go a way and make the directories that are missing. The answer tells whether its end was
reached. -/
def pave (t : FileTree) : Location → List Component → FileTree × Bool
  | _, [] => (t, true)
  | dir, .up :: rest => pave t dir.dropLast rest
  | dir, .name n :: rest =>
      match entryIn t dir n with
      | .error _ => (t, false)
      | .ok none => pave (t.put (dir ++ [n]) .directory) (dir ++ [n]) rest
      | .ok (some .directory) => pave t (dir ++ [n]) rest
      | .ok (some (.file _)) => (t, false)

theorem follow_append (dir : Location) (a b : List Component) :
    follow dir (a ++ b) = follow (follow dir a) b := by
  induction a generalizing dir with
  | nil => rfl
  | cons c a ih => cases c <;> exact ih _

theorem entryIn_eq_ok {t : FileTree} {dir : Location} {n : String} {e : Option Entry}
    (h : entryIn t dir n = .ok e) : n.utf8ByteSize ≤ nameLimit ∧ t.get? (dir ++ [n]) = e := by
  unfold entryIn at h
  split at h
  · cases h
  · exact ⟨Nat.le_of_not_lt ‹_›, Except.ok.inj h⟩

theorem entryIn_of_le {t : FileTree} {dir : Location} {n : String}
    (h : n.utf8ByteSize ≤ nameLimit) : entryIn t dir n = .ok (t.get? (dir ++ [n])) := by
  rw [entryIn, if_neg (Nat.not_lt.mpr h)]

theorem entryIn_eq_error {t : FileTree} {dir : Location} {n : String} {e : IoError}
    (h : entryIn t dir n = .error e) : nameLimit < n.utf8ByteSize ∧ e = .nameTooLong := by
  unfold entryIn at h
  split at h
  · exact ⟨‹_›, (Except.error.inj h).symm⟩
  · cases h

/-- A name on the way is walked through, or the walk ends there for one of three reasons. -/
theorem walk_name_cases (t : FileTree) (dir : Location) (n : String) (rest : List Component) :
    (nameLimit < n.utf8ByteSize ∧ walk t dir (.name n :: rest) = .error .nameTooLong) ∨
    (n.utf8ByteSize ≤ nameLimit ∧ t.get? (dir ++ [n]) = none ∧
      walk t dir (.name n :: rest) = .error .notFound) ∨
    (n.utf8ByteSize ≤ nameLimit ∧ t.get? (dir ++ [n]) = some .directory ∧
      walk t dir (.name n :: rest) = walk t (dir ++ [n]) rest) ∨
    (n.utf8ByteSize ≤ nameLimit ∧ isFileAt t (dir ++ [n]) = true ∧
      walk t dir (.name n :: rest) = .error .notDirectory) := by
  cases he : entryIn t dir n with
  | error e =>
      obtain ⟨hn, rfl⟩ := entryIn_eq_error he
      exact .inl ⟨hn, by rw [walk, he]⟩
  | ok found =>
      obtain ⟨hn, hget⟩ := entryIn_eq_ok he
      match found with
      | none => exact .inr (.inl ⟨hn, hget, by rw [walk, he]⟩)
      | some .directory => exact .inr (.inr (.inl ⟨hn, hget, by rw [walk, he]⟩))
      | some (.file c) => exact .inr (.inr (.inr ⟨hn, by simp [isFileAt, hget], by rw [walk, he]⟩))

theorem walk_name_eq_ok_iff {t : FileTree} {dir l : Location} {n : String}
    {rest : List Component} :
    walk t dir (.name n :: rest) = .ok l ↔
      n.utf8ByteSize ≤ nameLimit ∧ t.get? (dir ++ [n]) = some .directory ∧
        walk t (dir ++ [n]) rest = .ok l := by
  constructor
  · intro h
    rcases walk_name_cases t dir n rest with ⟨_, hw⟩ | ⟨_, _, hw⟩ | ⟨hn, hdir, hw⟩ | ⟨_, _, hw⟩ <;>
      rw [hw] at h
    · cases h
    · cases h
    · exact ⟨hn, hdir, h⟩
    · cases h
  · rintro ⟨hn, hdir, h⟩
    rw [walk, entryIn_of_le hn, hdir]
    exact h

/-- A name on the way is made, is there, or stops the way. -/
theorem pave_name_cases (t : FileTree) (dir : Location) (n : String) (rest : List Component) :
    (n.utf8ByteSize ≤ nameLimit ∧ t.get? (dir ++ [n]) = none ∧
      pave t dir (.name n :: rest) = pave (t.put (dir ++ [n]) .directory) (dir ++ [n]) rest) ∨
    (n.utf8ByteSize ≤ nameLimit ∧ t.get? (dir ++ [n]) = some .directory ∧
      pave t dir (.name n :: rest) = pave t (dir ++ [n]) rest) ∨
    ((nameLimit < n.utf8ByteSize ∨ isFileAt t (dir ++ [n]) = true) ∧
      pave t dir (.name n :: rest) = (t, false)) := by
  cases he : entryIn t dir n with
  | error e => exact .inr (.inr ⟨.inl (entryIn_eq_error he).1, by rw [pave, he]⟩)
  | ok found =>
      obtain ⟨hn, hget⟩ := entryIn_eq_ok he
      match found with
      | none => exact .inl ⟨hn, hget, by rw [pave, he]⟩
      | some .directory => exact .inr (.inl ⟨hn, hget, by rw [pave, he]⟩)
      | some (.file c) => exact .inr (.inr ⟨.inr (by simp [isFileAt, hget]), by rw [pave, he]⟩)

theorem isFileAt_put_directory {t : FileTree} {l : Location} (h : t.get? l = none) (m : Location) :
    isFileAt (t.put l .directory) m = isFileAt t m := by
  by_cases hm : l = m
  · subst hm
    cases l with
    | nil => rfl
    | cons n l => simp [isFileAt, FileTree.get?_put_self, h]
  · simp [isFileAt, FileTree.get?_put_of_ne t _ hm]

theorem passed_name {t : FileTree} {dir : Location} {n : String} (hn : n.utf8ByteSize ≤ nameLimit)
    (hfile : isFileAt t (dir ++ [n]) = false) (rest : List Component) :
    passed t dir (.name n :: rest) = (dir ++ [n]) :: passed t (dir ++ [n]) rest := by
  simp [passed, Nat.not_lt.mpr hn, hfile]

theorem passed_of_stopped {t : FileTree} {dir : Location} {n : String}
    (h : nameLimit < n.utf8ByteSize ∨ isFileAt t (dir ++ [n]) = true) (rest : List Component) :
    passed t dir (.name n :: rest) = [] := by
  rcases h with h | h <;> simp [passed, h]

def SameFiles (t u : FileTree) (dir : Location) (steps : List Component) : Prop :=
  ∀ above, above <+: steps → isFileAt u (follow dir above) = isFileAt t (follow dir above)

theorem SameFiles.tail {t u : FileTree} {dir : Location} {c : Component} {steps : List Component}
    (h : SameFiles t u dir (c :: steps)) : SameFiles t u (follow dir [c]) steps := by
  intro above habove
  have hlonger := h (c :: above) (List.cons_prefix_cons.mpr ⟨rfl, habove⟩)
  cases c <;> exact hlonger

theorem SameFiles.head {t u : FileTree} {dir : Location} {n : String} {steps : List Component}
    (h : SameFiles t u dir (.name n :: steps)) :
    isFileAt u (dir ++ [n]) = isFileAt t (dir ++ [n]) :=
  h [.name n] (List.cons_prefix_cons.mpr ⟨rfl, List.nil_prefix⟩)

theorem passed_congr {t u : FileTree} {dir : Location} {steps : List Component}
    (h : SameFiles t u dir steps) : passed u dir steps = passed t dir steps := by
  induction steps generalizing dir with
  | nil => rfl
  | cons c steps ih =>
      cases c with
      | up => exact ih h.tail
      | name n =>
          have hrest : passed u (dir ++ [n]) steps = passed t (dir ++ [n]) steps := ih h.tail
          rw [passed, passed, h.head, hrest]

theorem passable_congr {t u : FileTree} (h : ∀ l, isFileAt t l = isFileAt u l) (dir : Location)
    (steps : List Component) : Passable t dir steps ↔ Passable u dir steps := by
  induction steps generalizing dir with
  | nil => exact Iff.rfl
  | cons c steps ih =>
      cases c with
      | up => exact ih _
      | name n => rw [Passable, Passable, h, ih]

theorem Passable.mono {t u : FileTree} (hless : ∀ l, isFileAt u l = true → isFileAt t l = true)
    {dir : Location} {steps : List Component} (h : Passable t dir steps) :
    Passable u dir steps := by
  induction steps generalizing dir with
  | nil => trivial
  | cons c steps ih =>
      cases c with
      | up => exact ih h
      | name n =>
          obtain ⟨hn, hfile, hrest⟩ := h
          refine ⟨hn, ?_, ih hrest⟩
          rw [← Bool.not_eq_true] at hfile ⊢
          exact fun hthere => hfile (hless _ hthere)

theorem passed_of_passable {t u : FileTree} {dir : Location} {steps : List Component}
    (h : Passable t dir steps) (h' : Passable u dir steps) :
    passed u dir steps = passed t dir steps := by
  induction steps generalizing dir with
  | nil => rfl
  | cons c steps ih =>
      cases c with
      | up => exact ih h h'
      | name n =>
          obtain ⟨hn, hfile, hrest⟩ := h
          obtain ⟨_, hfile', hrest'⟩ := h'
          rw [passed_name hn hfile, passed_name hn hfile', ih hrest hrest']

theorem isFileAt_of_mem_passed {t : FileTree} {dir l : Location} {steps : List Component}
    (h : l ∈ passed t dir steps) : isFileAt t l = false := by
  induction steps generalizing dir with
  | nil => cases h
  | cons c steps ih =>
      cases c with
      | up => exact ih h
      | name n =>
          rw [passed] at h
          split at h
          · cases h
          · rename_i hstop
            rcases List.mem_cons.mp h with rfl | h
            · rw [Bool.not_eq_true, Bool.or_eq_false_iff] at hstop
              exact hstop.2
            · exact ih h

/-- Paving makes directories at the missing places that it passes, and changes nothing else. -/
theorem get?_pave (t : FileTree) (dir : Location) (steps : List Component) (l : Location) :
    (pave t dir steps).1.get? l =
      if l ∈ passed t dir steps ∧ t.get? l = none then some .directory else t.get? l := by
  induction steps generalizing t dir with
  | nil => simp [pave, passed]
  | cons c steps ih =>
      cases c with
      | up => exact ih t dir.dropLast
      | name n =>
          rcases pave_name_cases t dir n steps with ⟨hn, hnone, hp⟩ | ⟨hn, hdir, hp⟩ | ⟨hstop, hp⟩
          · rw [hp, ih, passed_congr fun above _ => isFileAt_put_directory hnone _,
              passed_name hn (by simp [isFileAt, hnone])]
            by_cases hl : dir ++ [n] = l
            · subst hl
              rw [FileTree.get?_put_self t _ (by simp), hnone]
              simp
            · rw [FileTree.get?_put_of_ne t _ hl]
              simp only [List.mem_cons, Ne.symm hl, false_or]
          · rw [hp, ih, passed_name hn (by simp [isFileAt, hdir])]
            by_cases hl : l = dir ++ [n]
            · subst hl
              simp [hdir]
            · simp only [List.mem_cons, hl, false_or]
          · rw [hp, passed_of_stopped hstop]
            simp

theorem get?_pave_of_some {t : FileTree} {l : Location} {e : Entry} (h : t.get? l = some e)
    (dir : Location) (steps : List Component) : (pave t dir steps).1.get? l = some e := by
  rw [get?_pave, if_neg (by simp [h]), h]

theorem pave_reaches_iff (t : FileTree) (dir : Location) (steps : List Component) :
    (pave t dir steps).2 = true ↔ Passable t dir steps := by
  induction steps generalizing t dir with
  | nil => simp [pave, Passable]
  | cons c steps ih =>
      cases c with
      | up => exact ih t dir.dropLast
      | name n =>
          rcases pave_name_cases t dir n steps with ⟨hn, hnone, hp⟩ | ⟨hn, hdir, hp⟩ | ⟨hstop, hp⟩
          · rw [hp, ih, passable_congr (isFileAt_put_directory hnone), Passable]
            simp [hn, isFileAt, hnone]
          · rw [hp, ih, Passable]
            simp [hn, isFileAt, hdir]
          · rw [hp, Passable]
            rcases hstop with h | h <;> simp [h, Nat.not_le.mpr]

theorem pave_append (t : FileTree) (dir : Location) (a b : List Component) :
    pave t dir (a ++ b) =
      if (pave t dir a).2 then pave (pave t dir a).1 (follow dir a) b else pave t dir a := by
  induction a generalizing t dir with
  | nil => simp [pave, follow]
  | cons c a ih =>
      cases c with
      | up => exact ih t dir.dropLast
      | name n =>
          rw [List.cons_append]
          cases he : entryIn t dir n with
          | error e => simp [pave, he]
          | ok found =>
              match found with
              | none => simpa only [pave, he, follow] using ih _ _
              | some .directory => simpa only [pave, he, follow] using ih _ _
              | some (.file c) => simp [pave, he]

theorem walk_eq_ok {t : FileTree} {dir l : Location} {steps : List Component}
    (h : walk t dir steps = .ok l) : l = follow dir steps ∧ pave t dir steps = (t, true) := by
  induction steps generalizing dir with
  | nil => exact ⟨(Except.ok.inj h).symm, rfl⟩
  | cons c steps ih =>
      cases c with
      | up => exact ih h
      | name n =>
          obtain ⟨hn, hdir, h⟩ := walk_name_eq_ok_iff.mp h
          obtain ⟨hl, hp⟩ := ih h
          exact ⟨hl, by rw [pave, entryIn_of_le hn, hdir]; exact hp⟩

/-- A walk that fails for another reason than a missing directory cannot be paved at all. -/
theorem pave_of_walk_eq_error {t : FileTree} {dir : Location} {steps : List Component} {e : IoError}
    (h : walk t dir steps = .error e) (hne : e ≠ .notFound) : pave t dir steps = (t, false) := by
  induction steps generalizing dir with
  | nil => cases h
  | cons c steps ih =>
      cases c with
      | up => exact ih h
      | name n =>
          unfold walk at h
          split at h
          · rename_i he
            rw [pave, he]
          · exact absurd (Except.error.inj h).symm hne
          · rename_i he
            rw [pave, he]
            exact ih h
          · rename_i he
            rw [pave, he]

theorem walk_pave {t : FileTree} {dir : Location} {steps : List Component}
    (h : (pave t dir steps).2 = true) :
    walk (pave t dir steps).1 dir steps = .ok (follow dir steps) := by
  induction steps generalizing t dir with
  | nil => rfl
  | cons c steps ih =>
      cases c with
      | up => exact ih h
      | name n =>
          have hwalk (u : FileTree) (hn : n.utf8ByteSize ≤ nameLimit)
              (hu : u.get? (dir ++ [n]) = some .directory)
              (hp : pave t dir (.name n :: steps) = pave u (dir ++ [n]) steps) :
              walk (pave t dir (.name n :: steps)).1 dir (.name n :: steps) =
                .ok (follow dir (.name n :: steps)) := by
            rw [hp] at h ⊢
            exact walk_name_eq_ok_iff.mpr ⟨hn, get?_pave_of_some hu _ _, ih h⟩
          rcases pave_name_cases t dir n steps with ⟨hn, hnone, hp⟩ | ⟨hn, hdir, hp⟩ | ⟨hstop, hp⟩
          · exact hwalk _ hn (FileTree.get?_put_self t _ (by simp)) hp
          · exact hwalk _ hn hdir hp
          · rw [hp] at h
            cases h

theorem locate_of_up {path : String} {steps : List Component} (hv : checkPath path = .ok ())
    (hc : components path = steps ++ [.up]) (t : FileTree) :
    locate t path = (walk t [] (steps ++ [.up])).map .directory := by
  simp only [locate, hv, hc, List.getLast?_append, List.getLast?_singleton, Option.some_or]

theorem locate_of_name {path n : String} {steps : List Component} (hv : checkPath path = .ok ())
    (hc : components path = steps ++ [.name n]) (t : FileTree) :
    locate t path = (walk t [] steps).map (.name · n) := by
  simp only [locate, hv, hc, List.getLast?_append, List.getLast?_singleton, Option.some_or,
    List.dropLast_concat]

theorem walk_concat_up (t : FileTree) (dir : Location) (steps : List Component) :
    walk t dir (steps ++ [.up]) = (walk t dir steps).map List.dropLast := by
  induction steps generalizing dir with
  | nil => rfl
  | cons c steps ih =>
      cases c with
      | up => exact ih _
      | name n =>
          rw [List.cons_append, walk, walk]
          split
          · rfl
          · rfl
          · exact ih _
          · rfl

theorem makeDirectory_of_walk_error {t : FileTree} {path : String} {steps : List Component}
    {c : Component} {e : IoError} (hv : checkPath path = .ok ())
    (hc : components path = steps ++ [c]) (hw : walk t [] steps = .error e) :
    makeDirectory t path = .error e ∧ isDirectory t path = false := by
  have hl : locate t path = .error e := by
    cases c with
    | up => rw [locate_of_up hv hc, walk_concat_up, hw]; rfl
    | name n => rw [locate_of_name hv hc, hw]; rfl
  exact ⟨by rw [makeDirectory, hl], by rw [isDirectory, find, hl]⟩

/-- At the end of a way, making a directory is paving one more step. -/
theorem makeDirectory_of_walk {t : FileTree} {path : String} {steps : List Component}
    {c : Component} {l : Location} (hv : checkPath path = .ok ())
    (hc : components path = steps ++ [c]) (hw : walk t [] steps = .ok l) :
    (∃ u, makeDirectory t path = .ok u ∧ pave t l [c] = (u, true)) ∨
      ∃ e, makeDirectory t path = .error e ∧ e ≠ .notFound ∧
        pave t l [c] = (t, isDirectory t path) := by
  cases c with
  | up =>
      have hl : locate t path = .ok (.directory l.dropLast) := by
        rw [locate_of_up hv hc, walk_concat_up, hw]; rfl
      refine .inr ⟨.alreadyExists, by rw [makeDirectory, hl], by simp, ?_⟩
      rw [isDirectory, find, hl]
      rfl
  | name n =>
      have hl : locate t path = .ok (.name l n) := by rw [locate_of_name hv hc, hw]; rfl
      cases he : entryIn t l n with
      | error e =>
          have hne : e ≠ .notFound := by simp [(entryIn_eq_error he).2]
          refine .inr ⟨e, by simp only [makeDirectory, hl, he], hne, ?_⟩
          simp only [pave, isDirectory, find, hl, he]
      | ok found =>
          match found with
          | none =>
              exact .inl ⟨t.put (l ++ [n]) .directory, by simp only [makeDirectory, hl, he],
                by simp only [pave, he]⟩
          | some .directory =>
              refine .inr ⟨.alreadyExists, by simp only [makeDirectory, hl, he], by simp, ?_⟩
              simp only [pave, isDirectory, find, hl, he]
          | some (.file c) =>
              refine .inr ⟨.alreadyExists, by simp only [makeDirectory, hl, he], by simp, ?_⟩
              simp only [pave, isDirectory, find, hl, he]
              cases wantsDirectory path <;> rfl

theorem ne_empty_of_checkPath {path : String} (hv : checkPath path = .ok ()) : path ≠ "" := by
  rintro rfl
  simp [checkPath] at hv

theorem checkPath_of_begins {above path : String} (h : above.toList <+: path.toList)
    (hne : above ≠ "") (hv : checkPath path = .ok ()) : checkPath above = .ok () := by
  obtain ⟨rest, hrest⟩ := h
  have hpath : path = above ++ String.ofList rest := by
    rw [← String.toList_inj, String.toList_append, String.toList_ofList, hrest]
  subst hpath
  simp only [checkPath, String.toList_append, String.utf8ByteSize_append] at hv ⊢
  split at hv
  · cases hv
  · rename_i hnul
    split at hv
    · cases hv
    · split at hv
      · cases hv
      · rename_i hlen
        rw [if_neg, if_neg (by simpa using hne), if_neg (by omega)]
        intro hm
        apply hnul
        rw [List.contains_iff_mem] at hm ⊢
        exact List.mem_append_left _ hm

theorem checkPath_of_walk_error {t : FileTree} {above path : String} {e : IoError}
    (h : above.toList <+: path.toList) (hw : walk t [] (components above) = .error e)
    (hv : checkPath path = .ok ()) : checkPath above = .ok () := by
  have hne : above ≠ "" := by
    rintro rfl
    cases hw
  exact checkPath_of_begins h hne hv

theorem length_lt_of_begins {above path : String} (h : above.toList <+: path.toList)
    (hne : above ≠ path) : above.length < path.length := by
  have hlength := h.length_le
  have hdiffer : above.toList.length ≠ path.toList.length :=
    fun hsame => hne (String.toList_inj.mp (h.eq_of_length hsame))
  rw [String.length_toList, String.length_toList] at hlength hdiffer
  omega

theorem makeDirectories_eq_pave {fuel : Nat} {t : FileTree} {path : String}
    (hv : checkPath path = .ok ()) (hfuel : path.length < fuel) :
    (makeDirectories fuel t path).1 = (pave t [] (components path)).1 ∧
      ((makeDirectories fuel t path).2 = none ↔ (pave t [] (components path)).2 = true) := by
  induction fuel generalizing t path with
  | zero => omega
  | succ fuel ih =>
      have hne := ne_empty_of_checkPath hv
      have hroot (hc : components path = []) :
          makeDirectory t path = .error .alreadyExists ∧ isDirectory t path = true := by
        have hl : locate t path = .ok (.directory []) := by simp only [locate, hv, hc, List.getLast?_nil]
        exact ⟨by rw [makeDirectory, hl], by rw [isDirectory, find, hl]⟩
      rw [makeDirectories, if_neg (by simpa using hne)]
      rcases parent?_spec hne with ⟨_, hc⟩ | ⟨above, habove, hbegin, hneq, ⟨hc, _⟩ | ⟨c, hc⟩⟩
      · simp [hroot hc, hc, pave]
      · simp [hroot hc, hc, pave]
      · cases hw : walk t [] (components above) with
        | ok l =>
            obtain ⟨rfl, hp⟩ := walk_eq_ok hw
            rw [hc, pave_append, hp, if_pos rfl]
            rcases makeDirectory_of_walk hv hc hw with ⟨u, hm, hlast⟩ | ⟨e, hm, he, hlast⟩
            · simp [hm, hlast]
            · rw [hm, hlast]
              cases hd : isDirectory t path <;> cases e <;> simp_all
        | error e =>
            obtain ⟨hm, hd⟩ := makeDirectory_of_walk_error hv hc hw
            by_cases he : e = .notFound
            · subst he
              have hv' := checkPath_of_walk_error hbegin hw hv
              have hlen := length_lt_of_begins hbegin hneq
              obtain ⟨htree, hend⟩ := ih (t := t) hv' (by omega)
              rw [hc, pave_append, hm, habove]
              cases hmade : makeDirectories fuel t above with
              | mk u r =>
                  rw [hmade] at htree hend
                  cases r with
                  | some e => simp_all
                  | none =>
                      have hp := hend.mp rfl
                      have hw' : walk u [] (components above) = .ok (follow [] (components above)) := by
                        rw [show u = _ from htree]
                        exact walk_pave hp
                      rw [if_pos hp, ← htree]
                      rcases makeDirectory_of_walk hv hc hw' with ⟨v, hm', hlast⟩ | ⟨e, hm', _, hlast⟩
                      · simp [hmade, hm', hlast]
                      · cases hd' : isDirectory u path <;> simp [hmade, hm', hlast, hd']
            · have hp := pave_of_walk_eq_error hw he
              rw [hc, pave_append, hp, hm]
              cases e <;> simp_all

def Creatable (t : FileTree) (path : String) : Prop :=
  path = "" ∨ (checkPath path = .ok () ∧ Passable t [] (components path))

/-- The places that are directories once the directory of a path was to be made. -/
def opened (t : FileTree) (path : String) : List Location :=
  match checkPath path with
  | .ok _ => passed t [] (components path)
  | .error _ => []

/-- Where a directory can be made in both trees, the same places are opened. -/
theorem opened_of_creatable {t u : FileTree} {path : String} (h : Creatable t path)
    (h' : Creatable u path) : opened u path = opened t path := by
  rcases h with rfl | ⟨hv, hpass⟩
  · rfl
  · rcases h' with rfl | ⟨_, hpass'⟩
    · rfl
    · simp only [opened, hv, passed_of_passable hpass hpass']

theorem makePath_of_checkPath {t : FileTree} {path : String} {e : IoError}
    (hv : checkPath path = .error e) (hne : path ≠ "") : makePath t path = (t, some e) := by
  have hl : locate t path = .error e := by rw [locate, hv]
  have hm : makeDirectory t path = .error e := by rw [makeDirectory, hl]
  have hd : isDirectory t path = false := by rw [isDirectory, find, hl]
  have he : e ≠ .notFound := by
    rintro rfl
    simp only [checkPath, String.isEmpty_iff, hne, if_false] at hv
    split at hv
    · cases hv
    · split at hv <;> cases hv
  rw [makePath, makeDirectories, if_neg (by simpa using hne), hm]
  cases e <;> simp_all

/-- Making a directory with those above it adds directories and changes nothing else. -/
theorem get?_makePath (t : FileTree) (path : String) (l : Location) :
    (makePath t path).1.get? l =
      if l ∈ opened t path ∧ t.get? l = none then some .directory else t.get? l := by
  unfold opened
  cases hv : checkPath path with
  | ok _ =>
      rw [makePath, (makeDirectories_eq_pave hv (Nat.lt_succ_self _)).1]
      exact get?_pave t [] (components path) l
  | error e =>
      by_cases hne : path = ""
      · simp [hne, makePath, makeDirectories]
      · simp [makePath_of_checkPath hv hne]

theorem makePath_eq_none_iff (t : FileTree) (path : String) :
    (makePath t path).2 = none ↔ Creatable t path := by
  unfold Creatable
  by_cases hne : path = ""
  · simp [hne, makePath, makeDirectories]
  · cases hv : checkPath path with
    | ok _ =>
        rw [makePath, (makeDirectories_eq_pave hv (Nat.lt_succ_self _)).2, pave_reaches_iff]
        simp [hne]
    | error e => simp [makePath_of_checkPath hv hne, hne]

theorem walk_makePath {t : FileTree} {path : String} (h : Creatable t path) :
    walk (makePath t path).1 [] (components path) = .ok (follow [] (components path)) := by
  rcases h with rfl | ⟨hv, hp⟩
  · rfl
  · rw [makePath, (makeDirectories_eq_pave hv (Nat.lt_succ_self _)).1]
    exact walk_pave ((pave_reaches_iff t [] _).mpr hp)

end Viewsmith.Files
