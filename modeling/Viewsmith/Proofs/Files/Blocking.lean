import Viewsmith.Proofs.Files.WellFormed

namespace Viewsmith.Files

/-- What stops a way whose missing directories are made: the first name that is too long, or the first
file. A file at the very end is in the way of the directory there. -/
def blockage (t : FileTree) : Location → List Component → Option IoError
  | _, [] => none
  | dir, .up :: rest => blockage t dir.dropLast rest
  | dir, .name n :: rest =>
      if nameLimit < n.utf8ByteSize then some .nameTooLong
      else if isFileAt t (dir ++ [n]) then
        some (if rest.isEmpty then .alreadyExists else .notDirectory)
      else blockage t (dir ++ [n]) rest

def FreeOfFiles (t : FileTree) : Location → List Component → Prop
  | _, [] => True
  | dir, .up :: rest => FreeOfFiles t dir.dropLast rest
  | dir, .name n :: rest => isFileAt t (dir ++ [n]) = false ∧ FreeOfFiles t (dir ++ [n]) rest

/-- Behind a name on the way that is missing there is no file. -/
def Orderly (t : FileTree) : Location → List Component → Prop
  | _, [] => True
  | dir, .up :: rest => Orderly t dir.dropLast rest
  | dir, .name n :: rest =>
      (t.get? (dir ++ [n]) = none → FreeOfFiles t (dir ++ [n]) rest) ∧ Orderly t (dir ++ [n]) rest

section

variable {t u : FileTree} {dir l : Location} {n : String} {a b steps : List Component}
  {c : Component} {e : IoError}

theorem blockage_congr (h : SameFiles t u dir steps) : blockage u dir steps = blockage t dir steps := by
  induction steps generalizing dir with
  | nil => rfl
  | cons c steps ih =>
      cases c with
      | up => exact ih h.tail
      | name n =>
          have hrest : blockage u (dir ++ [n]) steps = blockage t (dir ++ [n]) steps := ih h.tail
          rw [blockage, blockage, h.head, hrest]

theorem blockage_name (hn : n.utf8ByteSize ≤ nameLimit) (hfile : isFileAt t (dir ++ [n]) = false)
    (rest : List Component) :
    blockage t dir (.name n :: rest) = blockage t (dir ++ [n]) rest := by
  simp [blockage, Nat.not_lt.mpr hn, hfile]

theorem blockage_append (h : blockage t dir a = none) (b : List Component) :
    blockage t dir (a ++ b) = blockage t (follow dir a) b := by
  induction a generalizing dir with
  | nil => rfl
  | cons c a ih =>
      cases c with
      | up => exact ih h
      | name n =>
          rw [blockage] at h
          split at h
          · cases h
          · rename_i hn
            split at h
            · cases h
            · rename_i hfile
              rw [List.cons_append,
                blockage_name (Nat.le_of_not_lt hn) (Bool.eq_false_iff.mpr hfile), ih h]
              rfl

theorem blockage_of_walk (h : walk t dir a = .ok l) : blockage t dir a = none := by
  induction a generalizing dir with
  | nil => rfl
  | cons c a ih =>
      cases c with
      | up => exact ih h
      | name n =>
          obtain ⟨hn, hdir, h⟩ := walk_name_eq_ok_iff.mp h
          rw [blockage_name hn (by simp [isFileAt, hdir])]
          exact ih h

/-- What stops a walk for another reason than that a directory is missing stops the way. -/
theorem blockage_of_walk_error (h : walk t dir a = .error e) (hne : e ≠ .notFound) (hb : b ≠ []) :
    blockage t dir (a ++ b) = some e := by
  induction a generalizing dir with
  | nil => cases h
  | cons c a ih =>
      cases c with
      | up => exact ih h
      | name n =>
          rw [List.cons_append]
          rcases walk_name_cases t dir n a with ⟨hn, hw⟩ | ⟨_, _, hw⟩ | ⟨hn, hdir, hw⟩ | ⟨hn, hfile, hw⟩ <;>
            rw [hw] at h
          · rw [blockage, if_pos hn, Except.error.inj h]
          · exact absurd (Except.error.inj h).symm hne
          · rw [blockage_name hn (by simp [isFileAt, hdir])]
            exact ih h
          · rw [blockage, if_neg (Nat.not_lt.mpr hn), if_pos hfile, ← Except.error.inj h]
            simp [hb]

theorem blockage_append_of_freeOfFiles (hfree : FreeOfFiles t dir (a ++ b))
    (h : blockage t dir a = some e) : blockage t dir (a ++ b) = some e := by
  induction a generalizing dir with
  | nil => cases h
  | cons c a ih =>
      cases c with
      | up => exact ih hfree h
      | name n =>
          obtain ⟨hfile, hfree⟩ := hfree
          rw [List.cons_append, blockage]
          rw [blockage] at h
          split at h
          · rename_i hn
            rw [if_pos hn, h]
          · rename_i hn
            rw [if_neg (by simp [hfile])] at h
            rw [if_neg hn, if_neg (by simp [hfile])]
            exact ih hfree h

/-- Behind a missing directory only a name that is too long can stop the way, and that stops every
longer way, too. -/
theorem blockage_append_of_walk_notFound (hord : Orderly t dir (a ++ b))
    (hw : walk t dir a = .error .notFound) (h : blockage t dir a = some e) :
    blockage t dir (a ++ b) = some e := by
  induction a generalizing dir with
  | nil => cases h
  | cons c a ih =>
      cases c with
      | up => exact ih hord hw h
      | name n =>
          obtain ⟨hgap, hord⟩ := hord
          rcases walk_name_cases t dir n a with ⟨_, hstep⟩ | ⟨hn, hget, _⟩ | ⟨hn, hget, hstep⟩ | ⟨_, _, hstep⟩
          · rw [hstep] at hw
            cases hw
          · rw [blockage_name hn (by simp [isFileAt, hget])] at h
            rw [List.cons_append, blockage_name hn (by simp [isFileAt, hget])]
            exact blockage_append_of_freeOfFiles (hgap hget) h
          · rw [hstep] at hw
            rw [blockage_name hn (by simp [isFileAt, hget])] at h
            rw [List.cons_append, blockage_name hn (by simp [isFileAt, hget])]
            exact ih hord hw h
          · rw [hstep] at hw
            cases hw

def makingError (t : FileTree) (path : String) : Option IoError :=
  match makeDirectory t path with
  | .ok _ => none
  | .error e => if isDirectory t path then none else some e

/-- At the end of a way, making the last directory fails for what stops the last step. -/
theorem makingError_of_walk {path : String} (hv : checkPath path = .ok ())
    (hc : components path = steps ++ [c]) (hw : walk t [] steps = .ok l) :
    makingError t path = blockage t l [c] := by
  unfold makingError
  cases c with
  | up =>
      have hl : locate t path = .ok (.directory l.dropLast) := by
        rw [locate_of_up hv hc, walk_concat_up, hw]
        rfl
      simp [makeDirectory, isDirectory, find, hl, blockage]
  | name n =>
      have hl : locate t path = .ok (.name l n) := by
        rw [locate_of_name hv hc, hw]
        rfl
      simp only [makeDirectory, isDirectory, find, hl, blockage]
      cases he : entryIn t l n with
      | error e =>
          obtain ⟨hn, rfl⟩ := entryIn_eq_error he
          simp [hn]
      | ok found =>
          obtain ⟨hn, hget⟩ := entryIn_eq_ok he
          cases found with
          | none => simp [Nat.not_lt.mpr hn, isFileAt, hget]
          | some entry =>
              cases entry with
              | directory => simp [Nat.not_lt.mpr hn, isFileAt, hget]
              | file c => cases wantsDirectory path <;> simp [Nat.not_lt.mpr hn, isFileAt, hget]

theorem freeOfFiles_of_append (h : FreeOfFiles t dir (a ++ b)) : FreeOfFiles t dir a := by
  induction a generalizing dir with
  | nil => trivial
  | cons c a ih =>
      cases c with
      | up => exact ih h
      | name n => exact ⟨h.1, ih h.2⟩

theorem orderly_of_append (h : Orderly t dir (a ++ b)) : Orderly t dir a := by
  induction a generalizing dir with
  | nil => trivial
  | cons c a ih =>
      cases c with
      | up => exact ih h
      | name n => exact ⟨fun hnone => freeOfFiles_of_append (h.1 hnone), ih h.2⟩

end

section

variable {t : FileTree} {path : String} {fuel : Nat}

theorem isFileAt_pave (dir : Location) (steps : List Component) (l : Location) :
    isFileAt (pave t dir steps).1 l = isFileAt t l := by
  by_cases hnew : l ∈ passed t dir steps ∧ t.get? l = none
  · simp [isFileAt, get?_pave, hnew]
  · rw [isFileAt, isFileAt, get?_pave, if_neg hnew]

theorem makeDirectories_error (hne : path ≠ "") (h : makeDirectory t path ≠ .error .notFound) :
    (makeDirectories (fuel + 1) t path).2 = makingError t path := by
  rw [makeDirectories, if_neg (by simpa using hne), makingError]
  cases hmade : makeDirectory t path with
  | ok u => rfl
  | error e =>
      rw [hmade] at h
      cases hdir : isDirectory t path <;> cases e <;> simp_all

theorem makeDirectories_error_above {above : String} (hne : path ≠ "")
    (h : makeDirectory t path = .error .notFound) (hparent : parent? path = some above) :
    (makeDirectories (fuel + 1) t path).2 =
      ((makeDirectories fuel t above).2.or (makingError (makeDirectories fuel t above).1 path)) := by
  rw [makeDirectories, if_neg (by simpa using hne), h]
  simp only [hparent, makingError]
  cases makeDirectories fuel t above with
  | mk u r =>
      cases r with
      | some e => rfl
      | none =>
          cases hmade : makeDirectory u path with
          | ok v => simp [hmade]
          | error e => cases hdir : isDirectory u path <;> simp [hmade, hdir]

/-- Making directories fails for what stops their way. The induction follows the path upwards. -/
theorem makeDirectories_eq_blockage (hv : checkPath path = .ok ()) (hfuel : path.length < fuel)
    (hord : Orderly t [] (components path)) :
    (makeDirectories fuel t path).2 = blockage t [] (components path) := by
  induction fuel generalizing path with
  | zero => omega
  | succ fuel ih =>
      have hne := ne_empty_of_checkPath hv
      have hempty (hc : components path = []) :
          (makeDirectories (fuel + 1) t path).2 = blockage t [] (components path) := by
        have hl : locate t path = .ok (.directory []) := by
          simp only [locate, hv, hc, List.getLast?_nil]
        rw [makeDirectories_error hne (by simp [makeDirectory, hl]), hc]
        simp [makingError, makeDirectory, isDirectory, find, hl, blockage]
      rcases parent?_spec hne with ⟨_, hc⟩ | ⟨above, hparent, hbegin, hneq, ⟨hc, _⟩ | ⟨c, hc⟩⟩
      · exact hempty hc
      · exact hempty hc
      · cases hw : walk t [] (components above) with
        | ok l =>
            have hnot : makeDirectory t path ≠ .error .notFound := by
              rcases makeDirectory_of_walk hv hc hw with ⟨u, hmade, _⟩ | ⟨e, hmade, he, _⟩
              · simp [hmade]
              · simpa [hmade] using he
            rw [makeDirectories_error hne hnot, makingError_of_walk hv hc hw, hc,
              blockage_append (blockage_of_walk hw), (walk_eq_ok hw).1]
        | error e =>
            obtain ⟨hmade, hdir⟩ := makeDirectory_of_walk_error hv hc hw
            by_cases he : e = .notFound
            · subst he
              have hv' := checkPath_of_walk_error hbegin hw hv
              have hlen := length_lt_of_begins hbegin hneq
              rw [hc] at hord ⊢
              rw [makeDirectories_error_above hne hmade hparent,
                ih hv' (by omega) (orderly_of_append hord)]
              cases hblock : blockage t [] (components above) with
              | some e => rw [blockage_append_of_walk_notFound hord hw hblock, Option.some_or]
              | none =>
                  have hfuel : above.length < fuel := by omega
                  obtain ⟨htree, hend⟩ := makeDirectories_eq_pave (t := t) hv' hfuel
                  rw [ih hv' (by omega) (orderly_of_append hord), hblock] at hend
                  have hw' := walk_pave (hend.mp rfl)
                  rw [← htree] at hw'
                  rw [Option.none_or, makingError_of_walk hv hc hw', blockage_append hblock]
                  refine blockage_congr fun above' _ => ?_
                  rw [htree, isFileAt_pave]
            · have hnot : makeDirectory t path ≠ .error .notFound := by simpa [hmade] using he
              rw [makeDirectories_error hne hnot, hc,
                blockage_of_walk_error hw he (List.cons_ne_nil c [])]
              simp [makingError, hmade, hdir]

end

section

variable {t u : FileTree} (hwell : WellFormed t)

include hwell

theorem WellFormed.freeOfFiles {l : Location} (hnone : t.get? l = none) (names : List String) :
    FreeOfFiles t l (names.map .name) := by
  induction names generalizing l with
  | nil => trivial
  | cons n names ih =>
      have hbelow : t.get? (l ++ [n]) = none := by
        by_contra hthere
        rw [hwell l n hthere] at hnone
        cases hnone
      exact ⟨by simp [isFileAt, hbelow], ih hbelow⟩

theorem WellFormed.orderly_names (l : Location) (names : List String) :
    Orderly t l (names.map .name) := by
  induction names generalizing l with
  | nil => trivial
  | cons n names ih => exact ⟨fun hnone => hwell.freeOfFiles hnone names, ih _⟩

theorem WellFormed.orderly {steps : List Component} (hg : Grounded t steps) :
    Orderly t [] steps := by
  obtain ⟨base, names, rfl, hbase⟩ := hg
  generalize ([] : Location) = dir at hbase
  induction base generalizing dir with
  | nil => exact hwell.orderly_names dir names
  | cons c base ih =>
      cases c with
      | up => exact ih _ hbase
      | name n =>
          obtain ⟨_, hdir, hbase⟩ := walk_name_eq_ok_iff.mp hbase
          refine ⟨fun hnone => ?_, ih _ hbase⟩
          rw [hdir] at hnone
          cases hnone

/-- Making the directories of a path fails in the same way in two trees with files in the same
places. -/
theorem makePath_error_congr {path : String} (hwell' : WellFormed u)
    (hg : Grounded t (components path)) (hg' : Grounded u (components path))
    (hsame : SameFiles t u [] (components path)) :
    (makePath u path).2 = (makePath t path).2 := by
  by_cases hne : path = ""
  · simp [hne, makePath, makeDirectories]
  · cases hv : checkPath path with
    | ok _ =>
        rw [makePath, makePath, makeDirectories_eq_blockage hv (Nat.lt_succ_self _) (hwell'.orderly hg'),
          makeDirectories_eq_blockage hv (Nat.lt_succ_self _) (hwell.orderly hg), blockage_congr hsame]
    | error e => rw [makePath_of_checkPath hv hne, makePath_of_checkPath hv hne]

end

theorem writeText_of_walk {t : FileTree} {path n : String} {steps : List Component}
    (hp : NamesFile path steps n) (hw : walk t [] steps = .ok (follow [] steps)) (s : String) :
    writeText t path s =
      match checkPath path with
      | .error e => .error e
      | .ok _ =>
          if nameLimit < n.utf8ByteSize then .error .nameTooLong
          else if t.get? (place path) = some .directory then .error .isDirectory
          else .ok (t.put (place path) (.file (.text s))) := by
  cases hv : checkPath path with
  | error e => simp only [writeText, locate, hv]
  | ok _ =>
      have hl : locate t path = .ok (.name (follow [] steps) n) := by
        rw [locate_of_name hv hp.components_eq, hw]
        rfl
      simp only [writeText, hl, ← hp.place_eq, hp.bare]
      cases he : entryIn t (follow [] steps) n with
      | error e =>
          obtain ⟨hn, rfl⟩ := entryIn_eq_error he
          simp [hn]
      | ok found =>
          obtain ⟨hn, hget⟩ := entryIn_eq_ok he
          rw [← hp.place_eq] at hget
          cases found with
          | none => simp [Nat.not_lt.mpr hn, hget]
          | some entry => cases entry <;> simp [Nat.not_lt.mpr hn, hget]

end Viewsmith.Files
