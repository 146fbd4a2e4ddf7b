import Viewsmith.Proofs.Files.Writing
import Viewsmith.Scaffold.Generated

namespace Viewsmith.Scaffold

open Files

/-- The conditions that are checked for one file before anything is written. -/
def Admissible (t : FileTree) (root : String) (force : Bool) (f : GeneratedFile) : Prop :=
  pathExists t (join root f.path) = true →
    match f.merge with
    | some m => ∃ content, readText t (join root f.path) = .ok content ∧ m.missingIn content ≠ []
    | none => force = true

theorem conflicts_cons (t : FileTree) (root : String) (force : Bool) (f : GeneratedFile)
    (rest : List GeneratedFile) :
    conflicts t root force (f :: rest) =
      if !pathExists t (join root f.path) then conflicts t root force rest
      else
        match f.merge with
        | some m =>
            match readText t (join root f.path) with
            | .error e => .error (ioFailure "Failed to read file: " (join root f.path) e)
            | .ok content =>
                if (m.missingIn content).isEmpty then
                  .error (.refuse ("All selected views already exist in " ++ join root f.path))
                else conflicts t root force rest
        | none =>
            if force then conflicts t root force rest
            else (conflicts t root force rest).map (join root f.path :: ·) := (rfl)

theorem conflicts_eq_nil_iff (t : FileTree) (root : String) (force : Bool)
    (files : List GeneratedFile) :
    conflicts t root force files = .ok [] ↔ ∀ f ∈ files, Admissible t root force f := by
  induction files with
  | nil => exact iff_of_true rfl (by simp)
  | cons f rest ih =>
      rw [List.forall_mem_cons, ← ih, conflicts_cons, Admissible]
      cases pathExists t (join root f.path) with
      | false => simp
      | true =>
          cases f.merge with
          | none =>
              cases force with
              | true => simp
              | false => cases conflicts t root false rest <;> simp [Except.map]
          | some m =>
              cases readText t (join root f.path) with
              | error e => simp
              | ok content => cases hm : m.missingIn content <;> simp [hm]

theorem checkConflicts_eq_ok_iff (t : FileTree) (root : String) (force : Bool)
    (files : List GeneratedFile) :
    checkConflicts t root force files = .ok () ↔ ∀ f ∈ files, Admissible t root force f := by
  rw [← conflicts_eq_nil_iff, checkConflicts]
  cases conflicts t root force files with
  | error e => simp
  | ok paths => cases paths <;> simp

section

variable {t : FileTree} {path n : String} {steps : List Component}

theorem writeWhole_eq_error (f : GeneratedFile) {u : FileTree} {e : IoError} (existed : Bool)
    (h : makePath t (dirOf path) = (u, some e)) :
    f.writeWhole t path existed =
      (u, .error (ioFailure "Failed to create directory: " (dirOf path) e)) := by
  rw [GeneratedFile.writeWhole, show (parent? path).getD "" = dirOf path from rfl, h]

theorem writeWhole_eq_write (f : GeneratedFile) {u : FileTree} (existed : Bool)
    (h : makePath t (dirOf path) = (u, none)) :
    f.writeWhole t path existed =
      match writeText u path f.content with
      | .error e => (u, .error (ioFailure "Failed to write file: " path e))
      | .ok v => (v, .ok (if existed then .overwritten else .created)) := by
  cases hwrite : writeText u path f.content with
  | error e =>
      simp only [GeneratedFile.writeWhole, show (parent? path).getD "" = dirOf path from rfl, h, hwrite]
  | ok v =>
      simp only [GeneratedFile.writeWhole, show (parent? path).getD "" = dirOf path from rfl, h, hwrite]

def written (t : FileTree) (path s : String) : FileTree :=
  (makePath t (dirOf path)).1.put (place path) (.file (.text s))

theorem writeWhole_of_writable (f : GeneratedFile) (hp : NamesFile path steps n) (existed : Bool)
    (hw : Writable t path) :
    f.writeWhole t path existed =
      (written t path f.content, .ok (if existed then .overwritten else .created)) := by
  obtain ⟨hmade, hwrite⟩ := (writeText_makePath_iff hp f.content _).mpr ⟨hw, rfl⟩
  rw [writeWhole_eq_write f existed (Prod.ext rfl hmade), hwrite]
  rfl

/-- Where a file cannot be written, the directories above it that can be made stay. -/
theorem writeWhole_of_not_writable (f : GeneratedFile) (hp : NamesFile path steps n)
    (existed : Bool) (hw : ¬ Writable t path) :
    ∃ e, f.writeWhole t path existed = ((makePath t (dirOf path)).1, .error e) := by
  cases hmade : (makePath t (dirOf path)).2 with
  | some e => exact ⟨_, writeWhole_eq_error f existed (Prod.ext rfl hmade)⟩
  | none =>
      rw [writeWhole_eq_write f existed (Prod.ext rfl hmade)]
      cases hwrite : writeText (makePath t (dirOf path)).1 path f.content with
      | error e => exact ⟨_, rfl⟩
      | ok v => exact absurd ((writeText_makePath_iff hp f.content v).mp ⟨hmade, hwrite⟩).1 hw

theorem get?_written (hp : NamesFile path steps n) (s : String) (l : Location) :
    (written t path s).get? l =
      if l = place path then some (.file (.text s))
      else if l ∈ opened t (dirOf path) ∧ t.get? l = none then some .directory else t.get? l := by
  unfold written
  by_cases hl : l = place path
  · rw [if_pos hl, hl, FileTree.get?_put_self _ _ hp.place_ne_nil]
  · rw [if_neg hl, FileTree.get?_put_of_ne _ _ (Ne.symm hl), get?_makePath]

theorem get?_written_of_some (hp : NamesFile path steps n) (s : String) {l : Location} {e : Entry}
    (hne : l ≠ place path) (h : t.get? l = some e) : (written t path s).get? l = some e := by
  rw [get?_written hp, if_neg hne, if_neg (by simp [h]), h]

theorem written_directory_stays (hp : NamesFile path steps n) (hw : Writable t path) (s : String)
    {l : Location} (h : t.get? l = some .directory) :
    (written t path s).get? l = some .directory := by
  refine get?_written_of_some hp s ?_ h
  rintro rfl
  exact hw.free h

theorem written_elsewhere (hp : NamesFile path steps n) (s : String) {l : Location}
    (hne : l ≠ place path) :
    (written t path s).get? l = t.get? l ∨
      t.get? l = none ∧ (written t path s).get? l = some .directory ∧ IsAbove path l := by
  rw [get?_written hp, if_neg hne]
  by_cases hl : l ∈ opened t (dirOf path) ∧ t.get? l = none
  · rw [if_pos hl]
    exact .inr ⟨hl.2, rfl, isAbove_of_mem_opened hp.components_eq hl.1⟩
  · rw [if_neg hl]
    exact .inl rfl

theorem readText_written (hp : NamesFile path steps n) (hw : Writable t path) (s : String) :
    readText (written t path s) path = .ok s := by
  rw [readText_eq_ok_iff hp, get?_written hp, if_pos rfl]
  have hreach := inReach_makePath hp hw.valid ((short_iff hp).mp hw.short) hw.dir
  refine ⟨inReach_mono (fun l hl => ?_) hreach, rfl⟩
  have hne : l ≠ place path := by
    rintro rfl
    exact (get?_makePath_place_iff path).mpr ⟨hw.free, hw.apart⟩ hl
  rw [written, FileTree.get?_put_of_ne _ _ (Ne.symm hne), hl]

theorem readText_put {old : String} (hp : NamesFile path steps n)
    (h : readText t path = .ok old) (s : String) :
    readText (t.put (place path) (.file (.text s))) path = .ok s := by
  rw [readText_eq_ok_iff hp] at h ⊢
  refine ⟨inReach_mono (fun l hl => ?_) h.1, FileTree.get?_put_self _ _ hp.place_ne_nil⟩
  have hne : place path ≠ l := by
    rintro rfl
    rw [h.2] at hl
    cases hl
  rw [FileTree.get?_put_of_ne _ _ hne, hl]

end

theorem appendSections_eq_join (content : String) (sections : List ViewSection) :
    appendSections content sections =
      endedLine content ++ String.join (sections.map (·.body)) := by
  unfold appendSections
  generalize endedLine content = start
  induction sections generalizing start with
  | nil => simp
  | cons s sections ih =>
      rw [List.foldl_cons, ih, List.map_cons, String.join_cons, ← String.append_assoc]

/-- A views module is merged as soon as it can be read. It is rewritten only if a section is
missing in it. -/
theorem appendTo_of_readText {t : FileTree} {path content : String} (m : Merge)
    (h : readText t path = .ok content) :
    ∃ l, find t path = .ok (l, .file (.text content)) ∧ l ≠ [] ∧
      t.get? l = some (.file (.text content)) ∧
      m.appendTo t path =
        (if m.missingIn content = [] then t
          else t.put l (.file (.text (appendSections content (m.missingIn content)))),
        .ok (.merged ((m.missingIn content).map (·.className))
          ((m.definedIn content).map (·.className)))) := by
  obtain ⟨l, hl⟩ := readText_eq_ok h
  obtain ⟨hw, hget, hne⟩ := writeText_of_find hl (appendSections content (m.missingIn content))
  refine ⟨l, hl, hne, hget, ?_⟩
  simp only [Merge.appendTo, h]
  cases hm : m.missingIn content with
  | nil => simp
  | cons s rest =>
      rw [hm] at hw
      simp [hw]

theorem appendTo_of_error {t : FileTree} {path : String} {e : IoError} (m : Merge)
    (h : readText t path = .error e) :
    m.appendTo t path = (t, .error (ioFailure "Failed to read file: " path e)) := by
  rw [Merge.appendTo, h]

namespace GeneratedFile

variable {t : FileTree} {root : String} {force : Bool}

variable (force) in
theorem writeTo_of_absent {f : GeneratedFile} (h : pathExists t (join root f.path) = false) :
    f.writeTo t root force = f.writeWhole t (join root f.path) false := by
  unfold writeTo
  simp only [h]

variable (force) in
theorem writeTo_of_merge {f : GeneratedFile} {m : Merge} (hm : f.merge = some m)
    (h : pathExists t (join root f.path) = true) :
    f.writeTo t root force = m.appendTo t (join root f.path) := by
  unfold writeTo
  simp only [h, hm]

theorem writeTo_of_force {f : GeneratedFile} (hm : f.merge = none)
    (h : pathExists t (join root f.path) = true) :
    f.writeTo t root true = f.writeWhole t (join root f.path) true := by
  unfold writeTo
  simp only [h, hm, if_true]

theorem writeTo_of_refused {f : GeneratedFile} (hm : f.merge = none)
    (h : pathExists t (join root f.path) = true) :
    f.writeTo t root false = (t, .error (.refuse (existsMessage (join root f.path)))) := by
  unfold writeTo
  simp only [h, hm, Bool.false_eq_true, if_false]

variable (t force) in
theorem writeTo_dispatch (f : GeneratedFile) :
    (∃ m, f.merge = some m ∧ pathExists t (join root f.path) = true ∧
        f.writeTo t root force = m.appendTo t (join root f.path)) ∨
      (f.merge = none ∧ pathExists t (join root f.path) = true ∧ force = false ∧
        f.writeTo t root force = (t, .error (.refuse (existsMessage (join root f.path))))) ∨
      (pathExists t (join root f.path) = true → f.merge = none ∧ force = true) ∧
        ∃ existed, f.writeTo t root force = f.writeWhole t (join root f.path) existed := by
  cases hexists : pathExists t (join root f.path) with
  | false => exact .inr (.inr ⟨nofun, false, writeTo_of_absent force hexists⟩)
  | true =>
      cases hm : f.merge with
      | some m => exact .inl ⟨m, rfl, rfl, writeTo_of_merge force hm hexists⟩
      | none =>
          cases force with
          | true => exact .inr (.inr ⟨fun _ => ⟨rfl, rfl⟩, true, writeTo_of_force hm hexists⟩)
          | false => exact .inr (.inl ⟨rfl, rfl, rfl, writeTo_of_refused hm hexists⟩)

variable (t force) in
/-- All that can happen when a generated file is written: it is merged, refused, written whole, or
only directories can be made. -/
theorem writeTo_cases {f : GeneratedFile} {steps : List Component} {n : String}
    (hp : NamesFile (join root f.path) steps n) :
    (∃ m, f.merge = some m ∧ pathExists t (join root f.path) = true ∧
        f.writeTo t root force = m.appendTo t (join root f.path)) ∨
      (f.merge = none ∧ pathExists t (join root f.path) = true ∧ force = false ∧
        ∃ e, f.writeTo t root force = (t, .error e)) ∨
      (pathExists t (join root f.path) = true → f.merge = none ∧ force = true) ∧
        (Writable t (join root f.path) ∧
            (∃ o, (∀ added skipped, o ≠ .merged added skipped) ∧
              f.writeTo t root force = (written t (join root f.path) f.content, .ok o)) ∨
          ¬ Writable t (join root f.path) ∧
            ∃ e, f.writeTo t root force = ((makePath t (dirOf (join root f.path))).1, .error e)) := by
  rcases writeTo_dispatch t force f with hmerge | ⟨hm, hexists, hforce, hwrite⟩ | ⟨hnew, existed, hwrite⟩
  · exact .inl hmerge
  · exact .inr (.inl ⟨hm, hexists, hforce, _, hwrite⟩)
  · refine .inr (.inr ⟨hnew, ?_⟩)
    by_cases hwritable : Writable t (join root f.path)
    · rw [writeWhole_of_writable f hp existed hwritable] at hwrite
      refine .inl ⟨hwritable, _, ?_, hwrite⟩
      cases existed <;> simp
    · obtain ⟨e, he⟩ := writeWhole_of_not_writable f hp existed hwritable
      exact .inr ⟨hwritable, e, hwrite.trans he⟩

theorem get?_of_writeTo_error {f : GeneratedFile} {steps : List Component} {n : String}
    {u : FileTree} {e : Failure} (hp : NamesFile (join root f.path) steps n) (hm : f.merge = none)
    (h : f.writeTo t root force = (u, .error e)) (l : Location) :
    u.get? l = (makePath t (dirOf (join root f.path))).1.get? l := by
  rcases writeTo_cases t force hp with ⟨m, hmerge, _⟩ |
    ⟨_, hexists, _, e', hwrite⟩ | ⟨_, ⟨_, o, _, hwrite⟩ | ⟨_, e', hwrite⟩⟩
  · rw [hm] at hmerge
    cases hmerge
  · rw [hwrite, Prod.mk.injEq] at h
    rw [← h.1]
    have hreach := ((pathExists_iff hp).mp hexists).1
    exact ((get?_makePath_eq_iff t _).mpr (not_needsDirectory_of_inReach hp hreach) l).symm
  · rw [hwrite, Prod.mk.injEq] at h
    exact absurd h.2 (by simp)
  · rw [hwrite, Prod.mk.injEq] at h
    rw [h.1]

section

variable {u : FileTree} {f : GeneratedFile} {o : Outcome} {steps : List Component} {n : String}

theorem writeTo_merge_ok {m : Merge} (hp : NamesFile (join root f.path) steps n)
    (hm : f.merge = some m) (h : f.writeTo t root force = (u, .ok o)) :
    (pathExists t (join root f.path) = false ∧ Writable t (join root f.path) ∧
        u = written t (join root f.path) f.content ∧
        ∀ added skipped, o ≠ .merged added skipped) ∨
      ∃ old, readText t (join root f.path) = .ok old ∧
        u = (if m.missingIn old = [] then t else t.put (place (join root f.path))
          (.file (.text (appendSections old (m.missingIn old))))) ∧
        ∃ skipped, o = .merged ((m.missingIn old).map (·.className)) skipped := by
  rcases writeTo_cases t force hp with ⟨m', hm', _, hwrite⟩ |
    ⟨hnone, _⟩ | ⟨hnew, ⟨hw, o', ho, hwrite⟩ | ⟨_, e, hwrite⟩⟩
  · rw [hm] at hm'
    cases hm'
    rw [hwrite] at h
    cases hread : readText t (join root f.path) with
    | error e =>
        rw [appendTo_of_error m hread, Prod.mk.injEq] at h
        exact absurd h.2 (by simp)
    | ok old =>
        obtain ⟨l, hl, _, _, happend⟩ := appendTo_of_readText m hread
        obtain ⟨_, rfl, _⟩ := (find_eq_ok_iff hp _ _).mp hl
        rw [happend, Prod.mk.injEq] at h
        exact .inr ⟨old, rfl, h.1.symm, _, (Except.ok.inj h.2).symm⟩
  · rw [hm] at hnone
    cases hnone
  · rw [hwrite, Prod.mk.injEq] at h
    refine .inl ⟨?_, hw, h.1.symm, Except.ok.inj h.2 ▸ ho⟩
    cases hexists : pathExists t (join root f.path) with
    | false => rfl
    | true =>
        have hnone := (hnew hexists).1
        rw [hm] at hnone
        cases hnone
  · rw [hwrite, Prod.mk.injEq] at h
    exact absurd h.2 (by simp)

theorem writeTo_whole_ok (hp : NamesFile (join root f.path) steps n) (hm : f.merge = none)
    (h : f.writeTo t root force = (u, .ok o)) :
    Writable t (join root f.path) ∧ u = written t (join root f.path) f.content ∧
      ∀ added skipped, o ≠ .merged added skipped := by
  rcases writeTo_cases t force hp with ⟨m, hm', _⟩ |
    ⟨_, _, _, e, hwrite⟩ | ⟨_, ⟨hw, o', ho, hwrite⟩ | ⟨_, e, hwrite⟩⟩
  · rw [hm] at hm'
    cases hm'
  · rw [hwrite, Prod.mk.injEq] at h
    exact absurd h.2 (by simp)
  · rw [hwrite, Prod.mk.injEq] at h
    exact ⟨hw, h.1.symm, Except.ok.inj h.2 ▸ ho⟩
  · rw [hwrite, Prod.mk.injEq] at h
    exact absurd h.2 (by simp)

end

end GeneratedFile

end Viewsmith.Scaffold
