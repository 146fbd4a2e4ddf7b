import Viewsmith.Proofs.Files.Apart
import Viewsmith.Proofs.Scaffold.Changing

namespace Viewsmith.Scaffold

open Files

structure ChangedFor (path : String) (t u : FileTree) : Prop extends ChangedAt (place path) t u where
  onTheWay : ∀ l, l ≠ place path → t.get? l = none → u.get? l ≠ none → IsAbove path l

namespace ChangedFor

variable {t u : FileTree} {path n : String} {steps : List Component}

theorem refl (path : String) (t : FileTree) : ChangedFor path t t where
  toChangedAt := ChangedAt.refl _ t
  onTheWay _ _ hnone hnew := absurd hnone hnew

theorem makePath (hc : components path = steps ++ [.name n]) (t : FileTree) :
    ChangedFor path t (Files.makePath t (dirOf path)).1 where
  toChangedAt := ChangedAt.makePath _ t _
  onTheWay l _ hnone hnew := by
    rw [get?_makePath] at hnew
    split at hnew
    · rename_i hl
      exact isAbove_of_mem_opened hc hl.1
    · exact absurd hnone hnew

theorem written (hp : NamesFile path steps n) (hw : Writable t path) (s : String) :
    ChangedFor path t (Scaffold.written t path s) where
  toChangedAt := ChangedAt.written hp hw s
  onTheWay l hl hnone hnew := by
    rcases written_elsewhere hp s hl with hsame | ⟨_, _, habove⟩
    · exact absurd (hsame.trans hnone) hnew
    · exact habove

theorem appendTo (hp : NamesFile path steps n) (m : Merge) :
    ChangedFor path t (m.appendTo t path).1 where
  toChangedAt := m.appendTo_changedAt hp
  onTheWay l hl hnone hnew := by
    cases hread : readText t path with
    | error e =>
        rw [appendTo_of_error m hread] at hnew
        exact absurd hnone hnew
    | ok content =>
        obtain ⟨l', hfind, _, _, happend⟩ := appendTo_of_readText m hread
        obtain ⟨_, rfl, _⟩ := (find_eq_ok_iff hp _ _).mp hfind
        rw [happend] at hnew
        split at hnew
        · exact absurd hnone hnew
        · rw [FileTree.get?_put_of_ne _ _ (Ne.symm hl)] at hnew
          exact absurd hnone hnew

theorem get?_eq (h : ChangedFor path t u) {l : Location} (hne : l ≠ place path)
    (hthere : IsAbove path l → t.get? l = some .directory) : u.get? l = t.get? l := by
  rcases h.elsewhere l hne with hsame | ⟨hnone, hnew⟩
  · exact hsame
  · have habove := h.onTheWay l hne hnone (by rw [hnew]; exact Option.some_ne_none _)
    rw [hthere habove] at hnone
    cases hnone

end ChangedFor

section

variable {t : FileTree} {path root : String} {force : Bool} {f : GeneratedFile}

theorem writeWhole_of_wantsDirectory (f : GeneratedFile) (existed : Bool)
    (h : wantsDirectory path = true) :
    (f.writeWhole t path existed).1 = (makePath t (dirOf path)).1 := by
  rcases hmade : makePath t (dirOf path) with ⟨u, _ | e⟩
  · rw [writeWhole_eq_write f existed hmade]
    cases hwrite : writeText u path f.content with
    | error e => rfl
    | ok v =>
        rw [wantsDirectory_of_writeText hwrite] at h
        cases h
  · rw [writeWhole_eq_error f existed hmade]

theorem appendTo_of_wantsDirectory (m : Merge) (h : wantsDirectory path = true) :
    (m.appendTo t path).1 = t := by
  cases hread : readText t path with
  | error e => rw [appendTo_of_error m hread]
  | ok s =>
      rw [wantsDirectory_of_readText hread] at h
      cases h

theorem GeneratedFile.writeTo_of_wantsDirectory (t : FileTree) (force : Bool)
    (h : wantsDirectory (join root f.path) = true) :
    (f.writeTo t root force).1 = t ∨
      (f.writeTo t root force).1 = (makePath t (dirOf (join root f.path))).1 := by
  rcases writeTo_dispatch t force f with ⟨m, _, _, hwrite⟩ | ⟨_, _, _, hwrite⟩ | ⟨_, existed, hwrite⟩
  · rw [hwrite]
    exact .inl (appendTo_of_wantsDirectory m h)
  · rw [hwrite]
    exact .inl rfl
  · rw [hwrite]
    exact .inr (writeWhole_of_wantsDirectory f existed h)

theorem GeneratedFile.writeTo_changedFor (t : FileTree) (force : Bool) {n : String}
    {steps : List Component} (hc : components (join root f.path) = steps ++ [.name n]) :
    ChangedFor (join root f.path) t (f.writeTo t root force).1 := by
  cases hbare : wantsDirectory (join root f.path) with
  | true =>
      rcases writeTo_of_wantsDirectory t force hbare with hsame | hmade
      · rw [hsame]
        exact ChangedFor.refl _ t
      · rw [hmade]
        exact ChangedFor.makePath hc t
  | false =>
      have hp : NamesFile (join root f.path) steps n := ⟨hc, hbare⟩
      rcases writeTo_cases t force hp with ⟨m, _, _, hwrite⟩ |
        ⟨_, _, _, e, hwrite⟩ | ⟨_, ⟨hw, o, _, hwrite⟩ | ⟨_, e, hwrite⟩⟩
      · rw [hwrite]
        exact ChangedFor.appendTo hp m
      · rw [hwrite]
        exact ChangedFor.refl _ t
      · rw [hwrite]
        exact ChangedFor.written hp hw f.content
      · rw [hwrite]
        dsimp only
        exact ChangedFor.makePath hc t

/-- Neither a refusal nor a merge that adds nothing. -/
def IsSettled (r : Except Failure Outcome) : Prop :=
  (∀ text, r ≠ .error (.refuse text)) ∧ ∀ skipped, r ≠ .ok (.merged [] skipped)

theorem isSettled_ioFailure (context path : String) (e : IoError) :
    IsSettled (.error (ioFailure context path e)) := by
  refine ⟨fun text h => ?_, fun skipped h => ?_⟩
  · have hcause := congrArg Failure.cause (Except.error.inj h)
    cases hcause
  · cases h

theorem writeWhole_isSettled (f : GeneratedFile) (t : FileTree) (path : String) (existed : Bool) :
    IsSettled (f.writeWhole t path existed).2 := by
  rcases hmade : makePath t (dirOf path) with ⟨u, _ | e⟩
  · rw [writeWhole_eq_write f existed hmade]
    cases writeText u path f.content with
    | error e => exact isSettled_ioFailure _ _ e
    | ok v => cases existed <;> exact ⟨nofun, nofun⟩
  · rw [writeWhole_eq_error f existed hmade]
    exact isSettled_ioFailure _ _ e

/-- The step: what was checked for a file holds when it is written in the same tree. -/
theorem Admissible.isSettled (h : Admissible t root force f) :
    IsSettled (f.writeTo t root force).2 := by
  rcases f.writeTo_dispatch t force with
    ⟨m, hm, hexists, hwrite⟩ | ⟨hm, hexists, hforce, _⟩ | ⟨_, existed, hwrite⟩
  · have hchecked := h hexists
    rw [hm] at hchecked
    obtain ⟨content, hread, hmissing⟩ := hchecked
    obtain ⟨_, _, _, _, happend⟩ := appendTo_of_readText m hread
    rw [hwrite, happend]
    refine ⟨nofun, fun skipped hmerged => hmissing ?_⟩
    injection hmerged with hmerged
    injection hmerged with hadded
    exact List.map_eq_nil_iff.mp hadded
  · have hchecked := h hexists
    rw [hm] at hchecked
    exact absurd (hforce.symm.trans hchecked) Bool.false_ne_true
  · rw [hwrite]
    exact writeWhole_isSettled f t _ existed

/-- What was checked for a file still holds when another one, whose path does not cross its own,
was written. -/
theorem Admissible.writeTo {g : GeneratedFile} (hwell : WellFormed t)
    (hroot : Grounded t (components root)) (hf : IsPlain f.path) (hg : IsPlain g.path)
    (hapart : Apart f.path g.path) (h : Admissible t root force g) :
    Admissible (f.writeTo t root force).1 root force g := by
  obtain ⟨steps, n, hc⟩ := hapart.exists_components_eq hf root
  obtain ⟨steps', n', hc'⟩ := hapart.symm.exists_components_eq hg root
  have hchange := f.writeTo_changedFor t force hc
  have hsame := hchange.get?_eq (hapart.symm.place_ne hg hf root)
    (hapart.get?_of_isAbove hwell hroot hf hg)
  have hfind := hwell.find_eq_ok_iff_of_kept (hg.grounded hroot) hc' hchange.directory hsame
  intro hexists
  obtain ⟨l, e, hl⟩ := exists_find hexists
  have hbefore := h (pathExists_of_find ((hfind l e).mp hl))
  cases hm : g.merge with
  | none =>
      rw [hm] at hbefore
      exact hbefore
  | some m =>
      rw [hm] at hbefore
      obtain ⟨content, hread, hmissing⟩ := hbefore
      obtain ⟨l', hl'⟩ := readText_eq_ok hread
      exact ⟨content, readText_of_find ((hfind l' _).mpr hl'), hmissing⟩

/-- Files whose paths are relative, without steps back, and do not cross. -/
structure NoCrossing (files : List GeneratedFile) : Prop where
  plain : ∀ f ∈ files, IsPlain f.path
  apart : files.Pairwise fun f g => Apart f.path g.path

/-- What the writes of some files give, each of them in the tree that the one before it left, also
when that one failed. -/
def outcomes (root : String) (force : Bool) :
    FileTree → List GeneratedFile → List (Except Failure Outcome)
  | _, [] => []
  | t, f :: rest => (f.writeTo t root force).2 :: outcomes root force (f.writeTo t root force).1 rest

/-- The run, by induction on the files: what is left to write stays admissible. -/
theorem NoCrossing.isSettled {files : List GeneratedFile} (h : NoCrossing files)
    (hwell : WellFormed t) (hroot : Grounded t (components root))
    (hchecked : ∀ f ∈ files, Admissible t root force f) :
    ∀ r ∈ outcomes root force t files, IsSettled r := by
  induction files generalizing t with
  | nil => exact fun r hr => absurd hr List.not_mem_nil
  | cons f rest ih =>
      obtain ⟨hapart, hrest⟩ := List.pairwise_cons.mp h.apart
      obtain ⟨hf, hplain⟩ := List.forall_mem_cons.mp h.plain
      obtain ⟨hfirst, hothers⟩ := List.forall_mem_cons.mp hchecked
      rw [outcomes, List.forall_mem_cons]
      refine ⟨hfirst.isSettled, ?_⟩
      match rest with
      | [] => exact fun r hr => absurd hr List.not_mem_nil
      | g :: rest =>
          obtain ⟨steps, n, hc⟩ := (hapart g List.mem_cons_self).exists_components_eq hf root
          have hchange := f.writeTo_changedFor t force hc
          refine ih ⟨hplain, hrest⟩ (hchange.wellFormed hwell) (hroot.mono hchange.directory) ?_
          intro g' hg'
          exact (hothers g' hg').writeTo hwell hroot hf (hplain g' hg') (hapart g' hg')

def IsExtensible (t : FileTree) (path : String) (m : Merge) : Prop :=
  ∃ text, readText t path = .ok text ∧ ∃ s ∈ m.sections, s.isDefinedIn text = false

theorem missingIn_ne_nil_iff (m : Merge) (text : String) :
    m.missingIn text ≠ [] ↔ ∃ s ∈ m.sections, s.isDefinedIn text = false := by
  simp [Merge.missingIn]

theorem admissible_iff (t : FileTree) (root : String) (force : Bool) (f : GeneratedFile) :
    Admissible t root force f ↔ pathExists t (join root f.path) = false ∨
      (∃ m, f.merge = some m ∧ IsExtensible t (join root f.path) m) ∨
      (f.merge = none ∧ force = true) := by
  unfold Admissible IsExtensible
  cases pathExists t (join root f.path) with
  | false => simp
  | true => cases f.merge <;> simp [missingIn_ne_nil_iff]

theorem admissible_of_isExtensible (h : ∀ m, f.merge = some m →
    pathExists t (join root f.path) = true → IsExtensible t (join root f.path) m) :
    Admissible t root true f := by
  rw [admissible_iff]
  cases hexists : pathExists t (join root f.path) with
  | false => exact .inl rfl
  | true =>
      cases hm : f.merge with
      | none => exact .inr (.inr ⟨rfl, rfl⟩)
      | some m => exact .inr (.inl ⟨m, rfl, h m hm hexists⟩)

def isInTheWay (t : FileTree) (root : String) (f : GeneratedFile) : Bool :=
  pathExists t (join root f.path) && f.merge.isNone

theorem conflicts_of_isExtensible {files : List GeneratedFile}
    (h : ∀ f ∈ files, ∀ m, f.merge = some m → pathExists t (join root f.path) = true →
      IsExtensible t (join root f.path) m) :
    conflicts t root false files =
      .ok ((files.filter (isInTheWay t root)).map fun f => join root f.path) := by
  induction files with
  | nil => rfl
  | cons f rest ih =>
      obtain ⟨hf, hrest⟩ := List.forall_mem_cons.mp h
      rw [conflicts_cons, ih hrest]
      cases hexists : pathExists t (join root f.path) with
      | false => simp [isInTheWay, hexists]
      | true =>
          cases hm : f.merge with
          | none => simp [isInTheWay, hexists, hm, Except.map]
          | some m =>
              obtain ⟨text, hread, hlacks⟩ := hf m hm hexists
              have hmissing := (missingIn_ne_nil_iff m text).mpr hlacks
              simp [isInTheWay, hexists, hm, hread, hmissing]

end

/-- The check succeeds exactly when each file is new, is a views module that lacks a class, or may be
replaced by force. Then no write is refused or merges nothing, if the root has no step back behind a
directory that is missing: making that directory could bring files to light. A check that fails,
although every views module can be extended, names the other files that are there. -/
theorem checkConflicts_exact (t : FileTree) (root : String) (force : Bool)
    (files : List GeneratedFile) :
    (checkConflicts t root force files = .ok () ↔
      ∀ f ∈ files, pathExists t (join root f.path) = false ∨
        (∃ m, f.merge = some m ∧ IsExtensible t (join root f.path) m) ∨
        (f.merge = none ∧ force = true)) ∧
    (WellFormed t → Grounded t (components root) → NoCrossing files →
      checkConflicts t root force files = .ok () → ∀ r ∈ outcomes root force t files,
        (∀ text, r ≠ .error (.refuse text)) ∧ ∀ skipped, r ≠ .ok (.merged [] skipped)) ∧
    (checkConflicts t root force files ≠ .ok () →
      (∀ f ∈ files, ∀ m, f.merge = some m → pathExists t (join root f.path) = true →
        IsExtensible t (join root f.path) m) →
      checkConflicts t root force files = .error (.refuse (existsMessage (Text.join ", "
        ((files.filter (isInTheWay t root)).map fun f => join root f.path))))) := by
  refine ⟨?_, ?_, ?_⟩
  · rw [checkConflicts_eq_ok_iff]
    exact forall₂_congr fun f _ => admissible_iff t root force f
  · intro hwell hroot hfiles hok
    exact hfiles.isSettled hwell hroot ((checkConflicts_eq_ok_iff t root force files).mp hok)
  · intro hfail hextensible
    cases force with
    | true =>
        refine absurd ((checkConflicts_eq_ok_iff t root true files).mpr fun f hf => ?_) hfail
        exact admissible_of_isExtensible (hextensible f hf)
    | false =>
        have hlist := conflicts_of_isExtensible hextensible
        rw [checkConflicts, hlist] at hfail ⊢
        cases hnames : (files.filter (isInTheWay t root)).map fun f => join root f.path with
        | nil =>
            rw [hnames] at hfail
            exact absurd rfl hfail
        | cons path rest => rfl

def editedProject : FileTree :=
  ⟨[(["blog"], .directory),
    (["blog", "views.py"], .file (.text "class PostListView(ListView):\n    pass\n")),
    (["blog", "forms.py"], .file (.text "class PostForm(ModelForm):\n    pass\n"))]⟩

def detailView : ViewSection :=
  ⟨"PostDetailView", "class PostDetailView(DetailView):\n    pass\n"⟩

def moreFiles : List GeneratedFile :=
  [⟨"blog/views.py", detailView.body, "views", some ⟨"", [⟨"PostListView", ""⟩, detailView]⟩⟩,
    ⟨"blog/forms.py", "class PostForm(ModelForm):\n", "form", none⟩,
    ⟨"blog/templates/post.html", "", "template", none⟩]

theorem noCrossing_moreFiles : NoCrossing moreFiles where
  plain := by
    simp only [moreFiles, List.forall_mem_cons]
    exact ⟨⟨by decide, by decide⟩, ⟨by decide, by decide⟩, ⟨by decide, by decide⟩, nofun⟩
  apart := by
    simp only [moreFiles, List.pairwise_cons, Apart]
    decide

theorem isExtensible_moreFiles : ∀ f ∈ moreFiles, ∀ m, f.merge = some m →
    pathExists editedProject (join "/" f.path) = true →
      IsExtensible editedProject (join "/" f.path) m := by
  simp only [moreFiles, List.forall_mem_cons]
  refine ⟨?_, nofun, nofun, nofun⟩
  rintro m hm _
  cases hm
  exact ⟨"class PostListView(ListView):\n    pass\n", by decide +kernel, detailView, by simp,
    by decide +kernel⟩

theorem checkConflicts_exact_edited :
    checkConflicts editedProject "/" true moreFiles = .ok () ∧
    (∀ r ∈ outcomes "/" true editedProject moreFiles,
      (∀ text, r ≠ .error (.refuse text)) ∧ ∀ skipped, r ≠ .ok (.merged [] skipped)) ∧
    checkConflicts editedProject "/" false moreFiles =
      .error (.refuse (existsMessage "/blog/forms.py")) := by
  obtain ⟨hchecked, hwrites, _⟩ := checkConflicts_exact editedProject "/" true moreFiles
  obtain ⟨hchecked', _, hnames⟩ := checkConflicts_exact editedProject "/" false moreFiles
  have hok : checkConflicts editedProject "/" true moreFiles = .ok () := by
    refine hchecked.mpr fun f hf => ?_
    exact (admissible_iff _ _ _ _).mp (admissible_of_isExtensible (isExtensible_moreFiles f hf))
  have hfail : checkConflicts editedProject "/" false moreFiles ≠ .ok () := by
    intro hok'
    have hform := hchecked'.mp hok' ⟨"blog/forms.py", "class PostForm(ModelForm):\n", "form", none⟩
      (by simp [moreFiles])
    rcases hform with habsent | ⟨m, hm, _⟩ | ⟨_, hforce⟩
    · have hthere : pathExists editedProject (join "/" "blog/forms.py") = true := by decide +kernel
      rw [habsent] at hthere
      cases hthere
    · cases hm
    · cases hforce
  have hwell : WellFormed editedProject := wellFormed_of_entries (by decide +kernel)
  have hroot : Grounded editedProject (components "/") := grounded_of_isDirectory (by decide +kernel)
  refine ⟨hok, hwrites hwell hroot noCrossing_moreFiles hok, ?_⟩
  rw [hnames hfail isExtensible_moreFiles, show Text.join ", " ((moreFiles.filter
    (isInTheWay editedProject "/")).map fun f => join "/" f.path) = "/blog/forms.py" by decide +kernel]

end Viewsmith.Scaffold
