import Viewsmith.Proofs.Command.FailedRuns
import Viewsmith.Proofs.Command.Reach
import Viewsmith.Proofs.Scaffold.Forcing

namespace Viewsmith.Command

open Files Scaffold View

def Run.forcing (r : Run) (force : Bool) : Run :=
  { r with command := { r.command with force } }

theorem writeFiles_force {color : Bool} {root : String} {files : List GeneratedFile} {w : Writing}
    (h : (writeFiles color root false files w).2 = none) :
    writeFiles color root true files w = writeFiles color root false files w := by
  induction files generalizing w with
  | nil => rfl
  | cons f files ih =>
      obtain ⟨u, o, hwrite, hrest⟩ := writeFiles_cons_of_success h
      rw [hrest] at h
      rw [writeFiles_cons_of_ok (GeneratedFile.writeTo_force hwrite), hrest, ih h]

section

variable {color : Bool} {root : String} {views : GeneratedFile} {m : Merge}
  {others : List GeneratedFile} {f : Failure} (hm : views.merge = some m) (hlength : others.length ≤ 1)

include hm hlength

theorem refused_of_conflict {t : FileTree}
    (hforced : checkConflicts t root true (views :: others) = .ok ())
    (hfail : checkConflicts t root false (views :: others) = .error f) :
    ∃ form, others = [form] ∧ pathExists t (join root form.path) = true ∧
      f = .refuse (existsMessage (join root form.path)) := by
  obtain ⟨hnames, hf⟩ := checkConflicts_refused hforced hfail
  rw [List.filter_cons_of_neg (by simp [isInTheWay, hm])] at hnames hf
  cases others with
  | nil => exact absurd rfl hnames
  | cons form rest =>
      obtain rfl : rest = [] := by simpa using hlength
      cases hway : isInTheWay t root form with
      | false => exact absurd (List.filter_cons_of_neg (Bool.eq_false_iff.mp hway)) hnames
      | true =>
          rw [List.filter_cons_of_pos hway, List.filter_nil, List.map_singleton, Text.join] at hf
          rw [isInTheWay, Bool.and_eq_true] at hway
          exact ⟨form, rfl, hway.1, hf⟩

theorem refused_of_writeFiles {w : Writing}
    (hforced : (writeFiles color root true (views :: others) w).2 = none)
    (hfail : (writeFiles color root false (views :: others) w).2 = some f) :
    ∃ form, others = [form] ∧
      pathExists (views.writeTo w.tree root true).1 (join root form.path) = true ∧
      f = .refuse (existsMessage (join root form.path)) := by
  obtain ⟨t, o, hfirst, hrest⟩ := writeFiles_cons_of_success hforced
  have hfirst' := (GeneratedFile.writeTo_force_of_merge hm).symm.trans hfirst
  rw [hrest] at hforced
  rw [writeFiles_cons_of_ok hfirst'] at hfail
  cases others with
  | nil => cases hfail
  | cons form rest =>
      obtain rfl : rest = [] := by simpa using hlength
      obtain ⟨t', o', hsecond, _⟩ := writeFiles_cons_of_success hforced
      cases hrefused : form.writeTo ({ w with tree := t }.note color views o).tree root false with
      | mk u result =>
          cases result with
          | ok o'' =>
              rw [writeFiles_cons_of_ok hrefused] at hfail
              cases hfail
          | error e =>
              rw [writeFiles_cons_of_error hrefused] at hfail
              obtain rfl := Option.some.inj hfail
              rw [note_tree] at hsecond hrefused
              rw [hfirst]
              exact ⟨form, rfl, GeneratedFile.writeTo_refused hsecond hrefused⟩

end

theorem note_of_not_merged {o o' : Outcome} (h : ∀ added skipped, o ≠ .merged added skipped)
    (h' : ∀ added skipped, o' ≠ .merged added skipped) (w : Writing) (color : Bool)
    (f : GeneratedFile) : w.note color f o = w.note color f o' := by
  cases o with
  | merged added skipped => exact absurd rfl (h added skipped)
  | created | overwritten =>
      cases o' with
      | merged added skipped => exact absurd rfl (h' added skipped)
      | created | overwritten => rfl

theorem writeFiles_pair {color force : Bool} {root : String} {views form : GeneratedFile}
    {w : Writing} {t₁ t₂ : FileTree} {o₁ o₂ : Outcome}
    (hfirst : views.writeTo w.tree root force = (t₁, .ok o₁))
    (hsecond : form.writeTo t₁ root force = (t₂, .ok o₂)) :
    writeFiles color root force [views, form] w =
      ({ { w with tree := t₁ }.note color views o₁ with tree := t₂ }.note color form o₂, none) := by
  rw [writeFiles_cons_of_ok hfirst, writeFiles_cons_of_ok (by rw [note_tree]; exact hsecond)]
  rfl

theorem note_pair_with_tree (w : Writing) (color : Bool) (views form : GeneratedFile)
    (o₁ o₂ : Outcome) (t₁ t₂ u₁ u₂ : FileTree) :
    { { w with tree := u₁ }.note color views o₁ with tree := u₂ }.note color form o₂ =
      { { { w with tree := t₁ }.note color views o₁ with tree := t₂ }.note color form o₂ with
        tree := u₂ } := by
  cases o₁ <;> cases o₂ <;> rfl

theorem pythonFile_ne_override (name : String) (k : Kind) :
    pythonFile name ≠ k.partialName ++ ".py.hbs" := by
  intro hsame
  have hsuffix := pythonFile_suffix name
  rw [hsame] at hsuffix
  revert hsuffix
  cases k <;> decide

section

variable {r : Run} {root : String} {t : FileTree}

/-- How a run ends, by force or without it: its files are made without asking for force. -/
theorem Run.forcing_cases (r : Run) (force : Bool) (root : String) (t : FileTree) :
    (∃ f, r.command.prepare t root r.config = .error f ∧
        (r.forcing force).report root t = ⟨t, "", some f⟩) ∨
      ∃ g files, r.command.prepare t root r.config = .ok (g, files) ∧
        (r.command.stdout = true ∧ (r.forcing force).report root t = ⟨t, printFiles files, none⟩ ∨
          (∃ f, r.command.stdout = false ∧ checkConflicts t root force files = .error f ∧
            (r.forcing force).report root t =
              ⟨t, greeting r.color r.command.target.modelName, some f⟩) ∨
          r.command.stdout = false ∧ checkConflicts t root force files = .ok () ∧
            (r.forcing force).report root t = r.command.finish r.color g
              (writeFiles r.color root force files (r.command.start r.color t)).1
              (writeFiles r.color root force files (r.command.start r.color t)).2) :=
  (r.forcing force).command.runIn_cases r.color t root r.config

theorem Run.written_of_success {force : Bool} {g : Generator} {files : List GeneratedFile}
    (hok : ((r.forcing force).report root t).failure = none)
    (hprepare : r.command.prepare t root r.config = .ok (g, files))
    (hstdout : r.command.stdout = false) :
    checkConflicts t root force files = .ok () ∧
      (writeFiles r.color root force files (r.command.start r.color t)).2 = none ∧
      (r.forcing force).report root t = r.command.finish r.color g
        (writeFiles r.color root force files (r.command.start r.color t)).1 none :=
  ViewCommand.written_of_success (c := (r.forcing force).command) hprepare hstdout hok

theorem Run.report_force (h : ((r.forcing false).report root t).failure = none) :
    (r.forcing true).report root t = (r.forcing false).report root t := by
  rcases r.forcing_cases false root t with ⟨f, _, hrun⟩ |
    ⟨g, files, hprepare, ⟨hstdout, hrun⟩ | ⟨f, _, _, hrun⟩ | ⟨hstdout, hcheck, hrun⟩⟩
  · rw [hrun] at h
    cases h
  · rw [hrun]
    exact ViewCommand.runIn_of_stdout (c := (r.forcing true).command) r.color hprepare hstdout
  · rw [hrun] at h
    cases h
  · rw [hrun, ViewCommand.finish_failure] at h
    rw [hrun, ← writeFiles_force h]
    exact ViewCommand.runIn_of_prepare (c := (r.forcing true).command) r.color hprepare hstdout
      (checkConflicts_force hcheck)

/-- What is known of a run that only force carries through: it writes a views module and the form, and
the form is there, at the latest when the views module is written. -/
structure Run.NeedsForce (r : Run) (root : String) (t : FileTree) (g : Generator)
    (views form : GeneratedFile) : Prop where
  prepared : r.command.prepare t root r.config = .ok (g, [views, form])
  written : r.command.stdout = false
  there : pathExists t (join root form.path) = true ∨
    pathExists (views.writeTo t root true).1 (join root form.path) = true

/-- A run needs force only for its form, and without force it is told so. -/
theorem Run.exists_needsForce {f : Failure} (hforced : ((r.forcing true).report root t).failure = none)
    (hfail : ((r.forcing false).report root t).failure = some f) :
    ∃ g views form, r.NeedsForce root t g views form ∧
      f = .refuse (existsMessage (join root form.path)) := by
  rcases r.forcing_cases false root t with ⟨e, hprepare, _⟩ |
    ⟨g, files, hprepare, ⟨_, hrun⟩ | ⟨e, hstdout, hcheck, hrun⟩ | ⟨hstdout, hcheck, hrun⟩⟩
  · rcases r.forcing_cases true root t with ⟨e', _, hrun⟩ | ⟨g, files, hprepare', _⟩
    · rw [hrun] at hforced
      cases hforced
    · rw [hprepare] at hprepare'
      cases hprepare'
  · rw [hrun] at hfail
    cases hfail
  · rw [hrun] at hfail
    obtain rfl := Option.some.inj hfail
    obtain ⟨hcheck', _⟩ := r.written_of_success hforced hprepare hstdout
    obtain ⟨views, others, rfl, ⟨m, hm⟩, _, hlength, _⟩ := ViewCommand.files_of_prepare hprepare
    obtain ⟨form, rfl, hthere, hf⟩ := refused_of_conflict hm hlength hcheck' hcheck
    exact ⟨g, views, form, ⟨hprepare, hstdout, .inl hthere⟩, hf⟩
  · rw [hrun, ViewCommand.finish_failure] at hfail
    obtain ⟨_, hwritten, _⟩ := r.written_of_success hforced hprepare hstdout
    obtain ⟨views, others, rfl, ⟨m, hm⟩, _, hlength, _⟩ := ViewCommand.files_of_prepare hprepare
    obtain ⟨form, rfl, hthere, hf⟩ := refused_of_writeFiles hm hlength hwritten hfail
    exact ⟨g, views, form, ⟨hprepare, hstdout, .inr hthere⟩, hf⟩

variable {appsDir : String} {g : Generator} {files : List GeneratedFile} {u : FileTree}

/-- Neither the partials nor what else a run looks at is the form. -/
theorem Run.Confined.prepare_lacks (hr : r.Confined appsDir)
    (hprepare : r.command.prepare t root r.config = .ok (g, files))
    (h : Lacks (place (join root g.formPath)) t u) :
    r.command.prepare u root r.config = .ok (g, files) := by
  rw [← hprepare]
  have hform := hr.place_form hprepare
  have hother {path : String} {name : String} (hpath : components path =
      components (join root appsDir) ++ [r.command.target.appName, name].map .name) :
      SameFound t u path := by
    refine h.sameFound (hpath.trans (List.append_assoc _ [_] [_]).symm) ?_
    rw [hform, place, hpath, follow_append, follow_names, place]
    simp
  refine prepare_congr ?_ ?_ ?_
  · obtain ⟨_, registry, _, hregistry, _⟩ := (ViewCommand.prepare_eq_ok_iff g files).mp hprepare
    rw [hregistry]
    refine registryWith_of_sameOverrides ?_ hregistry
    cases hdir : (r.command.applyTo r.config).partialsPath? root with
    | none => exact .none
    | some dir =>
        rw [hdir] at hregistry
        obtain ⟨names, hload⟩ := registryWith_eq_ok_iff.mp hregistry
        refine .some (h.sameOverrides (isDirectory_of_loadOverrides hload) fun l k hlast => ?_)
        -- The name of an override has one more ending than that of the form.
        rw [hform] at hlast
        have hname := congrArg List.getLast? hlast
        simp only [List.getLast?_append, List.getLast?_cons_cons, List.getLast?_singleton,
          Option.some_or, Option.some.injEq] at hname
        exact pythonFile_ne_override _ k hname
  · rw [hr.apps]
    exact isListRegistered_congr (hother (hr.components_urlsPath root)).readText_eq_ok_iff
  · rw [hr.apps]
    exact (hother (hr.components_packagePath root)).isDirectory_eq

variable {views form : GeneratedFile}

theorem Run.NeedsForce.exists_writeTo (h : r.NeedsForce root t g views form)
    (hforced : ((r.forcing true).report root t).failure = none) :
    ∃ t₁ t₂ o₁ o₂, views.writeTo t root true = (t₁, .ok o₁) ∧
      form.writeTo t₁ root true = (t₂, .ok o₂) ∧
      (r.forcing true).report root t = r.command.finish r.color g
        ({ { r.command.start r.color t with tree := t₁ }.note r.color views o₁ with tree := t₂ }.note
          r.color form o₂) none := by
  obtain ⟨_, hwritten, hreport⟩ := r.written_of_success hforced h.prepared h.written
  obtain ⟨t₁, o₁, hfirst, hrest⟩ := writeFiles_cons_of_success hwritten
  rw [hrest] at hwritten hreport
  obtain ⟨t₂, o₂, hsecond, hrest⟩ := writeFiles_cons_of_success hwritten
  rw [hrest] at hreport
  rw [note_tree] at hsecond
  exact ⟨t₁, t₂, o₁, o₂, hfirst, hsecond, hreport⟩

theorem Run.Confined.views_and_form (hr : r.Confined appsDir)
    (hprepare : r.command.prepare t root r.config = .ok (g, [views, form])) :
    form.path = g.formPath ∧ (∃ m, views.merge = some m) ∧ form.merge = none ∧
      (∃ steps n, NamesFile (join root views.path) steps n) ∧
      (∃ steps n, NamesFile (join root form.path) steps n) ∧
      place (join root views.path) ≠ place (join root form.path) := by
  have hpath := ViewCommand.path_of_mem_others hprepare List.mem_cons_self
  obtain ⟨_, _, _, _, _, _, _, _, hfiles, hviews, _⟩ := ViewCommand.prepare_parts hprepare
  obtain ⟨_, _, hfiles', hm, hp, _, hwhole, hp'⟩ := ViewCommand.files_of_prepare hprepare
  cases hfiles
  cases hfiles'
  refine ⟨hpath, hm, hwhole form List.mem_cons_self, hp, hp' form List.mem_cons_self, ?_⟩
  rw [hpath, hr.place_form hprepare, hviews]
  exact ((hr.isViewsModule hprepare).ne_form _ _).symm

theorem Run.NeedsForce.isFileAt (h : r.NeedsForce root t g views form) (hr : r.Confined appsDir)
    (hforced : ((r.forcing true).report root t).failure = none) :
    isFileAt t (place (join root form.path)) = true := by
  obtain ⟨t₁, t₂, o₁, o₂, hfirst, hsecond, _⟩ := h.exists_writeTo hforced
  obtain ⟨_, _, hwhole, ⟨steps, n, hp⟩, ⟨steps', n', hp'⟩, hne⟩ := hr.views_and_form h.prepared
  obtain ⟨hwritable, _⟩ := GeneratedFile.writeTo_whole_ok hp' hwhole hsecond
  have hspared := (views.writeTo_changedAt t root true hp).elsewhere _ hne.symm
  have hthere := h.there
  rw [hfirst] at hspared hthere
  -- The views module is written elsewhere; all that it could add here is a directory, and no file can
  -- be written over one.
  have hsome : t.get? (place (join root form.path)) ≠ none := by
    rcases hthere with hthere | hthere
    · exact ((pathExists_iff hp').mp hthere).2
    · rcases hspared with hsame | ⟨_, hdir⟩
      · rw [← hsame]
        exact ((pathExists_iff hp').mp hthere).2
      · exact absurd hdir hwritable.free
  have hsame := hspared.resolve_right fun hnew => hsome hnew.1
  have hfree := hwritable.free
  rw [hsame] at hfree
  rw [Files.isFileAt]
  cases hget : t.get? (place (join root form.path)) with
  | none => exact absurd hget hsome
  | some e =>
      cases e with
      | directory => exact absurd hget hfree
      | file c => rfl

/-- Where only the form is missing, the run does without force what it did by force. -/
theorem Run.NeedsForce.report_lacks (h : r.NeedsForce root t g views form) (hr : r.Confined appsDir)
    (hforced : ((r.forcing true).report root t).failure = none)
    (hlacks : Lacks (place (join root form.path)) t u) :
    ∃ v, (r.forcing false).report root u = { (r.forcing true).report root t with tree := v } ∧
      ∀ l, v.get? l = ((r.forcing true).report root t).tree.get? l := by
  obtain ⟨t₁, t₂, o₁, o₂, hfirst, hsecond, hreport⟩ := h.exists_writeTo hforced
  obtain ⟨hpath, ⟨m, hm⟩, hwhole, ⟨steps, n, hp⟩, ⟨steps', n', hp'⟩, hne⟩ :=
    hr.views_and_form h.prepared
  obtain ⟨hchecked, _⟩ := r.written_of_success hforced h.prepared h.written
  rw [checkConflicts_eq_ok_iff, List.forall_mem_cons] at hchecked
  have hcheck : checkConflicts u root false [views, form] = .ok () := by
    rw [checkConflicts_eq_ok_iff, List.forall_mem_cons, List.forall_mem_singleton]
    exact ⟨hlacks.admissible hp hne hm hchecked.1, hlacks.admissible_missing hp' rfl⟩
  have hprepare := hr.prepare_lacks h.prepared (hpath ▸ hlacks)
  have hrun := ViewCommand.runIn_of_prepare (c := (r.forcing false).command) r.color hprepare h.written
    hcheck
  rw [GeneratedFile.writeTo_force_of_merge hm] at hfirst
  obtain ⟨u₁, hfirst', hlacks₁⟩ := hlacks.writeTo hp hne hm hfirst
  obtain ⟨u₂, hsecond', hsame⟩ := hlacks₁.writeTo_missing hp' rfl hwhole hsecond
  obtain ⟨_, _, hplain⟩ := GeneratedFile.writeTo_whole_ok hp' hwhole hsecond
  have hcreated : ∀ added skipped, Outcome.created ≠ .merged added skipped := by
    intro added skipped h
    cases h
  refine ⟨u₂, ?_, fun l => ?_⟩
  · have hwrite : writeFiles r.color root false [views, form] (r.command.start r.color u) = _ :=
      writeFiles_pair hfirst' hsecond'
    rw [note_of_not_merged hcreated hplain] at hwrite
    rw [hreport, ← ViewCommand.finish_with_tree, ← note_pair_with_tree _ _ _ _ _ _ _ _ u₁]
    refine hrun.trans ?_
    exact congrArg (fun e => r.command.finish r.color g e.1 e.2) hwrite
  · rw [hsame, hreport, ViewCommand.finish_tree, note_tree]

end

/-- Force is conservative. A run that succeeds without it is the same run by force. A run that succeeds
only by force is refused without it for the sake of one file, the form, which is there; and from the
same project without the form it leaves, without force, the same tree and prints the same. -/
theorem force_is_conservative {root appsDir : String} {t : FileTree} {r : Run} (hwell : WellFormed t)
    (hr : r.Confined appsDir) :
    (((r.forcing false).report root t).failure = none →
      (r.forcing true).report root t = (r.forcing false).report root t) ∧
    ∀ f, ((r.forcing true).report root t).failure = none →
      ((r.forcing false).report root t).failure = some f →
      ∃ g files, r.command.prepare t root r.config = .ok (g, files) ∧
        f = .refuse (existsMessage (join root g.formPath)) ∧
        isFileAt t (place (join root g.formPath)) = true ∧
        ∃ v, (r.forcing false).report root (t.remove (place (join root g.formPath))) =
            { (r.forcing true).report root t with tree := v } ∧
          ∀ l, v.get? l = ((r.forcing true).report root t).tree.get? l := by
  refine ⟨r.report_force, fun f hforced hfail => ?_⟩
  obtain ⟨g, views, form, hneeds, hf⟩ := r.exists_needsForce hforced hfail
  obtain ⟨hpath, _⟩ := hr.views_and_form hneeds.prepared
  have hfile := hneeds.isFileAt hr hforced
  have hsame := hneeds.report_lacks hr hforced (hwell.lacks_remove hfile)
  rw [hpath] at hf hfile hsame
  exact ⟨g, _, hneeds.prepared, hf, hfile, hsame⟩

def postCreateRun : Run where
  command := postViews { create := true }
  config := {}
  color := false

theorem writable_form_postForm (s : String) :
    Writable (written postFormProject "/server/apps/blog/views.py" s)
      "/server/apps/blog/forms/post.py" := by
  have hkept {l : Location} {e : Entry} (hne : l ≠ ["server", "apps", "blog", "views.py"])
      (hl : postFormProject.get? l = some e) :
      (written postFormProject "/server/apps/blog/views.py" s).get? l = some e := by
    refine get?_written_of_some namesFile_views s ?_ hl
    rwa [show place "/server/apps/blog/views.py" = ["server", "apps", "blog", "views.py"] by decide]
  have hdir {l : Location} (hne : l ≠ ["server", "apps", "blog", "views.py"])
      (hl : postFormProject.get? l = some .directory) :
      isFileAt (written postFormProject "/server/apps/blog/views.py" s) l = false := by
    rw [isFileAt, hkept hne hl]
  have hfile : (written postFormProject "/server/apps/blog/views.py" s).get?
      (place "/server/apps/blog/forms/post.py") = some (.file (.text "x")) :=
    hkept (by decide) (by decide)
  refine ⟨rfl, (short_iff namesFile_form).mpr (by decide), .inr ⟨rfl, ?_⟩, ?_, fun hopened => ?_⟩
  · rw [namesFile_form.components_dirOf]
    exact ⟨by decide, hdir (by decide) (by decide), by decide, hdir (by decide) (by decide),
      by decide, hdir (by decide) (by decide), by decide, hdir (by decide) (by decide), trivial⟩
  · simp [hfile]
  · have hfree := isFileAt_of_mem_opened hopened
    rw [isFileAt, hfile] at hfree
    cases hfree

theorem failure_postCreateRun_forced :
    ((postCreateRun.forcing true).report "/" postFormProject).failure = none := by
  obtain ⟨g, views, form, hprepare, _, hwhole, hviews, hform, _⟩ := exists_conflict_postForm
  have habsent : pathExists postFormProject "/server/apps/blog/views.py" = false := by
    decide +kernel
  rw [← hviews] at habsent
  have hcheck : checkConflicts postFormProject "/" true [views, form] = .ok () := by
    rw [checkConflicts_eq_ok_iff, List.forall_mem_cons, List.forall_mem_singleton, Admissible,
      Admissible, habsent, hwhole]
    exact ⟨fun hthere => absurd hthere Bool.false_ne_true, fun _ => rfl⟩
  have hwritable : Writable postFormProject "/server/apps/blog/views.py" :=
    writable_views (by decide +kernel) (by decide +kernel) (by decide +kernel)
  have hfirst := GeneratedFile.writeTo_of_absent true habsent
  rw [writeWhole_of_writable views (hviews ▸ namesFile_views) false (hviews ▸ hwritable)] at hfirst
  obtain ⟨u, o, hsecond⟩ := GeneratedFile.exists_writeTo_force (hform ▸ namesFile_form) hwhole
    (hform ▸ writable_form_postForm views.content)
  rw [← hviews] at hsecond
  have hwritten : (writeFiles false "/" true [views, form]
      (postCreateRun.command.start false postFormProject)).2 = none := by
    rw [writeFiles_pair (w := postCreateRun.command.start false postFormProject) hfirst hsecond]
  have hrun := ViewCommand.runIn_of_prepare (c := (postCreateRun.forcing true).command) false hprepare
    rfl hcheck
  refine (congrArg Report.failure hrun).trans ?_
  rw [ViewCommand.finish_failure]
  exact hwritten

theorem force_is_conservative_post : ∃ g files,
    postCreateRun.command.prepare postFormProject "/" postCreateRun.config = .ok (g, files) ∧
      ((postCreateRun.forcing false).report "/" postFormProject).failure =
        some (.refuse (existsMessage (join "/" g.formPath))) ∧
      ∃ v, (postCreateRun.forcing false).report "/"
            (postFormProject.remove (place (join "/" g.formPath))) =
          { (postCreateRun.forcing true).report "/" postFormProject with tree := v } ∧
        ∀ l, v.get? l = ((postCreateRun.forcing true).report "/" postFormProject).tree.get? l := by
  have hwell : WellFormed postFormProject := wellFormed_of_entries (by decide +kernel)
  have hr : postCreateRun.Confined "server/apps" := {
    apps := rfl
    accepted := ⟨"blog:Post", by rfl⟩
    app := by decide
    view := nofun }
  obtain ⟨_, views, form, hprepare, _, _, _, _, hconflict⟩ := exists_conflict_postForm
  have hfail : ((postCreateRun.forcing false).report "/" postFormProject).failure ≠ none :=
    ViewCommand.failure_of_conflict false hprepare rfl hconflict
  obtain ⟨f, hf⟩ := Option.ne_none_iff_exists'.mp hfail
  obtain ⟨g, files, hprepare', rfl, _, hsame⟩ :=
    (force_is_conservative hwell hr).2 f failure_postCreateRun_forced hf
  exact ⟨g, files, hprepare', hf, hsame⟩

end Viewsmith.Command
