import Viewsmith.Proofs.Command.RepeatedRuns
import Viewsmith.Proofs.Command.GrowingViews
import Viewsmith.Proofs.Command.Reach
import Viewsmith.Proofs.Scaffold.Overrides

namespace Viewsmith.Text

theorem infix_join {s : String} {ss : List String} (h : s ∈ ss) :
    s.toList <:+: (String.join ss).toList := by
  obtain ⟨before, after, rfl⟩ := List.append_of_mem h
  induction before with
  | nil =>
      rw [List.nil_append, String.join_cons, String.toList_append]
      exact (List.prefix_append _ _).isInfix
  | cons first before ih =>
      rw [List.cons_append, String.join_cons, String.toList_append]
      exact (ih (by simp)).trans (List.suffix_append _ _).isInfix

end Viewsmith.Text

namespace Viewsmith.View

theorem contains_classText (c : Context) (k : Kind) : Text.contains (classText c k)
    (Scaffold.classOpening (viewClassName c.modelName k.className)) = true := by
  rw [Text.contains_eq_true_iff]
  refine ⟨['\n', '\n'], (k.className ++ "):\n" ++ textOfLines ["    model = " ++ c.modelName,
    (settingOf k).1 ++ (settingValue c k ++ (settingOf k).2.2)]).toList, ?_⟩
  simp [classText, textOfLines, Scaffold.classOpening, viewClassName]

end Viewsmith.View

namespace Viewsmith.Command

open Files Scaffold View

def DefinesAll (t : FileTree) (path model : String) (o : Options) : Prop :=
  ∃ text, readText t path = .ok text ∧ missingKinds model o text = []

theorem missingKinds_eq_nil_iff (model : String) (o : Options) (text : String) :
    missingKinds model o text = [] ↔ ∀ k, o.has k = true →
      (classOpening (viewClassName model k.className)).toList <:+: text.toList := by
  simp only [missingKinds, List.filter_eq_nil_iff, Options.mem_enabled, Bool.not_eq_true',
    Bool.not_eq_false, Text.contains_eq_true_iff]

theorem missingKinds_of_infix {model : String} {o : Options} {small text : String}
    (h : small.toList <:+: text.toList) (hall : missingKinds model o small = []) :
    missingKinds model o text = [] := by
  rw [missingKinds_eq_nil_iff] at hall ⊢
  exact fun k hk => (hall k hk).trans h

section

variable {t u : FileTree} {root path n : String} {steps : List Component}

theorem DefinesAll.mono {model : String} {o : Options} (h : DefinesAll t path model o)
    (hp : NamesFile path steps n) (hkeeps : Keeps t u) (hext : ExtendedAt t u (place path)) :
    DefinesAll u path model o := by
  obtain ⟨text, hread, hall⟩ := h
  obtain ⟨hreach, hget⟩ := (readText_eq_ok_iff hp text).mp hread
  have hstays : ∃ more, u.get? (place path) = some (.file (.text (text ++ more))) := by
    obtain ⟨d, hd, rfl | ⟨s, more, hs, rfl⟩⟩ := hext _ hget
    · exact ⟨"", by rw [hd, String.append_empty]⟩
    · cases hs
      exact ⟨more, hd⟩
  obtain ⟨more, hmore⟩ := hstays
  refine ⟨text ++ more, (readText_eq_ok_iff hp _).mpr ⟨inReach_mono hkeeps.directory hreach, hmore⟩, ?_⟩
  refine missingKinds_of_infix ?_ hall
  rw [String.toList_append]
  exact (List.prefix_append _ _).isInfix

/-- A views module defines all selected classes once it was created or merged: those that it lacked
come with their bodies, and the others were there. -/
theorem definesAll_of_writeTo {g : Generator} {f : GeneratedFile} {header before : String}
    {force : Bool} {o : Outcome} (hr : Renderer.ofRegistry Registry.builtin = .ok g.renderer)
    (hmodel : g.context.modelName = g.target.modelName)
    (hmerge : f.merge = some ⟨header, g.context.options.enabled.map g.sectionOf⟩)
    (hcontent : f.content =
      before ++ String.join (g.context.options.enabled.map (classText g.context)))
    (hp : NamesFile (join root f.path) steps n) (h : f.writeTo t root force = (u, .ok o)) :
    DefinesAll u (join root f.path) g.target.modelName g.context.options := by
  have hopens {k : Kind} {ks : List Kind} (hk : k ∈ ks) (before : String) :
      (classOpening (viewClassName g.target.modelName k.className)).toList <:+:
        (before ++ String.join (ks.map (classText g.context))).toList := by
    rw [← hmodel, String.toList_append]
    exact ((Text.contains_eq_true_iff _ _).mp (contains_classText g.context k)).trans
      ((Text.infix_join (List.mem_map_of_mem hk)).trans (List.suffix_append _ _).isInfix)
  rcases GeneratedFile.writeTo_merge_ok hp hmerge h with ⟨_, hw, rfl, _⟩ | ⟨old, hread, hu, _⟩
  · refine ⟨f.content, readText_written hp hw _, ?_⟩
    rw [missingKinds_eq_nil_iff, hcontent]
    exact fun k hk => hopens ((Options.mem_enabled _ _).mpr hk) before
  · simp only [missingIn_sections, List.map_eq_nil_iff] at hu
    by_cases hall : missingKinds g.target.modelName g.context.options old = []
    · rw [if_pos hall] at hu
      rw [hu]
      exact ⟨old, hread, hall⟩
    · rw [if_neg hall] at hu
      rw [hu]
      refine ⟨_, readText_put hp hread _, ?_⟩
      rw [missingKinds_eq_nil_iff]
      intro k hk
      by_cases hlacks : k ∈ missingKinds g.target.modelName g.context.options old
      · have hbody : g.body = classText g.context := funext fun l => Generator.body_builtin hr l
        rw [appendSections_eq, hbody]
        exact hopens hlacks _
      · rw [missingKinds, List.mem_filter, Options.mem_enabled, not_and, Bool.not_eq_true',
          Bool.not_eq_false, Text.contains_eq_true_iff] at hlacks
        obtain ⟨more, hmore⟩ := exists_appendSections_eq old
          ((missingKinds g.target.modelName g.context.options old).map g.sectionOf)
        rw [hmore, String.toList_append]
        exact (hlacks hk).trans (List.prefix_append _ _).isInfix

end

section

variable {root appsDir : String} {t : FileTree}

theorem get?_treeAfter_package {runs : List Run} (hruns : ∀ r ∈ runs, r.Confined appsDir)
    (hwell : WellFormed t) (hg : Grounded t (components (join root appsDir))) (app : String) :
    (treeAfter root t runs).get? (place (join root appsDir) ++ [app, "views"]) =
      t.get? (place (join root appsDir) ++ [app, "views"]) := by
  refine treeAfter_invariant (fun u => u.get? (place (join root appsDir) ++ [app, "views"]) =
    t.get? (place (join root appsDir) ++ [app, "views"])) (fun e he h => ?_) rfl
  have hkeeps := keeps_of_mem_history e he
  exact ((hruns e.2 (run_of_mem_history he)).get?_report_package (hkeeps.wellFormed hwell)
    (hg.mono hkeeps.directory) app).trans h

theorem viewsPath_treeAfter {runs : List Run} {r s : Run} {g g' : Generator}
    {files files' : List GeneratedFile} (hr : r.Confined appsDir) (hs : s.Confined appsDir)
    (hruns : ∀ r ∈ runs, r.Confined appsDir) (hwell : WellFormed t)
    (hg : Grounded t (components (join root appsDir)))
    (htarget : s.command.target = r.command.target)
    (hview : s.command.viewFile = r.command.viewFile)
    (hprepare : r.command.prepare t root r.config = .ok (g, files))
    (hprepare' : s.command.prepare (treeAfter root t runs) root s.config = .ok (g', files')) :
    g'.viewsPath (treeAfter root t runs) = g.viewsPath t := by
  have hknows := hr.knows hprepare
  have hknows' := hs.knows hprepare'
  obtain ⟨_, _, hfile, _⟩ := ViewCommand.prepare_parts hprepare
  obtain ⟨_, _, hfile', _⟩ := ViewCommand.prepare_parts hprepare'
  have hc := hr.components_packagePath root
  have hground : Grounded t (components (packagePath root appsDir r.command.target.appName)) := by
    rw [hc]
    exact hg.append _
  have hsame : isDirectory (treeAfter root t runs)
      (packagePath root appsDir r.command.target.appName) =
        isDirectory t (packagePath root appsDir r.command.target.appName) := by
    refine hwell.isDirectory_eq_of_kept hground (hc.trans (List.append_assoc _ [_] [_]).symm)
      (keeps_treeAfter root t runs).directory ?_
    rw [place, hc, follow_append, follow_names]
    exact get?_treeAfter_package hruns hwell hg _
  rw [packagePath] at hsame
  rw [Generator.viewsPath, Generator.viewsPath, Generator.appDir, Generator.appDir, hknows.root,
    hknows.apps, hknows.target, hknows'.root, hknows'.apps, hknows'.target, hfile, hfile', htarget,
    hview, hsame]

/-- A run fails, and changes nothing, if its views module defines all selected classes. -/
theorem Run.refused_of_definesAll {r : Run} (hstdout : r.command.stdout = false)
    (hall : ∀ g files, r.command.prepare t root r.config = .ok (g, files) →
      DefinesAll t (join root (g.viewsPath t)) g.target.modelName r.command.options) :
    (r.report root t).failure ≠ none ∧ (r.report root t).tree = t := by
  rcases r.command.runIn_cases r.color t root r.config with ⟨f, _, hrun⟩ |
    ⟨g, files, hprepare, ⟨hstdout', _⟩ | ⟨f, _, _, hrun⟩ | ⟨_, hcheck, _⟩⟩
  · rw [Run.report, hrun]
    exact ⟨Option.some_ne_none f, rfl⟩
  · rw [hstdout] at hstdout'
    cases hstdout'
  · rw [Run.report, hrun]
    exact ⟨Option.some_ne_none f, rfl⟩
  · obtain ⟨_, _, _, _, _, views, _, header, rfl, hpath, _, hmerge, _⟩ :=
      ViewCommand.prepare_parts hprepare
    obtain ⟨text, hread, hnone⟩ := hall g _ hprepare
    have hchecked := (checkConflicts_eq_ok_iff _ _ _ _).mp hcheck views List.mem_cons_self
    rw [Admissible, hmerge, hpath] at hchecked
    obtain ⟨l, hl⟩ := readText_eq_ok hread
    obtain ⟨text', hread', hmissing⟩ := hchecked (pathExists_of_find hl)
    rw [hread] at hread'
    cases hread'
    rw [missingIn_sections, hnone] at hmissing
    exact absurd rfl hmissing

/-- A successful run with the built-in texts leaves a module that defines all selected classes. -/
theorem Run.Confined.definesAll {r : Run} (hr : r.Confined appsDir)
    (hg : Grounded t (components (join root appsDir)))
    (hbuiltin : NoOverrides t root (r.command.applyTo r.config))
    (hstdout : r.command.stdout = false) (hok : (r.report root t).failure = none) :
    ∃ g files, r.command.prepare t root r.config = .ok (g, files) ∧
      DefinesAll (r.report root t).tree (join root (g.viewsPath t)) r.command.target.modelName
        r.command.options := by
  obtain ⟨g, files, hprepare⟩ := ViewCommand.exists_prepare_of_success hok
  obtain ⟨_, hall, hrun⟩ := ViewCommand.written_of_success hprepare hstdout hok
  have hknows := hr.knows hprepare
  have hform := (hr.places hprepare hg (hr.isViewsModule hprepare)).2
  have hbuiltin' := renderer_of_noOverrides hbuiltin hprepare
  have hmodel : g.context.modelName = g.target.modelName := by
    obtain ⟨_, _, _, _, _, hmade, _⟩ := (ViewCommand.prepare_eq_ok_iff g files).mp hprepare
    rw [hmade, ViewCommand.generatorIn]
    rfl
  obtain ⟨_, _, _, hoptions, _, views, others, header, rfl, hpath, hcontent, hmerge, _⟩ :=
    ViewCommand.prepare_parts hprepare
  obtain ⟨_, _, heq, _, ⟨steps, n, hp⟩, _, _, hnames⟩ := ViewCommand.files_of_prepare hprepare
  cases heq
  rw [← hoptions] at hmerge
  rw [render_builtin hbuiltin'] at hcontent
  obtain ⟨u, o, hwrite, hrest⟩ := writeFiles_cons_of_success hall
  have hfirst := definesAll_of_writeTo hbuiltin' hmodel hmerge (Except.ok.inj hcontent).symm hp hwrite
  have hforms : ∀ f ∈ others, place (join root f.path) ≠ place (join root views.path) := by
    intro f hf
    rw [ViewCommand.path_of_mem_others hprepare hf, hpath]
    exact hform
  have hkeeps := writeFiles_keeps hnames r.color r.command.force
    (({ r.command.start r.color t with tree := u } : Writing).note r.color views o)
  have hspared := writeFiles_spared hnames r.color r.command.force hforms
    (({ r.command.start r.color t with tree := u } : Writing).note r.color views o)
  rw [← hrest, note_tree] at hkeeps hspared
  have hlast := hfirst.mono hp hkeeps (ExtendedAt.of_spared hspared)
  rw [hpath, hknows.target, hoptions] at hlast
  refine ⟨g, _, hprepare, ?_⟩
  rw [Run.report, hrun, ViewCommand.finish_tree]
  exact hlast

end

/-- Rerunning is refused and changes nothing. Once a run from the built-in partials has succeeded,
whatever runs follow below the same directory of apps, another run for its target and views file that
selects none but its views fails and leaves the tree as it is, by force or not, and with any settings
and partials. -/
theorem rerun_refused {root appsDir : String} {names : List String} {t : FileTree}
    {first again : Run} {later : List Run} (hwell : WellFormed t)
    (hroot : Grounded t (components root)) (happs : components appsDir = names.map .name)
    (hfirst : first.Confined appsDir) (hstdout : first.command.stdout = false)
    (hbuiltin : NoOverrides t root (first.command.applyTo first.config))
    (hok : (first.report root t).failure = none) (hlater : ∀ r ∈ later, r.Confined appsDir)
    (hagain : again.Confined appsDir) (hstdout' : again.command.stdout = false)
    (htarget : again.command.target = first.command.target)
    (hview : again.command.viewFile = first.command.viewFile)
    (hsubset : ∀ k, again.command.options.has k = true → first.command.options.has k = true) :
    (again.report root (treeAfter root t (first :: later))).failure ≠ none ∧
      (again.report root (treeAfter root t (first :: later))).tree =
        treeAfter root t (first :: later) := by
  have hg := grounded_join hroot happs
  obtain ⟨g, files, hprepare, hdefines⟩ := hfirst.definesAll hg hbuiltin hstdout hok
  have hkeeps := first.keeps root t
  have hlaterKeeps := keeps_treeAfter root (first.report root t).tree later
  have hextended := extendedAt_treeAfter (hfirst.isViewsModule hprepare) hlater
    (hkeeps.wellFormed hwell) (hg.mono hkeeps.directory)
  obtain ⟨steps, n, hp⟩ : ∃ steps n, NamesFile (join root (g.viewsPath t)) steps n :=
    namesFile_of_suffix ((viewsPath_suffix g t).trans (suffix_join _ _))
  have hstill := hdefines.mono hp hlaterKeeps hextended
  refine Run.refused_of_definesAll hstdout' fun g' files' hprepare' => ?_
  have hruns : ∀ r ∈ first :: later, r.Confined appsDir := List.forall_mem_cons.mpr ⟨hfirst, hlater⟩
  have hpath := viewsPath_treeAfter hfirst hagain hruns hwell hg htarget hview hprepare hprepare'
  rw [hpath, (hagain.knows hprepare').target, htarget]
  obtain ⟨text, hread, hall⟩ := hstill
  refine ⟨text, hread, ?_⟩
  rw [missingKinds_eq_nil_iff] at hall ⊢
  exact fun k hk => hall k (hsubset k hk)

def detailAgain : Run where
  command := { postViews { detail := true } with force := true, partials := some "partials" }
  config := { paginateBy := 7 }
  color := true

theorem rerun_refused_post :
    (postRun.report "/" postListProject).failure = none ∧
      (detailAgain.report "/" (treeAfter "/" postListProject [postRun, forcedFormRun])).failure ≠ none ∧
      (detailAgain.report "/" (treeAfter "/" postListProject [postRun, forcedFormRun])).tree =
        treeAfter "/" postListProject [postRun, forcedFormRun] := by
  have hwell : WellFormed postListProject := wellFormed_of_entries (by decide +kernel)
  have hroot : Grounded postListProject (components "/") := grounded_of_isDirectory (by decide +kernel)
  have happs : components "server/apps" = ["server", "apps"].map .name := by decide +kernel
  have hbuiltin : NoOverrides postListProject "/" (postRun.command.applyTo postRun.config) := nofun
  have hok : (postRun.report "/" postListProject).failure = none := by
    obtain ⟨_, _, _, _, hok⟩ := exists_run_postListProject
    exact hok
  have hlater : ∀ r ∈ [forcedFormRun], r.Confined "server/apps" := by
    simp [confined_forcedFormRun]
  have hagain : detailAgain.Confined "server/apps" := {
    apps := rfl
    accepted := ⟨"blog:Post", by rfl⟩
    app := by decide
    view := nofun }
  have hsubset (k : Kind) (hk : detailAgain.command.options.has k = true) :
      postRun.command.options.has k = true := by
    cases k <;> first | rfl | cases hk
  exact ⟨hok, rerun_refused hwell hroot happs ordinary_postRun.confined rfl hbuiltin hok hlater hagain
    rfl rfl rfl hsubset⟩

end Viewsmith.Command
