import Viewsmith.Proofs.Command.Counting
import Viewsmith.Proofs.Command.Sequences

namespace Viewsmith.Command

open Files Scaffold View
open Settings (Config)

namespace Run

def Targets (r : Run) (root : String) (t : FileTree) (p : Location) : Prop :=
  ∃ g files, r.command.prepare t root r.config = .ok (g, files) ∧
    place (join root (g.viewsPath t)) = p

def Selects (r : Run) (model : String) (k : Kind) : Prop :=
  r.command.target.modelName = model ∧ r.command.options.has k = true

/-- A run that writes its files, below a given directory of apps and from the built-in partials. -/
structure Ordinary (r : Run) (appsDir : String) : Prop where
  stdout : r.command.stdout = false
  apps : r.config.appsDir = appsDir
  partials : (r.command.applyTo r.config).partialsDir = none
  accepted : ∃ input, Target.parse input = .ok r.command.target
  app : '/' ∉ r.command.target.appName.toList ∧ r.command.target.appName ≠ "." ∧
    r.command.target.appName ≠ ".."
  view : ∀ view, r.command.viewFile = some view → '/' ∉ view.toList
  slug : Text.contains (r.command.applyTo r.config).slugField "class " = false
  url : Text.contains (r.command.applyTo r.config).deleteSuccessUrl "class " = false

theorem Ordinary.confined {r : Run} {appsDir : String} (hr : r.Ordinary appsDir) :
    r.Confined appsDir :=
  ⟨hr.apps, hr.accepted, hr.app, hr.view⟩

end Run

structure Run.Prepared (r : Run) (root : String) (t : FileTree) (g : Generator)
    (files : List GeneratedFile) : Prop where
  renderer : Renderer.ofRegistry Registry.builtin = .ok g.renderer
  files : files = g.builtinViews t :: g.builtinForms
  root : g.root = root
  apps : g.appsDir = r.config.appsDir
  target : g.target = r.command.target
  view : g.viewFile = r.command.viewFile
  options : g.context.options = r.command.options
  model : g.context.modelName = r.command.target.modelName
  harmless : Harmless g.context

theorem Run.Ordinary.prepared {r : Run} {appsDir root : String} {t : FileTree} {g : Generator}
    {files : List GeneratedFile} (hr : r.Ordinary appsDir)
    (h : r.command.prepare t root r.config = .ok (g, files)) : r.Prepared root t g files := by
  obtain ⟨_, _, _, _, _, hg, hfiles⟩ := (ViewCommand.prepare_eq_ok_iff g files).mp h
  have hcontext : g.context = r.command.contextIn t root r.config := by
    rw [hg, ViewCommand.generatorIn]
  have hpartials : NoOverrides t root (r.command.applyTo r.config) := by
    intro dir hdir
    rw [Config.partialsPath?, hr.partials] at hdir
    cases hdir
  have hbuiltin := renderer_of_noOverrides hpartials h
  obtain ⟨input, haccepted⟩ := hr.accepted
  rw [Generator.generate_builtin hbuiltin] at hfiles
  exact {
    renderer := hbuiltin
    files := (Except.ok.inj hfiles).symm
    root := by rw [hg, ViewCommand.generatorIn]
    apps := by rw [hg, ViewCommand.generatorIn]
    target := by rw [hg, ViewCommand.generatorIn]
    view := by rw [hg, ViewCommand.generatorIn]
    options := by rw [hcontext]; rfl
    model := by rw [hcontext]; rfl
    harmless := hcontext ▸ harmless_contextIn haccepted hr.slug hr.url }

structure RunCount (model : String) (k : Kind) (root : String) (t : FileTree) (r : Run)
    (p : Location) : Prop where
  keeps : Keeps t (r.report root t).tree
  count : classCountAt model k (r.report root t).tree p = classCountAt model k t p ∨
    r.Targets root t p ∧ r.Selects model k ∧ classCountAt model k t p = 0 ∧
      classCountAt model k (r.report root t).tree p = 1
  there : r.Targets root t p → r.Selects model k → (r.report root t).failure = none →
    1 ≤ classCountAt model k (r.report root t).tree p

section

variable {model : String} {k : Kind} {root : String} {p : Location}

theorem RunCount.of_failure {t : FileTree} {r : Run} {printed : String} {f : Failure}
    (h : r.report root t = ⟨t, printed, some f⟩) : RunCount model k root t r p := by
  refine ⟨?_, .inl ?_, fun _ _ hok => ?_⟩
  · rw [h]
    exact Keeps.refl t
  · rw [h]
  · rw [h] at hok
    cases hok

theorem path_of_mem_builtinForms {g : Generator} {f : GeneratedFile} (h : f ∈ g.builtinForms) :
    f.path = g.formPath := by
  unfold Generator.builtinForms at h
  split at h
  · rw [List.mem_singleton.mp h, Generator.formModule_path]
  · cases h

theorem namesFile_of_mem_builtinForms (root : String) (g : Generator) :
    ∀ f ∈ g.builtinForms, ∃ steps n, NamesFile (join root f.path) steps n := by
  intro f hf
  rw [path_of_mem_builtinForms hf]
  exact namesFile_of_suffix ((formPath_suffix g).trans (suffix_join _ _))

theorem writeFiles_count {g : Generator} (hr : Renderer.ofRegistry Registry.builtin = .ok g.renderer)
    (hc : Harmless g.context) (htarget : g.context.modelName = g.target.modelName)
    (hmodel : isClassName model = true) (color force : Bool) (s : FileTree) {w : Writing}
    (hwell : WellFormed w.tree) (hg : Grounded w.tree (components (join root (g.viewsPath s))))
    (hform : place (join root g.formPath) ≠ p) {v : Writing} {result : Option Failure}
    (h : writeFiles color root force (g.builtinViews s :: g.builtinForms) w = (v, result)) :
    Keeps w.tree v.tree ∧
      (classCountAt model k v.tree p = classCountAt model k w.tree p ∨
        place (join root (g.viewsPath s)) = p ∧ g.target.modelName = model ∧
          g.context.options.has k = true ∧ classCountAt model k w.tree p = 0 ∧
          classCountAt model k v.tree p = 1) ∧
      (place (join root (g.viewsPath s)) = p → g.target.modelName = model →
        g.context.options.has k = true → result = none → 1 ≤ classCountAt model k v.tree p) := by
  have hpath : (g.builtinViews s).path = g.viewsPath s := Generator.viewsModule_path g s _ _ _
  have hmerge : (g.builtinViews s).merge =
      some ⟨headerText g.context, g.context.options.enabled.map g.sectionOf⟩ := rfl
  have hcontent : (g.builtinViews s).content = headerText g.context ++
      String.join (g.context.options.enabled.map (classText g.context)) := rfl
  rw [← hpath] at hg ⊢
  obtain ⟨steps, n, hp⟩ : ∃ steps n, NamesFile (join root (g.builtinViews s).path) steps n := by
    rw [hpath]
    exact namesFile_of_suffix ((viewsPath_suffix g s).trans (suffix_join _ _))
  have hchanged := GeneratedFile.writeTo_changedAt w.tree root force hp
  cases hwrite : (g.builtinViews s).writeTo w.tree root force with
  | mk u o =>
      rw [hwrite] at hchanged
      cases o with
      | error e =>
          have hspared := GeneratedFile.spared_of_writeTo_error hp hwrite p
          rw [writeFiles_cons_of_error hwrite, Prod.mk.injEq] at h
          obtain ⟨rfl, rfl⟩ := h
          exact ⟨hchanged.toKeeps, .inl (classCountAt_of_spared hspared), nofun⟩
      | ok o =>
          have hnames := namesFile_of_mem_builtinForms root g
          have hforms : ∀ f ∈ g.builtinForms, place (join root f.path) ≠ p := by
            intro f hf
            rw [path_of_mem_builtinForms hf]
            exact hform
          have hkeeps := writeFiles_keeps hnames color force
            ({ w with tree := u }.note color (g.builtinViews s) o)
          have hspared := writeFiles_spared hnames color force hforms
            ({ w with tree := u }.note color (g.builtinViews s) o)
          rw [note_tree] at hkeeps hspared
          rw [writeFiles_cons_of_ok hwrite] at h
          rw [h] at hkeeps hspared
          rw [classCountAt_of_spared hspared]
          have hcount := classCountAt_writeTo hr hc htarget hmodel k hmerge hcontent hp hwell hg hwrite
          refine ⟨hchanged.toKeeps.trans hkeeps, ?_, ?_⟩
          · by_cases hplace : place (join root (g.builtinViews s).path) = p
            · rw [hplace] at hcount
              split at hcount
              · rename_i hnew
                refine .inr ⟨hplace, hnew.1, hnew.2.1, hnew.2.2, ?_⟩
                rw [hcount, hnew.2.2]
              · exact .inl hcount
            · exact .inl (classCountAt_of_spared (hchanged.elsewhere p (Ne.symm hplace)))
          · rintro rfl hsame hhas _
            rw [hcount]
            split
            · omega
            · rename_i hthere
              rw [Nat.add_zero]
              exact Nat.one_le_iff_ne_zero.mpr fun hnone => hthere ⟨hsame, hhas, hnone⟩

theorem Run.Ordinary.runCount {r : Run} {appsDir : String} {t : FileTree} (hr : r.Ordinary appsDir)
    (hwell : WellFormed t) (hg : Grounded t (components (join root appsDir)))
    (hp : IsViewsModule (place (join root appsDir)) p) (hmodel : isClassName model = true) :
    RunCount model k root t r p := by
  rcases r.command.runIn_cases r.color t root r.config with ⟨f, _, hrun⟩ |
    ⟨g, files, hprepare, ⟨hstdout, _⟩ | ⟨f, _, _, hrun⟩ | ⟨_, _, hrun⟩⟩
  · exact RunCount.of_failure hrun
  · rw [hr.stdout] at hstdout
    cases hstdout
  · exact RunCount.of_failure hrun
  have hprepared := hr.prepared hprepare
  obtain ⟨hviews, hform⟩ := hr.confined.places hprepare hg hp
  have htarget : g.context.modelName = g.target.modelName := by
    rw [hprepared.model, hprepared.target]
  have hplace (htargets : r.Targets root t p) : place (join root (g.viewsPath t)) = p := by
    obtain ⟨g', files', hprepare', hp'⟩ := htargets
    rw [hprepare] at hprepare'
    cases hprepare'
    exact hp'
  rw [hprepared.files] at hrun
  cases hwrite : writeFiles r.color root r.command.force (g.builtinViews t :: g.builtinForms)
      (r.command.start r.color t) with
  | mk v result =>
      obtain ⟨hkeeps, hcount, hthere⟩ := writeFiles_count hprepared.renderer hprepared.harmless
        htarget hmodel (k := k) r.color r.command.force t hwell hviews hform hwrite
      rw [hwrite] at hrun
      rw [hprepared.target, hprepared.options] at hcount hthere
      have htree : (r.report root t).tree = v.tree := by
        rw [Run.report, hrun, ViewCommand.finish_tree]
      have hfailure : (r.report root t).failure = result := by
        rw [Run.report, hrun, ViewCommand.finish_failure]
      rw [← htree] at hkeeps hcount hthere
      rw [← hfailure] at hthere
      refine ⟨hkeeps, ?_, fun htargets hselects => hthere (hplace htargets) hselects.1 hselects.2⟩
      rcases hcount with hsame | ⟨hp', hname, hhas, hcounts⟩
      · exact .inl hsame
      · exact .inr ⟨⟨g, files, hprepare, hp'⟩, ⟨hname, hhas⟩, hcounts⟩

end

section

variable {model : String} {k : Kind} {root : String} {p : Location} {t : FileTree} {runs : List Run}

/-- The tree stays well formed and the directory of the apps grounded, so every run of a sequence
does to a class what a single one does. -/
theorem runCount_of_mem_history {appsDir : String} (hwell : WellFormed t)
    (hg : Grounded t (components (join root appsDir))) (hruns : ∀ r ∈ runs, r.Ordinary appsDir)
    (hp : IsViewsModule (place (join root appsDir)) p) (hmodel : isClassName model = true) :
    ∀ e ∈ history root t runs, RunCount model k root e.1 e.2 p := by
  intro e he
  have hkeeps := keeps_of_mem_history e he
  exact (hruns e.2 (run_of_mem_history he)).runCount (hkeeps.wellFormed hwell)
    (hg.mono hkeeps.directory) hp hmodel

variable (h : ∀ e ∈ history root t runs, RunCount model k root e.1 e.2 p)

include h

theorem classCountAt_le_treeAfter :
    classCountAt model k t p ≤ classCountAt model k (treeAfter root t runs) p := by
  refine treeAfter_invariant (fun u => classCountAt model k t p ≤ classCountAt model k u p)
    (fun e he hle => ?_) (Nat.le_refl _)
  rcases (h e he).count with hsame | ⟨_, _, hnone, _⟩
  · rw [hsame]
    exact hle
  · rw [hnone] at hle
    exact Nat.le_trans hle (Nat.zero_le _)

theorem treeAfter_le_max :
    classCountAt model k (treeAfter root t runs) p ≤ max 1 (classCountAt model k t p) := by
  refine treeAfter_invariant (fun u => classCountAt model k u p ≤ max 1 (classCountAt model k t p))
    (fun e he hle => ?_) (Nat.le_max_right _ _)
  rcases (h e he).count with hsame | ⟨_, _, _, hnew⟩
  · rw [hsame]
    exact hle
  · rw [hnew]
    exact Nat.le_max_left _ _

theorem one_le_treeAfter {e : FileTree × Run} (he : e ∈ history root t runs)
    (htargets : e.2.Targets root e.1 p) (hselects : e.2.Selects model k)
    (hok : (e.2.report root e.1).failure = none) :
    1 ≤ classCountAt model k (treeAfter root t runs) p := by
  induction runs generalizing t with
  | nil => cases he
  | cons r rest ih =>
      rw [history, List.forall_mem_cons] at h
      rcases List.mem_cons.mp he with rfl | he
      · exact Nat.le_trans (h.1.there htargets hselects hok) (classCountAt_le_treeAfter h.2)
      · exact ih h.2 he

theorem treeAfter_eq_of_not_selects
    (hnone : ∀ e ∈ history root t runs, e.2.Targets root e.1 p → ¬ e.2.Selects model k) :
    classCountAt model k (treeAfter root t runs) p = classCountAt model k t p := by
  refine treeAfter_invariant (fun u => classCountAt model k u p = classCountAt model k t p)
    (fun e he heq => ?_) rfl
  rcases (h e he).count with hsame | ⟨htargets, hselects, _⟩
  · exact hsame.trans heq
  · exact absurd hselects (hnone e he htargets)

end

/-- No view class is generated twice. Whatever runs come one after another below a directory of apps
that is made of names, a views module has a class at most once, or as often as before; it has it if a
successful run has selected it for that module, and nothing is added that no run has selected. -/
theorem class_generated_at_most_once {root appsDir : String} {names : List String} {t : FileTree}
    {runs : List Run} {p : Location} {model : String} (hwell : WellFormed t)
    (hroot : Grounded t (components root)) (happs : components appsDir = names.map .name)
    (hruns : ∀ r ∈ runs, r.Ordinary appsDir) (hp : IsViewsModule (place (join root appsDir)) p)
    (hmodel : isClassName model = true) (k : Kind) :
    classCountAt model k (treeAfter root t runs) p ≤ max 1 (classCountAt model k t p) ∧
      ((∃ e ∈ history root t runs, e.2.Targets root e.1 p ∧ e.2.Selects model k ∧
          (e.2.report root e.1).failure = none) →
        1 ≤ classCountAt model k (treeAfter root t runs) p) ∧
      ((∀ e ∈ history root t runs, e.2.Targets root e.1 p → ¬ e.2.Selects model k) →
        classCountAt model k (treeAfter root t runs) p = classCountAt model k t p) := by
  have h : ∀ e ∈ history root t runs, RunCount model k root e.1 e.2 p :=
    runCount_of_mem_history hwell (grounded_join hroot happs) hruns hp hmodel
  refine ⟨treeAfter_le_max h, ?_, treeAfter_eq_of_not_selects h⟩
  rintro ⟨e, he, htargets, hselects, hok⟩
  exact one_le_treeAfter h he htargets hselects hok

def postRun : Run where
  command := postViews { list := true, detail := true }
  config := {}
  color := false

theorem ordinary_postRun : postRun.Ordinary "server/apps" where
  stdout := rfl
  apps := rfl
  partials := rfl
  accepted := ⟨"blog:Post", by rfl⟩
  app := by decide
  view := nofun
  slug := by decide
  url := by decide

theorem class_generated_at_most_once_post :
    (∃ e ∈ history "/" postListProject [postRun, postRun],
      e.2.Targets "/" e.1 ["server", "apps", "blog", "views.py"] ∧
        e.2.Selects "Post" .detail ∧ (e.2.report "/" e.1).failure = none) ∧
    classCountAt "Post" .detail postListProject ["server", "apps", "blog", "views.py"] = 0 ∧
      classCountAt "Post" .detail (treeAfter "/" postListProject [postRun, postRun])
        ["server", "apps", "blog", "views.py"] = 1 := by
  have hrun : ∃ e ∈ history "/" postListProject [postRun, postRun],
      e.2.Targets "/" e.1 ["server", "apps", "blog", "views.py"] ∧
        e.2.Selects "Post" .detail ∧ (e.2.report "/" e.1).failure = none := by
    obtain ⟨g, files, hprepare, hpath, hok⟩ := exists_run_postListProject
    refine ⟨(postListProject, postRun), List.mem_cons_self, ⟨g, files, hprepare, ?_⟩, ⟨rfl, rfl⟩, hok⟩
    rw [hpath]
    decide +kernel
  have hruns : ∀ r ∈ [postRun, postRun], r.Ordinary "server/apps" := by
    simp [ordinary_postRun]
  have hnew : classCountAt "Post" .detail postListProject ["server", "apps", "blog", "views.py"] = 0 := by
    decide +kernel
  have hplace : IsViewsModule (place (join "/" "server/apps")) ["server", "apps", "blog", "views.py"] :=
    ⟨"blog", .inl (by decide +kernel)⟩
  have hnames : components "server/apps" = ["server", "apps"].map .name := by decide +kernel
  have hwell : WellFormed postListProject := wellFormed_of_entries (by decide +kernel)
  have hroot : Grounded postListProject (components "/") := grounded_of_isDirectory (by decide +kernel)
  have hmodel : isClassName "Post" = true := by decide +kernel
  obtain ⟨hmost, hleast, _⟩ :=
    class_generated_at_most_once hwell hroot hnames hruns hplace hmodel .detail
  have hone := hleast hrun
  rw [hnew] at hmost
  exact ⟨hrun, hnew, Nat.le_antisymm hmost hone⟩

end Viewsmith.Command
