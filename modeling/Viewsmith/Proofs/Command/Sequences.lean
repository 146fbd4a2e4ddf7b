import Viewsmith.Proofs.Command.Running
import Viewsmith.Proofs.Scaffold.Changing
import Viewsmith.Proofs.View.Naming

namespace Viewsmith.Command

open Files Scaffold View
open Settings (Config)

structure Run where
  command : ViewCommand
  config : Config
  color : Bool

namespace Run

def report (r : Run) (root : String) (t : FileTree) : Report :=
  r.command.runIn r.color t root r.config

/-- A run below a given directory of apps whose app and views file are single names. -/
structure Confined (r : Run) (appsDir : String) : Prop where
  apps : r.config.appsDir = appsDir
  accepted : ∃ input, Target.parse input = .ok r.command.target
  app : '/' ∉ r.command.target.appName.toList ∧ r.command.target.appName ≠ "." ∧
    r.command.target.appName ≠ ".."
  view : ∀ view, r.command.viewFile = some view → '/' ∉ view.toList

end Run

def treeAfter (root : String) : FileTree → List Run → FileTree
  | t, [] => t
  | t, r :: rest => treeAfter root (r.report root t).tree rest

/-- The runs of a sequence, each with the tree it begins with. -/
def history (root : String) : FileTree → List Run → List (FileTree × Run)
  | _, [] => []
  | t, r :: rest => (t, r) :: history root (r.report root t).tree rest

def IsViewsModule (apps p : Location) : Prop :=
  ∃ app, p = apps ++ [app, "views.py"] ∨ ∃ file, p = apps ++ [app, "views", file]

theorem treeAfter_append (root : String) (t : FileTree) (before after : List Run) :
    treeAfter root t (before ++ after) = treeAfter root (treeAfter root t before) after := by
  induction before generalizing t with
  | nil => rfl
  | cons r rest ih => exact ih _

section

variable {root : String} {files : List GeneratedFile}
  (hnames : ∀ f ∈ files, ∃ steps n, NamesFile (join root f.path) steps n)

include hnames

theorem writeFiles_keeps (color force : Bool) (w : Writing) :
    Keeps w.tree (writeFiles color root force files w).1.tree := by
  refine writeFiles_invariant (Keeps w.tree) color (fun f hf t h => ?_) (Keeps.refl w.tree)
  obtain ⟨steps, n, hp⟩ := hnames f hf
  exact h.trans (GeneratedFile.writeTo_changedAt t root force hp).toKeeps

theorem writeFiles_spared (color force : Bool) {p : Location}
    (hne : ∀ f ∈ files, place (join root f.path) ≠ p) (w : Writing) :
    Spared w.tree (writeFiles color root force files w).1.tree p := by
  refine writeFiles_invariant (Spared w.tree · p) color (fun f hf t h => ?_) (Spared.refl w.tree p)
  obtain ⟨steps, n, hp⟩ := hnames f hf
  exact h.trans ((GeneratedFile.writeTo_changedAt t root force hp).elsewhere p (Ne.symm (hne f hf)))

end

/-- A run leaves the tree as it was, or comes to write its files. -/
theorem Run.tree_cases (r : Run) (root : String) (t : FileTree) :
    (r.report root t).tree = t ∨
      ∃ g files, r.command.prepare t root r.config = .ok (g, files) ∧
        (∀ f ∈ files, ∃ steps n, NamesFile (join root f.path) steps n) ∧
        (r.report root t).tree =
          (writeFiles r.color root r.command.force files (r.command.start r.color t)).1.tree := by
  rcases r.command.runIn_cases r.color t root r.config with ⟨f, _, hrun⟩ |
    ⟨g, files, hprepare, ⟨_, hrun⟩ | ⟨f, _, _, hrun⟩ | ⟨_, _, hrun⟩⟩
  · exact .inl (by rw [Run.report, hrun])
  · exact .inl (by rw [Run.report, hrun])
  · exact .inl (by rw [Run.report, hrun])
  · obtain ⟨views, others, rfl, _, hviews, _, _, hothers⟩ := ViewCommand.files_of_prepare hprepare
    refine .inr ⟨g, _, hprepare, List.forall_mem_cons.mpr ⟨hviews, hothers⟩, ?_⟩
    rw [Run.report, hrun, ViewCommand.finish_tree]

/-- Whatever a run does, directories stay and the tree stays well formed. -/
theorem Run.keeps (r : Run) (root : String) (t : FileTree) : Keeps t (r.report root t).tree := by
  rcases r.tree_cases root t with hsame | ⟨g, files, _, hnames, htree⟩
  · rw [hsame]
    exact Keeps.refl t
  · rw [htree]
    exact writeFiles_keeps hnames r.color r.command.force (r.command.start r.color t)

/-- What each run of a sequence keeps, from the tree that it begins with, the sequence keeps. -/
theorem treeAfter_invariant (inv : FileTree → Prop) {root : String} {t : FileTree} {runs : List Run}
    (hstep : ∀ e ∈ history root t runs, inv e.1 → inv (e.2.report root e.1).tree) (h : inv t) :
    inv (treeAfter root t runs) := by
  induction runs generalizing t with
  | nil => exact h
  | cons r rest ih =>
      rw [history, List.forall_mem_cons] at hstep
      exact ih hstep.2 (hstep.1 h)

theorem keeps_treeAfter (root : String) (t : FileTree) (runs : List Run) :
    Keeps t (treeAfter root t runs) := by
  refine treeAfter_invariant (Keeps t) (fun e _ h => ?_) (Keeps.refl t)
  exact h.trans (e.2.keeps root e.1)

theorem keeps_of_mem_history {root : String} {t : FileTree} {runs : List Run} :
    ∀ e ∈ history root t runs, Keeps t e.1 := by
  induction runs generalizing t with
  | nil => simp [history]
  | cons r rest ih =>
      rw [history, List.forall_mem_cons]
      exact ⟨Keeps.refl t, fun e he => (r.keeps root t).trans (ih e he)⟩

theorem run_of_mem_history {root : String} {t : FileTree} {runs : List Run} {e : FileTree × Run}
    (he : e ∈ history root t runs) : e.2 ∈ runs := by
  induction runs generalizing t with
  | nil => cases he
  | cons r rest ih =>
      rcases List.mem_cons.mp he with rfl | he
      · exact List.mem_cons_self
      · exact List.mem_cons_of_mem _ (ih he)

section

variable {g : Generator} (happ : components g.target.appName = [.name g.target.appName])
  (hslash : '/' ∉ g.target.appName.toList)

include happ hslash

theorem components_appDir : components (join g.root g.appDir) =
    components (join g.root g.appsDir) ++ [.name g.target.appName] := by
  rw [Generator.appDir, components_join_join _ _ _ (not_isAbsolute_of_bare hslash), happ]

theorem grounded_viewsPath {t : FileTree} (s : FileTree)
    (hfile : '/' ∉ (g.viewFile.getD g.target.modelName).toList)
    (hg : Grounded t (components (join g.root g.appsDir))) :
    Grounded t (components (join g.root (g.viewsPath s))) := by
  have hdir : Grounded t (components (join g.root g.appDir)) := by
    rw [components_appDir happ hslash]
    exact hg.append [g.target.appName]
  rcases g.components_viewsPath s hfile with h | h
  · rw [h]
    exact (hdir.append ["views"]).append [_]
  · rw [h]
    exact hdir.append ["views.py"]

theorem place_formPath (hmodel : '/' ∉ g.target.modelName.toList) :
    place (join g.root g.formPath) = place (join g.root g.appsDir) ++
      [g.target.appName, "forms", pythonFile g.target.modelName] := by
  rw [place, g.components_formPath hmodel, components_appDir happ hslash]
  simp [follow_append, follow, place]

end

theorem grounded_join {t : FileTree} {root appsDir : String} {names : List String}
    (hroot : Grounded t (components root)) (happs : components appsDir = names.map .name) :
    Grounded t (components (join root appsDir)) := by
  cases habsolute : isAbsolute appsDir with
  | true =>
      rw [join_of_isAbsolute root habsolute, happs]
      exact ⟨[], names, rfl, rfl⟩
  | false =>
      rw [components_join root appsDir habsolute, happs]
      exact hroot.append names

theorem Run.Confined.components_app {r : Run} {appsDir : String} (hr : r.Confined appsDir) :
    components r.command.target.appName = [.name r.command.target.appName] := by
  obtain ⟨input, haccepted⟩ := hr.accepted
  obtain ⟨⟨app, hne, happ⟩, _⟩ := target_of_parse haccepted
  have hempty : r.command.target.appName ≠ "" := by
    rw [happ]
    exact Text.lower_ne_empty hne
  refine components_of_bare hr.app.1 ?_
  rw [stepOf, if_neg (by simp [hempty, hr.app.2.1]), if_neg hr.app.2.2]

structure Run.Confined.Knows (r : Run) (appsDir root : String) (g : Generator) : Prop where
  root : g.root = root
  apps : g.appsDir = appsDir
  target : g.target = r.command.target
  app : components g.target.appName = [.name g.target.appName]
  appSlash : '/' ∉ g.target.appName.toList
  modelSlash : '/' ∉ g.target.modelName.toList
  fileSlash : '/' ∉ (g.viewFile.getD g.target.modelName).toList

theorem Run.Confined.knows {r : Run} {appsDir root : String} {t : FileTree} {g : Generator}
    {files : List GeneratedFile} (hr : r.Confined appsDir)
    (hprepare : r.command.prepare t root r.config = .ok (g, files)) :
    Run.Confined.Knows r appsDir root g := by
  obtain ⟨hroot, htarget, hview, _⟩ := ViewCommand.prepare_parts hprepare
  obtain ⟨_, _, _, _, _, hmade, _⟩ := (ViewCommand.prepare_eq_ok_iff g files).mp hprepare
  obtain ⟨input, haccepted⟩ := hr.accepted
  have hmodel : '/' ∉ r.command.target.modelName.toList :=
    mark_not_mem (target_of_parse haccepted).2 (by decide)
  exact {
    root := hroot
    apps := by rw [hmade, ViewCommand.generatorIn, hr.apps]
    target := htarget
    app := by rw [htarget]; exact hr.components_app
    appSlash := by rw [htarget]; exact hr.app.1
    modelSlash := by rw [htarget]; exact hmodel
    fileSlash := by
      rw [hview, htarget]
      cases hgiven : r.command.viewFile with
      | none => exact hmodel
      | some view => exact hr.view view hgiven }

theorem Run.Confined.place_form {r : Run} {appsDir root : String} {t : FileTree} {g : Generator}
    {files : List GeneratedFile} (hr : r.Confined appsDir)
    (hprepare : r.command.prepare t root r.config = .ok (g, files)) :
    place (join root g.formPath) = place (join root appsDir) ++
      [r.command.target.appName, "forms", pythonFile r.command.target.modelName] := by
  have hknows := hr.knows hprepare
  have hplace := place_formPath hknows.app hknows.appSlash hknows.modelSlash
  rwa [hknows.root, hknows.apps, hknows.target] at hplace

theorem IsViewsModule.ne_form {apps p : Location} (hp : IsViewsModule apps p) (app file : String) :
    apps ++ [app, "forms", file] ≠ p := by
  obtain ⟨app, rfl | ⟨file, rfl⟩⟩ := hp
  · simp
  · simp

/-- The views module of a confined run is grounded, and its form is no views module. -/
theorem Run.Confined.places {r : Run} {appsDir root : String} {t : FileTree} {g : Generator}
    {files : List GeneratedFile} {p : Location} (hr : r.Confined appsDir)
    (hprepare : r.command.prepare t root r.config = .ok (g, files))
    (hg : Grounded t (components (join root appsDir)))
    (hp : IsViewsModule (place (join root appsDir)) p) :
    Grounded t (components (join root (g.viewsPath t))) ∧ place (join root g.formPath) ≠ p := by
  have hknows := hr.knows hprepare
  rw [← hknows.root, ← hknows.apps] at hg
  have hviews := grounded_viewsPath hknows.app hknows.appSlash t hknows.fileSlash hg
  rw [hknows.root] at hviews
  rw [hr.place_form hprepare]
  exact ⟨hviews, hp.ne_form _ _⟩

end Viewsmith.Command
