import Viewsmith.Proofs.Command.Sequences
import Viewsmith.Proofs.Scaffold.Conflicts

namespace Viewsmith.Scaffold

open Files

/-- A place that is left alone when the file of a path is written: it is another one, and no
directory is missing there on the way. -/
structure Clear (t : FileTree) (path : String) (l : Location) : Prop where
  other : l ≠ place path
  there : IsAbove path l → t.get? l = some .directory

theorem Clear.mono {t u : FileTree} {path : String} {l : Location} (h : Clear t path l)
    (hstay : ∀ l, t.get? l = some .directory → u.get? l = some .directory) : Clear u path l :=
  ⟨h.other, fun habove => hstay l (h.there habove)⟩

/-- Clear are all places that do not begin the names of a path behind grounded steps. -/
theorem clear_of_not_prefix {t : FileTree} {path : String} {base : List Component}
    {names : List String} {l : Location} (hwell : WellFormed t) (hg : Grounded t base)
    (hpath : components path = base ++ names.map .name)
    (hl : l <+: follow [] base ++ names → l ≠ follow [] base ++ names ∧ t.get? l = some .directory) :
    Clear t path l := by
  have hplace : place path = follow [] base ++ names := by
    rw [place, hpath, follow_append, follow_names]
  refine ⟨?_, fun habove => ?_⟩
  · rintro rfl
    rw [hplace] at hl
    exact (hl List.prefix_rfl).1 rfl
  · rcases hwell.isAbove_cases hg hpath habove with hdir | ⟨hbegins, _⟩
    · exact hdir
    · exact (hl hbegins).2

end Viewsmith.Scaffold

namespace Viewsmith.Command

open Files Scaffold View
open Settings (Config)

theorem writeFiles_get?_eq {root : String} {files : List GeneratedFile} {w : Writing} {l : Location}
    (color force : Bool) (hnames : ∀ f ∈ files, ∃ steps n, NamesFile (join root f.path) steps n)
    (hclear : ∀ f ∈ files, Clear w.tree (join root f.path) l) :
    (writeFiles color root force files w).1.tree.get? l = w.tree.get? l := by
  -- Directories stay, so a place that was clear at first is clear for every later file.
  refine (writeFiles_invariant (fun u => Keeps w.tree u ∧ u.get? l = w.tree.get? l) color
    (fun f hf t h => ?_) ⟨Keeps.refl w.tree, rfl⟩).2
  obtain ⟨hkeeps, hsame⟩ := h
  obtain ⟨steps, n, hp⟩ := hnames f hf
  have hplace := (hclear f hf).mono hkeeps.directory
  have hchange := f.writeTo_changedFor t force hp.components_eq
  exact ⟨hkeeps.trans (GeneratedFile.writeTo_changedAt t root force hp).toKeeps,
    (hchange.get?_eq hplace.other hplace.there).trans hsame⟩

/-- A run leaves alone the places that are clear for all its files. -/
theorem Run.get?_eq {r : Run} {root : String} {t : FileTree} {l : Location}
    (hclear : ∀ g files, r.command.prepare t root r.config = .ok (g, files) →
      ∀ f ∈ files, Clear t (join root f.path) l) :
    (r.report root t).tree.get? l = t.get? l := by
  rcases r.tree_cases root t with hsame | ⟨g, files, hprepare, hnames, htree⟩
  · rw [hsame]
  · rw [htree]
    exact writeFiles_get?_eq (w := r.command.start r.color t) r.color r.command.force hnames
      (hclear g files hprepare)

theorem Run.spared {r : Run} {root : String} {t : FileTree} {l : Location}
    (hother : ∀ g files, r.command.prepare t root r.config = .ok (g, files) →
      ∀ f ∈ files, place (join root f.path) ≠ l) :
    Spared t (r.report root t).tree l := by
  rcases r.tree_cases root t with hsame | ⟨g, files, hprepare, hnames, htree⟩
  · rw [hsame]
    exact Spared.refl t l
  · rw [htree]
    exact writeFiles_spared hnames r.color r.command.force (hother g files hprepare)
      (r.command.start r.color t)

theorem components_views : components "views" = [.name "views"] := by rfl

theorem components_viewsFile : components "views.py" = [.name "views.py"] := by rfl

theorem components_urlsFile : components "urls.py" = [.name "urls.py"] := by rfl

def packagePath (root appsDir app : String) : String :=
  join (join root (join appsDir app)) "views"

/-- To make its files a run looks at three things: the partials, whether the list view is registered,
and whether the app has a views package. -/
theorem prepare_congr {c : ViewCommand} {t u : FileTree} {root : String} {config : Config}
    (hpartials : registryWith u root ((c.applyTo config).partialsPath? root) =
      registryWith t root ((c.applyTo config).partialsPath? root))
    (hlist : isListRegistered u (join root config.appsDir) c.target =
      isListRegistered t (join root config.appsDir) c.target)
    (hpackage : isDirectory u (packagePath root config.appsDir c.target.appName) =
      isDirectory t (packagePath root config.appsDir c.target.appName)) :
    c.prepare u root config = c.prepare t root config := by
  have hcreate : Generator.create u c.target c.options (c.applyTo config) root =
      Generator.create t c.target c.options (c.applyTo config) root := by
    have happs : (c.applyTo config).appsDir = config.appsDir := rfl
    simp only [Generator.create, hpartials, deleteSuccessUrl, happs, hlist]
  have hgenerate {g : Generator} (hroot : g.root = root) (happs : g.appsDir = config.appsDir)
      (htarget : g.target = c.target) : g.generate u = g.generate t := by
    have hpath : g.viewsPath u = g.viewsPath t := by
      rw [packagePath] at hpackage
      rw [Generator.viewsPath, Generator.viewsPath, Generator.appDir, hroot, happs, htarget, hpackage]
    simp only [Generator.generate, Generator.viewsFile, hpath]
  rw [ViewCommand.prepare, ViewCommand.prepare, hcreate]
  refine bind_congr_of_ok fun g hmade => ?_
  rw [within_eq_ok_iff, Generator.create_eq_ok_iff] at hmade
  obtain ⟨_, _, _, _, _, hg⟩ := hmade
  have hsame := hgenerate (g := { g with viewFile := c.viewFile.or g.viewFile }) (by rw [hg])
    (by rw [hg]; rfl) (by rw [hg])
  dsimp only
  rw [hsame]

section

variable {root appsDir : String} {t : FileTree} {r : Run} (hr : r.Confined appsDir)

include hr

theorem Run.Confined.components_urlsPath (root : String) :
    components (join (join (join root appsDir) r.command.target.appName) "urls.py") =
      components (join root appsDir) ++ [r.command.target.appName, "urls.py"].map .name := by
  rw [components_join _ _ rfl, components_join _ _ (not_isAbsolute_of_bare hr.app.1),
    hr.components_app]
  simp [components_urlsFile]

theorem Run.Confined.components_packagePath (root : String) :
    components (packagePath root appsDir r.command.target.appName) =
      components (join root appsDir) ++ [r.command.target.appName, "views"].map .name := by
  rw [packagePath, components_join _ _ rfl,
    components_join_join _ _ _ (not_isAbsolute_of_bare hr.app.1), hr.components_app]
  simp [components_views]

theorem Run.Confined.get?_package
    (h : isDirectory t (packagePath root appsDir r.command.target.appName) = true) :
    t.get? (place (join root appsDir) ++ [r.command.target.appName, "views"]) = some .directory := by
  obtain ⟨l, hl⟩ := (isDirectory_iff t _).mp h
  have hc := hr.components_packagePath root
  have hlast : components (packagePath root appsDir r.command.target.appName) =
      components (join root appsDir) ++ [.name r.command.target.appName] ++ [.name "views"] := by
    rw [hc]
    simp
  obtain ⟨_, _, hget, _⟩ := (find_eq_ok_iff_of_components hlast l _).mp hl
  rw [place, hc, follow_append, follow_names] at hget
  exact hget

/-- The views module of a confined run stands beside the views package, or in it if it is there. -/
theorem Run.Confined.components_viewsPath {g : Generator} {files : List GeneratedFile}
    (hprepare : r.command.prepare t root r.config = .ok (g, files)) :
    ∃ rest, components (join root (g.viewsPath t)) =
        components (join root appsDir) ++ (r.command.target.appName :: rest).map .name ∧
      (rest = ["views.py"] ∨ (∃ file, rest = ["views", file]) ∧
        isDirectory t (packagePath root appsDir r.command.target.appName) = true) := by
  have hknows := hr.knows hprepare
  have hdir := components_appDir hknows.app hknows.appSlash
  rw [hknows.root, hknows.apps, hknows.target] at hdir
  by_cases hthere : isDirectory t (join (join g.root g.appDir) "views") = true
  · have hslash : '/' ∉ "views".toList := by decide
    have hpath := g.components_below hslash rfl (slash_not_mem_pythonFile hknows.fileSlash)
      (pythonFile_suffix _)
    rw [hknows.root, hdir] at hpath
    refine ⟨["views", pythonFile (g.viewFile.getD g.target.modelName)], ?_, .inr ⟨⟨_, rfl⟩, ?_⟩⟩
    · rw [Generator.viewsPath, if_pos hthere, hpath]
      simp
    · rw [Generator.appDir, hknows.root, hknows.apps, hknows.target] at hthere
      exact hthere
  · refine ⟨["views.py"], ?_, .inl rfl⟩
    rw [Generator.viewsPath, if_neg hthere, components_join_join _ _ _ rfl, hdir,
      components_viewsFile]
    simp

theorem Run.Confined.components_path {g : Generator} {files : List GeneratedFile}
    (hprepare : r.command.prepare t root r.config = .ok (g, files)) {f : GeneratedFile}
    (hf : f ∈ files) :
    ∃ rest, components (join root f.path) =
        components (join root appsDir) ++ (r.command.target.appName :: rest).map .name ∧
      ((rest = ["views.py"] ∨ (∃ file, rest = ["views", file]) ∧
          isDirectory t (packagePath root appsDir r.command.target.appName) = true) ∨
        ∃ file, rest = ["forms", file]) := by
  have hknows := hr.knows hprepare
  rcases ViewCommand.path_of_mem_files hprepare hf with hviews | hform
  · obtain ⟨rest, hpath, hrest⟩ := hr.components_viewsPath hprepare
    exact ⟨rest, hviews ▸ hpath, .inl hrest⟩
  · have hpath := g.components_formPath hknows.modelSlash
    rw [components_appDir hknows.app hknows.appSlash, hknows.root, hknows.apps, hknows.target] at hpath
    refine ⟨["forms", pythonFile r.command.target.modelName], ?_, .inr ⟨_, rfl⟩⟩
    rw [hform, hpath]
    simp

theorem Run.Confined.isViewsModule {g : Generator} {files : List GeneratedFile}
    (hprepare : r.command.prepare t root r.config = .ok (g, files)) :
    IsViewsModule (place (join root appsDir)) (place (join root (g.viewsPath t))) := by
  obtain ⟨rest, hpath, hrest⟩ := hr.components_viewsPath hprepare
  refine ⟨r.command.target.appName, ?_⟩
  rw [place, hpath, follow_append, follow_names]
  rcases hrest with rfl | ⟨⟨file, rfl⟩, _⟩
  · exact .inl rfl
  · exact .inr ⟨file, rfl⟩

/-- No confined run makes or removes the views package of any app. -/
theorem Run.Confined.get?_report_package (hwell : WellFormed t)
    (hg : Grounded t (components (join root appsDir))) (app : String) :
    (r.report root t).tree.get? (place (join root appsDir) ++ [app, "views"]) =
      t.get? (place (join root appsDir) ++ [app, "views"]) := by
  refine Run.get?_eq fun g files hprepare f hf => ?_
  obtain ⟨rest, hpath, hrest⟩ := hr.components_path hprepare hf
  refine clear_of_not_prefix hwell hg hpath fun hbegins => ?_
  rw [place, List.prefix_append_right_inj, List.cons_prefix_cons] at hbegins
  obtain ⟨rfl, hbegins⟩ := hbegins
  rcases hrest with (rfl | ⟨⟨file, rfl⟩, hthere⟩) | ⟨file, rfl⟩
  · simp at hbegins
  · exact ⟨by simp [place], hr.get?_package hthere⟩
  · simp at hbegins

end

end Viewsmith.Command
