import Viewsmith.Proofs.Command.BuiltinRuns
import Viewsmith.Proofs.Command.Reach

namespace Viewsmith.Files

/-- The steps never lead above the place that is `depth` names above their start. -/
def staysBelow : Nat → List Component → Bool
  | _, [] => true
  | depth, .name _ :: rest => staysBelow (depth + 1) rest
  | 0, .up :: _ => false
  | depth + 1, .up :: rest => staysBelow depth rest

theorem staysBelow_append {depth : Nat} {a b : List Component}
    (h : staysBelow depth (a ++ b) = true) : staysBelow depth a = true := by
  induction a generalizing depth with
  | nil => exact rfl
  | cons c a ih =>
      cases c with
      | name n =>
          rw [List.cons_append, staysBelow] at h
          rw [staysBelow]
          exact ih h
      | up =>
          cases depth with
          | zero => cases h
          | succ depth =>
              rw [List.cons_append, staysBelow] at h
              rw [staysBelow]
              exact ih h

theorem staysBelow_append_names {depth : Nat} {a : List Component}
    (h : staysBelow depth a = true) (names : List String) :
    staysBelow depth (a ++ names.map .name) = true := by
  induction a generalizing depth with
  | nil =>
      induction names generalizing depth with
      | nil => exact rfl
      | cons n names ih =>
          rw [List.nil_append, List.map_cons, staysBelow]
          exact ih rfl
  | cons c a ih =>
      cases c with
      | name n =>
          rw [staysBelow] at h
          rw [List.cons_append, staysBelow]
          exact ih h
      | up =>
          cases depth with
          | zero => cases h
          | succ depth =>
              rw [staysBelow] at h
              rw [List.cons_append, staysBelow]
              exact ih h

/-- By induction on the steps: what has been gone down so far is what may be gone up again. -/
theorem prefix_follow {top below : Location} {steps : List Component}
    (h : staysBelow below.length steps = true) : top <+: follow (top ++ below) steps := by
  induction steps generalizing below with
  | nil => exact List.prefix_append top below
  | cons c steps ih =>
      cases c with
      | name n =>
          rw [follow, List.append_assoc]
          exact ih (by rw [List.length_append]; exact h)
      | up =>
          rcases List.eq_nil_or_concat below with rfl | ⟨above, n, rfl⟩
          · cases h
          · rw [List.concat_eq_append, List.length_append] at h
            rw [follow, List.concat_eq_append, ← List.append_assoc, List.dropLast_concat]
            exact ih h

end Viewsmith.Files

namespace Viewsmith.Command

open Files Scaffold View
open Settings (Config)

section

variable {t : FileTree} {root path : String}

/-- Outside of a root that is there, all places are clear for a path that stays below it. -/
theorem clear_of_staysBelow {steps : List Component} (hwell : WellFormed t)
    (hroot : walk t [] (components root) = .ok (place root))
    (hpath : components (join root path) = components root ++ steps)
    (hbelow : staysBelow 0 steps = true) {l : Location} (hl : ¬ place root <+: l) :
    Clear t (join root path) l := by
  have hfollow {part : List Component} (hpart : staysBelow 0 part = true) :
      place root <+: follow (place root) part := by
    have hprefix : place root <+: follow (place root ++ []) part := prefix_follow hpart
    rw [List.append_nil] at hprefix
    exact hprefix
  refine ⟨?_, ?_⟩
  · rintro rfl
    refine hl ?_
    rw [place.eq_1 (join root path), hpath, follow_append]
    exact hfollow hbelow
  · rintro ⟨above, rest, hcut, _, rfl⟩
    rw [hpath] at hcut
    rcases List.append_eq_append_iff.mp hcut with ⟨more, rfl, rfl⟩ | ⟨more, hsplit, _⟩
    · rw [follow_append] at hl
      exact absurd (hfollow (staysBelow_append hbelow)) hl
    · rw [hsplit] at hroot
      exact hwell.get?_of_walk (walk_of_append hroot)

end

def appSteps (appsDir app : String) : List Component := components appsDir ++ components app

/-- The names of a run keep it below the root: neither its app nor, if the app has a views package,
its views file is an absolute path or leads above the root. -/
structure KeepsBelow (c : ViewCommand) (t : FileTree) (root appsDir : String) : Prop where
  appRelative : isAbsolute c.target.appName = false
  appBelow : staysBelow 0 (appSteps appsDir c.target.appName) = true
  file : isDirectory t (packagePath root appsDir c.target.appName) = true →
    isAbsolute (pythonFile (c.viewFile.getD c.target.modelName)) = false ∧
      staysBelow 0 (appSteps appsDir c.target.appName ++ .name "views" ::
        components (pythonFile (c.viewFile.getD c.target.modelName))) = true

section

variable {c : ViewCommand} {color : Bool} {t : FileTree} {root : String} {config : Config}

theorem KeepsBelow.exists_steps {g : Generator} {files : List GeneratedFile}
    (h : KeepsBelow c t root config.appsDir) (hmodel : '/' ∉ c.target.modelName.toList)
    (happs : isAbsolute config.appsDir = false)
    (hprepare : c.prepare t root config = .ok (g, files)) {f : GeneratedFile} (hf : f ∈ files) :
    ∃ steps, components (join root f.path) = components root ++ steps ∧
      staysBelow 0 steps = true := by
  obtain ⟨hroot, htarget, hview, _⟩ := ViewCommand.prepare_parts hprepare
  obtain ⟨_, _, _, _, _, hmade, _⟩ := (ViewCommand.prepare_eq_ok_iff g _).mp hprepare
  have happsDir : g.appsDir = config.appsDir := by rw [hmade, ViewCommand.generatorIn]
  have hdir : components (join root g.appDir) =
      components root ++ appSteps config.appsDir c.target.appName := by
    rw [Generator.appDir, happsDir, htarget, components_join_join _ _ _ h.appRelative,
      components_join _ _ happs, appSteps, List.append_assoc]
  rcases ViewCommand.path_of_mem_files hprepare hf with hviews | hform
  · rw [hviews, Generator.viewsPath, hview, htarget]
    split
    · rename_i hthere
      have hpackage : isDirectory t (packagePath root config.appsDir c.target.appName) = true := by
        rw [Generator.appDir, hroot, happsDir, htarget] at hthere
        exact hthere
      obtain ⟨hrelative, hbelow⟩ := h.file hpackage
      refine ⟨_, ?_, hbelow⟩
      rw [components_join_join _ _ _ hrelative, components_join_join _ _ _ rfl, hdir,
        components_views, List.append_assoc, List.append_assoc, List.singleton_append]
    · refine ⟨_, ?_, staysBelow_append_names h.appBelow ["views.py"]⟩
      rw [components_join_join _ _ _ rfl, hdir, components_viewsFile, List.append_assoc,
        List.map_singleton]
  · refine ⟨_, ?_, staysBelow_append_names h.appBelow ["forms", pythonFile c.target.modelName]⟩
    have hpath := g.components_formPath (by rw [htarget]; exact hmodel)
    rw [hroot, hdir, htarget] at hpath
    rw [hform, hpath, List.append_assoc, List.append_assoc, List.singleton_append, List.map_cons,
      List.map_singleton]

end

/-- A run changes nothing outside of a root that is there, whether it succeeds or fails, if the
directory of the apps is relative and the names of the app and of the views file keep it below. -/
theorem run_stays_below_root (c : ViewCommand) (color : Bool) {t : FileTree} {root input : String}
    {config : Config} (hwell : WellFormed t)
    (hroot : walk t [] (components root) = .ok (place root))
    (htarget : Target.parse input = .ok c.target) (happs : isAbsolute config.appsDir = false)
    (hkeeps : KeepsBelow c t root config.appsDir) (l : Location) (hl : ¬ place root <+: l) :
    (c.runIn color t root config).tree.get? l = t.get? l := by
  have hmodel : '/' ∉ c.target.modelName.toList := mark_not_mem (target_of_parse htarget).2 (by decide)
  refine Run.get?_eq (r := ⟨c, config, color⟩) fun g files hprepare f hf => ?_
  obtain ⟨steps, hpath, hbelow⟩ := hkeeps.exists_steps hmodel happs hprepare hf
  exact clear_of_staysBelow hwell hroot hpath hbelow hl

def listViews (app : String) : ViewCommand where
  target := ⟨app, "Post"⟩
  options := { list := true }

def homeProject : FileTree :=
  ⟨[(["home"], .directory), (["home", "project"], .directory)]⟩

theorem wellFormed_homeProject : WellFormed homeProject := wellFormed_of_entries (by decide +kernel)

theorem run_stays_below_root_beside :
    walk homeProject [] (components "/home/project") = .ok (place "/home/project") ∧
      Target.parse "../blog:Post" = .ok (listViews "../blog").target ∧
      KeepsBelow (listViews "../blog") homeProject "/home/project" "server/apps" ∧
      ¬ place "/home/project" <+: ["home", "blog"] ∧
      ((listViews "../blog").runIn false homeProject "/home/project" {}).tree.get? ["home", "blog"] =
        homeProject.get? ["home", "blog"] := by
  have hroot : walk homeProject [] (components "/home/project") = .ok (place "/home/project") := by
    decide +kernel
  have htarget : Target.parse "../blog:Post" = .ok (listViews "../blog").target := by
    decide +kernel
  have hkeeps : KeepsBelow (listViews "../blog") homeProject "/home/project" "server/apps" := {
    appRelative := by decide +kernel
    appBelow := by decide +kernel
    file := by decide +kernel }
  have hl : ¬ place "/home/project" <+: ["home", "blog"] := by decide +kernel
  exact ⟨hroot, htarget, hkeeps, hl, run_stays_below_root _ false wellFormed_homeProject hroot htarget
    (by decide +kernel) hkeeps _ hl⟩

theorem get?_writeFiles_new (color force : Bool) {root : String} {views : GeneratedFile}
    {w : Writing} {steps : List Component} {n : String} (hp : NamesFile (join root views.path) steps n)
    (habsent : pathExists w.tree (join root views.path) = false)
    (hw : Writable w.tree (join root views.path)) :
    (writeFiles color root force [views] w).1.tree.get? (place (join root views.path)) =
      some (.file (.text views.content)) := by
  have hwrite := GeneratedFile.writeTo_of_absent force habsent
  rw [writeWhole_of_writable views hp false hw] at hwrite
  rw [writeFiles_cons_of_ok hwrite]
  exact FileTree.get?_put_self _ _ hp.place_ne_nil

theorem namesFile_above : NamesFile "/home/project/server/apps/../../../views.py"
    [.name "home", .name "project", .name "server", .name "apps", .up, .up, .up] "views.py" :=
  ⟨by decide +kernel, by decide +kernel⟩

theorem viewsPath_of_no_package (c : ViewCommand) (t : FileTree) (root : String) (config : Config)
    (r : Renderer) (h : isDirectory t (packagePath root config.appsDir c.target.appName) = false) :
    (c.generatorIn t root config r).viewsPath t =
      join (join config.appsDir c.target.appName) "views.py" := by
  have hnone : ¬ isDirectory t (join (join (c.generatorIn t root config r).root
      (c.generatorIn t root config r).appDir) "views") = true := ne_true_of_eq_false h
  rw [Generator.viewsPath, if_neg hnone]
  rfl

theorem exists_prepare_above : ∃ g views,
    (listViews "../../..").prepare homeProject "/home/project" {} = .ok (g, [views]) ∧
      join "/home/project" views.path = "/home/project/server/apps/../../../views.py" := by
  obtain ⟨r, hr⟩ := Renderer.exists_ofRegistry_builtin
  have hprepare := prepare_builtin (listViews "../../..") homeProject "/home/project" {} hr
    (by decide) rfl
  obtain ⟨_, _, _, _, _, views, others, _, hfiles, hpath, _, _, hothers⟩ :=
    ViewCommand.prepare_parts hprepare
  rw [hfiles] at hprepare
  obtain ⟨_, rfl⟩ | ⟨hneeds, _⟩ := hothers
  · refine ⟨_, views, hprepare, ?_⟩
    rw [hpath, viewsPath_of_no_package _ _ _ _ r (by decide +kernel)]
    decide +kernel
  · cases hneeds

/-- Three steps back from the directory of the apps lead above the root, though the target is
accepted and that directory is a plain one below the root. -/
theorem run_writes_above_root :
    WellFormed homeProject ∧
      walk homeProject [] (components "/home/project") = .ok (place "/home/project") ∧
      IsPlain ({} : Config).appsDir ∧
      Target.parse "../../..:Post" = .ok (listViews "../../..").target ∧
      ¬ place "/home/project" <+: ["home", "views.py"] ∧
      homeProject.get? ["home", "views.py"] = none ∧
      ((listViews "../../..").runIn false homeProject "/home/project" {}).tree.get?
        ["home", "views.py"] ≠ none := by
  refine ⟨wellFormed_homeProject, by decide +kernel, ⟨by decide +kernel, by decide +kernel⟩,
    by decide +kernel, by decide +kernel, by decide +kernel, ?_⟩
  obtain ⟨g, views, hprepare, hviews⟩ := exists_prepare_above
  have habsent : pathExists homeProject "/home/project/server/apps/../../../views.py" = false := by
    decide +kernel
  have hdir : Creatable homeProject (dirOf "/home/project/server/apps/../../../views.py") := by
    refine .inr ⟨by decide +kernel, ?_⟩
    rw [namesFile_above.components_dirOf]
    decide
  have hwritable : Writable homeProject "/home/project/server/apps/../../../views.py" := {
    valid := by decide +kernel
    short := (short_iff namesFile_above).mpr (by decide)
    dir := hdir
    free := by decide +kernel
    apart := by decide +kernel }
  have hplace : place "/home/project/server/apps/../../../views.py" = ["home", "views.py"] := by
    decide +kernel
  have hcheck : checkConflicts homeProject "/home/project" false [views] = .ok () := by
    rw [checkConflicts_eq_ok_iff, List.forall_mem_singleton, Admissible, hviews, habsent]
    exact fun hthere => absurd hthere Bool.false_ne_true
  have hget := get?_writeFiles_new false false
    (w := (listViews "../../..").start false homeProject) (hviews ▸ namesFile_above)
    (hviews ▸ habsent) (hviews ▸ hwritable)
  rw [hviews, hplace] at hget
  rw [ViewCommand.runIn_of_prepare false hprepare rfl hcheck, ViewCommand.finish_tree]
  exact ne_of_eq_of_ne hget (Option.some_ne_none _)

end Viewsmith.Command
