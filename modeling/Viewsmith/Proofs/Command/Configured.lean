import Viewsmith.Command.Survey
import Viewsmith.Proofs.Command.BuiltinRuns
import Viewsmith.Proofs.Settings.Layers

namespace Viewsmith.Command

open Files (FileTree isAbsolute isFile join)
open Settings (BadFile Config Flags IllTyped InForce Sources chosen_of_layers layersOf)

namespace ViewCommand

def flags (c : ViewCommand) : Flags where
  partialsDir := c.partials
  paginateBy := c.paginate
  slugField := c.slugField
  deleteSuccessUrl := c.deleteSuccessUrl

def unset (c : ViewCommand) : ViewCommand :=
  { c with partials := none, paginate := none, slugField := none, deleteSuccessUrl := none }

theorem inForce_applyTo {layers : List (List (String × Settings.Setting))} {config : Config}
    (c : ViewCommand) (h : InForce {} layers config) : InForce c.flags layers (c.applyTo config) := by
  have hpartials : (c.partials.map some).getD config.partialsDir = c.partials.or config.partialsDir := by
    cases c.partials <;> rfl
  constructor
  · exact h.appsDir
  · rw [applyTo, ← hpartials]
    exact chosen_of_layers _ h.partialsDir
  · exact chosen_of_layers _ h.paginateBy
  · exact chosen_of_layers _ h.slugField
  · exact chosen_of_layers _ h.deleteSuccessUrl

theorem runIn_eq_unset (c : ViewCommand) (color : Bool) (t : FileTree) (root : String)
    (config : Config) :
    c.runIn color t root config = c.unset.runIn color t root (c.applyTo config) := rfl

end ViewCommand

/-- The layers of settings in a project: the environment, the project's file, the user's file. -/
def layersIn (t : FileTree) (sources : Sources) (root : String) :
    List (List (String × Settings.Setting)) :=
  layersOf t sources.environment (configPaths sources root)

/-- Each setting of a run is its flag, or else the first one of the layers, or else the default; the
run fails if a configuration file is bad or a first value has the wrong type, whatever the flags. -/
theorem settings_layered (c : ViewCommand) (color : Bool) (t : FileTree) (sources : Sources)
    (root : String) :
    ((∃ e, Config.load t sources root = .error e) ↔
        (∃ path ∈ configPaths sources root, BadFile t path) ∨ IllTyped (layersIn t sources root)) ∧
      (∀ e, Config.load t sources root = .error e → c.run color t sources root =
        ⟨t, "", some ⟨["Failed to load configuration"], .settings e⟩⟩) ∧
      (∀ config, Config.load t sources root = .ok config → ∃ used,
        InForce c.flags (layersIn t sources root) used ∧
        c.run color t sources root = c.unset.runIn color t root used) ∧
      (isAbsolute root = true → (∀ path ∈ sources.userFile, isFile t path = false) →
        Config.loadFrom t sources (join root Settings.localFile) = Config.load t sources root) := by
  refine ⟨Settings.ofFiles_eq_error_iff t sources.environment (configPaths sources root), ?_, ?_, ?_⟩
  · intro e hload
    rw [ViewCommand.run, hload]
    rfl
  · intro config hload
    have hin := ((Settings.ofFiles_eq_ok_iff t sources.environment (configPaths sources root) config).mp
      hload).2
    refine ⟨c.applyTo config, c.inForce_applyTo hin, ?_⟩
    rw [ViewCommand.run, hload]
    exact c.runIn_eq_unset color t root config
  · intro _ hnone
    cases huser : sources.userFile with
    | none => rw [Config.load, Config.loadFrom, huser]; rfl
    | some path =>
        rw [huser] at hnone
        have habsent : isFile t path = false := hnone path rfl
        rw [Config.load, Config.loadFrom, huser]
        exact (Settings.ofFiles_of_absent t sources.environment habsent _).symm

def configuredProject : FileTree :=
  blogProject
    [ (["user.toml"], .file (.text "slug_field = 'a'\npaginate_by = 'x'\napps_dir = 'b'\n"))
    , (["django-scaffold.toml"], .file (.text "slug_field = 'c'\npaginate_by = 7\n")) ]

def configuredSources : Sources where
  userFile := some "/user.toml"
  environment := [("DJANGO_SCAFFOLD_SLUG_FIELD", "d")]

def pagedPost : ViewCommand := { postViews { list := true } with paginate := some 9 }

theorem settings_layered_post : ∃ used,
    InForce pagedPost.flags (layersIn configuredProject configuredSources "/") used ∧
      used.appsDir = "b" ∧ used.paginateBy = 9 ∧ used.slugField = "d" ∧
      pagedPost.run false configuredProject configuredSources "/" =
        pagedPost.unset.runIn false configuredProject "/" used := by
  have hvalue : (Config.load configuredProject configuredSources "/").toOption =
      some { appsDir := "b", paginateBy := 7, slugField := "d" } := by
    decide +kernel
  obtain ⟨config, hload⟩ : ∃ config, Config.load configuredProject configuredSources "/" = .ok config := by
    cases hload : Config.load configuredProject configuredSources "/" with
    | ok config => exact ⟨config, rfl⟩
    | error e =>
        rw [hload] at hvalue
        cases hvalue
  obtain ⟨used, hused, hrun⟩ :=
    (settings_layered pagedPost false configuredProject configuredSources "/").2.2.1 config hload
  have happs : Settings.chosen none (layersIn configuredProject configuredSources "/") "apps_dir"
      Settings.textOf "server/apps" = some "b" := by
    decide +kernel
  have hslug : Settings.chosen none (layersIn configuredProject configuredSources "/") "slug_field"
      Settings.textOf View.defaultSlugField = some "d" := by
    decide +kernel
  have hpaginate : (9 : UInt32) = used.paginateBy := Option.some.inj hused.paginateBy
  exact ⟨used, hused, Option.some.inj (hused.appsDir.symm.trans happs), hpaginate.symm,
    Option.some.inj (hused.slugField.symm.trans hslug), hrun⟩

end Viewsmith.Command
