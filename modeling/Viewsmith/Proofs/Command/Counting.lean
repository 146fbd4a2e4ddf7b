import Viewsmith.Proofs.Command.SuccessfulRuns
import Viewsmith.Proofs.Scaffold.Changing
import Viewsmith.Proofs.Scaffold.ClassCount
import Viewsmith.Proofs.View.Lines

namespace Viewsmith.Command

open Files Scaffold View
open Settings (Config)

def classCountAt (model : String) (k : Kind) (t : FileTree) (l : Location) : Nat :=
  match t.get? l with
  | some (.file (.text text)) => classCount model k text
  | some (.file (.bytes b)) =>
      Text.occurrences (classOpening (viewClassName model k.className)).toUTF8.toList b
  | _ => 0

section

variable {model : String} {k : Kind} {t u : FileTree} {l : Location}

theorem classCountAt_of_none (h : t.get? l = none) : classCountAt model k t l = 0 := by
  rw [classCountAt, h]

theorem classCountAt_of_text {text : String} (h : t.get? l = some (.file (.text text))) :
    classCountAt model k t l = classCount model k text := by
  rw [classCountAt, h]

theorem classCountAt_of_spared (h : Spared t u l) :
    classCountAt model k u l = classCountAt model k t l := by
  rcases h with hsame | ⟨hnone, hnew⟩
  · rw [classCountAt, classCountAt, hsame]
  · rw [classCountAt_of_none hnone, classCountAt, hnew]

theorem mem_missingKinds_iff {o : Options} {text : String} :
    k ∈ missingKinds model o text ↔ o.has k = true ∧ classCount model k text = 0 := by
  have hne : classOpening (viewClassName model k.className) ≠ "" := by
    intro h
    exact toList_classOpening_ne_nil model k.className (String.toList_eq_nil_iff.mpr h)
  rw [missingKinds, List.mem_filter, Options.mem_enabled, Bool.not_eq_true',
    Text.contains_eq_false_iff hne, classCount]

theorem nodup_enabled (o : Options) : o.enabled.Nodup :=
  (show Kind.all.Nodup by decide).filter _

end

theorem capital_not_mem_lower (s : String) : 'V' ∉ (Text.lower s).toList := by
  intro h
  rcases Text.mem_lower h with hlow | ⟨_, hcapital⟩
  · exact absurd hlow (by decide)
  · exact hcapital (by decide)

theorem harmless_contextIn {c : ViewCommand} {t : FileTree} {root : String} {config : Config}
    {input : String} (htarget : Target.parse input = .ok c.target)
    (hslug : Text.contains (c.applyTo config).slugField "class " = false)
    (hurl : Text.contains (c.applyTo config).deleteSuccessUrl "class " = false) :
    Harmless (c.contextIn t root config) := by
  obtain ⟨⟨app, _, happ⟩, hmodel⟩ := target_of_parse htarget
  have hcapital : 'V' ∉ c.target.appName.toList := by
    rw [happ]
    exact capital_not_mem_lower app
  have himports : '(' ∉ c.options.viewImports.toList :=
    View.not_mem_viewImports (by decide) (fun k => by cases k <;> decide) c.options
  refine ⟨hcapital, hmodel, himports, hslug, ?_⟩
  simp only [ViewCommand.contextIn, Scaffold.deleteSuccessUrl]
  split
  · right
    have hmodel := capital_not_mem_lower c.target.modelName
    simp [String.toList_append, urlName, hcapital, hmodel, Kind.urlSuffix]
  · exact .inl hurl

section

variable {g : Generator} (hr : Renderer.ofRegistry Registry.builtin = .ok g.renderer)
  (hc : Harmless g.context) (htarget : g.context.modelName = g.target.modelName)
  {model : String} (hmodel : isClassName model = true) (k : Kind)

include hr hc htarget hmodel

theorem classCount_appendSections (old : String) {ls : List Kind} (hnodup : ls.Nodup) :
    classCount model k (appendSections old (ls.map g.sectionOf)) =
      classCount model k old + if g.target.modelName = model ∧ k ∈ ls then 1 else 0 := by
  have hbody : g.body = classText g.context := funext fun l => Generator.body_builtin hr l
  rw [appendSections_eq, hbody, hc.classCount_extended hmodel k hnodup, htarget]

/-- Writing the views module of a generator adds the classes that it selects and that are not there,
once each. -/
theorem classCountAt_writeTo {f : GeneratedFile} {header : String}
    (hmerge : f.merge = some ⟨header, g.context.options.enabled.map g.sectionOf⟩)
    (hcontent : f.content = headerText g.context ++
      String.join (g.context.options.enabled.map (classText g.context)))
    {t u : FileTree} {root : String} {force : Bool} {o : Outcome} {steps : List Component}
    {n : String} (hp : NamesFile (join root f.path) steps n) (hwell : WellFormed t)
    (hg : Grounded t (components (join root f.path)))
    (h : f.writeTo t root force = (u, .ok o)) :
    classCountAt model k u (place (join root f.path)) =
      classCountAt model k t (place (join root f.path)) +
        if g.target.modelName = model ∧ g.context.options.has k = true ∧
          classCountAt model k t (place (join root f.path)) = 0 then 1 else 0 := by
  rcases GeneratedFile.writeTo_merge_ok hp hmerge h with ⟨habsent, hw, rfl, _⟩ | ⟨old, hread, hu, _⟩
  · have hnone := hwell.get?_place_eq_none hp hg hw habsent
    have hnew : (written t (join root f.path) f.content).get? (place (join root f.path)) =
        some (.file (.text f.content)) := by
      rw [get?_written hp, if_pos rfl]
    rw [classCountAt_of_none hnone, classCountAt_of_text hnew, hcontent,
      hc.classCount_module hmodel k (nodup_enabled _), htarget]
    simp only [Options.mem_enabled, and_true, Nat.zero_add]
  · have hold := ((readText_eq_ok_iff hp old).mp hread).2
    have hmissing := missingIn_sections g header old g.context.options
    have hnodup : (missingKinds g.target.modelName g.context.options old).Nodup :=
      (nodup_enabled _).filter _
    have happend := classCount_appendSections hr hc htarget hmodel k old hnodup
    simp only [hmissing, List.map_eq_nil_iff] at hu
    have hcount : classCountAt model k u (place (join root f.path)) = classCount model k old +
        if g.target.modelName = model ∧
          k ∈ missingKinds g.target.modelName g.context.options old then 1 else 0 := by
      by_cases hnil : missingKinds g.target.modelName g.context.options old = []
      · rw [hu, if_pos hnil, classCountAt_of_text hold, hnil]
        simp
      · rw [hu, if_neg hnil, ← happend]
        exact classCountAt_of_text (FileTree.get?_put_self t _ hp.place_ne_nil)
    rw [hcount, classCountAt_of_text hold]
    by_cases hsame : g.target.modelName = model
    · simp only [hsame, mem_missingKinds_iff, true_and]
    · simp only [hsame, false_and]

end

end Viewsmith.Command
