import Mathlib.Data.List.Forall2
import Viewsmith.Proofs.Command.BuiltinRuns
import Viewsmith.Proofs.Scaffold.Overrides
import Viewsmith.Proofs.View.Lines

namespace Viewsmith.Scaffold

open Files View
open Settings (Config)
open Text (IsLine behind)

def lastPiece (text : String) (sep : Char) : String :=
  ((Text.splitOn text sep).getLast?).getD ""

theorem lastPiece_of_not_mem {text : String} {sep : Char} (h : sep ∉ text.toList) :
    lastPiece text sep = text := by
  rw [lastPiece, Text.splitOn, Text.pieces_of_not_mem h]
  simp

theorem lastPiece_append_cons {a b : List Char} {sep : Char} (h : sep ∉ b) :
    lastPiece (String.ofList (a ++ sep :: b)) sep = String.ofList b := by
  rw [lastPiece, Text.splitOn, String.toList_ofList, Text.pieces_append_cons, Text.pieces_of_not_mem h]
  simp

theorem lastPiece_join (dir : String) {name : String} (h : '/' ∉ name.toList) :
    lastPiece (join dir name) '/' = name := by
  have hbehind (a : List Char) : lastPiece (String.ofList (a ++ '/' :: name.toList)) '/' = name := by
    rw [lastPiece_append_cons h, String.ofList_toList]
  rw [join, not_isAbsolute_of_bare h, if_neg Bool.false_ne_true]
  split
  · rename_i hdir
    rcases Bool.or_eq_true_iff.mp hdir with hempty | hslash
    · rw [String.isEmpty_iff.mp hempty, String.empty_append, lastPiece_of_not_mem h]
    · obtain ⟨a, ha⟩ := (endsInSlash_iff dir).mp hslash
      have hpath : dir ++ name = String.ofList (a ++ '/' :: name.toList) := by
        rw [← String.toList_inj, String.toList_append, ha, String.toList_ofList, List.append_assoc,
          List.singleton_append]
      rw [hpath, hbehind]
  · have hpath : dir ++ "/" ++ name = String.ofList (dir.toList ++ '/' :: name.toList) := by
      rw [← String.toList_inj]
      simp
    rw [hpath, hbehind]

def formClass (model : String) : String := model ++ "Form"

def formsImport (app : String) : String := "from apps." ++ (app ++ ".forms.")

def Generator.builtinMerge (g : Generator) : Merge :=
  ⟨headerText g.context, g.context.options.enabled.map g.sectionOf⟩

/-- A section defines the class that a URL pattern names, with the base class of its kind. It uses no
form class but that of the model, and a delete view leads to the list view if there is one. -/
structure SectionAgrees (g : Generator) (r : Route) (s : ViewSection) : Prop where
  name : s.className = r.viewClass
  opens : ∃ rest, s.body = textOfLines ["", "", openingLine r.viewClass r.kind.className] ++ rest
  form : r.kind.usesForm = true →
    behind "    form_class = " s.body = [formClass g.target.modelName]
  returns : r.kind = .delete → g.context.options.list = true → ∃ list ∈ g.routes, list.kind = .list ∧
    behind "        return " s.body = ["reverse('" ++ g.target.appName ++ ":" ++ list.name ++ "')"]

/-- A form file defines the one class that the header imports from the forms of the app, and is named
like the module it is imported from. -/
structure FormAgrees (g : Generator) (m : Merge) (f : GeneratedFile) : Prop where
  imported : ∃ stem, '.' ∉ stem.toList ∧ lastPiece f.path '/' = stem ++ ".py" ∧
    behind (formsImport g.target.appName) m.header =
      [stem ++ (" import " ++ formClass g.target.modelName)]
  defined : openingLine (formClass g.target.modelName) "forms.ModelForm" ∈ Text.lines f.content

/-- The parts of a views module, the URL patterns and the form file go together. -/
structure PartsAgree (g : Generator) (o : Options) (m : Merge) (others : List GeneratedFile) :
    Prop where
  kinds : g.routes.map (·.kind) = o.enabled
  header : m.header = textOfLines ("# -*- coding: utf-8 -*-" :: m.importLines)
  bases : behind "from django.views.generic import " m.header =
    [Text.join ", " (g.routes.map (·.kind.className))]
  sections : List.Forall₂ (SectionAgrees g) g.routes m.sections
  written : others ≠ [] ↔ o.create = true ∨ o.update = true
  imported : behind (formsImport g.target.appName) m.header ≠ [] ↔ o.create = true ∨ o.update = true
  forms : ∀ f ∈ others, FormAgrees g m f

theorem needsForm_iff (o : Options) : o.needsForm = true ↔ o.create = true ∨ o.update = true := by
  simp [Options.needsForm, Options.enabled, Kind.all, Kind.usesForm, Options.has]

section

variable {g : Generator} {t : FileTree} {o : Options} {config : Config} {root : String}
  (hcontext : g.context = Generator.contextFor t g.target o config root)

include hcontext

theorem routes_eq : g.routes = o.enabled.map (routeFor g.target.modelName config.slugField) := by
  rw [Generator.routes, hcontext]
  rfl

theorem deleteSuccessUrl_of_list (hlist : g.context.options.list = true) :
    g.context.deleteSuccessUrl = "reverse('" ++ g.target.appName ++ ":" ++
      (routeFor g.target.modelName config.slugField .list).name ++ "')" := by
  rw [hcontext] at hlist ⊢
  have hselected : o.list = true := hlist
  simp only [Generator.contextFor, deleteSuccessUrl, hselected, Bool.true_or, if_true]
  rfl

variable (hmodel : isClassName g.target.modelName = true) (happ : '\n' ∉ g.target.appName.toList)

include hmodel happ

theorem header_imports (ho : o.enabled ≠ []) :
    headerText g.context =
        textOfLines ("# -*- coding: utf-8 -*-" :: g.builtinMerge.importLines) ∧
      behind "from django.views.generic import " (headerText g.context) = [o.viewImports] ∧
      behind (formsImport g.target.appName) (headerText g.context) =
        if o.needsForm then
          [Text.lower g.target.modelName ++ (" import " ++ formClass g.target.modelName)]
        else [] := by
  have hline : Text.IsLine o.viewImports := by
    have hnot {d : Char} := not_mem_viewImports (d := d)
    exact Text.isLine_of_not_mem (hnot (by decide) (fun k => by cases k <;> decide) o)
      (hnot (by decide) (fun k => by cases k <;> decide) o)
  have hsome := viewImports_ne_empty ho
  have happ' : '\n' ∉ g.context.appName.toList := by
    rw [hcontext]
    exact happ
  have hmodel' : isClassName g.context.modelName = true := by
    rw [hcontext]
    exact hmodel
  have hviews : g.context.viewImports = o.viewImports := by rw [hcontext]; rfl
  rw [← hviews] at hline hsome ⊢
  have himported : g.builtinMerge.importLines = (View.importLines g.context).tail :=
    filter_lines_headerText hmodel' happ' hline hsome
  refine ⟨?_, behind_generic hmodel' happ' hline hsome, ?_⟩
  · rw [himported, headerText_eq]
    rfl
  · have hforms := behind_forms hmodel' happ' hline hsome
    rw [hcontext] at hforms ⊢
    exact hforms

theorem formAgrees (ho : o.enabled ≠ []) {f : GeneratedFile} (hf : f ∈ g.builtinForms) :
    FormAgrees g g.builtinMerge f := by
  have hneeds : g.context.includeForm = o.needsForm := by rw [hcontext]; rfl
  obtain ⟨-, -, hforms⟩ := header_imports hcontext hmodel happ ho
  unfold Generator.builtinForms at hf
  split at hf
  · rename_i hform
    obtain rfl := List.mem_singleton.mp hf
    rw [hneeds] at hform
    constructor
    · refine ⟨Text.lower g.target.modelName, mark_not_mem_lower hmodel (by decide), ?_, ?_⟩
      · rw [Generator.formModule_path, Generator.formPath,
          lastPiece_join _ (slash_not_mem_pythonFile (mark_not_mem hmodel (by decide)))]
        rfl
      · rw [if_pos hform] at hforms
        exact hforms
    · rw [hcontext]
      exact openingLine_mem_lines_formText (c := Generator.contextFor t g.target o config root) hmodel happ
  · cases hf

variable (hrenderer : Renderer.ofRegistry Registry.builtin = .ok g.renderer)

include hrenderer

theorem sectionAgrees (k : Kind) :
    SectionAgrees g (routeFor g.target.modelName config.slugField k) (g.sectionOf k) := by
  have hbody : (g.sectionOf k).body = classText g.context k := Generator.body_builtin hrenderer k
  have hname : g.context.modelName = g.target.modelName := by rw [hcontext]; rfl
  have hlower : '\n' ∉ (Text.lower g.target.modelName).toList := mark_not_mem_lower hmodel (by decide)
  rw [← hname] at hmodel
  constructor
  · rfl
  · refine ⟨textOfLines (("    model = " ++ g.context.modelName) :: ownLines g.context k), ?_⟩
    rw [hbody, classText_eq, classLines_eq, ← textOfLines_append, hname]
    rfl
  · intro hform
    have hk : k.usesForm = true := hform
    rw [hbody, behind_formClass hmodel hk, hname]
    rfl
  · intro hdelete hlist
    have hk : k = .delete := hdelete
    have hurl := deleteSuccessUrl_of_list hcontext hlist
    have hline : Text.IsLine g.context.deleteSuccessUrl := by
      rw [hurl]
      refine Text.isLine_append ?_ (by decide) (by decide)
      simp [routeFor, urlName, Kind.urlSuffix, happ, hlower]
    have hsome : g.context.deleteSuccessUrl ≠ "" := by
      rw [hurl]
      simp
    have hselected : .list ∈ o.enabled := by
      rw [hcontext] at hlist
      exact (o.mem_enabled .list).mpr hlist
    refine ⟨routeFor g.target.modelName config.slugField .list, ?_, rfl, ?_⟩
    · rw [routes_eq hcontext]
      exact List.mem_map_of_mem hselected
    · rw [hbody, hk, behind_return hmodel hline hsome, hurl]

theorem partsAgree (ho : o.enabled ≠ []) : PartsAgree g o g.builtinMerge g.builtinForms := by
  have hneeds : g.context.includeForm = o.needsForm := by rw [hcontext]; rfl
  have hoptions : g.context.options = o := by rw [hcontext]; rfl
  have hroutes := routes_eq hcontext
  obtain ⟨hheader, hbases, hforms⟩ := header_imports hcontext hmodel happ ho
  constructor
  · rw [hroutes, List.map_map]
    exact List.map_id _
  · exact hheader
  · rw [hroutes, List.map_map]
    exact hbases
  · rw [hroutes, Generator.builtinMerge, hoptions, List.forall₂_map_left_iff,
      List.forall₂_map_right_iff, List.forall₂_same]
    exact fun k _ => sectionAgrees hcontext hmodel happ hrenderer k
  · rw [← needsForm_iff, Generator.builtinForms, hneeds]
    cases o.needsForm <;> simp
  · have hmerge : g.builtinMerge.header = headerText g.context := rfl
    rw [← needsForm_iff, hmerge, hforms]
    cases o.needsForm <;> simp
  · intro f hf
    exact formAgrees hcontext hmodel happ ho hf

end

/-- For every target without a line feed in its app and every selection of views the generated parts
refer to each other by the same names, as long as the project has no partials of its own. -/
theorem generated_parts_agree {input : String} {target : Target} {o : Options} {t : FileTree}
    {config : Config} {root : String} (htarget : Target.parse input = .ok target)
    (happ : '\n' ∉ target.appName.toList) (ho : o.enabled ≠ []) (hplain : NoOverrides t root config) :
    ∃ g, Generator.create t target o config root = .ok g ∧
      ∀ viewFile t', ∃ views others m,
        ({ g with viewFile } : Generator).generate t' = .ok (views :: others) ∧
        views.merge = some m ∧ PartsAgree { g with viewFile } o m others := by
  obtain ⟨renderer, hrenderer⟩ := Renderer.exists_ofRegistry_builtin
  have hcreate : Generator.create t target o config root = .ok
      ⟨target, Generator.contextFor t target o config root, renderer, config.appsDir, none, root⟩ :=
    Generator.create_eq_ok_iff.mpr
      ⟨ho, _, renderer, registryWith_of_noOverrides hplain, hrenderer, rfl⟩
  refine ⟨_, hcreate, fun viewFile t' => ?_⟩
  have hgenerate := Generator.generate_builtin (g := ⟨target, Generator.contextFor t target o config root,
    renderer, config.appsDir, viewFile, root⟩) hrenderer t'
  exact ⟨_, _, _, hgenerate, rfl,
    partsAgree rfl (target_of_parse htarget).2 happ hrenderer ho⟩

def plainProject : FileTree := Command.blogProject [(["partials"], .directory)]

theorem noOverrides_plainProject : NoOverrides plainProject "/" { partialsDir := some "partials" } := by
  intro dir hdir
  obtain rfl : join "/" "partials" = dir := Option.some.inj hdir
  refine ⟨by decide, fun k => ?_⟩
  cases k <;> decide

theorem generated_parts_agree_post : ∃ g views others m,
    Generator.create plainProject ⟨"blog", "Post"⟩ .all { partialsDir := some "partials" } "/" = .ok g ∧
      g.generate plainProject = .ok (views :: others) ∧ views.merge = some m ∧
      PartsAgree g .all m others := by
  obtain ⟨g, hcreate, hgenerate⟩ := generated_parts_agree (o := .all) parse_post (by decide)
    (by decide) noOverrides_plainProject
  obtain ⟨views, others, m, hfiles, hmerge, hagree⟩ := hgenerate g.viewFile plainProject
  exact ⟨g, views, others, m, hcreate, hfiles, hmerge, hagree⟩

end Viewsmith.Scaffold
