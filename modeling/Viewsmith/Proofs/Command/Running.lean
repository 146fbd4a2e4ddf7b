import Viewsmith.Command.View
import Viewsmith.Proofs.Scaffold.Generator
import Viewsmith.Proofs.Scaffold.Writing

namespace Viewsmith.Command

open Files Scaffold
open Settings (Config)
open View (Context Renderer)

theorem writeFiles_cons (color force : Bool) (root : String) (f : GeneratedFile)
    (rest : List GeneratedFile) (w : Writing) :
    writeFiles color root force (f :: rest) w =
      match f.writeTo w.tree root force with
      | (tree, .error e) => ({ w with tree }, some e)
      | (tree, .ok outcome) =>
          writeFiles color root force rest ({ w with tree }.note color f outcome) := (rfl)

theorem writeFiles_cons_of_error {color force : Bool} {root : String} {f : GeneratedFile}
    {rest : List GeneratedFile} {w : Writing} {u : FileTree} {e : Failure}
    (h : f.writeTo w.tree root force = (u, .error e)) :
    writeFiles color root force (f :: rest) w = ({ w with tree := u }, some e) := by
  rw [writeFiles_cons, h]

theorem writeFiles_cons_of_ok {color force : Bool} {root : String} {f : GeneratedFile}
    {rest : List GeneratedFile} {w : Writing} {u : FileTree} {o : Outcome}
    (h : f.writeTo w.tree root force = (u, .ok o)) :
    writeFiles color root force (f :: rest) w =
      writeFiles color root force rest ({ w with tree := u }.note color f o) := by
  rw [writeFiles_cons, h]

theorem writeFiles_cons_of_success {color force : Bool} {root : String} {f : GeneratedFile}
    {rest : List GeneratedFile} {w : Writing}
    (h : (writeFiles color root force (f :: rest) w).2 = none) :
    ∃ u o, f.writeTo w.tree root force = (u, .ok o) ∧
      writeFiles color root force (f :: rest) w =
        writeFiles color root force rest ({ w with tree := u }.note color f o) := by
  cases hwrite : f.writeTo w.tree root force with
  | mk u r =>
      cases r with
      | error e =>
          rw [writeFiles_cons_of_error hwrite] at h
          cases h
      | ok o => exact ⟨u, o, rfl, writeFiles_cons_of_ok hwrite⟩

theorem note_tree (w : Writing) (color : Bool) (f : GeneratedFile) (o : Outcome) :
    (w.note color f o).tree = w.tree := by
  cases o <;> rfl

/-- What each write keeps is kept while files are written, also if one of them fails. -/
theorem writeFiles_invariant (inv : FileTree → Prop) {root : String} {force : Bool}
    {files : List GeneratedFile} (color : Bool)
    (hstep : ∀ f ∈ files, ∀ t, inv t → inv (f.writeTo t root force).1) {w : Writing}
    (h : inv w.tree) : inv (writeFiles color root force files w).1.tree := by
  induction files generalizing w with
  | nil => exact h
  | cons f files ih =>
      rw [List.forall_mem_cons] at hstep
      have hfirst := hstep.1 w.tree h
      cases hwrite : f.writeTo w.tree root force with
      | mk u o =>
          rw [hwrite] at hfirst
          cases o with
          | error e =>
              rw [writeFiles_cons_of_error hwrite]
              exact hfirst
          | ok o =>
              rw [writeFiles_cons_of_ok hwrite]
              exact ih hstep.2 (by rw [note_tree]; exact hfirst)

theorem note_with_tree (w : Writing) (color : Bool) (f : GeneratedFile) (o : Outcome)
    (u : FileTree) : { w with tree := u }.note color f o = { w.note color f o with tree := u } := by
  cases o <;> rfl

namespace ViewCommand

variable {c : ViewCommand} {color : Bool} {t : FileTree} {root : String} {config : Config}

def contextIn (c : ViewCommand) (t : FileTree) (root : String) (config : Config) : Context :=
  { Context.ofOptions c.target.appName c.target.modelName c.options with
    paginateBy := (c.applyTo config).paginateBy
    slugField := (c.applyTo config).slugField
    deleteSuccessUrl := Scaffold.deleteSuccessUrl t (join root config.appsDir)
      (c.applyTo config).deleteSuccessUrl c.target c.options }

def generatorIn (c : ViewCommand) (t : FileTree) (root : String) (config : Config)
    (renderer : Renderer) : Generator where
  target := c.target
  context := c.contextIn t root config
  renderer := renderer
  appsDir := config.appsDir
  viewFile := c.viewFile
  root := root

theorem prepare_eq_ok_iff (g : Generator) (files : List GeneratedFile) :
    c.prepare t root config = .ok (g, files) ↔
      c.options.enabled ≠ [] ∧ ∃ registry renderer,
        registryWith t root ((c.applyTo config).partialsPath? root) = .ok registry ∧
        Renderer.ofRegistry registry = .ok renderer ∧
        g = c.generatorIn t root config renderer ∧ g.generate t = .ok files := by
  simp only [prepare, bind_eq_ok_iff, within_eq_ok_iff, Generator.create_eq_ok_iff]
  constructor
  · rintro ⟨created, ⟨hne, registry, renderer, hregistry, hrenderer, rfl⟩, files', hfiles, hresult⟩
    simp only [Option.or_none] at hfiles hresult
    cases hresult
    exact ⟨hne, registry, renderer, hregistry, hrenderer, rfl, hfiles⟩
  · rintro ⟨hne, registry, renderer, hregistry, hrenderer, rfl, hfiles⟩
    refine ⟨_, ⟨hne, registry, renderer, hregistry, hrenderer, rfl⟩, files, ?_, ?_⟩
    · simp only [Option.or_none]
      exact hfiles
    · simp only [Option.or_none]
      rfl

theorem prepare_parts {g : Generator} {files : List GeneratedFile} (h : c.prepare t root config = .ok (g, files)) :
    g.root = root ∧ g.target = c.target ∧ g.viewFile = c.viewFile ∧
      g.context.options = c.options ∧
      (∀ k ∈ c.options.enabled, g.renderer.renderSection g.context k = .ok (g.body k)) ∧
      ∃ views others header, files = views :: others ∧ views.path = g.viewsPath t ∧
        g.renderer.render g.context = .ok views.content ∧
        views.merge = some ⟨header, c.options.enabled.map g.sectionOf⟩ ∧
        (c.options.needsForm = false ∧ others = [] ∨
          c.options.needsForm = true ∧ ∃ form, others = [form] ∧ form.path = g.formPath ∧
            form.merge = none ∧ g.renderer.renderForm g.context = .ok form.content) := by
  obtain ⟨_, registry, renderer, _, _, hg, hfiles⟩ := (prepare_eq_ok_iff g files).mp h
  have hroot : g.root = root := by rw [hg, generatorIn]
  have htarget : g.target = c.target := by rw [hg, generatorIn]
  have hview : g.viewFile = c.viewFile := by rw [hg, generatorIn]
  have hcontext : g.context = c.contextIn t root config := by rw [hg, generatorIn]
  have hoptions : g.context.options = c.options := by rw [hcontext]; rfl
  have hneeds : g.context.includeForm = c.options.needsForm := by rw [hcontext]; rfl
  obtain ⟨views, others, hviews, hfiles, hothers⟩ := (Generator.generate_eq_ok_iff g t files).mp hfiles
  obtain ⟨content, header, sections, hcontent, _, hsections, hmodule⟩ :=
    (Generator.viewsFile_eq_ok_iff g t views).mp hviews
  rw [hoptions, Generator.sections_eq_ok_iff] at hsections
  obtain ⟨hbodies, rfl⟩ := hsections
  refine ⟨hroot, htarget, hview, hoptions, hbodies, views, others, header, hfiles, ?_, ?_, ?_, ?_⟩
  · rw [hmodule, Generator.viewsModule_path]
  · rw [hcontent, hmodule, Generator.viewsModule]
  · rw [hmodule, Generator.viewsModule]
  · rw [hneeds] at hothers
    rcases hothers with h | ⟨hneeds, form, hform, hone⟩
    · exact .inl h
    · obtain ⟨text, htext, hmodule⟩ := (Generator.formFile_eq_ok_iff g form).mp hform
      refine .inr ⟨hneeds, form, hone, ?_, ?_, ?_⟩
      · rw [hmodule, Generator.formModule_path]
      · rw [hmodule, Generator.formModule]
      · rw [htext, hmodule, Generator.formModule]

theorem path_of_mem_others {g : Generator} {views f : GeneratedFile} {others : List GeneratedFile}
    (h : c.prepare t root config = .ok (g, views :: others)) (hf : f ∈ others) :
    f.path = g.formPath := by
  obtain ⟨_, _, _, _, _, _, _, _, hfiles, _, _, _, hothers⟩ := prepare_parts h
  cases hfiles
  rcases hothers with ⟨_, rfl⟩ | ⟨_, form, rfl, hform, _⟩
  · cases hf
  · rw [List.mem_singleton.mp hf]
    exact hform

theorem path_of_mem_files {g : Generator} {files : List GeneratedFile} {f : GeneratedFile}
    (h : c.prepare t root config = .ok (g, files)) (hf : f ∈ files) :
    f.path = g.viewsPath t ∨ f.path = g.formPath := by
  obtain ⟨_, _, _, _, _, views, others, _, rfl, hviews, _⟩ := prepare_parts h
  rcases List.mem_cons.mp hf with rfl | hf
  · exact .inl hviews
  · exact .inr (path_of_mem_others h hf)

/-- A run makes a views module that can be merged, and at most one file more, which cannot. -/
theorem files_of_prepare {g : Generator} {files : List GeneratedFile}
    (h : c.prepare t root config = .ok (g, files)) :
    ∃ views others, files = views :: others ∧ (∃ m, views.merge = some m) ∧
      (∃ steps n, NamesFile (join root views.path) steps n) ∧ others.length ≤ 1 ∧
      (∀ f ∈ others, f.merge = none) ∧
      ∀ f ∈ others, ∃ steps n, NamesFile (join root f.path) steps n := by
  obtain ⟨_, _, _, _, _, views, others, header, hfiles, hpath, _, hm, hothers⟩ := prepare_parts h
  have hviews : ".py".toList <:+ views.path.toList := by
    rw [hpath]
    exact viewsPath_suffix g t
  refine ⟨views, others, hfiles, ⟨_, hm⟩, namesFile_of_suffix (hviews.trans (suffix_join _ _)), ?_⟩
  rcases hothers with ⟨_, hnone⟩ | ⟨_, form, hone, hpath, hmerge, _⟩
  · simp [hnone]
  · have hform : ".py".toList <:+ form.path.toList := by
      rw [hpath]
      exact formPath_suffix g
    simpa [hone, hmerge] using namesFile_of_suffix (hform.trans (suffix_join root form.path))

def start (c : ViewCommand) (color : Bool) (t : FileTree) : Writing :=
  ⟨t, greeting color c.target.modelName, c.options.enabled.length, []⟩

def finish (c : ViewCommand) (color : Bool) (g : Generator) (w : Writing) : Option Failure → Report
  | some f => ⟨w.tree, w.printed, some f⟩
  | none => ⟨w.tree, w.printed ++ farewell color c.target w g.routes, none⟩

@[simp]
theorem finish_tree (g : Generator) (w : Writing) (r : Option Failure) :
    (c.finish color g w r).tree = w.tree := by
  cases r <;> rfl

@[simp]
theorem finish_failure (g : Generator) (w : Writing) (r : Option Failure) :
    (c.finish color g w r).failure = r := by
  cases r <;> rfl

theorem finish_with_tree (c : ViewCommand) (color : Bool) (g : Generator) (w : Writing)
    (r : Option Failure) (u : FileTree) :
    c.finish color g { w with tree := u } r = { c.finish color g w r with tree := u } := by
  cases r <;> rfl

theorem write_of_checkConflicts (g : Generator) {files : List GeneratedFile}
    (h : checkConflicts t root c.force files = .ok ()) :
    c.write color t root g files =
      c.finish color g (writeFiles color root c.force files (c.start color t)).1
        (writeFiles color root c.force files (c.start color t)).2 := by
  unfold start
  simp only [write, h]
  cases writeFiles color root c.force files
      ⟨t, greeting color c.target.modelName, c.options.enabled.length, []⟩ with
  | mk w r => cases r <;> rfl

variable (color) in
theorem runIn_of_stdout {g : Generator} {files : List GeneratedFile}
    (hprepare : c.prepare t root config = .ok (g, files)) (hstdout : c.stdout = true) :
    c.runIn color t root config = ⟨t, printFiles files, none⟩ := by
  simp only [runIn, hprepare, hstdout, if_true]

variable (color) in
/-- A run that has files and does not print them finds that they are in conflict with the project, or
writes them. -/
theorem runIn_of_prepare_cases {g : Generator} {files : List GeneratedFile}
    (hprepare : c.prepare t root config = .ok (g, files)) (hstdout : c.stdout = false) :
    (∃ f, checkConflicts t root c.force files = .error f ∧
      c.runIn color t root config = ⟨t, greeting color c.target.modelName, some f⟩) ∨
    checkConflicts t root c.force files = .ok () ∧
      c.runIn color t root config =
        c.finish color g (writeFiles color root c.force files (c.start color t)).1
          (writeFiles color root c.force files (c.start color t)).2 := by
  have hrun : c.runIn color t root config = c.write color t root g files := by
    simp [runIn, hprepare, hstdout]
  rw [hrun]
  cases hcheck : checkConflicts t root c.force files with
  | error f => exact .inl ⟨f, rfl, by simp [write, hcheck]⟩
  | ok _ => exact .inr ⟨rfl, write_of_checkConflicts g hcheck⟩

/-- A run fails to prepare its files, prints them, finds that they are in conflict with the
project, or writes them. -/
theorem runIn_cases (c : ViewCommand) (color : Bool) (t : FileTree) (root : String)
    (config : Config) :
    (∃ f, c.prepare t root config = .error f ∧ c.runIn color t root config = ⟨t, "", some f⟩) ∨
      ∃ g files, c.prepare t root config = .ok (g, files) ∧
        (c.stdout = true ∧ c.runIn color t root config = ⟨t, printFiles files, none⟩ ∨
          (∃ f, c.stdout = false ∧ checkConflicts t root c.force files = .error f ∧
            c.runIn color t root config = ⟨t, greeting color c.target.modelName, some f⟩) ∨
          c.stdout = false ∧ checkConflicts t root c.force files = .ok () ∧
            c.runIn color t root config =
              c.finish color g (writeFiles color root c.force files (c.start color t)).1
                (writeFiles color root c.force files (c.start color t)).2) := by
  cases hprepare : c.prepare t root config with
  | error f => exact .inl ⟨f, rfl, by rw [runIn, hprepare]⟩
  | ok prepared =>
      obtain ⟨g, files⟩ := prepared
      refine .inr ⟨g, files, rfl, ?_⟩
      cases hstdout : c.stdout with
      | true => exact .inl ⟨rfl, runIn_of_stdout color hprepare hstdout⟩
      | false =>
          rcases runIn_of_prepare_cases color hprepare hstdout with ⟨f, hcheck, hrun⟩ | hwritten
          · exact .inr (.inl ⟨f, rfl, hcheck, hrun⟩)
          · exact .inr (.inr ⟨rfl, hwritten⟩)

variable (color) in
theorem runIn_of_prepare {g : Generator} {files : List GeneratedFile}
    (hprepare : c.prepare t root config = .ok (g, files)) (hstdout : c.stdout = false)
    (hcheck : checkConflicts t root c.force files = .ok ()) :
    c.runIn color t root config =
      c.finish color g (writeFiles color root c.force files (c.start color t)).1
        (writeFiles color root c.force files (c.start color t)).2 := by
  rcases runIn_of_prepare_cases color hprepare hstdout with ⟨f, hcheck', _⟩ | ⟨_, hrun⟩
  · rw [hcheck] at hcheck'
    cases hcheck'
  · exact hrun

variable (color) in
theorem failure_of_conflict {g : Generator} {files : List GeneratedFile}
    (hprepare : c.prepare t root config = .ok (g, files)) (hstdout : c.stdout = false)
    (hcheck : checkConflicts t root c.force files ≠ .ok ()) :
    (c.runIn color t root config).failure ≠ none := by
  rcases runIn_of_prepare_cases color hprepare hstdout with ⟨f, _, hrun⟩ | ⟨hcheck', _⟩
  · rw [hrun]
    exact Option.some_ne_none f
  · exact absurd hcheck' hcheck

theorem written_of_success {g : Generator} {files : List GeneratedFile}
    (hprepare : c.prepare t root config = .ok (g, files)) (hstdout : c.stdout = false)
    (hok : (c.runIn color t root config).failure = none) :
    checkConflicts t root c.force files = .ok () ∧
      (writeFiles color root c.force files (c.start color t)).2 = none ∧
      c.runIn color t root config =
        c.finish color g (writeFiles color root c.force files (c.start color t)).1 none := by
  rcases runIn_of_prepare_cases color hprepare hstdout with ⟨f, _, hrun⟩ | ⟨hcheck, hrun⟩
  · rw [hrun] at hok
    cases hok
  · rw [hrun, finish_failure] at hok
    exact ⟨hcheck, hok, by rw [hrun, hok]⟩

theorem exists_prepare_of_success (hok : (c.runIn color t root config).failure = none) :
    ∃ g files, c.prepare t root config = .ok (g, files) := by
  cases hprepare : c.prepare t root config with
  | error f =>
      rw [runIn, hprepare] at hok
      cases hok
  | ok prepared => exact ⟨prepared.1, prepared.2, rfl⟩

end ViewCommand

end Viewsmith.Command
