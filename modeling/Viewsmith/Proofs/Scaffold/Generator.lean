import Viewsmith.Proofs.Files.Writing
import Viewsmith.Proofs.Text.Lowering
import Viewsmith.Proofs.View.Partials
import Viewsmith.Scaffold.Generator

namespace Viewsmith.Scaffold

open Files View
open Settings (Config)

theorem registryWith_none (t : FileTree) (cwd : String) :
    registryWith t cwd none = .ok Registry.builtin := (rfl)

section

variable {t u : FileTree} {appsDir : String} {target : Target}

theorem isListRegistered_of_readText {content : String}
    (h : readText t (join (join appsDir target.appName) "urls.py") = .ok content) :
    isListRegistered t appsDir target =
      Text.contains content (urlName target.modelName Kind.list.urlSuffix) := by
  unfold isListRegistered
  dsimp only
  rw [h]

theorem isListRegistered_congr
    (h : ∀ s, readText u (join (join appsDir target.appName) "urls.py") = .ok s ↔
      readText t (join (join appsDir target.appName) "urls.py") = .ok s) :
    isListRegistered u appsDir target = isListRegistered t appsDir target := by
  cases hread : readText t (join (join appsDir target.appName) "urls.py") with
  | ok s => rw [isListRegistered_of_readText hread, isListRegistered_of_readText ((h s).mpr hread)]
  | error e =>
      cases hread' : readText u (join (join appsDir target.appName) "urls.py") with
      | ok s =>
          rw [(h s).mp hread'] at hread
          cases hread
      | error e' =>
          unfold isListRegistered
          dsimp only
          rw [hread, hread']

end

namespace Generator

def contextFor (t : FileTree) (target : Target) (o : Options) (config : Config) (root : String) :
    Context :=
  { Context.ofOptions target.appName target.modelName o with
    paginateBy := config.paginateBy
    slugField := config.slugField
    deleteSuccessUrl := deleteSuccessUrl t (join root config.appsDir) config.deleteSuccessUrl
      target o }

theorem create_eq_ok_iff {t : FileTree} {target : Target} {o : Options} {config : Config}
    {root : String} {g : Generator} : create t target o config root = .ok g ↔
      o.enabled ≠ [] ∧ ∃ registry renderer,
        registryWith t root (config.partialsPath? root) = .ok registry ∧
        Renderer.ofRegistry registry = .ok renderer ∧
        g = ⟨target, contextFor t target o config root, renderer, config.appsDir, none, root⟩ := by
  rw [create, Options.isEmpty]
  cases ho : o.enabled with
  | nil => simp
  | cons k ks =>
      simp only [List.isEmpty_cons, Bool.false_eq_true, if_false, bind_eq_ok_iff, within_eq_ok_iff,
        ofRender_eq_ok_iff, ne_eq, reduceCtorEq, not_false_eq_true, true_and]
      constructor
      · rintro ⟨registry, hregistry, renderer, hrenderer, hg⟩
        exact ⟨registry, renderer, hregistry, hrenderer, (Except.ok.inj hg).symm⟩
      · rintro ⟨registry, renderer, hregistry, hrenderer, rfl⟩
        exact ⟨registry, hregistry, renderer, hrenderer, rfl⟩

theorem create_builtin (t : FileTree) (target : Target) (o : Options) (config : Config)
    (root : String) (ho : o.enabled ≠ []) (hpartials : config.partialsPath? root = none) :
    ∃ g, create t target o config root = .ok g ∧ g.target = target ∧
      g.context = contextFor t target o config root := by
  obtain ⟨renderer, hrenderer⟩ := Renderer.exists_ofRegistry_builtin
  have hregistry : registryWith t root (config.partialsPath? root) = .ok Registry.builtin := by
    rw [hpartials, registryWith_none]
  exact ⟨_, create_eq_ok_iff.mpr ⟨ho, _, renderer, hregistry, hrenderer, rfl⟩, rfl, rfl⟩

def body (g : Generator) (k : Kind) : String :=
  match g.renderer.renderSection g.context k with
  | .ok text => text
  | .error _ => ""

def sectionOf (g : Generator) (k : Kind) : ViewSection :=
  ⟨viewClassName g.target.modelName k.className, g.body k⟩

theorem viewSection_eq_ok_iff (g : Generator) (k : Kind) (s : ViewSection) :
    g.viewSection k = .ok s ↔
      g.renderer.renderSection g.context k = .ok (g.body k) ∧ s = g.sectionOf k := by
  unfold viewSection sectionOf body
  cases g.renderer.renderSection g.context k with
  | error e => simp [Except.map]
  | ok text => simp [Except.map, eq_comm]

theorem sections_eq_ok_iff (g : Generator) (ks : List Kind) (ss : List ViewSection) :
    g.sections ks = .ok ss ↔
      (∀ k ∈ ks, g.renderer.renderSection g.context k = .ok (g.body k)) ∧
        ss = ks.map g.sectionOf := by
  induction ks generalizing ss with
  | nil => simp [sections, eq_comm]
  | cons k ks ih =>
      have hk := g.viewSection_eq_ok_iff k
      rw [sections, List.forall_mem_cons]
      cases hs : g.viewSection k with
      | error e =>
          have hnot : g.renderer.renderSection g.context k ≠ .ok (g.body k) := by
            intro h
            rw [(hk _).mpr ⟨h, rfl⟩] at hs
            cases hs
          simp [hnot]
      | ok s =>
          obtain ⟨hbody, rfl⟩ := (hk s).mp hs
          simp only [map_eq_ok_iff, ih, hbody, true_and, List.map_cons]
          constructor
          · rintro ⟨rest, ⟨hrest, rfl⟩, rfl⟩
            exact ⟨hrest, rfl⟩
          · rintro ⟨hrest, rfl⟩
            exact ⟨_, ⟨hrest, rfl⟩, rfl⟩

def viewsModule (g : Generator) (t : FileTree) (content header : String)
    (sections : List ViewSection) : GeneratedFile where
  path := g.viewsPath t
  content := content
  description := g.context.viewImports ++ " for " ++ g.target.modelName
  merge := some ⟨header, sections⟩

def formModule (g : Generator) (content : String) : GeneratedFile where
  path := g.formPath
  content := content
  description := g.target.modelName ++ "Form model form"
  merge := none

@[simp]
theorem viewsModule_path (g : Generator) (t : FileTree) (content header : String)
    (sections : List ViewSection) :
    (g.viewsModule t content header sections).path = g.viewsPath t := by
  rw [viewsModule]

@[simp]
theorem formModule_path (g : Generator) (content : String) :
    (g.formModule content).path = g.formPath := by
  rw [formModule]

theorem viewsFile_eq_ok_iff (g : Generator) (t : FileTree) (f : GeneratedFile) :
    g.viewsFile t = .ok f ↔ ∃ content header sections,
      g.renderer.render g.context = .ok content ∧
      g.renderer.render { g.context with options := {} } = .ok header ∧
      g.sections g.context.options.enabled = .ok sections ∧
      f = g.viewsModule t content header sections := by
  simp only [viewsFile, bind_eq_ok_iff, within_eq_ok_iff, ofRender_eq_ok_iff]
  constructor
  · rintro ⟨content, hc, header, hh, sections, hs, hf⟩
    exact ⟨content, header, sections, hc, hh, hs, (Except.ok.inj hf).symm⟩
  · rintro ⟨content, header, sections, hc, hh, hs, rfl⟩
    exact ⟨content, hc, header, hh, sections, hs, rfl⟩

theorem formFile_eq_ok_iff (g : Generator) (f : GeneratedFile) :
    g.formFile = .ok f ↔ ∃ content, g.renderer.renderForm g.context = .ok content ∧
      f = g.formModule content := by
  simp only [formFile, bind_eq_ok_iff, within_eq_ok_iff, ofRender_eq_ok_iff]
  constructor
  · rintro ⟨content, hc, hf⟩
    exact ⟨content, hc, (Except.ok.inj hf).symm⟩
  · rintro ⟨content, hc, rfl⟩
    exact ⟨content, hc, rfl⟩

theorem generate_eq_ok_iff (g : Generator) (t : FileTree) (files : List GeneratedFile) :
    g.generate t = .ok files ↔ ∃ views others, g.viewsFile t = .ok views ∧
      files = views :: others ∧
      (g.context.includeForm = false ∧ others = [] ∨
        g.context.includeForm = true ∧ ∃ form, g.formFile = .ok form ∧ others = [form]) := by
  simp only [generate, bind_eq_ok_iff]
  cases g.context.includeForm with
  | false =>
      constructor
      · rintro ⟨views, hv, hf⟩
        exact ⟨views, [], hv, (Except.ok.inj hf).symm, .inl ⟨rfl, rfl⟩⟩
      · rintro ⟨views, others, hv, rfl, ⟨_, rfl⟩ | ⟨h, _⟩⟩
        · exact ⟨views, hv, rfl⟩
        · cases h
  | true =>
      constructor
      · rintro ⟨views, hv, hf⟩
        obtain ⟨form, hform, hf⟩ := bind_eq_ok_iff.mp hf
        exact ⟨views, [form], hv, (Except.ok.inj hf).symm, .inr ⟨rfl, form, hform, rfl⟩⟩
      · rintro ⟨views, others, hv, rfl, ⟨h, _⟩ | ⟨_, form, hform, rfl⟩⟩
        · cases h
        · exact ⟨views, hv, bind_eq_ok_iff.mpr ⟨form, hform, rfl⟩⟩

end Generator

theorem stepOf_of_suffix {s : String} (h : ".py".toList <:+ s.toList) :
    stepOf s = some (.name s) := by
  have hne (s' : String) (hs : ¬ ".py".toList <:+ s'.toList) : s ≠ s' := by
    rintro rfl
    exact hs h
  have hbare : ¬ (s = "" || s = ".") = true := by
    simp [hne "" (by decide), hne "." (by decide)]
  rw [stepOf, if_neg hbare, if_neg (hne ".." (by decide))]

theorem wantsDirectory_of_suffix {path : String} (h : ".py".toList <:+ path.toList) :
    wantsDirectory path = false := by
  obtain ⟨rest, hrest⟩ := h
  rw [wantsDirectory, ← hrest, List.reverse_append]
  rfl

theorem namesFile_of_suffix {path : String} (h : ".py".toList <:+ path.toList) :
    ∃ steps n, NamesFile path steps n := by
  have hbare := wantsDirectory_of_suffix h
  obtain ⟨rest, hrest⟩ := h
  have htake : path.toList.reverse.takeWhile (· ≠ '/') =
      'y' :: 'p' :: '.' :: rest.reverse.takeWhile (· ≠ '/') := by
    rw [← hrest, List.reverse_append]
    simp
  have hne : path.toList.reverse.takeWhile (· ≠ '/') ≠ [] := by
    rw [htake]
    simp
  have hdot : path.toList.reverse.takeWhile (· ≠ '/') ≠ ['.'] := by
    rw [htake]
    simp
  obtain ⟨c, hstep, hc⟩ := componentsOf_reverse_of_name hne hdot
  have hend : ".py".toList <:+
      (String.ofList (path.toList.reverse.takeWhile (· ≠ '/')).reverse).toList := by
    rw [String.toList_ofList, htake]
    exact ⟨(rest.reverse.takeWhile (· ≠ '/')).reverse, by simp⟩
  rw [stepOf_of_suffix hend] at hstep
  rw [List.reverse_reverse, ← components_eq, ← Option.some.inj hstep] at hc
  exact ⟨_, _, hc, hbare⟩

theorem pythonFile_suffix (name : String) : ".py".toList <:+ (pythonFile name).toList := by
  rw [pythonFile, String.toList_append]
  exact List.suffix_append _ _

theorem formPath_suffix (g : Generator) : ".py".toList <:+ g.formPath.toList :=
  (pythonFile_suffix _).trans (suffix_join _ _)

theorem viewsPath_suffix (g : Generator) (t : FileTree) : ".py".toList <:+ (g.viewsPath t).toList := by
  unfold Generator.viewsPath
  split
  · exact (pythonFile_suffix _).trans (suffix_join _ _)
  · exact (show ".py".toList <:+ "views.py".toList by decide).trans (suffix_join _ _)

theorem slash_not_mem_pythonFile {name : String} (h : '/' ∉ name.toList) :
    '/' ∉ (pythonFile name).toList := by
  have hlower := Text.not_mem_lower (d := '/') (by decide) h
  rw [pythonFile, String.toList_append, List.mem_append, not_or]
  exact ⟨hlower, by decide⟩

theorem components_of_bare {name : String} (h : '/' ∉ name.toList)
    (hstep : stepOf name = some (.name name)) : components name = [.name name] := by
  rw [components_eq, componentsOf_of_not_mem h, String.ofList_toList, hstep]
  rfl

theorem not_isAbsolute_of_bare {name : String} (h : '/' ∉ name.toList) :
    isAbsolute name = false := by
  rw [not_isAbsolute_iff]
  intro rest hrest
  exact h (by simp [hrest])

namespace Generator

variable (g : Generator) (t : FileTree)

theorem components_below {dir name : String} (hdir : '/' ∉ dir.toList)
    (hstep : stepOf dir = some (.name dir)) (hname : '/' ∉ name.toList)
    (hsuffix : ".py".toList <:+ name.toList) :
    components (join g.root (join (join g.appDir dir) name)) =
      components (join g.root g.appDir) ++ [.name dir] ++ [.name name] := by
  rw [components_join_join _ _ _ (not_isAbsolute_of_bare hname),
    components_join_join _ _ _ (not_isAbsolute_of_bare hdir), components_of_bare hdir hstep,
    components_of_bare hname (stepOf_of_suffix hsuffix)]

theorem components_formPath (hmodel : '/' ∉ g.target.modelName.toList) :
    components (join g.root g.formPath) = components (join g.root g.appDir) ++
      [.name "forms"] ++ [.name (pythonFile g.target.modelName)] :=
  g.components_below (by decide) rfl (slash_not_mem_pythonFile hmodel) (pythonFile_suffix _)

theorem components_viewsPath (hfile : '/' ∉ (g.viewFile.getD g.target.modelName).toList) :
    components (join g.root (g.viewsPath t)) = components (join g.root g.appDir) ++
        [.name "views"] ++ [.name (pythonFile (g.viewFile.getD g.target.modelName))] ∨
      components (join g.root (g.viewsPath t)) =
        components (join g.root g.appDir) ++ [.name "views.py"] := by
  unfold viewsPath
  split
  · exact .inl (g.components_below (by decide) rfl (slash_not_mem_pythonFile hfile)
      (pythonFile_suffix _))
  · right
    rw [components_join_join _ _ _ rfl]
    rfl

end Generator

end Viewsmith.Scaffold
