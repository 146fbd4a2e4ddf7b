import Viewsmith.Proofs.Command.Running
import Viewsmith.Proofs.Scaffold.Overrides
import Viewsmith.Proofs.View.Sections

namespace Viewsmith.Scaffold

open Files View

namespace Generator

def builtinViews (g : Generator) (t : FileTree) : GeneratedFile :=
  g.viewsModule t
    (headerText g.context ++ String.join (g.context.options.enabled.map (classText g.context)))
    (headerText g.context) (g.context.options.enabled.map g.sectionOf)

def builtinForms (g : Generator) : List GeneratedFile :=
  if g.context.includeForm then [g.formModule (formText g.context)] else []

variable {g : Generator} (h : Renderer.ofRegistry Registry.builtin = .ok g.renderer)

include h

theorem body_builtin (k : Kind) : g.body k = classText g.context k := by
  rw [body, renderSection_builtin h]

theorem generate_builtin (t : FileTree) :
    g.generate t = .ok (g.builtinViews t :: g.builtinForms) := by
  have hsections : g.sections g.context.options.enabled =
      .ok (g.context.options.enabled.map g.sectionOf) := by
    refine (g.sections_eq_ok_iff _ _).mpr ⟨fun k _ => ?_, rfl⟩
    rw [renderSection_builtin h, body_builtin h]
  have hviews : g.viewsFile t = .ok (g.builtinViews t) :=
    (g.viewsFile_eq_ok_iff t _).mpr ⟨_, _, _, render_builtin h g.context,
      render_header g.context h Registry.not_contains_builtin_views, hsections, rfl⟩
  refine (g.generate_eq_ok_iff t _).mpr ⟨_, _, hviews, rfl, ?_⟩
  unfold builtinForms
  cases g.context.includeForm with
  | false => exact .inl ⟨rfl, rfl⟩
  | true =>
      exact .inr ⟨rfl, _, (g.formFile_eq_ok_iff _).mpr ⟨_, renderForm_builtin h g.context, rfl⟩, rfl⟩

end Generator

end Viewsmith.Scaffold

namespace Viewsmith.Command

open Files Scaffold
open Settings (Config)
open View (Kind Options Registry Renderer)

section

variable (c : ViewCommand) (t : FileTree) (root : String) (config : Config) {r : Renderer}

/-- A run without partials always has files to write if it selects a view. -/
theorem prepare_builtin (h : Renderer.ofRegistry Registry.builtin = .ok r)
    (hselected : c.options.enabled ≠ [])
    (hpartials : (c.applyTo config).partialsPath? root = none) :
    c.prepare t root config = .ok (c.generatorIn t root config r,
      (c.generatorIn t root config r).builtinViews t ::
        (c.generatorIn t root config r).builtinForms) := by
  refine (ViewCommand.prepare_eq_ok_iff _ _).mpr ⟨hselected, Registry.builtin, r, ?_, h, rfl, ?_⟩
  · rw [hpartials]
    exact registryWith_none t root
  · exact Generator.generate_builtin (g := c.generatorIn t root config r) h t

end

theorem renderer_of_noOverrides {c : ViewCommand} {t : FileTree} {root : String} {config : Config}
    {g : Generator} {files : List GeneratedFile} (h : NoOverrides t root (c.applyTo config))
    (hprepare : c.prepare t root config = .ok (g, files)) :
    Renderer.ofRegistry Registry.builtin = .ok g.renderer := by
  obtain ⟨_, registry, renderer, hregistry, hrenderer, rfl, _⟩ :=
    (ViewCommand.prepare_eq_ok_iff g files).mp hprepare
  rw [registryWith_of_noOverrides h] at hregistry
  obtain rfl := Except.ok.inj hregistry
  exact hrenderer

def postViews (o : Options) : ViewCommand where
  target := ⟨"blog", "Post"⟩
  options := o

def blogProject (entries : List (Location × Entry)) : FileTree where
  entries :=
    (["server"], .directory) :: (["server", "apps"], .directory) ::
      (["server", "apps", "blog"], .directory) :: entries

section

variable (o : Options) (t : FileTree)

theorem join_formPath_post (r : Renderer) :
    join "/" ((postViews o).generatorIn t "/" {} r).formPath = "/server/apps/blog/forms/post.py" := by
  change join "/" (join (join (join "server/apps" "blog") "forms") (pythonFile "Post")) = _
  decide

theorem join_viewsPath_post (r : Renderer) (h : isDirectory t "/server/apps/blog/views" = false) :
    join "/" (((postViews o).generatorIn t "/" {} r).viewsPath t) = "/server/apps/blog/views.py" := by
  have hpackage : join (join "/" (join "server/apps" "blog")) "views" = "/server/apps/blog/views" := by
    decide
  rw [Generator.viewsPath, if_neg]
  · change join "/" (join (join "server/apps" "blog") "views.py") = _
    decide
  · change ¬ isDirectory t (join (join "/" (join "server/apps" "blog")) "views") = true
    rw [hpackage, h]
    exact Bool.false_ne_true

theorem exists_prepare_post (hselected : o.enabled ≠ [])
    (hpackage : isDirectory t "/server/apps/blog/views" = false) :
    ∃ g views others, (postViews o).prepare t "/" {} = .ok (g, views :: others) ∧
      join "/" views.path = "/server/apps/blog/views.py" ∧ g.target.modelName = "Post" ∧
      (∃ header, views.merge = some ⟨header, o.enabled.map g.sectionOf⟩) ∧
      (o.needsForm = false → others = []) ∧
      (o.needsForm = true → ∃ form, others = [form] ∧ form.merge = none ∧
        join "/" form.path = "/server/apps/blog/forms/post.py") := by
  obtain ⟨r, h⟩ := Renderer.exists_ofRegistry_builtin
  have hprepare := prepare_builtin (postViews o) t "/" {} h hselected rfl
  have hviews := join_viewsPath_post o t r hpackage
  have hform := join_formPath_post o t r
  obtain ⟨_, _, _, _, _, views, others, header, hfiles, hpath, _, hmerge, hothers⟩ :=
    ViewCommand.prepare_parts hprepare
  rw [hfiles] at hprepare
  rw [← hpath] at hviews
  refine ⟨_, views, others, hprepare, hviews, rfl, ⟨header, hmerge⟩, fun hneeds => ?_,
    fun hneeds => ?_⟩
  · rcases hothers with ⟨_, hnone⟩ | ⟨hyes, _⟩
    · exact hnone
    · exact absurd (hneeds.symm.trans hyes) Bool.false_ne_true
  · rcases hothers with ⟨hno, _⟩ | ⟨_, form, hone, hpath, hmerge, _⟩
    · exact absurd (hno.symm.trans hneeds) Bool.false_ne_true
    · exact ⟨form, hone, hmerge, by rw [hpath, hform]⟩

end

end Viewsmith.Command
