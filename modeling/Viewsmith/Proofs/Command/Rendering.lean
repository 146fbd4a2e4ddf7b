import Viewsmith.Command.Render
import Viewsmith.Proofs.Command.BuiltinRuns
import Viewsmith.Proofs.Json.RoundTrip
import Viewsmith.Proofs.Scaffold.Overrides
import Viewsmith.Proofs.View.Encoding

namespace Viewsmith.Command

open Files Scaffold
open Settings (Config)
open View (Context Options Registry Renderer Target)

theorem RenderCommand.render_eq_ok_iff {c : RenderCommand} {t : FileTree} {cwd text : String} :
    c.render t cwd = .ok text ↔ ∃ raw value registry renderer,
      readText t (join cwd c.context) = .ok raw ∧ Json.parse raw = some value ∧
      registryWith t cwd c.partials = .ok registry ∧
      Renderer.ofRegistry registry = .ok renderer ∧ renderer.renderValue value = .ok text := by
  simp only [render, bind_eq_ok_iff, within_eq_ok_iff, ofIo_eq_ok_iff, ofRender_eq_ok_iff]
  constructor
  · rintro ⟨raw, hraw, value, hvalue, registry, hregistry, renderer, hrenderer, htext⟩
    cases hparse : Json.parse raw with
    | none =>
        rw [hparse] at hvalue
        cases hvalue
    | some v =>
        rw [hparse] at hvalue
        cases hvalue
        exact ⟨raw, value, registry, renderer, hraw, hparse, hregistry, hrenderer, htext⟩
  · rintro ⟨raw, value, registry, renderer, hraw, hparse, hregistry, hrenderer, htext⟩
    exact ⟨raw, hraw, value, by rw [hparse], registry, hregistry, renderer, hrenderer, htext⟩

theorem views_of_generate {t t' : FileTree} {target : Target} {o : Options} {config : Config}
    {root : String} {g : Generator} {viewFile : Option String} {files : List GeneratedFile}
    (hcreate : Generator.create t target o config root = .ok g)
    (hgenerate : ({ g with viewFile } : Generator).generate t' = .ok files) :
    ∃ registry views others, registryWith t root (config.partialsPath? root) = .ok registry ∧
      Renderer.ofRegistry registry = .ok g.renderer ∧ files = views :: others ∧
      g.renderer.render g.context = .ok views.content := by
  obtain ⟨_, registry, renderer, hregistry, hrenderer, rfl⟩ := Generator.create_eq_ok_iff.mp hcreate
  obtain ⟨views, others, hviews, hfiles, _⟩ := (Generator.generate_eq_ok_iff _ _ _).mp hgenerate
  obtain ⟨content, _, _, hcontent, _, _, rfl⟩ := (Generator.viewsFile_eq_ok_iff _ _ _).mp hviews
  exact ⟨registry, _, others, hregistry, hrenderer, hfiles, hcontent⟩

/-- A context and its JSON form are interchangeable: one is decoded from the other, a renderer gives
the same text or the same error for both, and the JSON form in a file, rendered with the same partials,
gives the views module of the generator that the context is from. -/
theorem typed_and_raw_rendering_agree {t t' u : FileTree} {target : Target} {o : Options}
    {config : Config} {root cwd raw : String} {g : Generator} {viewFile : Option String}
    {files : List GeneratedFile} {cmd : RenderCommand}
    (hcreate : Generator.create t target o config root = .ok g)
    (hgenerate : ({ g with viewFile } : Generator).generate t' = .ok files)
    (hread : readText u (join cwd cmd.context) = .ok raw)
    (hraw : Json.parse raw = some g.context.toValue)
    (hpartials : Option.Rel (SameOverrides t u) ((config.partialsPath? root).map (join root))
      (cmd.partials.map (join cwd))) :
    (∀ c : Context, Context.ofValue c.toValue = .ok c) ∧
      (∀ c : Context, Json.parse (Json.print c.toValue) = some c.toValue) ∧
      (∀ (r : Renderer) (c : Context), r.renderValue c.toValue = r.render c) ∧
      ∃ views others, files = views :: others ∧ cmd.render u cwd = .ok views.content := by
  obtain ⟨registry, views, others, hregistry, hrenderer, hfiles, hcontent⟩ :=
    views_of_generate hcreate hgenerate
  refine ⟨View.ofValue_toValue, fun c => Json.parse_print (View.isReadable_toValue c),
    View.Renderer.renderValue_toValue, views, others, hfiles, ?_⟩
  refine RenderCommand.render_eq_ok_iff.mpr ⟨raw, _, registry, g.renderer, hread, hraw,
    registryWith_of_sameOverrides hpartials hregistry, hrenderer, ?_⟩
  rw [View.Renderer.renderValue_toValue, hcontent]

def postContext : Context :=
  Generator.contextFor (blogProject []) ⟨"blog", "Post"⟩ { list := true } {} "/"

def customProject : FileTree :=
  blogProject
    [ (["partials"], .directory)
    , (["partials", "ListView.py.hbs"], .file (.text (View.builtinPartial .list)))
    , (["post.json"], .file (.text (Json.print postContext.toValue))) ]

theorem loadOverrides_custom (r : Registry) :
    loadOverrides customProject "/" "/partials" r =
      (r.register "ListView" (View.builtinPartial .list), .ok ["ListView"]) := (rfl)

theorem typed_and_raw_rendering_agree_custom : ∃ g files,
    Generator.create customProject ⟨"blog", "Post"⟩ { list := true }
        { partialsDir := some "partials" } "/" = .ok g ∧
      g.generate customProject = .ok files ∧
      ∃ views others, files = views :: others ∧
        RenderCommand.render ⟨"../post.json", some "/partials"⟩ customProject "/server" =
          .ok views.content := by
  obtain ⟨renderer, hrenderer⟩ := Renderer.exists_ofRegistry_builtin
  have hsame : Registry.builtin.register "ListView" (View.builtinPartial .list) =
      Registry.builtin := by
    decide +kernel
  have hregistry : registryWith customProject "/" (some "/partials") = .ok Registry.builtin :=
    registryWith_eq_ok_iff.mpr ⟨["ListView"], by rw [loadOverrides_custom, hsame]⟩
  have hcreate : Generator.create customProject ⟨"blog", "Post"⟩ { list := true }
      { partialsDir := some "partials" } "/" =
        .ok ⟨⟨"blog", "Post"⟩, postContext, renderer, "server/apps", none, "/"⟩ :=
    Generator.create_eq_ok_iff.mpr ⟨by decide, _, renderer, hregistry, hrenderer, rfl⟩
  have hgenerate := Generator.generate_builtin (g := ⟨⟨"blog", "Post"⟩, postContext, renderer,
    "server/apps", none, "/"⟩) hrenderer customProject
  exact ⟨_, _, hcreate, hgenerate,
    (typed_and_raw_rendering_agree hcreate hgenerate rfl
      (Json.parse_print (View.isReadable_toValue postContext))
      (.some (SameOverrides.refl customProject "/partials"))).2.2.2⟩

end Viewsmith.Command
