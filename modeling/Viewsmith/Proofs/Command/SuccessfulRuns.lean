import Viewsmith.Proofs.Command.BuiltinRuns
import Viewsmith.Proofs.View.Naming

namespace Viewsmith.Command

open Files Scaffold
open Settings (Config)
open View (Kind Options)

def missingKinds (model : String) (o : Options) (text : String) : List Kind :=
  o.enabled.filter fun k =>
    !Text.contains text (classOpening (View.viewClassName model k.className))

theorem missingIn_sections (g : Generator) (header text : String) (o : Options) :
    Merge.missingIn ⟨header, o.enabled.map g.sectionOf⟩ text =
      (missingKinds g.target.modelName o text).map g.sectionOf := by
  rw [Merge.missingIn, List.filter_map]
  rfl

theorem appendSections_eq (text : String) (g : Generator) (ks : List Kind) :
    appendSections text (ks.map g.sectionOf) = endedLine text ++ String.join (ks.map g.body) := by
  rw [appendSections_eq_join, List.map_map]
  rfl

section

variable {t u : FileTree} {root : String} {force : Bool} {views : GeneratedFile} {o : Outcome}
  {steps : List Component} {n : String}

end

section

variable {c : ViewCommand} {color : Bool} {t u : FileTree} {root : String} {g : Generator}
  {views : GeneratedFile} {others : List GeneratedFile} {w : Writing} {r : Option Failure}

end

/-- What has been done when all files of a run could be written: `m` are the parts of its views
module, and `w` is the state at its end. -/
structure Written (c : ViewCommand) (t : FileTree) (root : String) (views : GeneratedFile)
    (others : List GeneratedFile) (m : Merge) (w : Writing) : Prop where
  first : pathExists t (join root views.path) = false ∧
      readText w.tree (join root views.path) = .ok views.content ∧
      w.added = c.options.enabled.length ∨
    pathExists t (join root views.path) = true ∧ ∃ old,
      readText t (join root views.path) = .ok old ∧ m.missingIn old ≠ [] ∧
      readText w.tree (join root views.path) = .ok (appendSections old (m.missingIn old)) ∧
      w.added = (m.missingIn old).length
  rest : ∀ f ∈ others, readText w.tree (join root f.path) = .ok f.content
  elsewhere : ∀ l, l ≠ place (join root views.path) →
    (∀ f ∈ others, l ≠ place (join root f.path)) →
      w.tree.get? l = t.get? l ∨
        t.get? l = none ∧ w.tree.get? l = some .directory ∧
          (IsAbove (join root views.path) l ∨ ∃ f ∈ others, IsAbove (join root f.path) l)

namespace Written

variable {c : ViewCommand} {t : FileTree} {root : String} {config : Config} {g : Generator}
  {views : GeneratedFile} {others : List GeneratedFile} {m : Merge} {w : Writing}

theorem created (h : Written c t root views others m w)
    (hexists : pathExists t (join root views.path) = false) :
    readText w.tree (join root views.path) = .ok views.content ∧
      w.added = c.options.enabled.length := by
  rcases h.first with ⟨_, hread, hadded⟩ | ⟨hthere, _⟩
  · exact ⟨hread, hadded⟩
  · rw [hexists] at hthere
    cases hthere

theorem merged {header : String}
    (h : Written c t root views others ⟨header, c.options.enabled.map g.sectionOf⟩ w)
    (hexists : pathExists t (join root views.path) = true) :
    ∃ old, readText t (join root views.path) = .ok old ∧
      missingKinds g.target.modelName c.options old ≠ [] ∧
      readText w.tree (join root views.path) = .ok (endedLine old ++
        String.join ((missingKinds g.target.modelName c.options old).map g.body)) ∧
      w.added = (missingKinds g.target.modelName c.options old).length := by
  rcases h.first with ⟨hgone, _⟩ | ⟨_, old, hold, hmissing, hread, hadded⟩
  · rw [hexists] at hgone
    cases hgone
  · rw [missingIn_sections] at hmissing hread hadded
    rw [appendSections_eq] at hread
    exact ⟨old, hold, fun hnil => hmissing (by rw [hnil]; rfl), hread,
      hadded.trans (List.length_map _)⟩

theorem form (h : Written c t root views others m w)
    (hprepare : c.prepare t root config = .ok (g, views :: others))
    (hcheck : checkConflicts t root c.force (views :: others) = .ok ())
    (hneeds : c.options.needsForm = true) :
    ∃ form, others = [form] ∧ g.renderer.renderForm g.context = .ok form.content ∧
      readText w.tree (join root g.formPath) = .ok form.content ∧
      (c.force = false → pathExists t (join root g.formPath) = false) := by
  obtain ⟨_, _, _, _, _, _, _, _, heq, _, _, _, hothers⟩ := ViewCommand.prepare_parts hprepare
  cases heq
  rcases hothers with ⟨hnot, _⟩ | ⟨_, form, rfl, hform, hmerge, hcontent⟩
  · rw [hneeds] at hnot
    cases hnot
  · have hmem : form ∈ [form] := List.mem_singleton_self form
    rw [← hform]
    refine ⟨form, rfl, hcontent, h.rest form hmem, fun hforce => ?_⟩
    have hfree := (checkConflicts_eq_ok_iff _ _ _ _).mp hcheck form (List.mem_cons_of_mem _ hmem)
    rw [Admissible, hmerge, hforce] at hfree
    simpa using hfree

end Written

theorem writeFiles_merged (color : Bool) {force : Bool} {root old : String} {views : GeneratedFile}
    {m : Merge} {w : Writing} (hm : views.merge = some m)
    (hread : readText w.tree (join root views.path) = .ok old) :
    (writeFiles color root force [views] w).2 = none := by
  obtain ⟨l, hl, _, _, happend⟩ := appendTo_of_readText m hread
  rw [← GeneratedFile.writeTo_of_merge force hm (pathExists_of_find hl)] at happend
  rw [writeFiles_cons_of_ok happend]
  rfl

def postListProject : FileTree :=
  blogProject [(["server", "apps", "blog", "views.py"],
    .file (.text "class PostListView(ListView):\n    model = Post\n"))]

theorem exists_run_postListProject :
    ∃ g files, (postViews { list := true, detail := true }).prepare postListProject "/" {} =
        .ok (g, files) ∧
      join "/" (g.viewsPath postListProject) = "/server/apps/blog/views.py" ∧
      ((postViews { list := true, detail := true }).runIn false postListProject "/" {}).failure =
        none := by
  obtain ⟨g, views, others, hprepare, hviews, hmodel, ⟨header, hmerge⟩, hothers, _⟩ :=
    exists_prepare_post { list := true, detail := true } postListProject (by decide)
      (by decide)
  obtain rfl := hothers rfl
  have hread : readText postListProject "/server/apps/blog/views.py" =
      .ok "class PostListView(ListView):\n    model = Post\n" := by rfl
  have hmissing : missingKinds "Post" { list := true, detail := true }
      "class PostListView(ListView):\n    model = Post\n" = [.detail] := by decide
  have hcheck : checkConflicts postListProject "/" false [views] = .ok () := by
    rw [checkConflicts_eq_ok_iff, List.forall_mem_singleton, Admissible, hviews, hmerge]
    refine fun _ => ⟨_, hread, ?_⟩
    rw [missingIn_sections, hmodel, hmissing]
    exact List.cons_ne_nil _ _
  have hpath : views.path = g.viewsPath postListProject := by
    obtain ⟨_, _, _, _, _, views', _, _, hfiles, hpath, _⟩ := ViewCommand.prepare_parts hprepare
    rw [(List.cons.inj hfiles).1, hpath]
  refine ⟨g, [views], hprepare, hpath ▸ hviews, ?_⟩
  rw [ViewCommand.runIn_of_prepare false hprepare rfl hcheck, ViewCommand.finish_failure]
  rw [← hviews] at hread
  exact writeFiles_merged false hmerge hread

end Viewsmith.Command
