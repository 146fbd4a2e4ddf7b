import Viewsmith.Proofs.Scaffold.Generator
import Viewsmith.Proofs.Template.Inclusions
import Viewsmith.Proofs.View.Fields
import Viewsmith.Proofs.View.Partials

namespace Viewsmith.View

open Template

def toRenderResult : Except Fault String → Except RenderError String
  | .ok text => .ok text
  | .error f => .error (.ofFault f)

def inOrder : List (Except Fault String) → Except Fault String
  | [] => .ok ""
  | r :: rest => followed r (inOrder rest)

theorem toRenderResult_eq_ok_iff (r : Except Fault String) (text : String) :
    toRenderResult r = .ok text ↔ r = .ok text := by
  cases r <;> simp [toRenderResult]

theorem followed_eq_ok_iff (r q : Except Fault String) (text : String) :
    followed r q = .ok text ↔ ∃ s s', r = .ok s ∧ q = .ok s' ∧ text = s ++ s' := by
  cases r with
  | error e => simp [followed, Except.bind]
  | ok s =>
      cases q with
      | error e => simp [followed, Except.bind, Except.map]
      | ok s' => simp [followed, Except.bind, Except.map, eq_comm]

theorem inOrder_eq_ok_iff (rs : List (Except Fault String)) (text : String) :
    inOrder rs = .ok text ↔ ∃ bodies : List String, rs = bodies.map .ok ∧ text = String.join bodies := by
  induction rs generalizing text with
  | nil => simp [inOrder, eq_comm]
  | cons r rs ih =>
      rw [inOrder, followed_eq_ok_iff]
      constructor
      · rintro ⟨s, s', rfl, hrest, rfl⟩
        obtain ⟨bodies, rfl, rfl⟩ := (ih s').mp hrest
        exact ⟨s :: bodies, rfl, String.join_cons.symm⟩
      · rintro ⟨bodies, hbodies, rfl⟩
        cases bodies with
        | nil => cases hbodies
        | cons s bodies =>
            obtain ⟨rfl, hrest⟩ := List.cons.inj hbodies
            exact ⟨s, String.join bodies, rfl, (ih _).mpr ⟨bodies, hrest, rfl⟩, String.join_cons⟩

theorem render_eq {lib : Library} {name : Option String} {nodes : List Node}
    {r : Except Fault String}
    (h : Prints (fun st => renderNodes lib (expandWithin lib (.start lib)) nodes {}
      { st with current := name }) r) : Template.render lib name nodes = r := by
  rw [Template.render]
  cases r with
  | error e =>
      have hact := h.fails {} rfl
      rw [hact]
      rfl
  | ok s =>
      obtain ⟨after, hact, htext, -⟩ := h.ends {} rfl
      rw [hact, Except.map, htext]
      exact congrArg _ String.empty_append

section

variable {registry : Registry} {r : Renderer} (c : Context)

abbrev library (r : Renderer) (c : Context) : Library := ⟨r.templates, c.toValue⟩

def expandIn (r : Renderer) (c : Context) : Frame → List Node → Action :=
  expandWithin (library r c) (.start (library r c))

/-- What a partial that is included at the top of a template prints. -/
def PrintsPartial (r : Renderer) (c : Context) (k : Kind) (result : Except Fault String) : Prop :=
  Prints (fun st => renderNode (library r c) (expandIn r c) (partialNode k) {}
    { st with current := none }) result

theorem partialName_ne_partialBlockName (k : Kind) : k.partialName ≠ partialBlockName := by
  cases k <;> decide

theorem printsPartial_of_nodes {k : Kind} {inner : Depth} {nodes : List Node}
    {result : Except Fault String}
    (hinner : (Depth.start (library r c)).enter (some k.partialName) = some inner)
    (hnodes : Table.find? k.partialName r.templates = some nodes)
    (h : Prints (renderNodes (library r c) (expandWithin (library r c) inner) nodes (Frame.within {}))
      result) : PrintsPartial r c k result :=
  prints_inclusion _ _ rfl rfl (partialName_ne_partialBlockName k) hnodes
    ((h.of_state (fun st => { st with current := some k.partialName }) (fun _ => rfl)
      fun _ => rfl).congr fun _ _ => expandWithin_of_enter _ hinner _ _ _)

/-- A plain partial prints the same wherever it is included. -/
theorem exists_printsPartial (h : Renderer.ofRegistry registry = .ok r) (hplain : registry.IsPlain)
    {k : Kind} (hk : registry.contains k.partialName = true) :
    ∃ result, PrintsPartial r c k result := by
  obtain ⟨body, nodes, hmem, hcompile, hfind⟩ := Renderer.find?_partial h hk
  obtain ⟨inner, hinner⟩ := Depth.exists_enter_start (library r c) (some k.partialName)
  obtain ⟨result, hresult⟩ := steady_renderNodes (library r c) (expandWithin (library r c) inner)
    nodes (hplain _ hmem nodes hcompile) (Frame.within {}) rfl
  exact ⟨result, printsPartial_of_nodes c hinner hfind hresult⟩

theorem expand_eq {name : Option String} {nodes : List Node} {result : Except Fault String}
    (h : Template.render (library r c) name nodes = result) :
    r.expand c name nodes = toRenderResult result := by
  rw [Renderer.expand, h]
  cases result <;> rfl

theorem renderSection_eq (h : Renderer.ofRegistry registry = .ok r) {k : Kind}
    (hk : registry.contains k.partialName = true) {result : Except Fault String}
    (hresult : PrintsPartial r c k result) : r.renderSection c k = toRenderResult result := by
  have hregistry := (Renderer.ofRegistry_eq_ok_iff.mp h).1
  have hmissing : r.missingPartial? [k] = none := by
    simp [Renderer.missingPartial?, hregistry, hk]
  have hcompile : compileTemplate (sectionTemplate k) = .ok [partialNode k] :=
    (compileTemplate_eq_ok_iff _ _).mpr (compile_sectionTemplate k)
  have hrender : Template.render (library r c) none [partialNode k] = result := by
    have hone := hresult.andThen prints_nothing
    rw [followed_empty] at hone
    refine render_eq (hone.congr fun st _ => ?_)
    rw [renderNodes_cons, renderNodes_nil]
    rfl
  rw [Renderer.renderSection, hmissing, hcompile]
  exact expand_eq c hrender

theorem prints_sections (results : Kind → Except Fault String) (ks : List Kind)
    (h : ∀ k ∈ ks, c.options.has k = true → PrintsPartial r c k (results k)) :
    Prints (renderNodes (library r c) (expandIn r c) (ks.flatMap sectionNodes) {})
      (inOrder ((ks.filter c.options.has).map results)) := by
  induction ks with
  | nil => exact prints_nil _ _
  | cons k ks ih =>
      rw [List.forall_mem_cons] at h
      obtain ⟨hk, hks⟩ := h
      have hflag := resolve_optionPath c k
      have hempty : Prints (renderNode (library r c) (expandIn r c) (.text "") {}) (.ok "") :=
        prints_text _ _ rfl ""
      rw [List.flatMap_cons, sectionNodes, List.cons_append, List.singleton_append]
      cases hon : c.options.has k with
      | true =>
          rw [hon] at hflag
          have hbody : Prints (fun st => renderNodes (library r c) (expandIn r c)
              [.text "", partialNode k, .text ""] {} { st with current := none }) (results k) :=
            (hk hon).congr fun st _ => renderNodes_around _ _ _ _
          have hblock : Prints (renderNode (library r c) (expandIn r c)
              (ifNode (optionPath k) [.text "", partialNode k, .text ""]) {}) (results k) :=
            prints_chosen _ _ hflag rfl hbody
          have hall := hblock.cons _ _ (hempty.cons _ _ (ih hks))
          rw [empty_followed] at hall
          rw [List.filter_cons_of_pos hon, List.map_cons]
          exact hall
      | false =>
          rw [hon] at hflag
          have hblock : Prints (renderNode (library r c) (expandIn r c)
              (ifNode (optionPath k) [.text "", partialNode k, .text ""]) {}) (.ok "") :=
            prints_skipped _ _ hflag rfl
          have hall := hblock.cons _ _ (hempty.cons _ _ (ih hks))
          rw [empty_followed, empty_followed] at hall
          rw [List.filter_cons_of_neg (by simp [hon])]
          exact hall

theorem render_eq_inOrder (h : Renderer.ofRegistry registry = .ok r)
    (hviews : registry.contains viewsName = false)
    (hselected : ∀ k ∈ c.options.enabled, registry.contains k.partialName = true)
    (results : Kind → Except Fault String)
    (hresults : ∀ k ∈ c.options.enabled, PrintsPartial r c k (results k)) :
    r.render c = toRenderResult (followed (.ok (headerText c))
      (inOrder (c.options.enabled.map results))) := by
  have hregistry := (Renderer.ofRegistry_eq_ok_iff.mp h).1
  have hmissing : r.missingPartial? c.options.enabled = none := by
    simpa [Renderer.missingPartial?, hregistry] using hselected
  have hsections := prints_sections c results Kind.all fun k _ hk =>
    hresults k ((c.options.mem_enabled k).mpr hk)
  have hall := (prints_header c _ _ hsections).of_state
    (fun st => { st with current := some viewsName }) (fun _ => rfl) fun _ => rfl
  rw [Renderer.render, hmissing, Renderer.expandNamed, Renderer.find?_views h hviews]
  exact expand_eq c (render_eq hall)

theorem contains_of_render_eq_ok (h : Renderer.ofRegistry registry = .ok r) {text : String}
    (htext : r.render c = .ok text) :
    ∀ k ∈ c.options.enabled, registry.contains k.partialName = true := by
  have hregistry := (Renderer.ofRegistry_eq_ok_iff.mp h).1
  cases hmissing : r.missingPartial? c.options.enabled with
  | some name =>
      rw [Renderer.render, hmissing] at htext
      cases htext
  | none => simpa [Renderer.missingPartial?, hregistry] using hmissing

theorem render_header (h : Renderer.ofRegistry registry = .ok r)
    (hviews : registry.contains viewsName = false) :
    r.render { c with options := {} } = .ok (headerText c) := by
  have hnone : ({ c with options := {} } : Context).options.enabled = [] := rfl
  have hrender := render_eq_inOrder { c with options := {} } h hviews (by simp [hnone])
    (fun _ => .ok "") (by simp [hnone])
  rw [hrender, hnone, List.map_nil, inOrder, followed_empty]
  rfl

theorem render_eq_ok_iff (h : Renderer.ofRegistry registry = .ok r)
    (hviews : registry.contains viewsName = false) (hplain : registry.IsPlain)
    (hselected : ∀ k ∈ c.options.enabled, registry.contains k.partialName = true) (text : String) :
    r.render c = .ok text ↔ ∃ bodies : List String,
      c.options.enabled.map (r.renderSection c) = bodies.map .ok ∧
        text = headerText c ++ String.join bodies := by
  have hexists (k : Kind) : ∃ result, registry.contains k.partialName = true →
      PrintsPartial r c k result := by
    by_cases hk : registry.contains k.partialName = true
    · obtain ⟨result, hresult⟩ := exists_printsPartial c h hplain hk
      exact ⟨result, fun _ => hresult⟩
    · exact ⟨.ok "", fun h => absurd h hk⟩
  obtain ⟨results, hresults⟩ := Classical.skolem.mp hexists
  have hprints (k : Kind) (hk : k ∈ c.options.enabled) := hresults k (hselected k hk)
  have hsections : c.options.enabled.map (r.renderSection c) =
      (c.options.enabled.map results).map toRenderResult := by
    rw [List.map_map]
    exact List.map_congr_left fun k hk => renderSection_eq c h (hselected k hk) (hprints k hk)
  have hok (rs : List (Except Fault String)) (bodies : List String) :
      rs.map toRenderResult = bodies.map .ok ↔ rs = bodies.map .ok := by
    induction rs generalizing bodies with
    | nil => cases bodies <;> simp
    | cons r rs ih => cases bodies <;> simp [ih, toRenderResult_eq_ok_iff]
  rw [render_eq_inOrder c h hviews hselected results hprints, toRenderResult_eq_ok_iff, followed_eq_ok_iff,
    hsections]
  constructor
  · rintro ⟨s, s', hs, hrest, rfl⟩
    obtain ⟨bodies, hbodies, rfl⟩ := (inOrder_eq_ok_iff _ _).mp hrest
    cases hs
    exact ⟨bodies, (hok _ _).mpr hbodies, rfl⟩
  · rintro ⟨bodies, hbodies, rfl⟩
    exact ⟨_, _, rfl, (inOrder_eq_ok_iff _ _).mpr ⟨bodies, (hok _ _).mp hbodies, rfl⟩, rfl⟩

theorem exists_map_ok_iff (f : Kind → Except RenderError String) (ks : List Kind) :
    (∃ bodies : List String, ks.map f = bodies.map .ok) ↔ ∀ k ∈ ks, ∃ body, f k = .ok body := by
  induction ks with
  | nil => exact ⟨fun _ _ hk => absurd hk List.not_mem_nil, fun _ => ⟨[], rfl⟩⟩
  | cons k ks ih =>
      rw [List.forall_mem_cons, ← ih]
      constructor
      · rintro ⟨bodies, hbodies⟩
        cases bodies with
        | nil => cases hbodies
        | cons body bodies =>
            obtain ⟨hbody, hrest⟩ := List.cons.inj hbodies
            exact ⟨⟨body, hbody⟩, bodies, hrest⟩
      · rintro ⟨⟨body, hbody⟩, bodies, hrest⟩
        exact ⟨body :: bodies, by rw [List.map_cons, List.map_cons, hbody, hrest]⟩

end

section

variable {r : Renderer} (h : Renderer.ofRegistry Registry.builtin = .ok r) (c : Context)

include h

theorem renderSection_builtin (k : Kind) : r.renderSection c k = .ok (classText c k) := by
  obtain ⟨inner, hinner⟩ := Depth.exists_enter_start (library r c) (some k.partialName)
  exact renderSection_eq c h (Registry.contains_builtin k)
    (printsPartial_of_nodes c hinner (Renderer.find?_builtinPartial h k)
      (prints_builtinPartial c _ _ k))

theorem render_builtin :
    r.render c = .ok (headerText c ++ String.join (c.options.enabled.map (classText c))) := by
  refine (render_eq_ok_iff c h Registry.not_contains_builtin_views Registry.builtin_isPlain
    (fun k _ => Registry.contains_builtin k) _).mpr ⟨_, ?_, rfl⟩
  rw [List.map_map]
  exact List.map_congr_left fun k _ => renderSection_builtin h c k

theorem renderForm_builtin : r.renderForm c = .ok (formText c) := by
  have hform := (prints_form c r.templates (expandIn r c)).of_state
    (fun st => { st with current := some formName }) (fun _ => rfl) fun _ => rfl
  rw [Renderer.renderForm, Renderer.expandNamed,
    Renderer.find?_form h Registry.not_contains_builtin_form]
  exact expand_eq c (render_eq hform)

end

/-- Rendering a views module whole and rendering it section by section agree, as long as partials
include no others: both fail for the same contexts, and the module is the header with the sections
behind it. So the two texts that a generator makes of a views module are the same. -/
theorem render_eq_header_append_sections {registry : Registry} {r : Renderer}
    (h : Renderer.ofRegistry registry = .ok r) (hviews : registry.contains viewsName = false)
    (hplain : registry.IsPlain) :
    (∀ c : Context, (∀ k ∈ c.options.enabled, registry.contains k.partialName = true) →
      ((∃ text, r.render c = .ok text) ↔
        ∀ k ∈ c.options.enabled, ∃ body, r.renderSection c k = .ok body) ∧
      ∀ text, r.render c = .ok text → ∃ header, ∃ bodies : List String,
        r.render { c with options := {} } = .ok header ∧
        c.options.enabled.map (r.renderSection c) = bodies.map .ok ∧
        text = header ++ String.join bodies) ∧
    ∀ (g : Scaffold.Generator) (t : Files.FileTree) (files : List Scaffold.GeneratedFile),
      g.renderer = r → g.generate t = .ok files → ∃ views others merge, files = views :: others ∧
        views.merge = some merge ∧
        views.content = merge.header ++ String.join (merge.sections.map (·.body)) := by
  constructor
  · intro c hselected
    have hrender := render_eq_ok_iff c h hviews hplain hselected
    constructor
    · rw [← exists_map_ok_iff]
      constructor
      · rintro ⟨text, htext⟩
        obtain ⟨bodies, hbodies, -⟩ := (hrender text).mp htext
        exact ⟨bodies, hbodies⟩
      · rintro ⟨bodies, hbodies⟩
        exact ⟨_, (hrender _).mpr ⟨bodies, hbodies, rfl⟩⟩
    · intro text htext
      obtain ⟨bodies, hbodies, heq⟩ := (hrender text).mp htext
      exact ⟨headerText c, bodies, render_header c h hviews, hbodies, heq⟩
  · rintro g t files rfl hfiles
    obtain ⟨views, others, hviewsFile, rfl, -⟩ := (g.generate_eq_ok_iff t files).mp hfiles
    obtain ⟨content, header, sections, hcontent, hheader, hsections, rfl⟩ :=
      (g.viewsFile_eq_ok_iff t views).mp hviewsFile
    obtain ⟨hbody, rfl⟩ := (g.sections_eq_ok_iff _ sections).mp hsections
    have hselected := contains_of_render_eq_ok g.context h hcontent
    obtain ⟨bodies, hbodies, rfl⟩ :=
      (render_eq_ok_iff g.context h hviews hplain hselected content).mp hcontent
    have hheader' := render_header g.context h hviews
    rw [hheader] at hheader'
    have heq : bodies = g.context.options.enabled.map g.body := by
      have hmap : g.context.options.enabled.map (g.renderer.renderSection g.context) =
          (g.context.options.enabled.map g.body).map Except.ok := by
        rw [List.map_map]
        exact List.map_congr_left hbody
      exact (List.map_inj_right fun _ _ => Except.ok.inj).mp (hbodies.symm.trans hmap)
    refine ⟨_, others, ⟨header, _⟩, rfl, rfl, ?_⟩
    rw [Except.ok.inj hheader', heq, List.map_map]
    rfl

theorem render_eq_header_append_sections_builtin :
    ∃ r, Renderer.ofRegistry Registry.builtin = .ok r ∧
      ∃ text header : String, ∃ bodies : List String,
        r.render (Context.ofOptions "blog" "Post" .all) = .ok text ∧
        r.render { Context.ofOptions "blog" "Post" .all with options := {} } = .ok header ∧
        Kind.all.map (r.renderSection (Context.ofOptions "blog" "Post" .all)) = bodies.map .ok ∧
        text = header ++ String.join bodies := by
  obtain ⟨r, h⟩ := Renderer.exists_ofRegistry_builtin
  have hrender := render_builtin h (Context.ofOptions "blog" "Post" .all)
  obtain ⟨header, bodies, hheader, hbodies, htext⟩ :=
    ((render_eq_header_append_sections h Registry.not_contains_builtin_views
      Registry.builtin_isPlain).1 (Context.ofOptions "blog" "Post" .all)
      fun k _ => Registry.contains_builtin k).2 _ hrender
  exact ⟨r, h, _, header, bodies, hrender, hheader, hbodies, htext⟩

end Viewsmith.View
