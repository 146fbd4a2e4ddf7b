import Mathlib.Data.List.Find
import Viewsmith.Proofs.Template.Relevance
import Viewsmith.Proofs.View.Sections

namespace Viewsmith.View

open Template

variable {registry registry' : Registry} {r r' : Renderer} {names : Set String}

/-- Two registries have the same partials of some names, and these include only each other, and never
the views module itself. -/
structure Registry.SameOn (names : Set String) (registry registry' : Registry) : Prop where
  lookup : ∀ name ∈ names, registry.lookup? name = registry'.lookup? name
  closed : ∀ name ∈ names, ∀ callee ∈ registry.included name,
    ∃ other ∈ names, other ≠ viewsName ∧ callee = some other

theorem Registry.SameOn.contains_eq (h : registry.SameOn names registry') {name : String}
    (hname : name ∈ names) : registry.contains name = registry'.contains name := by
  rw [contains, contains, h.lookup name hname]

theorem Kind.partialName_ne_viewsName (k : Kind) : k.partialName ≠ viewsName := by
  cases k <;> decide

/-- A name other than that of the views module has the same template in two renderers, if it has the
same partial or none in both. -/
theorem Renderer.find?_congr (h : ofRegistry registry = .ok r) (h' : ofRegistry registry' = .ok r')
    (hsorted : Table.Sorted registry.partials) (hsorted' : Table.Sorted registry'.partials)
    {name : String} (hname : registry.lookup? name = registry'.lookup? name) :
    Table.find? name r.templates = Table.find? name r'.templates := by
  cases hbody : registry.lookup? name with
  | some body =>
      obtain ⟨nodes, hnodes, hfind⟩ := find?_of_lookup? h hsorted hbody
      obtain ⟨nodes', hnodes', hfind'⟩ := find?_of_lookup? h' hsorted' (hname ▸ hbody)
      rw [hfind, hfind', ← hnodes, ← hnodes']
  | none =>
      have habsent : registry.contains name = false := by rw [Registry.contains, hbody]; rfl
      have habsent' : registry'.contains name = false := by rw [Registry.contains, ← hname, hbody]; rfl
      rw [find?_of_not_contains h habsent, find?_of_not_contains h' habsent']

/-- What a template of a renderer includes is what the partial of its name includes; the built-in form
includes nothing. -/
theorem Renderer.included_of_find? (h : ofRegistry registry = .ok r)
    (hsorted : Table.Sorted registry.partials) {name : String} (hname : name ≠ viewsName)
    {nodes : List Node} (hfind : Table.find? name r.templates = some nodes) :
    included nodes = registry.included name := by
  cases hbody : registry.lookup? name with
  | some body =>
      obtain ⟨nodes', hnodes', hfind'⟩ := find?_of_lookup? h hsorted hbody
      rw [hfind] at hfind'
      cases hfind'
      rw [Registry.included_of_lookup? hbody hnodes']
  | none =>
      have habsent : registry.contains name = false := by rw [Registry.contains, hbody]; rfl
      rw [find?_of_not_contains h habsent, if_neg (Ne.symm hname)] at hfind
      rw [Registry.included, hbody]
      split at hfind
      · cases hfind
        exact included_of_allPlain formNodes rfl
      · cases hfind

theorem sameOn_library (h : Renderer.ofRegistry registry = .ok r)
    (h' : Renderer.ofRegistry registry' = .ok r') (hsorted : Table.Sorted registry.partials)
    (hsorted' : Table.Sorted registry'.partials) (hsame : registry.SameOn names registry')
    (c : Context) : SameOn { name ∈ names | name ≠ viewsName } (library r c) (library r' c) where
  data := rfl
  templates name hname := Renderer.find?_congr h h' hsorted hsorted' (hsame.lookup name hname.1)
  closed name hname nodes hfind := by
    rw [Renderer.included_of_find? h hsorted hname.2 hfind]
    intro callee hcallee
    obtain ⟨other, hother, hviews, hcallee⟩ := hsame.closed name hname.1 callee hcallee
    exact ⟨other, ⟨hother, hviews⟩, hcallee⟩

section

variable {c : Context} (h : SameOn names (library r c) (library r' c))

include h

/-- The blocks of the views agree: a view that is not selected is not looked at. -/
theorem agree_sections (ks : List Kind) (hks : ∀ k ∈ ks, c.options.has k = true → k.partialName ∈ names) :
    Agree names (renderNodes (library r c) (expandIn r c) (ks.flatMap sectionNodes) {})
      (renderNodes (library r' c) (expandIn r' c) (ks.flatMap sectionNodes) {}) := by
  induction ks with
  | nil => exact agree_atStart h (by rw [List.flatMap_nil, included]; exact among_nil)
  | cons k ks ih =>
      rw [List.forall_mem_cons] at hks
      obtain ⟨hk, hks⟩ := hks
      have hsection : Agree names (renderNodes (library r c) (expandIn r c) (sectionNodes k) {})
          (renderNodes (library r' c) (expandIn r' c) (sectionNodes k) {}) := by
        cases hon : c.options.has k with
        | true =>
            refine agree_atStart h ?_
            have hincluded : included (sectionNodes k) = [some k.partialName] := rfl
            rw [hincluded]
            exact among_cons.mpr ⟨⟨_, hk hon, rfl⟩, among_nil⟩
        | false =>
            have hflag := resolve_optionPath c k
            rw [hon] at hflag
            have hskipped (r : Renderer) : renderNodes (library r c) (expandIn r c) (sectionNodes k) {} =
                fun st => (runAware true .ok st).bind fun st => .ok (st.write none "") := by
              funext st
              rw [sectionNodes, renderNodes_cons, ifNode, ifCall,
                renderNode_skipped (library r c) (expandIn r c) hflag rfl]
              rfl
            rw [hskipped r, hskipped r']
            exact (agree_ok.runAware true).andThen (agree_keep _ fun _ => rfl)
      rw [List.flatMap_cons]
      exact agree_append hsection (ih hks)

theorem agree_viewsNodes (hselected : ∀ k ∈ c.options.enabled, k.partialName ∈ names) :
    Agree names (renderNodes (library r c) (expandIn r c) viewsNodes {})
      (renderNodes (library r' c) (expandIn r' c) viewsNodes {}) := by
  have hheader : Agree names (renderNodes (library r c) (expandIn r c) headerNodes {})
      (renderNodes (library r' c) (expandIn r' c) headerNodes {}) :=
    agree_atStart h (by rw [included_of_allPlain headerNodes rfl]; exact among_nil)
  have hsections := agree_sections h Kind.all fun k _ hk =>
    hselected k ((c.options.mem_enabled k).mpr hk)
  rw [viewsNodes_eq]
  exact agree_append hheader hsections

end

theorem expand_congr {c : Context} {name : Option String} {nodes : List Node}
    (hnodes : Agree names (renderNodes (library r c) (expandIn r c) nodes {})
      (renderNodes (library r' c) (expandIn r' c) nodes {})) :
    r.expand c name nodes = r'.expand c name nodes := by
  have hrender : Template.render (library r c) name nodes = Template.render (library r' c) name nodes :=
    render_congr hnodes
  rw [Renderer.expand, Renderer.expand, hrender]

section

variable (h : Renderer.ofRegistry registry = .ok r) (h' : Renderer.ofRegistry registry' = .ok r')
  (hsorted : Table.Sorted registry.partials) (hsorted' : Table.Sorted registry'.partials)
  (hsame : registry.SameOn names registry') (c : Context)

include h h' hsame

theorem missingPartial?_congr {ks : List Kind} (hks : ∀ k ∈ ks, k.partialName ∈ names) :
    r.missingPartial? ks = r'.missingPartial? ks := by
  rw [Renderer.missingPartial?, Renderer.missingPartial?, (Renderer.ofRegistry_eq_ok_iff.mp h).1,
    (Renderer.ofRegistry_eq_ok_iff.mp h').1]
  exact congrArg _ (List.find?_congr fun k hk => by rw [hsame.contains_eq (hks k hk)])

include hsorted hsorted'

theorem render_eq_of_sameOn (hviews : registry.contains viewsName = false)
    (hviews' : registry'.contains viewsName = false)
    (hselected : ∀ k ∈ c.options.enabled, k.partialName ∈ names) : r.render c = r'.render c := by
  have hexpand : r.expand c (some viewsName) viewsNodes = r'.expand c (some viewsName) viewsNodes :=
    expand_congr (agree_viewsNodes (sameOn_library h h' hsorted hsorted' hsame c) fun k hk =>
      ⟨hselected k hk, k.partialName_ne_viewsName⟩)
  rw [Renderer.render, Renderer.render, missingPartial?_congr h h' hsame hselected,
    Renderer.expandNamed, Renderer.expandNamed, Renderer.find?_views h hviews,
    Renderer.find?_views h' hviews']
  dsimp only
  rw [hexpand]

theorem renderSection_eq_of_sameOn {k : Kind} (hk : k.partialName ∈ names) :
    r.renderSection c k = r'.renderSection c k := by
  have hincluded : included [partialNode k] = [some k.partialName] := rfl
  have hexpand : r.expand c none [partialNode k] = r'.expand c none [partialNode k] := by
    refine expand_congr (agree_atStart (sameOn_library h h' hsorted hsorted' hsame c) ?_)
    rw [hincluded]
    exact among_cons.mpr ⟨⟨_, ⟨hk, k.partialName_ne_viewsName⟩, rfl⟩, among_nil⟩
  have hcompile : compileTemplate (sectionTemplate k) = .ok [partialNode k] :=
    (compileTemplate_eq_ok_iff _ _).mpr (compile_sectionTemplate k)
  have hmissing : r.missingPartial? [k] = r'.missingPartial? [k] :=
    missingPartial?_congr h h' hsame (by simpa using hk)
  rw [Renderer.renderSection, Renderer.renderSection, hmissing, hcompile]
  split
  · rfl
  · exact hexpand

end

/-- Partials that are not used have no influence. Of two registries that have the same partials of
some names, among them the selected views and whatever these partials include, both render the same
views module, or fail in the same way. So does the section of every view whose name is among them. -/
theorem unused_partials_irrelevant (h : Renderer.ofRegistry registry = .ok r)
    (h' : Renderer.ofRegistry registry' = .ok r') (hsorted : Table.Sorted registry.partials)
    (hsorted' : Table.Sorted registry'.partials) (hviews : registry.contains viewsName = false)
    (hviews' : registry'.contains viewsName = false) (c : Context)
    (hselected : ∀ k ∈ c.options.enabled, k.partialName ∈ names)
    (hsame : registry.SameOn names registry') :
    r.render c = r'.render c ∧
      ∀ k : Kind, k.partialName ∈ names → r.renderSection c k = r'.renderSection c k :=
  ⟨render_eq_of_sameOn h h' hsorted hsorted' hsame c hviews hviews' hselected,
    fun _ hk => renderSection_eq_of_sameOn h h' hsorted hsorted' hsame c hk⟩

def borrowingRegistry : Registry :=
  (Registry.empty.register "ListView" (sectionTemplate .detail)).register "DetailView"
    (builtinPartial .detail)

theorem unused_partials_irrelevant_borrowed :
    ∃ r r', Renderer.ofRegistry borrowingRegistry = .ok r ∧
      Renderer.ofRegistry (borrowingRegistry.register "CreateView" (builtinPartial .create)) = .ok r' ∧
      r.render (Context.ofOptions "blog" "Post" { list := true }) =
        r'.render (Context.ofOptions "blog" "Post" { list := true }) := by
  have hlist : Template.compile (sectionTemplate .detail) = some [partialNode .detail] :=
    compile_sectionTemplate .detail
  have hcompile : ∀ p ∈ borrowingRegistry.partials, ∃ nodes, Template.compile p.2 = some nodes := by
    intro p hp
    obtain rfl | hp := Table.mem_set hp
    · exact ⟨_, compile_builtinPartial .detail⟩
    obtain rfl | hp := Table.mem_set hp
    · exact ⟨_, hlist⟩
    · exact absurd hp List.not_mem_nil
  obtain ⟨r, h⟩ := Renderer.exists_ofRegistry hcompile
  obtain ⟨r', h'⟩ : ∃ r', Renderer.ofRegistry
      (borrowingRegistry.register "CreateView" (builtinPartial .create)) = .ok r' := by
    refine Renderer.exists_ofRegistry fun p hp => ?_
    obtain rfl | hp := Table.mem_set hp
    · exact ⟨_, compile_builtinPartial .create⟩
    · exact hcompile p hp
  have hsorted : Table.Sorted borrowingRegistry.partials :=
    Registry.sorted_register (Registry.sorted_register Table.sorted_nil _ _) _ _
  have hsame : borrowingRegistry.SameOn { name | name = "ListView" ∨ name = "DetailView" }
      (borrowingRegistry.register "CreateView" (builtinPartial .create)) := by
    constructor
    · rintro name (rfl | rfl) <;> decide
    · rintro name (rfl | rfl) callee hcallee
      · rw [Registry.included_of_lookup? (by decide) hlist] at hcallee
        obtain rfl := List.mem_singleton.mp hcallee
        exact ⟨"DetailView", .inr rfl, by decide, rfl⟩
      · rw [Registry.included_of_lookup? (by decide) (compile_builtinPartial .detail)] at hcallee
        exact absurd hcallee List.not_mem_nil
  exact ⟨r, r', h, h', (unused_partials_irrelevant h h' hsorted
    (Registry.sorted_register hsorted _ _) (by decide) (by decide) _ (by decide) hsame).1⟩

end Viewsmith.View
