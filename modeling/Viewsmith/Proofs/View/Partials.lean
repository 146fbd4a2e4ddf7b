import Viewsmith.Proofs.Failure
import Viewsmith.Proofs.Table
import Viewsmith.Proofs.Template.Inclusions
import Viewsmith.Proofs.View.Compiled

namespace Viewsmith.View

open Template

theorem compileTemplate_eq_ok_iff (source : String) (nodes : List Node) :
    compileTemplate source = .ok nodes ↔ Template.compile source = some nodes := by
  unfold compileTemplate
  cases Template.compile source <;> simp

section

variable {templates ts : List (String × List Node)} {ps : List (String × String)}

theorem find?_addPartials (h : addPartials templates ps = .ok ts) (name : String) :
    (∃ body nodes, (name, body) ∈ ps ∧ Template.compile body = some nodes ∧
        Table.find? name ts = some nodes) ∨
      (∀ body, (name, body) ∉ ps) ∧ Table.find? name ts = Table.find? name templates := by
  induction ps generalizing templates with
  | nil =>
      rw [addPartials] at h
      cases h
      exact .inr ⟨fun body => List.not_mem_nil, rfl⟩
  | cons p ps ih =>
      obtain ⟨other, body⟩ := p
      obtain ⟨nodes, hnodes, hrest⟩ := bind_eq_ok_iff.mp h
      rw [compileTemplate_eq_ok_iff] at hnodes
      obtain ⟨body', nodes', hmem, hcompile, hfind⟩ | ⟨hnot, hfind⟩ := ih hrest
      · exact .inl ⟨body', nodes', List.mem_cons_of_mem _ hmem, hcompile, hfind⟩
      · by_cases hname : other = name
        · subst hname
          rw [Table.find?_set_self] at hfind
          exact .inl ⟨body, nodes, List.mem_cons_self, hnodes, hfind⟩
        · rw [Table.find?_set_of_ne nodes templates hname] at hfind
          refine .inr ⟨fun body' hmem => ?_, hfind⟩
          obtain heq | hmem := List.mem_cons.mp hmem
          · exact hname (Prod.mk.inj heq).1.symm
          · exact hnot body' hmem

theorem exists_addPartials (templates : List (String × List Node))
    (h : ∀ p ∈ ps, ∃ nodes, Template.compile p.2 = some nodes) :
    ∃ ts, addPartials templates ps = .ok ts := by
  induction ps generalizing templates with
  | nil => exact ⟨templates, rfl⟩
  | cons p ps ih =>
      obtain ⟨name, body⟩ := p
      rw [List.forall_mem_cons] at h
      obtain ⟨⟨nodes, hnodes⟩, hps⟩ := h
      obtain ⟨ts, hts⟩ := ih (Table.set name nodes templates) hps
      exact ⟨ts, bind_eq_ok_iff.mpr ⟨nodes, (compileTemplate_eq_ok_iff _ _).mpr hnodes, hts⟩⟩

end

namespace Registry

theorem exists_mem_of_contains {registry : Registry} {name : String}
    (h : registry.contains name = true) : ∃ body, (name, body) ∈ registry.partials := by
  obtain ⟨ps⟩ := registry
  rw [contains, lookup?] at h
  induction ps with
  | nil => cases h
  | cons p ps ih =>
      obtain ⟨other, body⟩ := p
      by_cases hname : other = name
      · subst hname
        exact ⟨body, List.mem_cons_self⟩
      · rw [Table.find?, if_neg hname] at h
        obtain ⟨body', hmem⟩ := ih h
        exact ⟨body', List.mem_cons_of_mem _ hmem⟩

theorem contains_of_mem {registry : Registry} {name body : String}
    (h : (name, body) ∈ registry.partials) : registry.contains name = true := by
  obtain ⟨ps⟩ := registry
  rw [contains, lookup?]
  induction ps with
  | nil => cases h
  | cons p ps ih =>
      obtain ⟨other, body'⟩ := p
      rw [Table.find?]
      by_cases hname : other = name
      · rw [if_pos hname]
        rfl
      · rw [if_neg hname]
        obtain heq | hmem := List.mem_cons.mp h
        · exact absurd (Prod.mk.inj heq).1.symm hname
        · exact ih hmem

/-- No partial includes or defines another one. -/
def IsPlain (registry : Registry) : Prop :=
  ∀ p ∈ registry.partials, ∀ nodes, Template.compile p.2 = some nodes → allPlain nodes = true

theorem mem_builtin {p : String × String} (h : p ∈ builtin.partials) :
    ∃ k : Kind, p = (k.partialName, builtinPartial k) := by
  have hfold (ks : List Kind) (r : Registry)
      (hr : ∀ q ∈ r.partials, ∃ k : Kind, q = (k.partialName, builtinPartial k)) :
      ∀ q ∈ (ks.foldl (fun r k => r.register k.partialName (builtinPartial k)) r).partials,
        ∃ k : Kind, q = (k.partialName, builtinPartial k) := by
    induction ks generalizing r with
    | nil => exact hr
    | cons k ks ih =>
        refine ih _ fun q hq => ?_
        obtain rfl | hq := Table.mem_set hq
        · exact ⟨k, rfl⟩
        · exact hr q hq
  exact hfold Kind.all empty (fun q hq => absurd hq List.not_mem_nil) p h

theorem sorted_register {r : Registry} (h : Table.Sorted r.partials) (name body : String) :
    Table.Sorted (r.register name body).partials := h.set name body

theorem contains_register (r : Registry) (name body other : String) :
    (r.register name body).contains other = (decide (name = other) || r.contains other) := by
  rw [contains, contains]
  by_cases hname : name = other
  · subst hname
    rw [lookup?_register_self, decide_eq_true rfl]
    rfl
  · rw [lookup?_register_of_ne r body hname, decide_eq_false hname, Bool.false_or]

theorem contains_builtin (k : Kind) : builtin.contains k.partialName = true := by
  rw [builtin, Kind.all]
  simp only [List.foldl_cons, List.foldl_nil, contains_register]
  cases k <;> decide

theorem builtin_isPlain : builtin.IsPlain := by
  intro p hp nodes hnodes
  obtain ⟨k, rfl⟩ := mem_builtin hp
  rw [compile_builtinPartial] at hnodes
  cases hnodes
  rfl

theorem not_contains_builtin {name : String} (h : ∀ k : Kind, k.partialName ≠ name) :
    builtin.contains name = false := by
  rw [Bool.eq_false_iff]
  intro hc
  obtain ⟨body, hmem⟩ := exists_mem_of_contains hc
  obtain ⟨k, hk⟩ := mem_builtin hmem
  exact h k (Prod.mk.inj hk).1.symm

theorem not_contains_builtin_views : builtin.contains viewsName = false :=
  not_contains_builtin fun k => by cases k <;> decide

theorem not_contains_builtin_form : builtin.contains formName = false :=
  not_contains_builtin fun k => by cases k <;> decide

def included (registry : Registry) (name : String) : List (Option String) :=
  match (registry.lookup? name).bind Template.compile with
  | some nodes => Template.included nodes
  | none => []

theorem included_of_lookup? {registry : Registry} {name body : String} {nodes : List Node}
    (hbody : registry.lookup? name = some body) (hnodes : Template.compile body = some nodes) :
    registry.included name = Template.included nodes := by
  rw [included, hbody, Option.bind_some, hnodes]

theorem included_register_self (r : Registry) {name body : String} {nodes : List Node}
    (h : Template.compile body = some nodes) :
    (r.register name body).included name = Template.included nodes :=
  included_of_lookup? (lookup?_register_self r name body) h

theorem included_register_of_ne (r : Registry) {name other : String} (body : String)
    (h : name ≠ other) : (r.register name body).included other = r.included other := by
  rw [included, included, lookup?_register_of_ne r body h]

end Registry

namespace Renderer

variable {registry : Registry} {r : Renderer}

theorem ofRegistry_eq_ok_iff : ofRegistry registry = .ok r ↔ r.registry = registry ∧
    addPartials (Table.ofEntries [(viewsName, viewsNodes), (formName, formNodes)])
      registry.partials = .ok r.templates := by
  have hviews : compileTemplate viewsTemplate = .ok viewsNodes :=
    (compileTemplate_eq_ok_iff _ _).mpr compile_viewsTemplate
  have hform : compileTemplate formTemplate = .ok formNodes :=
    (compileTemplate_eq_ok_iff _ _).mpr compile_formTemplate
  obtain ⟨registry', templates⟩ := r
  simp only [ofRegistry, bind_eq_ok_iff, hviews, hform, Except.ok.injEq, exists_eq_left']
  constructor
  · rintro ⟨ts, hts, heq⟩
    cases heq
    exact ⟨rfl, hts⟩
  · rintro ⟨rfl, hts⟩
    exact ⟨templates, hts, rfl⟩

theorem exists_ofRegistry (h : ∀ p ∈ registry.partials, ∃ nodes, Template.compile p.2 = some nodes) :
    ∃ r, ofRegistry registry = .ok r := by
  obtain ⟨ts, hts⟩ := exists_addPartials _ h
  exact ⟨⟨registry, ts⟩, ofRegistry_eq_ok_iff.mpr ⟨rfl, hts⟩⟩

theorem exists_ofRegistry_builtin : ∃ r, ofRegistry Registry.builtin = .ok r := by
  refine exists_ofRegistry fun p hp => ?_
  obtain ⟨k, rfl⟩ := Registry.mem_builtin hp
  exact ⟨partialNodes k, compile_builtinPartial k⟩

theorem find?_of_lookup? (h : ofRegistry registry = .ok r) (hsorted : Table.Sorted registry.partials)
    {name body : String} (hbody : registry.lookup? name = some body) :
    ∃ nodes, Template.compile body = some nodes ∧ Table.find? name r.templates = some nodes := by
  obtain ⟨-, hts⟩ := ofRegistry_eq_ok_iff.mp h
  obtain ⟨body', nodes, hmem, hnodes, hfind⟩ | ⟨hnot, -⟩ := find?_addPartials hts name
  · obtain rfl : body = body' := Option.some.inj (hbody.symm.trans (hsorted.mem_iff.mp hmem))
    exact ⟨nodes, hnodes, hfind⟩
  · exact absurd (Table.mem_of_find? hbody) (hnot body)

/-- Without a partial of its own, a name stands for a built-in template or for none. -/
theorem find?_of_not_contains (h : ofRegistry registry = .ok r) {name : String}
    (hname : registry.contains name = false) : Table.find? name r.templates =
      if formName = name then some formNodes
      else if viewsName = name then some viewsNodes else none := by
  obtain ⟨-, hts⟩ := ofRegistry_eq_ok_iff.mp h
  obtain ⟨body, nodes, hmem, -, -⟩ | ⟨-, hfind⟩ := find?_addPartials hts name
  · rw [Registry.contains_of_mem hmem] at hname
    cases hname
  · rw [hfind]
    rfl

theorem find?_views (h : ofRegistry registry = .ok r)
    (hviews : registry.contains viewsName = false) :
    Table.find? viewsName r.templates = some viewsNodes :=
  find?_of_not_contains h hviews

theorem find?_form (h : ofRegistry registry = .ok r)
    (hform : registry.contains formName = false) :
    Table.find? formName r.templates = some formNodes :=
  find?_of_not_contains h hform

theorem find?_partial (h : ofRegistry registry = .ok r) {name : String}
    (hname : registry.contains name = true) :
    ∃ body nodes, (name, body) ∈ registry.partials ∧ Template.compile body = some nodes ∧
      Table.find? name r.templates = some nodes := by
  obtain ⟨-, hts⟩ := ofRegistry_eq_ok_iff.mp h
  obtain ⟨body, hmem⟩ := Registry.exists_mem_of_contains hname
  obtain hfound | ⟨hnot, -⟩ := find?_addPartials hts name
  · exact hfound
  · exact absurd hmem (hnot body)

theorem find?_builtinPartial (h : ofRegistry Registry.builtin = .ok r) (k : Kind) :
    Table.find? k.partialName r.templates = some (partialNodes k) := by
  obtain ⟨body, nodes, hmem, hnodes, hfind⟩ := find?_partial h (Registry.contains_builtin k)
  obtain ⟨l, hl⟩ := Registry.mem_builtin hmem
  obtain ⟨hname, rfl⟩ := Prod.mk.inj hl
  rw [hfind, ← hnodes, ← Kind.className_injective hname, compile_builtinPartial]

end Renderer

end Viewsmith.View
