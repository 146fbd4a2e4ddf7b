import Mathlib.Logic.Relation
import Mathlib.Tactic.Choose
import Viewsmith.Proofs.Template.Faults
import Viewsmith.Proofs.View.UnusedPartials

namespace Viewsmith.View

open Template

namespace Registry

def Includes (registry : Registry) (name callee : String) : Prop :=
  some callee ∈ registry.included name

def Reaches (registry : Registry) (kinds : List Kind) (name : String) : Prop :=
  ∃ k ∈ kinds, Relation.ReflTransGen registry.Includes k.partialName name

/-- The order in which the expansion of a name meets names: the name itself, and then what it
includes, each in its turn and to the end. -/
inductive Expands (registry : Registry) : String → List String → Prop
  | intro {name : String} {names : List String} (orders : String → List String)
      (hnames : registry.included name = names.map some)
      (h : ∀ n ∈ names, registry.Expands n (orders n)) :
      registry.Expands name (name :: names.flatMap orders)

/-- The fault of a name itself, whatever the partials say that it leads to. The body that a partial was
given goes by a name of its own, and nothing that is registered under that name is ever used. -/
def faultAt (registry : Registry) (name : String) : Option Fault :=
  if name = partialBlockName then some .other
  else if registry.contains name then none
  else some (.unknownPartial name)

/-- The partials that some views lead to hold text and plain includes of partials, never of a built-in
module, and no partial includes itself, be it through others. -/
structure StaticFrom (registry : Registry) (kinds : List Kind) : Prop where
  static : ∀ name, registry.Reaches kinds name → ∀ body nodes,
    registry.lookup? name = some body → Template.compile body = some nodes →
      nodes.all Node.isStatic = true
  notBuiltin : ∀ name, registry.Reaches kinds name → name ≠ viewsName ∧ name ≠ formName
  acyclic : ∀ name, registry.Reaches kinds name → ¬ Relation.TransGen registry.Includes name name

variable {registry : Registry}

theorem Expands.unique {name : String} {order order' : List String}
    (h : registry.Expands name order) (h' : registry.Expands name order') : order = order' := by
  induction h generalizing order' with
  | @intro name names orders hnames _ ih =>
      cases h' with
      | @intro _ names' orders' hnames' hrest =>
          obtain rfl : names = names' :=
            List.map_injective_iff.mpr (fun _ _ => Option.some.inj) (hnames.symm.trans hnames')
          refine congrArg _ ?_
          rw [List.flatMap_def, List.flatMap_def]
          exact congrArg _ (List.map_congr_left fun n hn => ih n hn (hrest n hn))

theorem Reaches.step {kinds : List Kind} {name callee : String} (h : registry.Reaches kinds name)
    (hstep : registry.Includes name callee) : registry.Reaches kinds callee := by
  obtain ⟨k, hk, hpath⟩ := h
  exact ⟨k, hk, hpath.tail hstep⟩

theorem reaches_of_mem {kinds : List Kind} {k : Kind} (hk : k ∈ kinds) :
    registry.Reaches kinds k.partialName := ⟨k, hk, .refl⟩

theorem faultAt_of_contains {name : String} (hblock : name ≠ partialBlockName)
    (h : registry.contains name = true) : registry.faultAt name = none := by
  rw [faultAt, if_neg hblock, if_pos h]

theorem faultAt_partialBlockName : registry.faultAt partialBlockName = some .other := if_pos rfl

theorem faultAt_of_not_contains {name : String} (hblock : name ≠ partialBlockName)
    (h : registry.contains name = false) : registry.faultAt name = some (.unknownPartial name) := by
  rw [faultAt, if_neg hblock, if_neg (by rw [h]; exact Bool.false_ne_true)]

end Registry

theorem findSome?_flatMap {α β γ : Type} (f : α → List β) (g : β → Option γ) (xs : List α) :
    (xs.flatMap f).findSome? g = xs.findSome? fun x => (f x).findSome? g := by
  induction xs with
  | nil => rfl
  | cons x xs ih =>
      rw [List.flatMap_cons, List.findSome?_append, ih, findSome?_cons_or]

section

variable {registry : Registry} {r : Renderer} (h : Renderer.ofRegistry registry = .ok r)
  (hsorted : Table.Sorted registry.partials) {kinds : List Kind} (hstatic : registry.StaticFrom kinds)
  (c : Context)

include h hsorted hstatic

omit c in
theorem exists_included {name : String} (hreach : registry.Reaches kinds name) :
    ∃ names : List String, registry.included name = names.map some := by
  cases hbody : registry.lookup? name with
  | none => exact ⟨[], by rw [Registry.included, hbody]; rfl⟩
  | some body =>
      obtain ⟨nodes, hnodes, -⟩ := Renderer.find?_of_lookup? h hsorted hbody
      rw [Registry.included_of_lookup? hbody hnodes]
      exact exists_included_of_isStatic (hstatic.static name hreach body nodes hbody hnodes)

omit hsorted hstatic in
theorem meets_absent (expand : Frame → List Node → Action) {frame : Frame} {name : String}
    {current : Option String} {call : Call} {indent : Indent} (hviews : name ≠ viewsName)
    (hform : name ≠ formName) (habsent : registry.contains name = false) (hgiven : frame.given = none)
    (hcurrent : current ≠ some name) (hbare : call.isBare = true)
    (hcall : call.name.static? = some name) :
    Meets { current } (renderNode (library r c) expand (.inclusion call indent none) frame)
      (registry.faultAt name) := by
  refine meets_inclusion _ _ hbare hcall hgiven hcurrent fun st hst => ?_
  by_cases hblock : name = partialBlockName
  · subst hblock
    rw [Registry.faultAt_partialBlockName, fault?_runBare_partialBlock]
  · have hfind : Table.find? name r.templates = none := by
      rw [Renderer.find?_of_not_contains h habsent, if_neg (Ne.symm hform), if_neg (Ne.symm hviews)]
    rw [Registry.faultAt_of_not_contains hblock habsent, fault?_runBare_of_absent _ _ hblock hfind]

omit h hsorted hstatic in
/-- To include a name with a partial fails as the partial does, unless the name stands for a body. -/
theorem meets_registered (expand : Frame → List Node → Action) {frame : Frame} {name : String}
    {current : Option String} {call : Call} {indent : Indent} {nodes : List Node} {e? : Option Fault}
    (hcontains : registry.contains name = true) (hfind : Table.find? name r.templates = some nodes)
    (hgiven : frame.given = none) (hcurrent : current ≠ some name) (hbare : call.isBare = true)
    (hcall : call.name.static? = some name)
    (hmeets : Meets { some name } (expand (frame.inside indent.blanks) nodes) e?) :
    Meets { current } (renderNode (library r c) expand (.inclusion call indent none) frame)
      ((registry.faultAt name).or e?) := by
  refine meets_inclusion _ _ hbare hcall hgiven hcurrent fun st hst => ?_
  by_cases hblock : name = partialBlockName
  · subst hblock
    rw [Registry.faultAt_partialBlockName, fault?_runBare_partialBlock]
    rfl
  · rw [Registry.faultAt_of_contains hblock hcontains, Option.none_or]
    exact fault?_runBare_of_meets _ _ hblock hfind hmeets hst

/-- A name that is reached has an expansion, and to include it fails with the first fault there is in
its expansion. The names that are no longer fresh lead to this one. -/
theorem exists_expansion (d : Depth) {name : String} (hreach : registry.Reaches kinds name)
    (hfresh : ∀ other, registry.contains other = true → other ∉ d.fresh →
      Relation.TransGen registry.Includes other name) :
    ∃ order, registry.Expands name order ∧
      ∀ (frame : Frame) (current : Option String) (call : Call) (indent : Indent),
        frame.given = none → current ≠ some name → call.isBare = true →
        call.name.static? = some name →
        Meets { current } (renderNode (library r c) (expandWithin (library r c) d)
          (.inclusion call indent none) frame) (order.findSome? registry.faultAt) := by
  cases hbody : registry.lookup? name with
  | none =>
      obtain ⟨hviews, hform⟩ := hstatic.notBuiltin name hreach
      have habsent : registry.contains name = false := by rw [Registry.contains, hbody]; rfl
      have hnames : registry.included name = ([] : List String).map some := by
        rw [Registry.included, hbody]
        rfl
      refine ⟨[name], .intro (fun _ => []) hnames fun n hn => absurd hn List.not_mem_nil,
        fun frame current call indent hgiven hcurrent hbare hcall => ?_⟩
      rw [findSome?_cons_or, List.findSome?_nil, Option.or_none]
      exact meets_absent h c _ hviews hform habsent hgiven hcurrent hbare hcall
  | some body =>
      have hcontains : registry.contains name = true := by rw [Registry.contains, hbody]; rfl
      obtain ⟨nodes, hnodes, hfind⟩ := Renderer.find?_of_lookup? h hsorted hbody
      have hall := hstatic.static name hreach body nodes hbody hnodes
      obtain ⟨names, hnames⟩ := exists_included_of_isStatic hall
      have hincluded : registry.included name = names.map some :=
        (Registry.included_of_lookup? hbody hnodes).trans hnames
      have hstep (n : String) (hn : n ∈ names) : registry.Includes name n := by
        rw [Registry.Includes, hincluded]
        exact List.mem_map_of_mem hn
      have hmem : name ∈ d.fresh := by
        by_contra hopen
        exact hstatic.acyclic name hreach (hfresh name hcontains hopen)
      have hinner := Depth.enter_of_mem hmem
      have hinside (n : String) (hn : n ∈ names) := exists_expansion
        { d with fresh := d.fresh.filter (· ≠ name) } (hreach.step (hstep n hn)) fun other hother hopen => by
          by_cases hsame : other = name
          · exact hsame ▸ .single (hstep n hn)
          · refine (hfresh other hother fun hmem' => hopen ?_).tail (hstep n hn)
            exact List.mem_filter.mpr ⟨hmem', by simpa using hsame⟩
      choose! orders horders using hinside
      refine ⟨name :: names.flatMap orders, .intro orders hincluded fun n hn => (horders n hn).1,
        fun frame current call indent hgiven hcurrent hbare hcall => ?_⟩
      rw [findSome?_cons_or, findSome?_flatMap]
      refine meets_registered c _ hcontains hfind hgiven hcurrent hbare hcall ?_
      refine Meets.expandWithin _ hinner ?_
      refine meets_renderNodes _ _ hall hnames fun n hn call' indent' hbare' hcall' => ?_
      refine (horders n hn).2 _ _ call' indent' rfl ?_ hbare' hcall'
      intro hself
      cases hself
      exact hstatic.acyclic name hreach (.single (hstep name hn))
termination_by d.size
decreasing_by exact Depth.size_enter hinner

theorem exists_expansions : ∃ orders : Kind → List String, ∀ k ∈ kinds,
    registry.Expands k.partialName (orders k) ∧
      Meets { none } (renderNode (library r c) (expandIn r c) (partialNode k) {})
        ((orders k).findSome? registry.faultAt) := by
  have hexists (k : Kind) (hk : k ∈ kinds) : ∃ order, registry.Expands k.partialName order ∧
      Meets { none } (renderNode (library r c) (expandIn r c) (partialNode k) {})
        (order.findSome? registry.faultAt) := by
    obtain ⟨order, hexpands, hmeets⟩ := exists_expansion h hsorted hstatic c
      (.start (library r c)) (Registry.reaches_of_mem hk) fun other hother hopen => by
        obtain ⟨body, hbody⟩ := Option.isSome_iff_exists.mp hother
        obtain ⟨nodes, -, hfind⟩ := Renderer.find?_of_lookup? h hsorted hbody
        exact absurd ((Depth.mem_fresh_start (library r c)).mpr ⟨nodes, hfind⟩) hopen
    exact ⟨order, hexpands, hmeets {} none _ _ rfl (Option.some_ne_none _).symm rfl rfl⟩
  choose! orders horders using hexists
  exact ⟨orders, horders⟩

omit h hsorted hstatic in
theorem meets_sections (e? : Kind → Option Fault) (ks : List Kind)
    (hks : ∀ k ∈ ks, c.options.has k = true →
      Meets { none } (renderNode (library r c) (expandIn r c) (partialNode k) {}) (e? k)) :
    Meets Set.univ (renderNodes (library r c) (expandIn r c) (ks.flatMap sectionNodes) {})
      ((ks.filter c.options.has).findSome? e?) := by
  induction ks with
  | nil =>
      rw [List.flatMap_nil, renderNodes_nil]
      exact meets_ok
  | cons k ks ih =>
      rw [List.forall_mem_cons] at hks
      obtain ⟨hk, hks⟩ := hks
      have hsection {e : Option Fault}
          (hblock : Meets Set.univ (renderNode (library r c) (expandIn r c)
            (ifNode (optionPath k) [.text "", partialNode k, .text ""]) {}) e) :
          Meets Set.univ (renderNodes (library r c) (expandIn r c)
            ((k :: ks).flatMap sectionNodes) {}) (e.or ((ks.filter c.options.has).findSome? e?)) := by
        have hempty : Meets Set.univ (renderNode (library r c) (expandIn r c) (.text "") {}) none :=
          (prints_text _ _ rfl "").meets
        have hall := hblock.andThen (hempty.andThen (ih hks))
        rw [Option.none_or] at hall
        intro st hst hmem
        rw [List.flatMap_cons, sectionNodes, List.cons_append, List.singleton_append, renderNodes_cons]
        have hrest : renderNodes (library r c) (expandIn r c) (.text "" :: ks.flatMap sectionNodes) {} =
            fun st => (renderNode (library r c) (expandIn r c) (.text "") {} st).bind
              (renderNodes (library r c) (expandIn r c) (ks.flatMap sectionNodes) {}) :=
          funext fun st => renderNodes_cons _ _ _ _ _ st
        rw [hrest]
        exact hall st hst hmem
      have hflag := resolve_optionPath c k
      cases hon : c.options.has k with
      | true =>
          rw [hon] at hflag
          have hbody : Meets Set.univ (fun st => renderNodes (library r c) (expandIn r c)
              [.text "", partialNode k, .text ""] {} { st with current := none }) (e? k) := by
            have haround : renderNodes (library r c) (expandIn r c)
                [.text "", partialNode k, .text ""] {} =
                renderNode (library r c) (expandIn r c) (partialNode k) {} :=
              funext fun st => renderNodes_around _ _ _ st
            rw [haround]
            exact (hk hon).inBlock
          have hall := hsection (e := e? k) (by
            rw [ifNode, ifCall, renderNode_chosen (library r c) (expandIn r c) hflag rfl]
            exact hbody.runAware true)
          rw [List.filter_cons_of_pos hon, findSome?_cons_or]
          exact hall
      | false =>
          rw [hon] at hflag
          have hall := hsection (e := none) (by
            rw [ifNode, ifCall, renderNode_skipped (library r c) (expandIn r c) hflag rfl]
            exact meets_ok.runAware true)
          rw [List.filter_cons_of_neg (by simp [hon])]
          rw [Option.none_or] at hall
          exact hall

end

theorem meets_viewsNodes {r : Renderer} (c : Context) {e? : Option Fault}
    (h : Meets Set.univ (renderNodes (library r c) (expandIn r c) (Kind.all.flatMap sectionNodes) {})
      e?) : Meets Set.univ (renderNodes (library r c) (expandIn r c) viewsNodes {}) e? := by
  have hheader : Meets Set.univ (renderNodes (library r c) (expandIn r c) headerNodes {}) none := by
    have hprints := prints_header c r.templates (expandIn r c) (prints_nil _ _)
    rw [followed_empty] at hprints
    exact hprints.meets
  have hall := hheader.andThen h
  rw [Option.none_or] at hall
  intro st hst hmem
  rw [viewsNodes_eq, renderNodes_append]
  exact hall st hst hmem

theorem expand_of_meets {r : Renderer} {c : Context} {nodes : List Node} {e? : Option Fault}
    (name : Option String)
    (h : Meets Set.univ (renderNodes (library r c) (expandIn r c) nodes {}) e?) :
    (∀ e, e? = some e → r.expand c name nodes = .error (.ofFault e)) ∧
      (e? = none → ∃ text, r.expand c name nodes = .ok text) := by
  have hrender : Template.render (library r c) name nodes =
      (renderNodes (library r c) (expandIn r c) nodes {} { current := name }).map (·.out.text) := rfl
  obtain ⟨hfault, -⟩ := h { current := name } rfl trivial
  rw [Renderer.expand, hrender]
  subst hfault
  cases renderNodes (library r c) (expandIn r c) nodes {} { current := name } with
  | error e =>
      refine ⟨fun e' he => ?_, fun hnone => by cases hnone⟩
      cases he
      rfl
  | ok after => exact ⟨fun e he => (by cases he), fun _ => ⟨_, rfl⟩⟩

/-- With all selected views registered, rendering fails with the first fault in their expansions. -/
theorem exists_expansions_render {registry : Registry} {r : Renderer}
    (h : Renderer.ofRegistry registry = .ok r) (hsorted : Table.Sorted registry.partials)
    (hviews : registry.contains viewsName = false) (c : Context)
    (hstatic : registry.StaticFrom c.options.enabled)
    (hselected : ∀ k ∈ c.options.enabled, registry.contains k.partialName = true) :
    ∃ orders : Kind → List String,
      (∀ k ∈ c.options.enabled, registry.Expands k.partialName (orders k)) ∧
      (∀ e, (c.options.enabled.flatMap orders).findSome? registry.faultAt = some e →
        r.render c = .error (.ofFault e)) ∧
      ((c.options.enabled.flatMap orders).findSome? registry.faultAt = none →
        ∃ text, r.render c = .ok text) := by
  have hmissing : r.missingPartial? c.options.enabled = none := by
    simpa [Renderer.missingPartial?, (Renderer.ofRegistry_eq_ok_iff.mp h).1] using hselected
  obtain ⟨orders, horders⟩ := exists_expansions h hsorted hstatic c
  have hsections := meets_sections c (fun k => (orders k).findSome? registry.faultAt) Kind.all
    fun k _ hk => (horders k ((c.options.mem_enabled k).mpr hk)).2
  have hexpand := expand_of_meets (some viewsName) (meets_viewsNodes c hsections)
  have hrender : r.render c = r.expand c (some viewsName) viewsNodes := by
    rw [Renderer.render, hmissing, Renderer.expandNamed, Renderer.find?_views h hviews]
  have henabled : Kind.all.filter c.options.has = c.options.enabled := rfl
  rw [henabled, ← findSome?_flatMap, ← hrender] at hexpand
  exact ⟨orders, fun k hk => (horders k hk).1, hexpand⟩

/-- Missing partials are reported by the right name at any depth. The first selected view without a
partial is what rendering fails with, whatever the partials before it include. If all selected views
have their partials, it fails with the first fault that their expansions meet, and it succeeds if they
meet none. Partials that the selected views do not lead to, registered or not, have no influence. -/
theorem first_missing_partial_reported {registry : Registry} {r : Renderer}
    (h : Renderer.ofRegistry registry = .ok r) (hsorted : Table.Sorted registry.partials)
    (hviews : registry.contains viewsName = false) (c : Context)
    (hstatic : registry.StaticFrom c.options.enabled) :
    (∀ k, c.options.enabled.find? (fun k => !registry.contains k.partialName) = some k →
      r.render c = .error (.unknownPartial k.partialName)) ∧
    ((∀ k ∈ c.options.enabled, registry.contains k.partialName = true) →
      ∃ orders : Kind → List String,
        (∀ k ∈ c.options.enabled, registry.Expands k.partialName (orders k)) ∧
        (∀ e, (c.options.enabled.flatMap orders).findSome? registry.faultAt = some e →
          r.render c = .error (.ofFault e)) ∧
        ((c.options.enabled.flatMap orders).findSome? registry.faultAt = none →
          ∃ text, r.render c = .ok text)) ∧
    ∀ (registry' : Registry) (r' : Renderer), Renderer.ofRegistry registry' = .ok r' →
      Table.Sorted registry'.partials → registry'.contains viewsName = false →
      (∀ name, registry.Reaches c.options.enabled name →
        registry.lookup? name = registry'.lookup? name) →
      r.render c = r'.render c := by
  refine ⟨fun k hk => ?_, exists_expansions_render h hsorted hviews c hstatic,
    fun registry' r' h' hsorted' hviews' hlookup => ?_⟩
  · rw [Renderer.render, Renderer.missingPartial?, (Renderer.ofRegistry_eq_ok_iff.mp h).1, hk]
    rfl
  · have hsame : registry.SameOn { name | registry.Reaches c.options.enabled name } registry' := by
      refine ⟨hlookup, fun name hname callee hcallee => ?_⟩
      obtain ⟨names, hnames⟩ := exists_included h hsorted hstatic hname
      rw [hnames] at hcallee
      obtain ⟨other, hother, rfl⟩ := List.mem_map.mp hcallee
      have hreach : registry.Reaches c.options.enabled other := Registry.Reaches.step hname (by
        rw [Registry.Includes, hnames]
        exact hcallee)
      exact ⟨other, hreach, (hstatic.notBuiltin other hreach).1, rfl⟩
    exact render_eq_of_sameOn h h' hsorted hsorted' hsame c hviews hviews' fun k hk =>
      Registry.reaches_of_mem hk

theorem Registry.acyclic_of_rank {registry : Registry} (rank : String → Nat)
    (hrank : ∀ name callee, registry.Includes name callee → rank callee < rank name)
    (name : String) : ¬ Relation.TransGen registry.Includes name name := by
  have hless {name callee : String} (hpath : Relation.TransGen registry.Includes name callee) :
      rank callee < rank name := by
    induction hpath with
    | single hstep => exact hrank _ _ hstep
    | tail _ hstep ih => exact (hrank _ _ hstep).trans ih
  exact fun hpath => Nat.lt_irrefl _ (hless hpath)

def forwarding (links : List (String × String)) : Registry :=
  links.foldr (fun link r => r.register link.1 (tag ("> " ++ link.2))) .empty

theorem forwarding_cons (name callee : String) (links : List (String × String)) :
    forwarding ((name, callee) :: links) = (forwarding links).register name (tag ("> " ++ callee)) :=
  rfl

section

variable {links : List (String × String)}
  (hwords : ∀ link ∈ links, PartialWord link.2.toList)

theorem sorted_forwarding (links : List (String × String)) :
    Table.Sorted (forwarding links).partials := by
  induction links with
  | nil => exact Table.sorted_nil
  | cons link links ih => exact Registry.sorted_register ih _ _

include hwords

theorem exists_ofRegistry_forwarding : ∃ r, Renderer.ofRegistry (forwarding links) = .ok r := by
  refine Renderer.exists_ofRegistry fun p hp => ?_
  induction links with
  | nil => exact absurd hp List.not_mem_nil
  | cons link links ih =>
      rw [List.forall_mem_cons] at hwords
      obtain rfl | hp := Table.mem_set hp
      · exact ⟨_, compile_inclusionTag hwords.1⟩
      · exact ih hwords.2 hp

theorem included_forwarding (name : String) :
    (forwarding links).included name = (Table.find? name links).toList.map some := by
  induction links with
  | nil => rfl
  | cons link links ih =>
      rw [List.forall_mem_cons] at hwords
      obtain ⟨other, callee⟩ := link
      rw [forwarding_cons, Table.find?]
      by_cases hname : other = name
      · subst hname
        rw [Registry.included_register_self _ (compile_inclusionTag hwords.1), if_pos rfl]
        rfl
      · rw [Registry.included_register_of_ne _ _ hname, if_neg hname, ih hwords.2]

theorem isStatic_forwarding {name body : String} {nodes : List Node}
    (hbody : (forwarding links).lookup? name = some body)
    (hnodes : Template.compile body = some nodes) : nodes.all Node.isStatic = true := by
  induction links with
  | nil => cases hbody
  | cons link links ih =>
      rw [List.forall_mem_cons] at hwords
      obtain ⟨other, callee⟩ := link
      rw [forwarding_cons] at hbody
      by_cases hname : other = name
      · subst hname
        rw [Registry.lookup?_register_self] at hbody
        cases hbody
        rw [compile_inclusionTag hwords.1] at hnodes
        cases hnodes
        rfl
      · rw [Registry.lookup?_register_of_ne _ _ hname] at hbody
        exact ih hwords.2 hbody

theorem mem_of_includes_forwarding {name callee : String}
    (h : (forwarding links).Includes name callee) : (name, callee) ∈ links := by
  rw [Registry.Includes, included_forwarding hwords, List.mem_map] at h
  obtain ⟨other, hother, heq⟩ := h
  cases heq
  exact Table.mem_of_find? (Option.mem_toList.mp hother)

theorem staticFrom_forwarding (kinds : List Kind) (rank : String → Nat)
    (hrank : ∀ link ∈ links, rank link.2 < rank link.1)
    (hbuiltin : ∀ link ∈ links, link.2 ≠ viewsName ∧ link.2 ≠ formName) :
    (forwarding links).StaticFrom kinds where
  static _ _ _ _ hbody hnodes := isStatic_forwarding hwords hbody hnodes
  notBuiltin name hreach := by
    obtain ⟨k, -, hpath⟩ := hreach
    cases hpath with
    | refl => cases k <;> decide
    | tail _ hstep => exact hbuiltin _ (mem_of_includes_forwarding hwords hstep)
  acyclic name _ := Registry.acyclic_of_rank rank
    (fun _ _ hstep => hrank _ (mem_of_includes_forwarding hwords hstep)) name

theorem expands_forwarding_end {name : String} (hname : Table.find? name links = none) :
    (forwarding links).Expands name [name] := by
  have hnames : (forwarding links).included name = ([] : List String).map some := by
    rw [included_forwarding hwords, hname]
    rfl
  exact .intro (fun _ => []) hnames fun n hn => absurd hn List.not_mem_nil

theorem expands_forwarding {name callee : String} {order : List String}
    (hname : Table.find? name links = some callee)
    (h : (forwarding links).Expands callee order) :
    (forwarding links).Expands name (name :: order) := by
  have hnames : (forwarding links).included name = [callee].map some := by
    rw [included_forwarding hwords, hname]
    rfl
  have hexpands := Registry.Expands.intro (fun _ => order) hnames fun n hn =>
    List.mem_singleton.mp hn ▸ h
  rw [List.flatMap_singleton] at hexpands
  exact hexpands

end

theorem first_missing_partial_reported_footer :
    ∃ r, Renderer.ofRegistry (forwarding [("ListView", "DetailView"), ("DetailView", "footer")]) = .ok r ∧
      r.render (Context.ofOptions "blog" "Post" { list := true }) =
        .error (.unknownPartial "footer") := by
  have hwords : ∀ link ∈ [("ListView", "DetailView"), ("DetailView", "footer")],
      PartialWord (Prod.snd link).toList := by decide
  obtain ⟨r, h⟩ := exists_ofRegistry_forwarding hwords
  have hstatic := staticFrom_forwarding hwords [.list]
    (fun n => if n = "ListView" then 2 else if n = "DetailView" then 1 else 0) (by decide) (by decide)
  have hexpands : (forwarding [("ListView", "DetailView"), ("DetailView", "footer")]).Expands
      "ListView" ["ListView", "DetailView", "footer"] :=
    expands_forwarding hwords rfl (expands_forwarding hwords rfl (expands_forwarding_end hwords rfl))
  obtain ⟨orders, horders, hfault, -⟩ := (first_missing_partial_reported h (sorted_forwarding _)
    (by decide) (Context.ofOptions "blog" "Post" { list := true }) hstatic).2.1 (by decide)
  have horder : orders .list = ["ListView", "DetailView", "footer"] :=
    (horders .list List.mem_cons_self).unique hexpands
  refine ⟨r, h, hfault (.unknownPartial "footer") ?_⟩
  have hselected : (Context.ofOptions "blog" "Post" { list := true }).options.enabled = [.list] := rfl
  rw [hselected, List.flatMap_singleton, horder]
  decide

/-- The one selected view includes the body that it was given, and no template gives it one. Its name
is registered nowhere, and still rendering does not report it. -/
theorem missing_body_not_reported :
    ∃ r, Renderer.ofRegistry (forwarding [("ListView", partialBlockName)]) = .ok r ∧
      (forwarding [("ListView", partialBlockName)]).StaticFrom [.list] ∧
      (forwarding [("ListView", partialBlockName)]).Expands "ListView" ["ListView", partialBlockName] ∧
      (forwarding [("ListView", partialBlockName)]).contains "ListView" = true ∧
      (forwarding [("ListView", partialBlockName)]).contains partialBlockName = false ∧
      r.render (Context.ofOptions "blog" "Post" { list := true }) = .error .template := by
  have hwords : ∀ link ∈ [("ListView", partialBlockName)], PartialWord (Prod.snd link).toList := by
    decide
  obtain ⟨r, h⟩ := exists_ofRegistry_forwarding hwords
  have hstatic := staticFrom_forwarding hwords [.list] (fun n => if n = "ListView" then 1 else 0)
    (by decide) (by decide)
  have hexpands : (forwarding [("ListView", partialBlockName)]).Expands "ListView"
      ["ListView", partialBlockName] :=
    expands_forwarding hwords rfl (expands_forwarding_end hwords rfl)
  obtain ⟨orders, horders, hfault, -⟩ := exists_expansions_render h (sorted_forwarding _) (by decide)
    (Context.ofOptions "blog" "Post" { list := true }) hstatic (by decide)
  have horder : orders .list = ["ListView", partialBlockName] :=
    (horders .list List.mem_cons_self).unique hexpands
  refine ⟨r, h, hstatic, hexpands, by decide, by decide, hfault .other ?_⟩
  have hselected : (Context.ofOptions "blog" "Post" { list := true }).options.enabled = [.list] := rfl
  rw [hselected, List.flatMap_singleton, horder]
  decide

end Viewsmith.View
