import Mathlib.Data.Set.Defs
import Viewsmith.Proofs.Table
import Viewsmith.Proofs.Template.Inclusions

namespace Viewsmith.Template

variable {names : Set String}

def Among (names : Set String) (callees : List (Option String)) : Prop :=
  ∀ callee ∈ callees, ∃ name ∈ names, callee = some name

theorem among_nil : Among names [] := fun _ h => absurd h List.not_mem_nil

theorem among_append {cs ds : List (Option String)} :
    Among names (cs ++ ds) ↔ Among names cs ∧ Among names ds := List.forall_mem_append

theorem among_cons {c : Option String} {cs : List (Option String)} :
    Among names (c :: cs) ↔ (∃ name ∈ names, c = some name) ∧ Among names cs := List.forall_mem_cons

def State.Confined (names : Set String) (st : State) : Prop :=
  ∀ p ∈ st.inlines, Among names (included p.2)

/-- From every confined state two actions do the same, and the state stays confined. -/
def Agree (names : Set String) (act act' : Action) : Prop :=
  ∀ st : State, st.Confined names →
    act st = act' st ∧ ∀ after, act st = .ok after → after.Confined names

def AgreeBody (names : Set String) (body body' : Frame → Action) : Prop :=
  ∀ frame, Agree names (body frame) (body' frame)

section

variable {act act' next next' : Action}

theorem agree_error (e : Fault) : Agree names (fun _ => .error e) fun _ => .error e :=
  fun _ _ => ⟨rfl, fun _ h => by cases h⟩

theorem agree_keep (f : State → State) (hf : ∀ st, (f st).inlines = st.inlines) :
    Agree names (fun st => .ok (f st)) fun st => .ok (f st) := by
  refine fun st hst => ⟨rfl, fun after hafter => ?_⟩
  cases hafter
  rw [State.Confined, hf]
  exact hst

theorem agree_ok : Agree names .ok .ok := agree_keep id fun _ => rfl

theorem Agree.andThen (h : Agree names act act') (hnext : Agree names next next') :
    Agree names (fun st => (act st).bind next) fun st => (act' st).bind next' := by
  intro st hst
  obtain ⟨heq, hkeep⟩ := h st hst
  dsimp only
  rw [← heq]
  cases hact : act st with
  | error e => exact ⟨rfl, fun _ h => by cases h⟩
  | ok mid => exact hnext mid (hkeep mid hact)

theorem Agree.of_state (h : Agree names act act') (f : State → State)
    (hf : ∀ st, (f st).inlines = st.inlines) :
    Agree names (fun st => act (f st)) fun st => act' (f st) := by
  intro st hst
  refine h (f st) ?_
  rw [State.Confined, hf]
  exact hst

/-- What becomes of the state may depend on the state before, as long as the partials do not. -/
theorem Agree.after (h : Agree names act act') (f : State → State → State)
    (hf : ∀ st after, (f st after).inlines = after.inlines) :
    Agree names (fun st => (act st).map (f st)) fun st => (act' st).map (f st) := by
  intro st hst
  obtain ⟨heq, hkeep⟩ := h st hst
  dsimp only
  rw [← heq]
  cases hact : act st with
  | error e => exact ⟨rfl, fun _ h => by cases h⟩
  | ok mid =>
      refine ⟨rfl, fun after hafter => ?_⟩
      cases hafter
      rw [State.Confined, hf]
      exact hkeep mid hact

theorem Agree.either (h : Agree names act act') (hnext : Agree names next next') (p : Prop)
    [Decidable p] : Agree names (fun st => if p then act st else next st)
      fun st => if p then act' st else next' st := by
  by_cases hp : p
  · simpa only [if_pos hp] using h
  · simpa only [if_neg hp] using hnext

theorem Agree.enclosed (h : Agree names act act') :
    Agree names (enclosed act) (enclosed act') := by
  intro st hst
  obtain ⟨heq, -⟩ := h st hst
  rw [Template.enclosed, Template.enclosed, ← heq]
  refine ⟨rfl, fun after hafter => ?_⟩
  cases hact : act st with
  | error e => rw [hact] at hafter; cases hafter
  | ok mid => rw [hact] at hafter; cases hafter; exact hst

theorem Agree.aware (h : Agree names act act') (indentFirst : State → Bool) :
    Agree names (aware indentFirst act) (aware indentFirst act') := by
  intro st hst
  obtain ⟨heq, hkeep⟩ := h
    { st with out := { st.out with indentNext := indentFirst st, produced := false } } hst
  unfold Template.aware
  dsimp only
  rw [← heq]
  refine ⟨rfl, fun after hafter => ?_⟩
  split at hafter
  · cases hafter
  · next mid hmid =>
    split at hafter
    · cases hafter
      exact hkeep mid hmid
    · cases hafter
      exact hkeep mid hmid

theorem Agree.runAware (h : Agree names act act') (indentFirst : Bool) :
    Agree names (runAware indentFirst act) (runAware indentFirst act') := h.aware _

end

section

variable {frame : Frame} {body body' otherwise otherwise' : Option (Frame → Action)}

theorem agree_runOptional (h : Option.Rel (AgreeBody names) body body') :
    Agree names (runOptional frame body) (runOptional frame body') := by
  cases h with
  | none => exact agree_ok
  | some h => exact h frame

theorem agree_runAll {act act' : Frame → Action} (h : AgreeBody names act act')
    (blocks : List Block) : Agree names (runAll frame act blocks) (runAll frame act' blocks) := by
  induction blocks with
  | nil => exact agree_ok
  | cons b rest ih =>
      have hrun (act : Frame → Action) : runAll frame act (b :: rest) = fun st =>
          (act { frame with blocks := b :: frame.blocks } st).bind (runAll frame act rest) := by
        funext st
        rw [runAll]
        cases act { frame with blocks := b :: frame.blocks } st <;> rfl
      rw [hrun, hrun]
      exact (h _).andThen ih

variable (hbody : Option.Rel (AgreeBody names) body body')
  (hotherwise : Option.Rel (AgreeBody names) otherwise otherwise') (call : Evaluated)
  (binders : Option Binders)

include hbody hotherwise

theorem agree_runControl (c : Control) : Agree names
    (runControl frame c call binders body otherwise)
    (runControl frame c call binders body' otherwise') := by
  have hother : Agree names (runOptional frame otherwise) (runOptional frame otherwise') :=
    agree_runOptional hotherwise
  unfold runControl
  cases c.check call.args call.hash with
  | error e => exact agree_error _
  | ok _ =>
      cases c with
      | when positive =>
          cases call.args with
          | nil => exact agree_ok
          | cons v _ => exact (agree_runOptional hbody).either hother _
      | each =>
          cases call.args with
          | nil => exact agree_ok
          | cons v _ =>
              cases hbody with
              | none => exact agree_ok
              | some hact =>
                  dsimp only
                  cases loopBlocks v binders with
                  | nil => exact hother
                  | cons b bs => exact (agree_runAll hact (b :: bs)).enclosed
      | «with» =>
          cases call.args with
          | nil => exact agree_ok
          | cons v _ => exact (agree_runOptional hbody).enclosed.either hother _
      | raw => exact agree_runOptional hbody
      | log => cases call.args <;> exact agree_ok

theorem agree_runCondition (c : Condition) : Agree names
    (runCondition frame c call body otherwise) (runCondition frame c call body' otherwise') := by
  unfold runCondition
  cases c.holds call.args with
  | error e => exact agree_error _
  | ok holds =>
      cases hbody with
      | none => exact agree_keep _ fun _ => rfl
      | some hact =>
          cases holds with
          | true => exact hact frame
          | false => exact agree_runOptional hotherwise

theorem agree_runHelper : Agree names
    (runHelper frame call binders body otherwise) (runHelper frame call binders body' otherwise') := by
  unfold runHelper
  split
  · exact agree_error _
  · exact agree_runCondition hbody hotherwise call _
  · exact agree_runControl hbody hotherwise call binders _
  · split
    · exact agree_keep _ fun _ => rfl
    · exact agree_error _

end

/-- Two libraries have the same data and the same templates of some names, and these templates
include only each other. -/
structure SameOn (names : Set String) (lib lib' : Library) : Prop where
  data : lib.data = lib'.data
  templates : ∀ name ∈ names, Table.find? name lib.templates = Table.find? name lib'.templates
  closed : ∀ name ∈ names, ∀ nodes, Table.find? name lib.templates = some nodes →
    Among names (included nodes)

def AgreeExpand (names : Set String) (expand expand' : Frame → List Node → Action) : Prop :=
  ∀ (frame : Frame) (nodes : List Node) (current : Option String), Among names (included nodes) →
    (∀ name, current = some name → name ∈ names) →
    Agree names (fun st => expand frame nodes { st with current })
      fun st => expand' frame nodes { st with current }

section

variable {lib lib' : Library} (h : SameOn names lib lib')

include h

theorem SameOn.nameText_eq (frame : Frame) (name : Name) :
    nameText lib frame name = nameText lib' frame name := by
  cases name with
  | word _ | path _ => rfl
  | computed p => rw [nameText, nameText, h.data]

theorem SameOn.nameValue_eq (frame : Frame) (name : Name) :
    nameValue lib frame name = nameValue lib' frame name := by
  cases name with
  | word _ => rfl
  | path p | computed p => rw [nameValue, nameValue, h.data]

theorem SameOn.evaluate_eq (frame : Frame) (call : Call) :
    evaluate lib frame call = evaluate lib' frame call := by
  rw [evaluate, evaluate, h.nameText_eq, h.data]

theorem SameOn.runValue_eq (frame : Frame) (call : Call) :
    runValue lib frame call = runValue lib' frame call := by
  funext st
  rw [runValue, runValue, h.evaluate_eq, h.nameText_eq, h.nameValue_eq]

theorem agree_runValue (frame : Frame) (call : Call) :
    Agree names (runValue lib frame call) (runValue lib' frame call) := by
  rw [h.runValue_eq]
  have hhelper (call : Evaluated) : Agree names (runAware false (runHelper frame call none none none))
      (runAware false (runHelper frame call none none none)) :=
    (agree_runHelper .none .none call none).runAware false
  intro st hst
  cases hbare : call.isBare with
  | false =>
      rw [runValue_of_call lib' st hbare]
      cases evaluate lib' frame call with
      | error e => exact agree_error e st hst
      | ok c => exact hhelper c st hst
  | true =>
      cases hname : nameText lib' frame call.name with
      | error e =>
          have hrun : runValue lib' frame call st = .error e := by
            simp only [runValue, hbare, if_true, hname, bind, Except.bind]
          rw [hrun]
          exact agree_error e st hst
      | ok name =>
          by_cases hnone : Helper.named? name = none
          · rw [runValue_of_name lib' st hbare hname hnone]
            cases nameValue lib' frame call.name with
            | error e => exact agree_error e st hst
            | ok v =>
                have hkeep (st : State) : (if v.isMissing then st
                    else st.write frame.indent (shown v.value)).inlines = st.inlines := by
                  split <;> rfl
                exact agree_keep _ hkeep st hst
          · rw [runValue_of_bareHelper lib' st hbare hname hnone]
            exact hhelper _ st hst

theorem SameOn.partialBlock_eq (frame : Frame) (call : Evaluated) :
    partialBlock lib frame call = partialBlock lib' frame call := by
  rw [partialBlock, partialBlock, h.data]

theorem SameOn.findTemplate_eq (st : State) {name : String} (hname : name ∈ names) :
    findTemplate lib st name = findTemplate lib' st name := by
  rw [findTemplate, findTemplate, h.templates name hname]

theorem SameOn.found {st : State} (hst : st.Confined names) {name : String} (hname : name ∈ names)
    {current : Option String} {nodes : List Node}
    (hfind : findTemplate lib st name = some (current, nodes)) :
    Among names (included nodes) ∧ ∀ other, current = some other → other ∈ names := by
  rw [findTemplate] at hfind
  cases hinline : Table.find? name st.inlines with
  | some found =>
      rw [hinline] at hfind
      cases hfind
      exact ⟨hst _ (Table.mem_of_find? hinline), fun _ h => by cases h⟩
  | none =>
      rw [hinline] at hfind
      obtain ⟨found, hfound, hpair⟩ := Option.map_eq_some_iff.mp hfind
      cases hpair
      refine ⟨h.closed name hname nodes hfound, fun other hother => ?_⟩
      cases hother
      exact hname

theorem agree_runDecorator (frame : Frame) (call : Call) (body : Option (List Node))
    (hbody : Among names (includedIn body)) :
    Agree names (runDecorator lib frame call body) (runDecorator lib' frame call body) := by
  intro st hst
  rw [runDecorator, runDecorator, h.evaluate_eq frame call]
  refine ⟨rfl, fun after hafter => ?_⟩
  cases hcall : evaluate lib' frame call with
  | error e => rw [hcall] at hafter; cases hafter
  | ok c =>
      rw [hcall] at hafter
      simp only [bind, Except.bind] at hafter
      split at hafter
      · cases hafter
      · split at hafter
        · next name nodes hname =>
          cases hafter
          intro p hp
          obtain rfl | hp := Table.mem_set hp
          · rw [includedIn] at hbody
            exact hbody
          · exact hst p hp
        · cases hafter

end

theorem agree_renderGiven {body body' : Option (Frame → Action)}
    (hbody : Option.Rel (AgreeBody names) body body') (frame : Frame) {st : State}
    (hst : st.Confined names) : renderGiven frame body st = renderGiven frame body' st ∧
      ∀ given after, renderGiven frame body st = .ok (given, after) → after.Confined names := by
  cases hbody with
  | none =>
      refine ⟨rfl, fun given after hafter => ?_⟩
      cases hafter
      exact hst
  | @some act act' hact =>
      obtain ⟨heq, hkeep⟩ := hact frame { st with out := { st.out with text := "" } } hst
      rw [renderGiven, renderGiven, apart, apart, ← heq]
      refine ⟨rfl, fun given after hafter => ?_⟩
      cases hrun : act frame { st with out := { st.out with text := "" } } with
      | error e => rw [hrun] at hafter; cases hafter
      | ok mid => rw [hrun] at hafter; cases hafter; exact hkeep mid hrun

section

variable {lib lib' : Library} (h : SameOn names lib lib') {expand expand' : Frame → List Node → Action}
  (hexpand : AgreeExpand names expand expand')

include h hexpand

theorem agree_expandInclusion {body body' : Option (Frame → Action)}
    (hbody : Option.Rel (AgreeBody names) body body') (frame : Frame) (call : Evaluated)
    (hcall : call.name ∈ names) (indent : Indent) :
    Agree names (expandInclusion lib expand frame call indent body)
      (expandInclusion lib' expand' frame call indent body') := by
  intro st hst
  have hfault (e : Fault) {act : Except Fault State} (hact : act = .error e) :
      act = act ∧ ∀ after, act = .ok after → after.Confined names :=
    ⟨rfl, fun after hafter => by rw [hact] at hafter; cases hafter⟩
  by_cases hself : st.current = some call.name
  · simp only [expandInclusion, hself, if_true]
    exact hfault .other rfl
  simp only [expandInclusion, hself, if_false, h.partialBlock_eq, bind, Except.bind]
  cases partialBlock lib' frame call with
  | error e => exact hfault e rfl
  | ok block =>
      dsimp only
      obtain ⟨hgiven, hkeep⟩ :=
        agree_renderGiven hbody { frame with blocks := block :: frame.blocks } hst
      rw [← hgiven]
      cases hrun : renderGiven { frame with blocks := block :: frame.blocks } body st with
      | error e => exact hfault e rfl
      | ok result =>
          obtain ⟨given, mid⟩ := result
          have hmid : mid.Confined names := hkeep given mid hrun
          dsimp only
          split
          · cases hbody with
            | none =>
                cases frame.given with
                | none => exact hfault .other rfl
                | some text => exact agree_keep (fun st => st.put text) (fun _ => rfl) mid hmid
            | some hact =>
                cases frame.given with
                | none => exact hact _ mid hmid
                | some text => exact agree_keep (fun st => st.put text) (fun _ => rfl) mid hmid
          · rw [← h.findTemplate_eq mid hcall]
            cases hfind : findTemplate lib mid call.name with
            | none =>
                cases hbody with
                | none => exact hfault (.unknownPartial call.name) rfl
                | some hact => exact hact _ mid hmid
            | some found =>
                obtain ⟨current, nodes⟩ := found
                obtain ⟨hnodes, hcurrent⟩ := h.found hmid hcall hfind
                exact hexpand _ nodes current hnodes hcurrent mid hmid

theorem agree_runInclusion {body body' : Option (Frame → Action)}
    (hbody : Option.Rel (AgreeBody names) body body') (frame : Frame) {call : Call} {name : String}
    (hname : name ∈ names) (hcall : call.name.static? = some name) (indent : Indent) :
    Agree names (runInclusion lib expand frame call indent body)
      (runInclusion lib' expand' frame call indent body') := by
  cases hevaluated : evaluate lib' frame call with
  | error e =>
      intro st hst
      rw [runInclusion, runInclusion, h.evaluate_eq, hevaluated]
      exact agree_error e st hst
  | ok c =>
      have hc : c.name = name := by
        rw [evaluate, nameText_of_static lib' frame hcall] at hevaluated
        simp only [bind, Except.bind] at hevaluated
        split at hevaluated
        · cases hevaluated
        · split at hevaluated
          · cases hevaluated
          · cases hevaluated
            rfl
      have hinclusion := ((agree_expandInclusion h hexpand hbody frame c (hc ▸ hname) indent).enclosed.after
        (fun st after => { after with current := st.current }) fun _ _ => rfl).aware
          fun st => indent.first && (st.out.lineEnded || indent.blanks.isSome)
      intro st hst
      rw [runInclusion, runInclusion, h.evaluate_eq, hevaluated]
      exact hinclusion st hst

end

section

variable {lib lib' : Library} {expand expand' : Frame → List Node → Action}

mutual

theorem agree_renderNode (h : SameOn names lib lib') (hexpand : AgreeExpand names expand expand')
    (n : Node) (hn : Among names n.included) :
    AgreeBody names (renderNode lib expand n) (renderNode lib' expand' n) := by
  intro frame
  cases n with
  | text s =>
      intro st hst
      rw [renderNode, renderNode]
      exact agree_keep (fun st => st.write frame.indent s) (fun _ => rfl) st hst
  | value call =>
      intro st hst
      rw [renderNode, renderNode]
      exact agree_runValue h frame call st hst
  | block call binders indentFirst body otherwise =>
      rw [Node.included, among_append] at hn
      obtain ⟨hbody, hotherwise⟩ := hn
      have hrun : AgreeBody names
          (fun frame st => renderNodes lib expand body frame { st with current := none })
          (fun frame st => renderNodes lib' expand' body frame { st with current := none }) :=
        fun frame => (agree_renderNodes h hexpand body hbody frame).of_state
          (fun st => { st with current := none }) fun _ => rfl
      intro st hst
      rw [renderNode, renderNode, h.evaluate_eq]
      cases evaluate lib' frame call with
      | error e => exact agree_error e st hst
      | ok c =>
          exact (agree_runHelper (.some hrun) (agree_renderOptional h hexpand otherwise hotherwise) c
            binders).runAware indentFirst st hst
  | inclusion call indent body =>
      rw [Node.included, among_cons] at hn
      obtain ⟨⟨name, hname, hcall⟩, hbody⟩ := hn
      intro st hst
      rw [renderNode, renderNode]
      exact agree_runInclusion h hexpand (agree_renderOptional h hexpand body hbody) frame hname hcall indent st hst
  | decorator call body =>
      intro st hst
      rw [Node.included] at hn
      rw [renderNode, renderNode]
      exact agree_runDecorator h frame call body hn st hst

theorem agree_renderOptional (h : SameOn names lib lib')
    (hexpand : AgreeExpand names expand expand') (body : Option (List Node))
    (hbody : Among names (includedIn body)) :
    Option.Rel (AgreeBody names) (renderOptional lib expand body)
      (renderOptional lib' expand' body) := by
  cases body with
  | none =>
      rw [renderOptional, renderOptional]
      exact .none
  | some nodes =>
      rw [includedIn] at hbody
      rw [renderOptional, renderOptional]
      exact .some fun frame => (agree_renderNodes h hexpand nodes hbody frame).of_state
        (fun st => { st with current := none }) fun _ => rfl

theorem agree_renderNodes (h : SameOn names lib lib')
    (hexpand : AgreeExpand names expand expand') (nodes : List Node)
    (hnodes : Among names (included nodes)) :
    AgreeBody names (renderNodes lib expand nodes) (renderNodes lib' expand' nodes) := by
  intro frame
  cases nodes with
  | nil =>
      rw [renderNodes_nil, renderNodes_nil]
      exact agree_ok
  | cons n rest =>
      rw [included, among_append] at hnodes
      intro st hst
      rw [renderNodes_cons, renderNodes_cons]
      exact (agree_renderNode h hexpand n hnodes.1 frame).andThen
        (agree_renderNodes h hexpand rest hnodes.2 frame) st hst

end

end

theorem agree_append {lib lib' : Library} {expand expand' : Frame → List Node → Action}
    {ns ms : List Node} {frame : Frame}
    (h : Agree names (renderNodes lib expand ns frame) (renderNodes lib' expand' ns frame))
    (hnext : Agree names (renderNodes lib expand ms frame) (renderNodes lib' expand' ms frame)) :
    Agree names (renderNodes lib expand (ns ++ ms) frame)
      (renderNodes lib' expand' (ns ++ ms) frame) := by
  intro st hst
  rw [renderNodes_append, renderNodes_append]
  exact h.andThen hnext st hst

/-- What is left of the nesting agrees as far as the names go. -/
structure Depth.SameOn (names : Set String) (d d' : Depth) : Prop where
  fresh : ∀ name ∈ names, name ∈ d.fresh ↔ name ∈ d'.fresh
  again : d.again = d'.again

namespace Depth

variable {d d' : Depth}

theorem sameOn_start {lib lib' : Library} (h : Template.SameOn names lib lib') :
    SameOn names (start lib) (start lib') where
  fresh name hname := by
    rw [mem_fresh_start, mem_fresh_start, h.templates name hname]
  again := rfl

/-- Both depths admit a template or neither does, and inside it they agree again. -/
theorem SameOn.enter (h : SameOn names d d') {current : Option String}
    (hcurrent : ∀ name, current = some name → name ∈ names) :
    (d.enter current = none ∧ d'.enter current = none) ∨
      ∃ inner inner', d.enter current = some inner ∧ d'.enter current = some inner' ∧
        SameOn names inner inner' := by
  have hagain : (if d.again = 0 then none else some { d with again := d.again - 1 }) = none ∧
        (if d'.again = 0 then none else some { d' with again := d'.again - 1 }) = none ∨
      ∃ inner inner', (if d.again = 0 then none else some { d with again := d.again - 1 }) = some inner ∧
        (if d'.again = 0 then none else some { d' with again := d'.again - 1 }) = some inner' ∧
          SameOn names inner inner' := by
    rw [← h.again]
    split
    · exact .inl ⟨rfl, rfl⟩
    · exact .inr ⟨_, _, rfl, rfl, h.fresh, rfl⟩
  cases current with
  | none => exact hagain
  | some name =>
      have hfresh := h.fresh name (hcurrent name rfl)
      rw [Depth.enter, Depth.enter]
      by_cases hmem : name ∈ d.fresh
      · rw [if_pos hmem, if_pos (hfresh.mp hmem)]
        refine .inr ⟨_, _, rfl, rfl, fun other hother => ?_, h.again⟩
        rw [List.mem_filter, List.mem_filter, h.fresh other hother]
      · rw [if_neg hmem, if_neg fun hmem' => hmem (hfresh.mpr hmem')]
        exact hagain

end Depth

section

variable {lib lib' : Library}

theorem agree_expandWithin (h : SameOn names lib lib') {d d' : Depth} (hd : d.SameOn names d') :
    AgreeExpand names (expandWithin lib d) (expandWithin lib' d') := by
  intro frame nodes current hnodes hcurrent st hst
  dsimp only
  obtain ⟨hnone, hnone'⟩ | ⟨inner, inner', hinner, hinner', hsame⟩ := hd.enter hcurrent
  · rw [expandWithin_of_enter_none lib hnone, expandWithin_of_enter_none lib' hnone']
    exact agree_error .other st hst
  · rw [expandWithin_of_enter lib hinner, expandWithin_of_enter lib' hinner']
    exact agree_renderNodes h (agree_expandWithin h hsame) nodes hnodes frame { st with current } hst
termination_by d.size
decreasing_by exact Depth.size_enter hinner

theorem agree_atStart (h : SameOn names lib lib') {nodes : List Node}
    (hnodes : Among names (included nodes)) :
    Agree names (renderNodes lib (expandWithin lib (.start lib)) nodes {})
      (renderNodes lib' (expandWithin lib' (.start lib')) nodes {}) :=
  agree_renderNodes h (agree_expandWithin h (Depth.sameOn_start h)) nodes hnodes {}

theorem render_congr {name : Option String} {nodes : List Node}
    (hnodes : Agree names (renderNodes lib (expandWithin lib (.start lib)) nodes {})
      (renderNodes lib' (expandWithin lib' (.start lib')) nodes {})) :
    render lib name nodes = render lib' name nodes := by
  have hempty : State.Confined names { current := name } := fun p hp => absurd hp List.not_mem_nil
  rw [render, render, (hnodes _ hempty).1]

end

end Viewsmith.Template
