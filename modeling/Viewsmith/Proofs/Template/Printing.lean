import Viewsmith.Template.Render

namespace Viewsmith.Template

open Json (Value)

/-- From every state that has no partials of its own, the action appends one text, or fails. -/
def Prints (act : Action) (result : Except Fault String) : Prop :=
  ∀ st : State, st.inlines = [] →
    (act st).map (fun after => (after.out.text, after.inlines)) =
      result.map fun s => (st.out.text ++ s, [])

def Steady (act : Action) : Prop := ∃ result, Prints act result

def followed (r q : Except Fault String) : Except Fault String := r.bind fun s => q.map (s ++ ·)

section

variable {act next : Action} {r q : Except Fault String} {s : String}

theorem Prints.ends (h : Prints act (.ok s)) (st : State) (hst : st.inlines = []) :
    ∃ after, act st = .ok after ∧ after.out.text = st.out.text ++ s ∧ after.inlines = [] := by
  have hact := h st hst
  cases hr : act st with
  | error e =>
      rw [hr] at hact
      cases hact
  | ok after =>
      rw [hr] at hact
      have hpair := Prod.mk.inj (Except.ok.inj hact)
      exact ⟨after, rfl, hpair.1, hpair.2⟩

theorem Prints.fails {e : Fault} (h : Prints act (.error e)) (st : State) (hst : st.inlines = []) :
    act st = .error e := by
  have hact := h st hst
  cases hr : act st with
  | error f =>
      rw [hr] at hact
      exact congrArg _ (Except.error.inj hact)
  | ok after =>
      rw [hr] at hact
      cases hact

theorem prints_ok (h : ∀ st : State, st.inlines = [] →
    ∃ after, act st = .ok after ∧ after.out.text = st.out.text ++ s ∧ after.inlines = []) :
    Prints act (.ok s) := by
  intro st hst
  obtain ⟨after, hact, htext, hinlines⟩ := h st hst
  rw [hact, Except.map, Except.map, htext, hinlines]

theorem prints_error {e : Fault} (h : ∀ st : State, st.inlines = [] → act st = .error e) :
    Prints act (.error e) := by
  intro st hst
  rw [h st hst]
  rfl

theorem Prints.congr (h : Prints act r)
    (heq : ∀ st : State, st.inlines = [] → next st = act st) : Prints next r := by
  intro st hst
  rw [heq st hst, h st hst]

theorem Prints.of_eq (h : Prints act r) (heq : r = q) : Prints act q := heq ▸ h

theorem Prints.of_state (h : Prints act r) (f : State → State)
    (htext : ∀ st, (f st).out.text = st.out.text) (hinlines : ∀ st, (f st).inlines = st.inlines) :
    Prints (fun st => act (f st)) r := by
  intro st hst
  rw [h (f st) ((hinlines st).trans hst), htext]

theorem Prints.after (h : Prints act r) (f : State → State)
    (htext : ∀ st, (f st).out.text = st.out.text) (hinlines : ∀ st, (f st).inlines = st.inlines) :
    Prints (fun st => (act st).map f) r := by
  intro st hst
  have hact := h st hst
  dsimp only
  cases hr : act st with
  | error e =>
      rw [hr] at hact
      exact hact
  | ok after =>
      rw [hr] at hact
      rw [← hact, Except.map, Except.map, Except.map, htext, hinlines]

theorem prints_nothing : Prints .ok (.ok "") :=
  prints_ok fun st hst => ⟨st, rfl, by rw [String.append_empty], hst⟩

theorem Prints.andThen (h : Prints act r) (hnext : Prints next q) :
    Prints (fun st => (act st).bind next) (followed r q) := by
  cases r with
  | error e => exact prints_error fun st hst => by rw [h.fails st hst, Except.bind]
  | ok s =>
      cases q with
      | error e =>
          refine prints_error fun st hst => ?_
          obtain ⟨after, hact, -, hinlines⟩ := h.ends st hst
          rw [hact, Except.bind, hnext.fails after hinlines]
      | ok s' =>
          refine prints_ok fun st hst => ?_
          obtain ⟨mid, hact, htext, hinlines⟩ := h.ends st hst
          obtain ⟨after, hact', htext', hinlines'⟩ := hnext.ends mid hinlines
          refine ⟨after, ?_, ?_, hinlines'⟩
          · rw [hact, Except.bind, hact']
          · rw [htext', htext, String.append_assoc]

end

section

variable (indent : List Char) (o : Output) (s : String)

theorem indentLines_nil (text : List Char) : indentLines [] text = text := by
  fun_induction indentLines [] text with
  | case1 => rfl
  | case2 => rfl
  | case3 rest _ ih => simp [ih]
  | case4 c rest _ _ ih => rw [ih]

theorem text_write : (o.write none s).text = o.text ++ s := by
  unfold Output.write
  split
  · next h => rw [String.isEmpty_iff.mp h, String.append_empty]
  · simp [indentLines_nil]

end

theorem prints_write (s : String) : Prints (fun st => .ok (st.write none s)) (.ok s) :=
  prints_ok fun st hst => ⟨_, rfl, text_write st.out s, hst⟩

theorem prints_put (s : String) : Prints (fun st => .ok (st.put s)) (.ok s) :=
  prints_ok fun _ hst => ⟨_, rfl, rfl, hst⟩

section

variable {act : Action} {r : Except Fault String}

theorem Prints.enclosed (h : Prints act r) : Prints (enclosed act) r := by
  intro st hst
  have hact := h st hst
  unfold Template.enclosed
  cases hr : act st with
  | error e =>
      rw [hr] at hact
      exact hact
  | ok after =>
      rw [hr] at hact
      simp only [Except.map] at hact ⊢
      rw [← hact, hst]
      cases r with
      | error e => cases hact
      | ok s =>
          have hpair := Prod.mk.inj (Except.ok.inj hact)
          rw [hpair.2]

theorem Prints.aware (h : Prints act r) (indentFirst : State → Bool) :
    Prints (aware indentFirst act) r := by
  cases r with
  | error e =>
      refine prints_error fun st hst => ?_
      have hact := h.fails
        { st with out := { st.out with indentNext := indentFirst st, produced := false } } hst
      simp only [Template.aware, hact]
  | ok s =>
      refine prints_ok fun st hst => ?_
      obtain ⟨after, hact, htext, hinlines⟩ := h.ends
        { st with out := { st.out with indentNext := indentFirst st, produced := false } } hst
      simp only [Template.aware, hact]
      split
      · exact ⟨_, rfl, htext, hinlines⟩
      · exact ⟨_, rfl, htext, hinlines⟩

theorem Prints.runAware (h : Prints act r) (indentFirst : Bool) :
    Prints (runAware indentFirst act) r := h.aware _

end

def SteadyBody (body : Frame → Action) : Prop :=
  ∀ frame : Frame, frame.indent = none → Steady (body frame)

theorem steady_nothing : Steady .ok := ⟨_, prints_nothing⟩

theorem steady_write (s : String) : Steady fun st => .ok (st.write none s) := ⟨_, prints_write s⟩

theorem steady_fault (e : Fault) : Steady fun _ => .error e :=
  ⟨_, prints_error fun _ _ => rfl⟩

theorem Steady.congr {act next : Action} (h : Steady act) (heq : ∀ st : State, next st = act st) :
    Steady next := by
  obtain ⟨r, hr⟩ := h
  exact ⟨r, hr.congr fun st _ => heq st⟩

theorem Steady.andThen {act next : Action} (h : Steady act) (hnext : Steady next) :
    Steady fun st => (act st).bind next := by
  obtain ⟨r, hr⟩ := h
  obtain ⟨q, hq⟩ := hnext
  exact ⟨_, hr.andThen hq⟩

theorem Steady.either {act next : Action} (h : Steady act) (hnext : Steady next) (p : Prop)
    [Decidable p] : Steady fun st => if p then act st else next st := by
  by_cases hp : p
  · exact h.congr fun st => if_pos hp
  · exact hnext.congr fun st => if_neg hp

theorem Steady.enclosed {act : Action} (h : Steady act) : Steady (enclosed act) := by
  obtain ⟨r, hr⟩ := h
  exact ⟨r, hr.enclosed⟩

theorem Steady.runAware {act : Action} (h : Steady act) (indentFirst : Bool) :
    Steady (runAware indentFirst act) := by
  obtain ⟨r, hr⟩ := h
  exact ⟨r, hr.runAware indentFirst⟩

section

variable {frame : Frame} (hframe : frame.indent = none)

include hframe

theorem steady_runOptional {body : Option (Frame → Action)} (hbody : ∀ act ∈ body, SteadyBody act) :
    Steady (runOptional frame body) := by
  cases body with
  | none => exact steady_nothing
  | some act => exact hbody act rfl frame hframe

theorem steady_runAll {body : Frame → Action} (hbody : SteadyBody body) (blocks : List Block) :
    Steady (runAll frame body blocks) := by
  induction blocks with
  | nil => exact steady_nothing
  | cons b rest ih =>
      refine ((hbody { frame with blocks := b :: frame.blocks } hframe).andThen ih).congr fun st => ?_
      rw [runAll]
      cases body { frame with blocks := b :: frame.blocks } st <;> rfl

variable {body otherwise : Option (Frame → Action)} (hbody : ∀ act ∈ body, SteadyBody act)
  (hotherwise : ∀ act ∈ otherwise, SteadyBody act) (call : Evaluated) (binders : Option Binders)

include hbody hotherwise

theorem steady_runControl (c : Control) :
    Steady (runControl frame c call binders body otherwise) := by
  have hother := steady_runOptional hframe hotherwise
  unfold runControl
  cases c.check call.args call.hash with
  | error e => exact steady_fault _
  | ok _ =>
      cases c with
      | when positive =>
          cases call.args with
          | nil => exact steady_nothing
          | cons v _ => exact (steady_runOptional hframe hbody).either hother _
      | each =>
          cases call.args with
          | nil => exact steady_nothing
          | cons v _ =>
              cases body with
              | none => exact steady_nothing
              | some act =>
                  dsimp only
                  cases loopBlocks v binders with
                  | nil => exact hother
                  | cons b bs => exact (steady_runAll hframe (hbody act rfl) (b :: bs)).enclosed
      | «with» =>
          cases call.args with
          | nil => exact steady_nothing
          | cons v _ =>
              have hinner : Steady (runOptional
                  { frame with blocks := withBlock v binders :: frame.blocks } body) :=
                steady_runOptional (by exact hframe) hbody
              exact hinner.enclosed.either hother _
      | raw => exact steady_runOptional hframe hbody
      | log => cases call.args <;> exact steady_nothing

theorem steady_runCondition (c : Condition) :
    Steady (runCondition frame c call body otherwise) := by
  unfold runCondition
  cases c.holds call.args with
  | error e => exact steady_fault _
  | ok holds =>
      cases body with
      | none => exact ⟨_, prints_put _⟩
      | some act =>
          cases holds with
          | true => exact hbody act rfl frame hframe
          | false => exact steady_runOptional hframe hotherwise

theorem steady_runHelper : Steady (runHelper frame call binders body otherwise) := by
  unfold runHelper
  split
  · exact steady_fault _
  · exact steady_runCondition hframe hbody hotherwise call _
  · exact steady_runControl hframe hbody hotherwise call binders _
  · split
    · rw [hframe]
      exact steady_write _
    · exact steady_fault _

end

mutual

def Node.isPlain : Node → Bool
  | .text _ | .value _ => true
  | .block _ _ _ body otherwise => allPlain body && allPlainIn otherwise
  | .inclusion _ _ _ | .decorator _ _ => false

def allPlainIn : Option (List Node) → Bool
  | none => true
  | some nodes => allPlain nodes

def allPlain : List Node → Bool
  | [] => true
  | n :: rest => n.isPlain && allPlain rest

end

section

variable (lib : Library) {frame : Frame} {call : Call} {name : String} (st : State)

theorem runValue_of_name (hbare : call.isBare = true) (hname : nameText lib frame call.name = .ok name)
    (hhelper : Helper.named? name = none) : runValue lib frame call st =
      (nameValue lib frame call.name).map fun v =>
        if v.isMissing then st else st.write frame.indent (shown v.value) := by
  simp only [runValue, hbare, if_true, hname, bind, Except.bind, hhelper]
  cases nameValue lib frame call.name <;> rfl

theorem runValue_of_bareHelper (hbare : call.isBare = true)
    (hname : nameText lib frame call.name = .ok name) (hhelper : Helper.named? name ≠ none) :
    runValue lib frame call st =
      runAware false (runHelper frame ⟨name, [], []⟩ none none none) st := by
  have hsome : (Helper.named? name).isSome = true := Option.isSome_iff_ne_none.mpr hhelper
  simp only [runValue, hbare, if_true, hname, bind, Except.bind, hsome]

theorem runValue_of_call (hbare : call.isBare = false) : runValue lib frame call st =
    (evaluate lib frame call).bind fun c => runAware false (runHelper frame c none none none) st := by
  simp only [runValue, hbare, Bool.false_eq_true, if_false]
  rfl

variable (call) in
theorem steady_runValue (hframe : frame.indent = none) : Steady (runValue lib frame call) := by
  have hhelper (call : Evaluated) : Steady (runAware false (runHelper frame call none none none)) :=
    (steady_runHelper hframe (by simp) (by simp) call none).runAware false
  cases hbare : call.isBare with
  | false =>
      cases hcall : evaluate lib frame call with
      | error e => exact (steady_fault e).congr fun st => by rw [runValue_of_call lib st hbare, hcall]; rfl
      | ok c => exact (hhelper c).congr fun st => by rw [runValue_of_call lib st hbare, hcall]; rfl
  | true =>
      cases hname : nameText lib frame call.name with
      | error e =>
          refine (steady_fault e).congr fun st => ?_
          simp only [runValue, hbare, if_true, hname, bind, Except.bind]
      | ok name =>
          by_cases hnone : Helper.named? name = none
          · have hvalue (st : State) := runValue_of_name lib st hbare hname hnone
            cases hv : nameValue lib frame call.name with
            | error e => exact (steady_fault e).congr fun st => by rw [hvalue, hv]; rfl
            | ok v =>
                have hwrite := steady_nothing.either (steady_write (shown v.value)) (v.isMissing = true)
                refine hwrite.congr fun st => ?_
                rw [hvalue, hv, hframe, Except.map]
                split <;> rfl
          · exact (hhelper _).congr fun st => runValue_of_bareHelper lib st hbare hname hnone

end

section

variable (lib : Library) (expand : Frame → List Node → Action)

theorem renderNodes_cons (n : Node) (rest : List Node) (frame : Frame) (st : State) :
    renderNodes lib expand (n :: rest) frame st =
      (renderNode lib expand n frame st).bind (renderNodes lib expand rest frame) := by
  rw [renderNodes]
  cases renderNode lib expand n frame st <;> rfl

theorem renderNodes_nil (frame : Frame) : renderNodes lib expand [] frame = .ok := by
  funext st
  rw [renderNodes]

mutual

theorem steady_renderNode (n : Node) (hn : n.isPlain = true) :
    SteadyBody (renderNode lib expand n) := by
  intro frame hframe
  cases n with
  | text s =>
      refine (steady_write s).congr fun st => ?_
      rw [renderNode, hframe]
  | value call =>
      refine (steady_runValue lib call hframe).congr fun st => ?_
      rw [renderNode]
  | block call binders indentFirst body otherwise =>
      rw [Node.isPlain, Bool.and_eq_true] at hn
      obtain ⟨hbody, hotherwise⟩ := hn
      cases hcall : evaluate lib frame call with
      | error e =>
          refine (steady_fault e).congr fun st => ?_
          rw [renderNode, hcall]
      | ok c =>
          have hrun : SteadyBody fun frame st =>
              renderNodes lib expand body frame { st with current := none } := by
            intro inner hinner
            obtain ⟨r, hr⟩ := steady_renderNodes body hbody inner hinner
            exact ⟨r, hr.of_state (fun st => { st with current := none }) (fun _ => rfl) fun _ => rfl⟩
          have hsome : ∀ act ∈ some fun frame st =>
              renderNodes lib expand body frame { st with current := none }, SteadyBody act := by
            simpa using hrun
          have hhelper := (steady_runHelper hframe hsome
            (steady_renderOptional otherwise hotherwise) c binders).runAware indentFirst
          refine hhelper.congr fun st => ?_
          rw [renderNode, hcall]
  | inclusion call indent body => cases hn
  | decorator call body => cases hn

theorem steady_renderOptional (body : Option (List Node)) (hbody : allPlainIn body = true) :
    ∀ act ∈ renderOptional lib expand body, SteadyBody act := by
  intro act hact
  cases body with
  | none => simp [renderOptional] at hact
  | some nodes =>
      rw [renderOptional, Option.mem_some] at hact
      subst hact
      intro frame hframe
      obtain ⟨r, hr⟩ := steady_renderNodes nodes hbody frame hframe
      exact ⟨r, hr.of_state (fun st => { st with current := none }) (fun _ => rfl) fun _ => rfl⟩

/-- Plain nodes append the same text whatever has been written before them. -/
theorem steady_renderNodes (nodes : List Node) (hnodes : allPlain nodes = true) :
    SteadyBody (renderNodes lib expand nodes) := by
  intro frame hframe
  cases nodes with
  | nil =>
      rw [renderNodes_nil]
      exact steady_nothing
  | cons n rest =>
      rw [allPlain, Bool.and_eq_true] at hnodes
      have hfirst := steady_renderNode n hnodes.1 frame hframe
      have hrest := steady_renderNodes rest hnodes.2 frame hframe
      exact (hfirst.andThen hrest).congr fun st => renderNodes_cons lib expand n rest frame st

end

end

end Viewsmith.Template
