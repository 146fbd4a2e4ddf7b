import Viewsmith.Proofs.Template.Printing

namespace Viewsmith.Template

section

variable (lib : Library) (expand : Frame → List Node → Action) {frame : Frame}
  {r q : Except Fault String}

theorem prints_nil : Prints (renderNodes lib expand [] frame) (.ok "") := by
  rw [renderNodes_nil]
  exact prints_nothing

theorem Prints.cons {n : Node} {rest : List Node} (h : Prints (renderNode lib expand n frame) r)
    (hrest : Prints (renderNodes lib expand rest frame) q) :
    Prints (renderNodes lib expand (n :: rest) frame) (followed r q) :=
  (h.andThen hrest).congr fun st _ => renderNodes_cons lib expand n rest frame st

theorem followed_ok_assoc (s : String) (r q : Except Fault String) :
    followed (followed (.ok s) r) q = followed (.ok s) (followed r q) := by
  cases r with
  | error e => rfl
  | ok s' =>
      cases q with
      | error e => rfl
      | ok s'' => exact congrArg _ String.append_assoc

theorem followed_assoc (r q p : Except Fault String) :
    followed (followed r q) p = followed r (followed q p) := by
  cases r with
  | error e => rfl
  | ok s => exact followed_ok_assoc s q p

theorem followed_empty (r : Except Fault String) : followed r (.ok "") = r := by
  cases r with
  | error e => rfl
  | ok s => exact congrArg _ String.append_empty

theorem empty_followed (r : Except Fault String) : followed (.ok "") r = r := by
  cases r with
  | error e => rfl
  | ok s => exact congrArg _ String.empty_append

theorem renderNodes_append (ns ms : List Node) (frame : Frame) (st : State) :
    renderNodes lib expand (ns ++ ms) frame st =
      (renderNodes lib expand ns frame st).bind (renderNodes lib expand ms frame) := by
  induction ns generalizing st with
  | nil => rw [List.nil_append, renderNodes_nil]; rfl
  | cons n ns ih =>
      rw [List.cons_append, renderNodes_cons, renderNodes_cons]
      cases renderNode lib expand n frame st with
      | error e => rfl
      | ok st => exact ih st

theorem Prints.append {ns ms : List Node} (h : Prints (renderNodes lib expand ns frame) r)
    (hrest : Prints (renderNodes lib expand ms frame) q) :
    Prints (renderNodes lib expand (ns ++ ms) frame) (followed r q) :=
  (h.andThen hrest).congr fun st _ => renderNodes_append lib expand ns ms frame st

/-- Empty texts around a node, which a tag on a line of its own leaves behind. -/
theorem renderNodes_around (n : Node) (st : State) :
    renderNodes lib expand [.text "", n, .text ""] frame st = renderNode lib expand n frame st := by
  have hempty (st : State) : renderNode lib expand (.text "") frame st = .ok st := by
    rw [renderNode]
    rfl
  rw [renderNodes_cons, hempty, Except.bind, renderNodes_cons]
  cases renderNode lib expand n frame st with
  | error e => rfl
  | ok after => rw [Except.bind, renderNodes_cons, hempty, renderNodes_nil]; rfl

section

variable (hframe : frame.indent = none)

include hframe

theorem prints_text (s : String) : Prints (renderNode lib expand (.text s) frame) (.ok s) := by
  refine (prints_write s).congr fun st _ => ?_
  rw [renderNode, hframe]

theorem prints_path {p : Path} {v : Scoped} (hname : Helper.named? p.raw = none)
    (hv : resolve lib.data frame.blocks p.steps = .ok v) :
    Prints (renderNode lib expand (.value ⟨.path p, [], []⟩) frame) (.ok (shown v.value)) := by
  have hvalue : nameValue lib frame (.path p) = .ok v := by rw [nameValue, hv, faulty]
  have hrun (st : State) : runValue lib frame ⟨.path p, [], []⟩ st = _ :=
    runValue_of_name lib st rfl rfl hname
  cases hm : v.isMissing with
  | true =>
      have hshown : shown v.value = "" := by
        cases v with
        | missing => rfl
        | placed path v => cases hm
        | derived v => cases hm
      rw [hshown]
      refine prints_nothing.congr fun st _ => ?_
      rw [renderNode, hrun, hvalue, Except.map, hm]
      rfl
  | false =>
      refine (prints_write (shown v.value)).congr fun st _ => ?_
      rw [renderNode, hrun, hvalue, Except.map, hm, hframe]
      rfl

theorem prints_operation {f : Operation} {name : String} {p : Path} {v w : Scoped}
    (hname : Helper.named? name = some (.operation f))
    (hv : resolve lib.data frame.blocks p.steps = .ok v) (hw : f.apply [v] = .ok w) :
    Prints (renderNode lib expand (.value ⟨.word name, [.path p], []⟩) frame)
      (.ok (shown w.value)) := by
  have hcall : evaluate lib frame ⟨.word name, [.path p], []⟩ = .ok ⟨name, [v], []⟩ := by
    simp only [evaluate, nameText, evalParams, evalParam, evalHash, hv, faulty]
    rfl
  have hrun : Prints (runHelper frame ⟨name, [v], []⟩ none none none) (.ok (shown w.value)) := by
    refine (prints_write (shown w.value)).congr fun st _ => ?_
    simp only [runHelper, hname, hw, hframe]
  refine (hrun.runAware false).congr fun st _ => ?_
  rw [renderNode, runValue_of_call lib st rfl, hcall]
  rfl

end

section

variable {p : Path} {v : Scoped} {body : List Node} {indentFirst : Bool}
  (hv : resolve lib.data frame.blocks p.steps = .ok v)

include hv

theorem evaluate_path (name : String) :
    evaluate lib frame ⟨.word name, [.path p], []⟩ = .ok ⟨name, [v], []⟩ := by
  simp only [evaluate, nameText, evalParams, evalParam, evalHash, hv, faulty]
  rfl

theorem renderNode_chosen (htrue : isTruthy false v.value = true) :
    renderNode lib expand (.block ⟨.word "if", [.path p], []⟩ none indentFirst body none) frame =
      runAware indentFirst fun st => renderNodes lib expand body frame { st with current := none } := by
  have hrun : runHelper frame ⟨"if", [v], []⟩ none
      (some fun frame st => renderNodes lib expand body frame { st with current := none }) none =
      fun st => renderNodes lib expand body frame { st with current := none } := by
    funext st
    simp only [runHelper, Helper.named?, runControl, Control.check, List.isEmpty_cons,
      Bool.false_eq_true, if_false, Table.find?, Option.map_none, htrue, beq_self_eq_true, if_true,
      runOptional]
  funext st
  rw [← hrun, renderNode, evaluate_path lib hv]
  rfl

theorem renderNode_skipped (hfalse : isTruthy false v.value = false) :
    renderNode lib expand (.block ⟨.word "if", [.path p], []⟩ none indentFirst body none) frame =
      runAware indentFirst .ok := by
  have hrun : runHelper frame ⟨"if", [v], []⟩ none
      (some fun frame st => renderNodes lib expand body frame { st with current := none }) none =
      .ok := by
    funext st
    simp only [runHelper, Helper.named?, runControl, Control.check, List.isEmpty_cons,
      Bool.false_eq_true, if_false, Table.find?, Option.map_none, hfalse, runOptional, beq_iff_eq]
  funext st
  rw [← hrun, renderNode, evaluate_path lib hv]
  rfl

theorem prints_chosen (htrue : isTruthy false v.value = true)
    (hbody : Prints (fun st => renderNodes lib expand body frame { st with current := none }) r) :
    Prints (renderNode lib expand (.block ⟨.word "if", [.path p], []⟩ none indentFirst body none)
      frame) r := by
  rw [renderNode_chosen lib expand hv htrue]
  exact hbody.runAware indentFirst

theorem prints_skipped (hfalse : isTruthy false v.value = false) :
    Prints (renderNode lib expand (.block ⟨.word "if", [.path p], []⟩ none indentFirst body none)
      frame) (.ok "") := by
  rw [renderNode_skipped lib expand hv hfalse]
  exact prints_nothing.runAware indentFirst

end

def Frame.within (frame : Frame) : Frame where
  blocks := frame.blocks.head?.getD {} :: frame.blocks

def Frame.inside (frame : Frame) (blanks : Option String) : Frame :=
  { frame.within with indent := joinIndent frame.indent blanks }

/-- What a tag that includes a partial comes to, apart from what it must not change. -/
def runBare (frame : Frame) (name : String) (indent : Indent) (st : State) : Except Fault State :=
  if name = partialBlockName then .error .other
  else
    match Table.find? name lib.templates with
    | some nodes => expand (frame.inside indent.blanks) nodes { st with current := some name }
    | none => .error (.unknownPartial name)

/-- Where no template has defined partials, a partial without arguments and body is the template of
its name. -/
theorem expandInclusion_bare {name : String} {indent : Indent} (st : State)
    (hgiven : frame.given = none) (hst : st.inlines = []) (hcurrent : st.current ≠ some name) :
    expandInclusion lib expand frame ⟨name, [], []⟩ indent none st =
      runBare lib expand frame name indent st := by
  have hblock : partialBlock lib frame ⟨name, [], []⟩ = .ok (frame.blocks.head?.getD {}) := rfl
  simp only [expandInclusion, hcurrent, if_false, hblock, bind, Except.bind, renderGiven, runBare]
  split
  · rw [hgiven]
    rfl
  · simp only [findTemplate, hst, Table.find?]
    cases Table.find? name lib.templates <;> rfl

theorem renderNode_inclusion {call : Call} {c : Evaluated} (hcall : evaluate lib frame call = .ok c)
    (indent : Indent) : renderNode lib expand (.inclusion call indent none) frame =
      aware (fun st => indent.first && (st.out.lineEnded || indent.blanks.isSome)) fun st =>
        (enclosed (expandInclusion lib expand frame c indent none) st).map fun after =>
          { after with current := st.current } := by
  funext st
  rw [renderNode, renderOptional, runInclusion, hcall]
  rfl

theorem prints_inclusion {name : String} {nodes : List Node} {indentFirst : Bool}
    (hindent : frame.indent = none) (hgiven : frame.given = none) (hname : name ≠ partialBlockName)
    (hnodes : Table.find? name lib.templates = some nodes)
    (h : Prints (fun st => expand frame.within nodes { st with current := some name }) r) :
    Prints (fun st => renderNode lib expand (.inclusion ⟨.word name, [], []⟩ ⟨none, indentFirst⟩ none)
      frame { st with current := none }) r := by
  have hcall : evaluate lib frame ⟨.word name, [], []⟩ = .ok ⟨name, [], []⟩ := rfl
  have hpart : Prints (fun st => expandInclusion lib expand frame ⟨name, [], []⟩ ⟨none, indentFirst⟩
      none { st with current := none }) r := by
    refine h.congr fun st hst => ?_
    have hcurrent : (none : Option String) ≠ some name := (Option.some_ne_none name).symm
    rw [expandInclusion_bare lib expand { st with current := none } hgiven hst hcurrent, runBare,
      if_neg hname, hnodes, Frame.inside, hindent]
    rfl
  have hact := (hpart.enclosed.after (fun st => { st with current := none }) (fun _ => rfl)
    fun _ => rfl).aware fun st => indentFirst && (st.out.lineEnded || false)
  refine hact.congr fun st _ => ?_
  rw [renderNode_inclusion lib expand hcall]
  rfl

end

end Viewsmith.Template
