import Viewsmith.Template.Helper
import Viewsmith.Template.Scan

namespace Viewsmith.Template

open Json (Value)

inductive Fault
  | unknownPartial (name : String)
  | other
deriving DecidableEq

/-- The text so far. `lineEnded` tells that the last text ended a line, `indentNext` that the next
one is to be indented, `produced` that there was any since the last tag that asked. -/
structure Output where
  text : String := ""
  lineEnded : Bool := false
  indentNext : Bool := false
  produced : Bool := false

def startsLine (text : List Char) : Bool :=
  match text with
  | c :: _ => isLineEnd c
  | [] => false

def indentLines (indent : List Char) : List Char → List Char
  | [] => []
  | '\n' :: [] => ['\n']
  | '\n' :: rest => '\n' :: indent ++ indentLines indent rest
  | c :: rest => c :: indentLines indent rest

def Output.write (o : Output) (indent : Option String) (s : String) : Output :=
  if s.isEmpty then o
  else
    let lead := (indent.getD "").toList
    let lines := indentLines lead s.toList
    let lines := if o.indentNext && !startsLine s.toList then lead ++ lines else lines
    let ended := startsLine s.toList.reverse
    { text := o.text ++ String.ofList lines, lineEnded := ended, indentNext := ended
      produced := true }

/-- Text that stands as it is, and that indentation does not know of. -/
def Output.put (o : Output) (s : String) : Output := { o with text := o.text ++ s }

structure Library where
  templates : List (String × List Node)
  data : Value

structure Frame where
  blocks : List Block := [{}]
  indent : Option String := none
  given : Option String := none

/-- What rendering changes: the text, the template being rendered as far as it has a name, and the
partials defined by templates. -/
structure State where
  out : Output := {}
  current : Option String := none
  inlines : List (String × List Node) := []

abbrev Action := State → Except Fault State

def State.write (st : State) (indent : Option String) (s : String) : State :=
  { st with out := st.out.write indent s }

def State.put (st : State) (s : String) : State := { st with out := st.out.put s }

/-- Partials that are defined on the way are known until the end. -/
def enclosed (act : Action) : Action := fun st =>
  (act st).map fun after => { after with inlines := st.inlines }

def apart (act : Action) (st : State) : Except Fault (String × State) :=
  (act { st with out := { st.out with text := "" } }).map fun after =>
    (after.out.text, { after with out := { after.out with text := st.out.text } })

def faulty {α : Type} : Except Unit α → Except Fault α
  | .ok a => .ok a
  | .error _ => .error .other

/-- Render with the indentation settled: if nothing was produced, what held before holds again. -/
def aware (indentFirst : State → Bool) (act : Action) : Action := fun st =>
  let before := st.out
  match act { st with out := { st.out with indentNext := indentFirst st, produced := false } } with
  | .error e => .error e
  | .ok st =>
      if st.out.produced then .ok { st with out := { st.out with indentNext := st.out.lineEnded } }
      else
        .ok { st with
          out := { st.out with indentNext := before.indentNext, produced := before.produced } }

def nameText (lib : Library) (frame : Frame) : Name → Except Fault String
  | .word s => .ok s
  | .path p => .ok p.raw
  | .computed p => (faulty (evalParam lib.data frame.blocks p)).map fun v => shown v.value

def nameValue (lib : Library) (frame : Frame) : Name → Except Fault Scoped
  | .word _ => .ok .missing
  | .path p => faulty (resolve lib.data frame.blocks p.steps)
  | .computed p => faulty (evalParam lib.data frame.blocks p)

structure Evaluated where
  name : String
  args : List Scoped
  hash : List (String × Scoped)

def evaluate (lib : Library) (frame : Frame) (call : Call) : Except Fault Evaluated := do
  let name ← nameText lib frame call.name
  let args ← faulty (evalParams lib.data frame.blocks call.params)
  let hash ← faulty (evalHash lib.data frame.blocks call.hash)
  return { name, args, hash }

def blockAt (v : Scoped) : Block :=
  match v with
  | .placed path _ => { path }
  | other => { value := some other.value }

def itemBound (v : Scoped) (item : Value) : Bound :=
  match v with
  | .placed _ _ => .place
  | _ => .value item

def bindItem (binders : Option Binders) (item : Bound) (place : Value) :
    List (String × Bound) :=
  match binders with
  | none => []
  | some ⟨name, none⟩ => [(name, item)]
  | some ⟨name, some other⟩ => Table.set other (.value place) [(name, item)]

def itemBlock (source : Scoped) (binders : Option Binders) (locals : List (String × Value))
    (key : String) (place item : Value) : Block :=
  let bound := bindItem binders (itemBound source item) place
  match source with
  | .placed path _ => { path := path ++ [key], bound, locals }
  | _ => { value := some item, bound, locals }

def position (i last : Nat) : List (String × Value) :=
  [ ("first", .bool (i == 0)), ("index", .number (.whole i)), ("last", .bool (i == last)) ]

def arrayBlocks (source : Scoped) (binders : Option Binders) (last : Nat) :
    Nat → List Value → List Block
  | _, [] => []
  | i, v :: rest =>
      itemBlock source binders (position i last) (toString i) (.number (.whole i)) v ::
        arrayBlocks source binders last (i + 1) rest

def fieldBlocks (source : Scoped) (binders : Option Binders) (last : Nat) :
    Nat → List (String × Value) → List Block
  | _, [] => []
  | i, (k, v) :: rest =>
      itemBlock source binders (("key", .string k) :: position i last) k (.string k) v ::
        fieldBlocks source binders last (i + 1) rest

def loopBlocks (source : Scoped) (binders : Option Binders) : List Block :=
  match source.value with
  | .array items => arrayBlocks source binders (items.length - 1) 0 items
  | .object fields => fieldBlocks source binders (fields.length - 1) 0 fields
  | _ => []

def runAll (frame : Frame) (body : Frame → Action) : List Block → Action
  | [], st => .ok st
  | b :: rest, st =>
      match body { frame with blocks := b :: frame.blocks } st with
      | .ok st => runAll frame body rest st
      | .error e => .error e

def runOptional (frame : Frame) (body : Option (Frame → Action)) : Action :=
  match body with
  | some act => act frame
  | none => .ok

def withBlock (source : Scoped) (binders : Option Binders) : Block :=
  match binders with
  | some ⟨name, none⟩ => { blockAt source with bound := [(name, itemBound source source.value)] }
  | _ => blockAt source

def runControl (frame : Frame) (c : Control) (call : Evaluated) (binders : Option Binders)
    (body otherwise : Option (Frame → Action)) : Action := fun st =>
  match c.check call.args call.hash with
  | .error _ => .error .other
  | .ok _ =>
      match c, call.args with
      | .when positive, v :: _ =>
          let includeZero :=
            match (Table.find? "includeZero" call.hash).map Scoped.value with
            | some (.bool b) => b
            | _ => false
          if isTruthy includeZero v.value == positive then runOptional frame body st
          else runOptional frame otherwise st
      | .each, v :: _ =>
          match body with
          | none => .ok st
          | some act =>
              match loopBlocks v binders with
              | [] => runOptional frame otherwise st
              | blocks => enclosed (runAll frame act blocks) st
      | .with, v :: _ =>
          if isTruthy false v.value then
            enclosed (runOptional { frame with blocks := withBlock v binders :: frame.blocks } body) st
          else runOptional frame otherwise st
      | .raw, _ => runOptional frame body st
      | _, _ => .ok st

def runCondition (frame : Frame) (c : Condition) (call : Evaluated)
    (body otherwise : Option (Frame → Action)) : Action := fun st =>
  match c.holds call.args with
  | .error _ => .error .other
  | .ok holds =>
      match body with
      | none => .ok (st.put (if holds then "true" else "false"))
      | some act => if holds then act frame st else runOptional frame otherwise st

def runHelper (frame : Frame) (call : Evaluated) (binders : Option Binders)
    (body otherwise : Option (Frame → Action)) : Action := fun st =>
  match Helper.named? call.name with
  | none => .error .other
  | some (.condition c) => runCondition frame c call body otherwise st
  | some (.control c) => runControl frame c call binders body otherwise st
  | some (.operation f) =>
      match f.apply call.args with
      | .ok v => .ok (st.write frame.indent (shown v.value))
      | .error _ => .error .other

def runAware (indentFirst : Bool) (act : Action) : Action :=
  aware (fun st => st.out.indentNext || (indentFirst && st.out.lineEnded)) act

def runValue (lib : Library) (frame : Frame) (call : Call) : Action := fun st => do
  if call.isBare then
    let name ← nameText lib frame call.name
    if (Helper.named? name).isSome then
      runAware false (runHelper frame ⟨name, [], []⟩ none none none) st
    else
      let v ← nameValue lib frame call.name
      return if v.isMissing then st else st.write frame.indent (shown v.value)
  else
    let call ← evaluate lib frame call
    runAware false (runHelper frame call none none none) st

def runDecorator (lib : Library) (frame : Frame) (call : Call) (body : Option (List Node)) :
    Action := fun st => do
  let call ← evaluate lib frame call
  if call.name ≠ "inline" then throw .other
  match call.args.head?.map Scoped.value, body with
  | some (.string name), some nodes =>
      return { st with inlines := Table.set name nodes st.inlines }
  | _, _ => throw .other

def partialBlockName : String := "@partial-block"

def findTemplate (lib : Library) (st : State) (name : String) :
    Option (Option String × List Node) :=
  match Table.find? name st.inlines with
  | some nodes => some (none, nodes)
  | none => (Table.find? name lib.templates).map fun nodes => (some name, nodes)

def numbered (vs : List Value) : List (String × Value) :=
  Table.ofEntries (vs.zipIdx.map fun (v, i) => (toString i, v))

/-- The fields that named arguments are added to. -/
def fieldsOf : Value → List (String × Value)
  | .object fields => fields
  | .array items => numbered items
  | .string s => numbered (s.toList.map fun c => .string (String.singleton c))
  | _ => []

def mergeInto (base : Value) (hash : List (String × Scoped)) : Value :=
  .object (hash.foldl (fun fields (k, v) => Table.set k v.value fields) (fieldsOf base))

/-- The block a partial is rendered in: the current one once more, or one at its argument. Named
arguments are bound in it and added to its value. -/
def partialBlock (lib : Library) (frame : Frame) (call : Evaluated) : Except Fault Block := do
  let base : Block :=
    match call.args with
    | v :: _ => blockAt v
    | [] => frame.blocks.head?.getD {}
  if call.hash.isEmpty then return base
  let current ← faulty (resolve lib.data (base :: frame.blocks) [])
  let bound := call.hash.map fun (k, v) => (k, Bound.value v.value)
  return { base with value := some (mergeInto current.value call.hash), bound }

def joinIndent : Option String → Option String → Option String
  | none, b => b
  | a, none => a
  | some a, some b => some (a ++ b)

def renderGiven (frame : Frame) (body : Option (Frame → Action)) (st : State) :
    Except Fault (Option String × State) :=
  match body with
  | none => .ok (none, st)
  | some act => (apart (act frame) st).map fun (text, st) => (some text, st)

/-- Render a partial by `expand`. Its body, if it has one, is rendered first, whether it is shown or
not; it stands in for a partial that is not there. -/
def expandInclusion (lib : Library) (expand : Frame → List Node → Action) (frame : Frame)
    (call : Evaluated) (indent : Indent) (body : Option (Frame → Action)) : Action := fun st => do
  if st.current = some call.name then throw .other
  let block ← partialBlock lib frame call
  let inner := { frame with blocks := block :: frame.blocks }
  let (given, st) ← renderGiven inner body st
  let inner := { inner with indent := joinIndent frame.indent indent.blanks, given }
  if call.name = partialBlockName then
    match frame.given, body with
    | some text, _ => return st.put text
    | none, some act => act inner st
    | none, none => throw .other
  else
    match findTemplate lib st call.name, body with
    | some (current, nodes), _ => expand inner nodes { st with current }
    | none, some act => act inner st
    | none, none => throw (.unknownPartial call.name)

def runInclusion (lib : Library) (expand : Frame → List Node → Action) (frame : Frame)
    (call : Call) (indent : Indent) (body : Option (Frame → Action)) : Action := fun st => do
  let call ← evaluate lib frame call
  let act : Action := fun st =>
    (enclosed (expandInclusion lib expand frame call indent body) st).map fun after =>
      { after with current := st.current }
  aware (fun st => indent.first && (st.out.lineEnded || indent.blanks.isSome)) act st

mutual

def renderNode (lib : Library) (expand : Frame → List Node → Action) :
    Node → Frame → Action
  | .text s, frame, st => .ok (st.write frame.indent s)
  | .value call, frame, st => runValue lib frame call st
  | .block call binders indentFirst body otherwise, frame, st =>
      match evaluate lib frame call with
      | .error e => .error e
      | .ok call =>
          let run (frame : Frame) (st : State) :=
            renderNodes lib expand body frame { st with current := none }
          runAware indentFirst
            (runHelper frame call binders (some run) (renderOptional lib expand otherwise)) st
  | .inclusion call indent body, frame, st =>
      runInclusion lib expand frame call indent (renderOptional lib expand body) st
  | .decorator call body, frame, st => runDecorator lib frame call body st

def renderOptional (lib : Library) (expand : Frame → List Node → Action) :
    Option (List Node) → Option (Frame → Action)
  | none => none
  | some body => some fun frame st => renderNodes lib expand body frame { st with current := none }

def renderNodes (lib : Library) (expand : Frame → List Node → Action) :
    List Node → Frame → Action
  | [], _, st => .ok st
  | n :: rest, frame, st =>
      match renderNode lib expand n frame st with
      | .ok st => renderNodes lib expand rest frame st
      | .error e => .error e

end

/-- How deep partials may still nest: into each of the templates `fresh`, and `again` times into one
that was entered before or that a template has defined. -/
structure Depth where
  fresh : List String
  again : Nat

namespace Depth

/-- Into each template once, and 512 times more. The number is a bound of this library alone: partials
that end only further down, as at the end of a very long path, are not rendered. -/
def start (lib : Library) : Depth := ⟨lib.templates.map Prod.fst, 512⟩

def enter (d : Depth) : Option String → Option Depth
  | some name =>
      if name ∈ d.fresh then some { d with fresh := d.fresh.filter (· ≠ name) }
      else if d.again = 0 then none else some { d with again := d.again - 1 }
  | none => if d.again = 0 then none else some { d with again := d.again - 1 }

def size (d : Depth) : Nat := d.fresh.length + d.again

theorem size_enter {d inner : Depth} {current : Option String} (h : d.enter current = some inner) :
    inner.size < d.size := by
  have hagain (h : (if d.again = 0 then none else some { d with again := d.again - 1 }) = some inner) :
      inner.size < d.size := by
    split at h
    · cases h
    · cases h
      simp only [size]
      omega
  cases current with
  | none => exact hagain h
  | some name =>
      rw [enter] at h
      split at h
      · rename_i hfresh
        cases h
        have hless : (d.fresh.filter (· ≠ name)).length < d.fresh.length :=
          List.length_filter_lt_length_iff_exists.mpr ⟨name, hfresh, by simp⟩
        exact Nat.add_lt_add_right hless d.again
      · exact hagain h

end Depth

def expandWithin (lib : Library) (d : Depth) : Frame → List Node → Action := fun frame nodes st =>
  match _entered : d.enter st.current with
  | none => .error .other
  | some inner => renderNodes lib (expandWithin lib inner) nodes frame st
termination_by d.size
decreasing_by exact Depth.size_enter _entered

/-- The text of a template. One with a name may not include itself. -/
def render (lib : Library) (name : Option String) (nodes : List Node) : Except Fault String :=
  (renderNodes lib (expandWithin lib (.start lib)) nodes {} { current := name }).map (·.out.text)

end Viewsmith.Template
