import Viewsmith.Proofs.Template.Tags

namespace Viewsmith.Template

def Name.static? : Name → Option String
  | .word s => some s
  | .path p => some p.raw
  | .computed _ => none

mutual

/-- The partials that are included by a node or below it, in the order of their tags; `none` stands for
a name that depends on data. -/
def Node.included : Node → List (Option String)
  | .text _ | .value _ => []
  | .block _ _ _ body otherwise => included body ++ includedIn otherwise
  | .inclusion call _ body => call.name.static? :: includedIn body
  | .decorator _ body => includedIn body

def includedIn : Option (List Node) → List (Option String)
  | none => []
  | some nodes => included nodes

def included : List Node → List (Option String)
  | [] => []
  | n :: rest => n.included ++ included rest

end

mutual

theorem Node.included_of_isPlain (n : Node) (hn : n.isPlain = true) : n.included = [] := by
  cases n with
  | text s => rw [Node.included]
  | value call => rw [Node.included]
  | block call binders indentFirst body otherwise =>
      rw [Node.isPlain, Bool.and_eq_true] at hn
      rw [Node.included, included_of_allPlain body hn.1, includedIn_of_allPlainIn otherwise hn.2]
      rfl
  | inclusion call indent body => cases hn
  | decorator call body => cases hn

theorem includedIn_of_allPlainIn (body : Option (List Node)) (hbody : allPlainIn body = true) :
    includedIn body = [] := by
  cases body with
  | none => rw [includedIn]
  | some nodes => rw [includedIn, included_of_allPlain nodes hbody]

theorem included_of_allPlain (nodes : List Node) (hnodes : allPlain nodes = true) :
    included nodes = [] := by
  cases nodes with
  | nil => rw [included]
  | cons n rest =>
      rw [allPlain, Bool.and_eq_true] at hnodes
      rw [included, n.included_of_isPlain hnodes.1, included_of_allPlain rest hnodes.2]
      rfl

end

theorem nameText_of_static (lib : Library) (frame : Frame) {name : Name} {s : String}
    (h : name.static? = some s) : nameText lib frame name = .ok s := by
  cases name with
  | word w => exact congrArg _ (Option.some.inj h)
  | path p => exact congrArg _ (Option.some.inj h)
  | computed p => cases h

theorem evaluate_bare (lib : Library) (frame : Frame) {call : Call} {s : String}
    (hbare : call.isBare = true) (h : call.name.static? = some s) :
    evaluate lib frame call = .ok ⟨s, [], []⟩ := by
  obtain ⟨name, params, hash⟩ := call
  rw [Call.isBare, Bool.and_eq_true, List.isEmpty_iff, List.isEmpty_iff] at hbare
  obtain ⟨rfl, rfl⟩ := hbare
  simp only [evaluate, nameText_of_static lib frame h, evalParams, evalHash]
  rfl

namespace Depth

variable {d : Depth} {name : String}

/-- At the start there is room for every template. -/
theorem exists_enter_start (lib : Library) (current : Option String) :
    ∃ inner, (start lib).enter current = some inner := by
  cases current with
  | none => exact ⟨_, rfl⟩
  | some name =>
      rw [enter]
      split
      · exact ⟨_, rfl⟩
      · exact ⟨_, rfl⟩

theorem enter_of_mem (h : name ∈ d.fresh) :
    d.enter (some name) = some { d with fresh := d.fresh.filter (· ≠ name) } := by
  rw [enter, if_pos h]

theorem mem_fresh_start (lib : Library) :
    name ∈ (start lib).fresh ↔ ∃ nodes, Table.find? name lib.templates = some nodes := by
  rw [start]
  induction lib.templates with
  | nil => simp [Table.find?]
  | cons entry rest ih =>
      obtain ⟨k, nodes⟩ := entry
      rw [List.map_cons, List.mem_cons, ih, Table.find?]
      by_cases hk : k = name
      · simp [hk]
      · simp [hk, Ne.symm hk]

end Depth

section

variable (lib : Library) {d inner : Depth} {current : Option String}

theorem expandWithin_of_enter (h : d.enter current = some inner) (frame : Frame)
    (nodes : List Node) (st : State) : expandWithin lib d frame nodes { st with current } =
      renderNodes lib (expandWithin lib inner) nodes frame { st with current } := by
  rw [expandWithin]
  split
  · next hnone => rw [h] at hnone; cases hnone
  · next other hother => rw [h] at hother; cases hother; rfl

theorem expandWithin_of_enter_none (h : d.enter current = none) (frame : Frame)
    (nodes : List Node) (st : State) :
    expandWithin lib d frame nodes { st with current } = .error .other := by
  rw [expandWithin]
  split
  · rfl
  · next other hother => rw [h] at hother; cases hother

end

end Viewsmith.Template
