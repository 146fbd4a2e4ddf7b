import Mathlib.Data.Set.Defs
import Viewsmith.Proofs.Template.Inclusions

namespace Viewsmith.Template

def Node.isStatic : Node → Bool
  | .text _ => true
  | .inclusion call _ none => call.isBare && call.name.static?.isSome
  | _ => false

def fault? : Except Fault State → Option Fault
  | .ok _ => none
  | .error e => some e

/-- From every state in one of some templates, and with no partials of their own, the action has the
given fault or none, and in the end it is in one of these templates again. -/
def Meets (among : Set (Option String)) (act : Action) (e? : Option Fault) : Prop :=
  ∀ st : State, st.inlines = [] → st.current ∈ among →
    fault? (act st) = e? ∧ ∀ after, act st = .ok after → after.inlines = [] ∧ after.current ∈ among

section

variable {among : Set (Option String)} {act next : Action} {e? f? : Option Fault}

theorem meets_keep (f : State → State) (hinlines : ∀ st, (f st).inlines = st.inlines)
    (hcurrent : ∀ st, (f st).current = st.current) : Meets among (fun st => .ok (f st)) none := by
  refine fun st hst hmem => ⟨rfl, fun after hafter => ?_⟩
  cases hafter
  exact ⟨(hinlines st).trans hst, (hcurrent st).symm ▸ hmem⟩

theorem meets_ok : Meets among .ok none := meets_keep id (fun _ => rfl) fun _ => rfl

/-- What comes behind matters only if there was no fault before. -/
theorem Meets.andThen (h : Meets among act e?) (hnext : Meets among next f?) :
    Meets among (fun st => (act st).bind next) (e?.or f?) := by
  intro st hst hmem
  obtain ⟨hfault, hends⟩ := h st hst hmem
  dsimp only
  cases hact : act st with
  | error e =>
      rw [hact] at hfault
      subst hfault
      exact ⟨rfl, fun after hafter => by cases hafter⟩
  | ok mid =>
      rw [hact] at hfault
      subst hfault
      obtain ⟨hinlines, hcurrent⟩ := hends mid hact
      exact hnext mid hinlines hcurrent

theorem Meets.aware (h : Meets among act e?) (indentFirst : State → Bool) :
    Meets among (aware indentFirst act) e? := by
  intro st hst hmem
  obtain ⟨hfault, hends⟩ := h
    { st with out := { st.out with indentNext := indentFirst st, produced := false } } hst hmem
  unfold Template.aware
  dsimp only
  cases hact : act { st with
    out := { st.out with indentNext := indentFirst st, produced := false } } with
  | error e =>
      rw [hact] at hfault
      exact ⟨hfault, fun after hafter => by cases hafter⟩
  | ok mid =>
      rw [hact] at hfault
      have hmid := hends mid hact
      dsimp only
      split
      · exact ⟨hfault, fun after hafter => by cases hafter; exact hmid⟩
      · exact ⟨hfault, fun after hafter => by cases hafter; exact hmid⟩

theorem Meets.runAware (h : Meets among act e?) (indentFirst : Bool) :
    Meets among (runAware indentFirst act) e? := h.aware _

/-- Inside a block no template is left to include itself. -/
theorem Meets.inBlock (h : Meets { none } act e?) :
    Meets Set.univ (fun st => act { st with current := none }) e? := by
  intro st hst _
  obtain ⟨hfault, hends⟩ := h { st with current := none } hst rfl
  exact ⟨hfault, fun after hafter => ⟨(hends after hafter).1, trivial⟩⟩

theorem Prints.meets {s : String} (h : Prints act (.ok s)) : Meets Set.univ act none := by
  intro st hst _
  obtain ⟨after, hact, -, hinlines⟩ := h.ends st hst
  rw [hact]
  refine ⟨rfl, fun other hother => ?_⟩
  cases hother
  exact ⟨hinlines, trivial⟩

end

theorem findSome?_cons_or {α β : Type} (f : α → Option β) (x : α) (xs : List α) :
    (x :: xs).findSome? f = (f x).or (xs.findSome? f) := by
  rw [List.findSome?_cons]
  cases f x <;> rfl

section

variable (lib : Library) (expand : Frame → List Node → Action) {frame : Frame} {name : String}
  {indent : Indent} {st : State}

theorem fault?_runBare_of_absent (hname : name ≠ partialBlockName)
    (hnodes : Table.find? name lib.templates = none) :
    fault? (runBare lib expand frame name indent st) = some (.unknownPartial name) := by
  rw [runBare, if_neg hname, hnodes]
  rfl

theorem fault?_runBare_partialBlock :
    fault? (runBare lib expand frame partialBlockName indent st) = some .other := by
  rw [runBare, if_pos rfl]
  rfl

theorem fault?_runBare_of_meets {nodes : List Node} {e? : Option Fault}
    (hname : name ≠ partialBlockName) (hnodes : Table.find? name lib.templates = some nodes)
    (h : Meets { some name } (expand (frame.inside indent.blanks) nodes) e?)
    (hst : st.inlines = []) : fault? (runBare lib expand frame name indent st) = e? := by
  rw [runBare, if_neg hname, hnodes]
  exact (h { st with current := some name } hst rfl).1

/-- A tag that includes a partial has the faults of the partial and leaves the state as it was. -/
theorem meets_inclusion {call : Call} {current : Option String} {e? : Option Fault}
    (hbare : call.isBare = true) (hcall : call.name.static? = some name)
    (hgiven : frame.given = none) (hcurrent : current ≠ some name)
    (h : ∀ st : State, st.inlines = [] → fault? (runBare lib expand frame name indent st) = e?) :
    Meets { current } (renderNode lib expand (.inclusion call indent none) frame) e? := by
  have hpart : Meets { current } (fun st =>
      (enclosed (expandInclusion lib expand frame ⟨name, [], []⟩ indent none) st).map fun after =>
        { after with current := st.current }) e? := by
    intro st hst hmem
    have hself : st.current ≠ some name := fun heq => hcurrent (hmem.symm.trans heq)
    dsimp only
    rw [enclosed, expandInclusion_bare lib expand st hgiven hst hself]
    have hfault := h st hst
    cases hrun : runBare lib expand frame name indent st with
    | error e =>
        rw [hrun] at hfault
        exact ⟨hfault, fun after hafter => by cases hafter⟩
    | ok mid =>
        rw [hrun] at hfault
        refine ⟨hfault, fun after hafter => ?_⟩
        cases hafter
        exact ⟨hst, hmem⟩
  rw [renderNode_inclusion lib expand (evaluate_bare lib frame hbare hcall)]
  exact hpart.aware _

theorem Meets.expandWithin {d inner : Depth} {current : Option String} {nodes : List Node}
    {e? : Option Fault} (hinner : d.enter current = some inner)
    (h : Meets { current } (renderNodes lib (expandWithin lib inner) nodes frame) e?) :
    Meets { current } (Template.expandWithin lib d frame nodes) e? := by
  intro st hst hmem
  obtain rfl : st.current = current := hmem
  have henter : Template.expandWithin lib d frame nodes st =
      renderNodes lib (Template.expandWithin lib inner) nodes frame st :=
    expandWithin_of_enter lib hinner frame nodes st
  rw [henter]
  exact h st hst rfl

theorem exists_included_of_isStatic {nodes : List Node} (hstatic : nodes.all Node.isStatic = true) :
    ∃ names : List String, included nodes = names.map some := by
  induction nodes with
  | nil => exact ⟨[], by rw [included]; rfl⟩
  | cons n rest ih =>
      rw [List.all_cons, Bool.and_eq_true] at hstatic
      obtain ⟨names, hnames⟩ := ih hstatic.2
      cases n with
      | text s => exact ⟨names, by rw [included, Node.included, hnames]; rfl⟩
      | inclusion call indent body =>
          cases body with
          | some body => cases hstatic.1
          | none =>
              have hn := hstatic.1
              rw [Node.isStatic, Bool.and_eq_true] at hn
              obtain ⟨name, hname⟩ := Option.isSome_iff_exists.mp hn.2
              exact ⟨name :: names, by rw [included, Node.included, includedIn, hname, hnames]; rfl⟩
      | value call => cases hstatic.1
      | block call binders indentFirst body otherwise => cases hstatic.1
      | decorator call body => cases hstatic.1

/-- Static nodes fail with the first fault among those of the partials they include. -/
theorem meets_renderNodes {nodes : List Node} (hstatic : nodes.all Node.isStatic = true)
    {names : List String} (hnames : included nodes = names.map some) {current : Option String}
    {e? : String → Option Fault}
    (h : ∀ name ∈ names, ∀ (call : Call) (indent : Indent), call.isBare = true →
      call.name.static? = some name →
      Meets { current } (renderNode lib expand (.inclusion call indent none) frame) (e? name)) :
    Meets { current } (renderNodes lib expand nodes frame) (names.findSome? e?) := by
  induction nodes generalizing names with
  | nil =>
      rw [included] at hnames
      obtain rfl := List.map_eq_nil_iff.mp hnames.symm
      rw [renderNodes_nil]
      exact meets_ok
  | cons n rest ih =>
      rw [List.all_cons, Bool.and_eq_true] at hstatic
      obtain ⟨hn, hrest⟩ := hstatic
      have hcons {e f : Option Fault} (hfirst : Meets { current } (renderNode lib expand n frame) e)
          (hnext : Meets { current } (renderNodes lib expand rest frame) f) :
          Meets { current } (renderNodes lib expand (n :: rest) frame) (e.or f) := by
        intro st hst hmem
        rw [renderNodes_cons]
        exact hfirst.andThen hnext st hst hmem
      cases n with
      | text s =>
          rw [included, Node.included, List.nil_append] at hnames
          have htext : Meets { current } (renderNode lib expand (.text s) frame) none := by
            intro st hst hmem
            rw [renderNode]
            exact meets_keep (fun st => st.write frame.indent s) (fun _ => rfl) (fun _ => rfl) st hst hmem
          have hboth := hcons htext (ih hrest hnames h)
          rw [Option.none_or] at hboth
          exact hboth
      | inclusion call indent body =>
          cases body with
          | some body => cases hn
          | none =>
              rw [Node.isStatic, Bool.and_eq_true] at hn
              rw [included, Node.included, includedIn, List.cons_append, List.nil_append] at hnames
              cases names with
              | nil => cases hnames
              | cons name names =>
                  rw [List.map_cons, List.cons.injEq] at hnames
                  rw [List.forall_mem_cons] at h
                  rw [findSome?_cons_or]
                  exact hcons (h.1 call indent hn.1 hnames.1) (ih hrest hnames.2 h.2)
      | value call => cases hn
      | block call binders indentFirst body otherwise => cases hn
      | decorator call body => cases hn

end

end Viewsmith.Template
