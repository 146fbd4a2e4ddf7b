import Viewsmith.Template.Scan

namespace Viewsmith.Template

open Unicode (isBlank trimStart trimEnd trimBlankEnd)

structure Head where
  call : Call
  binders : Option Binders
  indentFirst : Bool

/-- An open tag with the nodes before it, backwards. In a block `last` is the head of the branch being
read; without one the branch is the last. The branches in `done` come latest first. -/
inductive OpenTag
  | block (outer : List Node) (done : List (Head × List Node)) (last : Option Head)
  | inclusion (outer : List Node) (call : Call) (indentFirst : Bool)
  | decorator (outer : List Node) (call : Call)

/-- `trimAll` follows from a tilde and lasts until the next tag; `trimLine` is set behind a tag that
had a line of its own. -/
structure Assembly where
  opened : List OpenTag
  body : List Node
  trimAll : Bool
  trimLine : Bool

def dropLineEnd : List Char → List Char
  | '\r' :: '\n' :: rest => rest
  | '\n' :: rest => rest
  | text => text

def trimText (trimAll trimLine : Bool) (s : List Char) : List Char :=
  if trimAll then trimStart s
  else if trimLine then dropLineEnd (s.dropWhile isBlank)
  else s

def textNode (s : List Char) : Node := .text (String.ofList s)

def mapLastText (f : List Char → List Char) : List Node → List Node
  | .text s :: rest => textNode (f s.toList) :: rest
  | body => body

def Call.wordName (c : Call) : String :=
  match c.name with
  | .word s => s
  | .path p => p.raw
  | .computed _ => ""

/-- The branches folded into one block, each in the other branch of the one before. -/
def foldBranches (otherwise : Option (List Node)) : List (Head × List Node) → Option (List Node)
  | [] => otherwise
  | (h, body) :: rest =>
      foldBranches (some [.block h.call h.binders h.indentFirst body otherwise]) rest

def firstCall (done : List (Head × List Node)) (last : Option Head) : Option Call :=
  match done.getLast?, last with
  | some (h, _), _ => some h.call
  | none, some h => some h.call
  | none, none => none

def closeTag (name : String) (body : List Node) : List OpenTag → Option (List OpenTag × List Node)
  | .block outer done last :: opened =>
      match firstCall done last with
      | none => none
      | some call =>
          if call.wordName = name then
            let folded :=
              match last with
              | some h => foldBranches none ((h, body.reverse) :: done)
              | none => foldBranches (some body.reverse) done
            folded.map fun nodes => (opened, nodes ++ outer)
          else none
  | .inclusion outer call indentFirst :: opened =>
      if name.isEmpty || call.wordName = name then
        some (opened, .inclusion call ⟨none, indentFirst⟩ (some body.reverse) :: outer)
      else none
  | .decorator outer call :: opened =>
      if name.isEmpty || call.wordName = name then
        some (opened, .decorator call (some body.reverse) :: outer)
      else none
  | [] => none

/-- Whether the tag is alone on its line. At the end of the source no line end is needed. -/
def standsAlone (p : Place) : Bool :=
  (p.closesLine || p.atEnd) && p.opensLine

def pushText (s : List Char) (a : Assembly) : Assembly :=
  { a with body := textNode (trimText a.trimAll a.trimLine s) :: a.body }

def applyTag (m : Mark) (p : Place) (alone : Bool) (a : Assembly) : Option Assembly :=
  let indentFirst := alone && !m.trimBefore
  match m.tag with
  | .value call => some { a with body := .value call :: a.body }
  | .comment => some { a with body := .text "" :: a.body }
  | .opening call binders =>
      some { a with
        opened := .block a.body [] (some ⟨call, binders, indentFirst⟩) :: a.opened
        body := [] }
  | .other =>
      match a.opened with
      | .block outer done (some h) :: opened =>
          some { a with
            opened := .block outer ((h, a.body.reverse) :: done) none :: opened
            body := [] }
      | _ => none
  | .otherIf call binders =>
      match a.opened with
      | .block outer done (some h) :: opened =>
          some { a with
            opened :=
              .block outer ((h, a.body.reverse) :: done) (some ⟨call, binders, indentFirst⟩) :: opened
            body := [] }
      | _ => none
  | .closing name =>
      (closeTag name a.body a.opened).map fun (opened, body) => { a with opened, body }
  | .inclusion call =>
      let blanks :=
        if m.trimBefore || p.blanks.isEmpty then none else some (String.ofList p.blanks)
      some { a with body := .inclusion call ⟨blanks, indentFirst⟩ none :: a.body }
  | .openInclusion call =>
      some { a with opened := .inclusion a.body call indentFirst :: a.opened, body := [] }
  | .decorator call => some { a with body := .decorator call none :: a.body }
  | .openDecorator call =>
      some { a with opened := .decorator a.body call :: a.opened, body := [] }

def isValue : Tag → Bool
  | .value _ => true
  | _ => false

def isComment : Tag → Bool
  | .comment => true
  | _ => false

def addItem (a : Assembly) : Item → Option Assembly
  | .text s => some { pushText s a with trimLine := false }
  | .gap s => if a.trimAll then some a else some { pushText s a with trimLine := false }
  | .verbatim s => some (pushText s a)
  | .mark m p =>
      let body := if m.trimBefore then mapLastText trimEnd a.body else a.body
      let trimAll := if isComment m.tag then a.trimAll else m.trimAfter
      if isValue m.tag then applyTag m p false { a with body, trimAll }
      else
        let alone := standsAlone p
        let body := if alone then mapLastText trimBlankEnd body else body
        applyTag m p alone { a with body, trimAll, trimLine := alone }

def addItems : Assembly → List Item → Option Assembly
  | a, [] => some a
  | a, item :: items =>
      match addItem a item with
      | some a => addItems a items
      | none => none

def compile (source : String) : Option (List Node) :=
  match scan source.toList with
  | none => none
  | some items =>
      match addItems ⟨[], [], false, false⟩ items with
      | some ⟨[], body, _, _⟩ => some body.reverse
      | _ => none

end Viewsmith.Template
