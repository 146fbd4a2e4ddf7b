import Viewsmith.Json.Value

namespace Viewsmith.Template

open Json (Value)

/-- One step of a path. `mark` is the `@` before the name of a loop variable. -/
inductive Step
  | root
  | mark
  | up
  | key (name : String)
deriving DecidableEq

structure Path where
  raw : String
  steps : List Step
deriving DecidableEq

inductive Param
  | path (p : Path)
  | literal (v : Value)
  | call (name : String) (params : List Param) (hash : List (String × Param))

inductive Name
  | word (s : String)
  | path (p : Path)
  | computed (p : Param)

structure Call where
  name : Name
  params : List Param
  hash : List (String × Param)

structure Binders where
  item : String
  place : Option String

/-- How the output of a tag that has a line of its own is indented: by the blanks before the tag, in
the first line only if `first` is set. -/
structure Indent where
  blanks : Option String
  first : Bool

inductive Node
  | text (s : String)
  | value (call : Call)
  | block (call : Call) (binders : Option Binders) (indentFirst : Bool)
      (body : List Node) (otherwise : Option (List Node))
  | inclusion (call : Call) (indent : Indent) (body : Option (List Node))
  | decorator (call : Call) (body : Option (List Node))

def Call.isBare (c : Call) : Bool := c.params.isEmpty && c.hash.isEmpty

end Viewsmith.Template
