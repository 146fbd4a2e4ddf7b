import Viewsmith.Template.Scope
import Viewsmith.Json.Printer
import Viewsmith.Json.Reader
import Viewsmith.Text.Lower
import Viewsmith.Text.Snake
import Viewsmith.Text.Search

namespace Viewsmith.Template

open Json (Value Numeral)

mutual

def shown : Value → String
  | .null => ""
  | .bool b => if b then "true" else "false"
  | .number n => n.text
  | .string s => s
  | .array items => "[" ++ shownItems items ++ "]"
  | .object _ => "[object]"

def shownItems : List Value → String
  | [] => ""
  | [v] => shown v
  | v :: rest => shown v ++ ", " ++ shownItems rest

end

/-- Zero, as far as truth goes: not infinite, and too small to have a full mantissa. -/
def isTruthyNumber (includeZero : Bool) : Numeral → Bool
  | .whole n => includeZero || n != 0
  | .double (.finite _ m _) => includeZero || Nat.pow 2 52 ≤ m
  | .double (.infinite _) => includeZero
  | .double .nan => false

def isTruthy (includeZero : Bool) : Value → Bool
  | .null => false
  | .bool b => b
  | .number n => isTruthyNumber includeZero n
  | .string s => !s.isEmpty
  | .array items => !items.isEmpty
  | .object fields => !fields.isEmpty

def compareBools (a b : Bool) : Ordering :=
  if a = b then .eq else if b then .lt else .gt

def compareTexts (s t : String) : Ordering :=
  if s < t then .lt else if s = t then .eq else .gt

/-- Order of two values, if they have one. A text beside a number counts as the number it is. -/
def compareValues : Value → Value → Option Ordering
  | .number a, .number b => a.compare b
  | .string s, .string t => some (compareTexts s t)
  | .bool a, .bool b => some (compareBools a b)
  | .number a, .string s => (Json.parseNumber s).bind a.compare
  | .string s, .number a => (Json.parseNumber s).bind (·.compare a)
  | _, _ => none

def size : Value → Nat
  | .string s => s.utf8ByteSize
  | .array items => items.length
  | .object fields => fields.length
  | _ => 0

/-- Helpers that say yes or no. As a block they choose between its bodies. -/
inductive Condition
  | eq
  | ne
  | gt
  | gte
  | lt
  | lte
  | and
  | or
  | not

inductive Operation
  | lower
  | snake
  | lookup
  | len

inductive Control
  | when (positive : Bool)
  | each
  | with
  | raw
  | log

inductive Helper
  | condition (c : Condition)
  | operation (f : Operation)
  | control (c : Control)

def Helper.named? : String → Option Helper
  | "lower" => some (.operation .lower)
  | "snake" => some (.operation .snake)
  | "lookup" => some (.operation .lookup)
  | "eq" => some (.condition .eq)
  | "ne" => some (.condition .ne)
  | "gt" => some (.condition .gt)
  | "gte" => some (.condition .gte)
  | "lt" => some (.condition .lt)
  | "lte" => some (.condition .lte)
  | "and" => some (.condition .and)
  | "or" => some (.condition .or)
  | "not" => some (.condition .not)
  | "len" => some (.operation .len)
  | "if" => some (.control (.when true))
  | "unless" => some (.control (.when false))
  | "each" => some (.control .each)
  | "with" => some (.control .with)
  | "raw" => some (.control .raw)
  | "log" => some (.control .log)
  | _ => none

def pick (collection index : Value) : Scoped :=
  let found :=
    match collection, index with
    | .array items, .number (.whole n) => if n < 0 then none else items[n.toNat]?
    | .object fields, .string key => Table.find? key fields
    | _, _ => none
  match found with
  | some v => .derived v
  | none => .missing

def textFunction (f : String → String) : List Scoped → Except Unit Scoped
  | s :: _ =>
      match s.value with
      | .string text => .ok (.derived (.string (f text)))
      | _ => .error ()
  | [] => .error ()

def ofTwo (f : Value → Value → Bool) : List Scoped → Except Unit Bool
  | a :: b :: _ => .ok (f a.value b.value)
  | _ => .error ()

def isOrdered (orders : List Ordering) (a b : Value) : Bool :=
  match compareValues a b with
  | some o => orders.contains o
  | none => false

def Condition.holds : Condition → List Scoped → Except Unit Bool
  | .eq, args => ofTwo Value.same args
  | .ne, args => ofTwo (fun a b => !a.same b) args
  | .gt, args => ofTwo (isOrdered [.gt]) args
  | .gte, args => ofTwo (isOrdered [.gt, .eq]) args
  | .lt, args => ofTwo (isOrdered [.lt]) args
  | .lte, args => ofTwo (isOrdered [.lt, .eq]) args
  | .and, args => .ok (args.all fun a => isTruthy false a.value)
  | .or, args => .ok (args.any fun a => isTruthy false a.value)
  | .not, a :: _ => .ok (!isTruthy false a.value)
  | .not, [] => .error ()

def Operation.apply : Operation → List Scoped → Except Unit Scoped
  | .lower, args => textFunction Text.lower args
  | .snake, args => textFunction Text.snake args
  | .lookup, a :: b :: _ => .ok (pick a.value b.value)
  | .lookup, _ => .error ()
  | .len, a :: _ => .ok (.derived (.number (.whole (size a.value))))
  | .len, [] => .error ()

def logLevels : List String := ["error", "warn", "info", "debug", "trace"]

def knowsLevel (hash : List (String × Scoped)) : Bool :=
  match (Table.find? "level" hash).map Scoped.value with
  | some (.string s) => logLevels.contains (String.ofList (s.toList.map Char.toLower))
  | _ => true

/-- A helper that has no body shows nothing, but its arguments must do. -/
def Control.check (c : Control) (args : List Scoped) (hash : List (String × Scoped)) :
    Except Unit Unit :=
  match c with
  | .when _ | .each | .with => if args.isEmpty then .error () else .ok ()
  | .raw => .ok ()
  | .log => if knowsLevel hash then .ok () else .error ()

def Helper.apply (h : Helper) (args : List Scoped) (hash : List (String × Scoped)) :
    Except Unit Scoped :=
  match h with
  | .condition c => (c.holds args).map fun b => .derived (.bool b)
  | .operation f => f.apply args
  | .control c => (c.check args hash).map fun _ => .derived (.string "")

mutual

def evalParam (root : Value) (blocks : List Block) : Param → Except Unit Scoped
  | .path p => resolve root blocks p.steps
  | .literal v => .ok (.derived v)
  | .call name params hash =>
      match evalParams root blocks params with
      | .error e => .error e
      | .ok args =>
          match evalHash root blocks hash with
          | .error e => .error e
          | .ok named =>
              match Helper.named? name with
              | some h => h.apply args named
              | none => .error ()

def evalParams (root : Value) (blocks : List Block) : List Param → Except Unit (List Scoped)
  | [] => .ok []
  | p :: rest =>
      match evalParam root blocks p with
      | .error e => .error e
      | .ok v =>
          match evalParams root blocks rest with
          | .error e => .error e
          | .ok vs => .ok (v :: vs)

def evalHash (root : Value) (blocks : List Block) :
    List (String × Param) → Except Unit (List (String × Scoped))
  | [] => .ok []
  | (key, p) :: rest =>
      match evalParam root blocks p with
      | .error e => .error e
      | .ok v =>
          match evalHash root blocks rest with
          | .error e => .error e
          | .ok vs => .ok ((key, v) :: vs)

end

end Viewsmith.Template
