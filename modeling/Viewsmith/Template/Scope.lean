import Viewsmith.Template.Syntax
import Viewsmith.Number.Decimal

namespace Viewsmith.Template

open Json (Value)

/-- A name bound by a block stands for a value, or for the place in the data that the block is
at. -/
inductive Bound
  | value (v : Value)
  | place

/-- An open block. Paths start from `value` if it is there, and otherwise from the place `path` in
the data. -/
structure Block where
  path : List String := []
  value : Option Value := none
  bound : List (String × Bound) := []
  locals : List (String × Value) := []

inductive Scoped
  | placed (path : List String) (v : Value)
  | derived (v : Value)
  | missing

namespace Scoped

def value : Scoped → Value
  | .placed _ v => v
  | .derived v => v
  | .missing => .null

def isMissing : Scoped → Bool
  | .missing => true
  | _ => false

end Scoped

def readIndex (key : String) : Option Nat :=
  let digits :=
    match key.toList with
    | '+' :: rest => rest
    | text => text
  (Number.readNat digits).filter (· < Nat.pow 2 64)

/-- The value under a key. Only numbers are keys of an array; another one is an error. -/
def child (key : String) : Value → Except Unit (Option Value)
  | .array items =>
      match readIndex key with
      | some i => .ok items[i]?
      | none => .error ()
  | .object fields => .ok (Table.find? key fields)
  | _ => .ok none

def descend : List String → Value → Except Unit (Option Value)
  | [], v => .ok (some v)
  | key :: keys, v =>
      match child key v with
      | .ok (some w) => descend keys w
      | .ok none => .ok none
      | .error e => .error e

def findBound (name : String) : List Block → Option (Block × Bound)
  | [] => none
  | b :: rest =>
      match Table.find? name b.bound with
      | some v => some (b, v)
      | none => findBound name rest

def findLocal (name : String) (blocks : List Block) : Option Value :=
  blocks.findSome? fun b => Table.find? name b.locals

def countUps : List Step → Nat
  | .up :: rest => countUps rest + 1
  | _ => 0

def keysOf : List Step → List String
  | [] => []
  | .key k :: rest => k :: keysOf rest
  | _ :: rest => keysOf rest

/-- The name that a path may share with a bound name: its first key, if nothing but `../` is
before it. -/
def leadingKey? : List Step → Option String
  | .up :: rest => leadingKey? rest
  | .key k :: _ => some k
  | _ => none

def localName? : List Step → Option (Nat × String)
  | .mark :: rest =>
      match rest.drop (countUps rest) with
      | .key k :: _ => some (countUps rest, k)
      | _ => none
  | _ => none

def placed (root : Value) (path : List String) : Except Unit Scoped :=
  match descend path root with
  | .ok (some v) => .ok (.placed path v)
  | .ok none => .ok .missing
  | .error e => .error e

def derived (v : Value) (path : List String) : Except Unit Scoped :=
  match descend path v with
  | .ok (some w) => .ok (.derived w)
  | .ok none => .ok .missing
  | .error e => .error e

def fromBlock (root : Value) (b : Block) (keys : List String) : Except Unit Scoped :=
  match b.value with
  | some v => derived v keys
  | none => placed root (b.path ++ keys)

def resolve (root : Value) (blocks : List Block) (steps : List Step) : Except Unit Scoped :=
  match localName? steps with
  | some (level, name) =>
      match findLocal name (blocks.drop level) with
      | some v => .ok (.derived v)
      | none => .ok .missing
  | none =>
      let bound := (leadingKey? steps).bind (findBound · blocks)
      match bound with
      | some (_, .value v) => derived v (keysOf steps).tail
      | some (b, .place) => placed root (b.path ++ (keysOf steps).tail)
      | none =>
          match steps with
          | .root :: _ => placed root (keysOf steps)
          | _ =>
              match (blocks[countUps steps]?).or blocks.head? with
              | some b => fromBlock root b (keysOf steps)
              | none => placed root (keysOf steps)

end Viewsmith.Template
