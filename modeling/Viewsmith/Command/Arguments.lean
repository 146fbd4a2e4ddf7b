import Viewsmith.Table

namespace Viewsmith.Command

inductive UsageError
  | missingRequired
  | unknownArgument
  | valueValidation
  | invalidValue
  | argumentConflict
  | tooManyValues
  | displayHelp
deriving DecidableEq

structure Signature where
  flags : List (String × Option Char)
  options : List String
  positional : String
  check : String → String → Option UsageError

/-- An argument that is not complete. An option without a value waits for one. A value is checked only
when the next argument begins, so an unknown argument is reported before a wrong value in front of
it. -/
structure Pending where
  name : String
  value : Option String

structure Reading where
  given : List (String × String) := []
  pending : Option Pending := none
  positionals : Nat := 0
  trailing : Bool := false

def accept (sig : Signature) (name value : String) (r : Reading) : Except UsageError Reading :=
  if Table.has name r.given then .error .argumentConflict
  else
    match sig.check name value with
    | some e => .error e
    | none => .ok { r with given := Table.set name value r.given }

def settle (sig : Signature) (r : Reading) : Except UsageError Reading :=
  match r.pending with
  | none => .ok r
  | some ⟨_, none⟩ => .error .invalidValue
  | some ⟨name, some value⟩ => accept sig name value { r with pending := none }

def settleThen (sig : Signature) (r : Reading) (next : Reading → Except UsageError Reading) :
    Except UsageError Reading :=
  match settle sig r with
  | .ok r => next r
  | .error e => .error e

def splitAttached (word : List Char) : String × Option String :=
  match word.dropWhile (· ≠ '=') with
  | _ :: value => (String.ofList (word.takeWhile (· ≠ '=')), some (String.ofList value))
  | [] => (String.ofList word, none)

def isFlag (sig : Signature) (name : String) : Bool :=
  sig.flags.any (·.1 == name)

def readLong (sig : Signature) (word : List Char) (r : Reading) : Except UsageError Reading :=
  match splitAttached word with
  | (name, attached) =>
      if name = "help" || isFlag sig name then
        match attached with
        | some _ => .error .tooManyValues
        | none =>
            settleThen sig r fun r =>
              if name = "help" then .error .displayHelp else accept sig name "" r
      else if sig.options.contains name then
        match attached with
        | some value => settleThen sig r (accept sig name value)
        | none => settleThen sig r fun r => .ok { r with pending := some ⟨name, none⟩ }
      else .error .unknownArgument

def shortFlag? (sig : Signature) (c : Char) : Option String :=
  (sig.flags.find? (fun f => f.2 == some c)).map (·.1)

def readShort (sig : Signature) : List Char → Reading → Except UsageError Reading
  | [], r => .ok r
  | c :: rest, r =>
      if c = 'h' then settleThen sig r fun _ => .error .displayHelp
      else
        match shortFlag? sig c with
        | none => .error .unknownArgument
        | some name =>
            match settleThen sig r (accept sig name "") with
            | .ok r => readShort sig rest r
            | .error e => .error e

def readPositional (sig : Signature) (word : String) (r : Reading) : Except UsageError Reading :=
  if r.positionals = 0 then
    settleThen sig r fun r =>
      .ok { r with pending := some ⟨sig.positional, some word⟩, positionals := 1 }
  else .error .unknownArgument

def readOperand (sig : Signature) (word : String) (r : Reading) : Except UsageError Reading :=
  match r.pending with
  | some ⟨name, none⟩ => .ok { r with pending := some ⟨name, some word⟩ }
  | _ => readPositional sig word r

def readWord (sig : Signature) (word : String) (r : Reading) : Except UsageError Reading :=
  if r.trailing then readPositional sig word r
  else
    match word.toList with
    | ['-', '-'] => .ok { r with trailing := true }
    | '-' :: '-' :: rest => readLong sig rest r
    | '-' :: c :: rest => readShort sig (c :: rest) r
    | _ => readOperand sig word r

def readWords (sig : Signature) : List String → Reading → Except UsageError Reading
  | [], r => settle sig r
  | word :: rest, r =>
      match readWord sig word r with
      | .ok r => readWords sig rest r
      | .error e => .error e

def readArguments (sig : Signature) (words : List String) :
    Except UsageError (List (String × String)) :=
  match readWords sig words {} with
  | .error e => .error e
  | .ok r => if Table.has sig.positional r.given then .ok r.given else .error .missingRequired

end Viewsmith.Command
