import Viewsmith.Template.Syntax
import Viewsmith.Json.Reader

namespace Viewsmith.Template

open Json (Value skipBlanks strip?)
open Number (isDigit isHexDigit)

def isWordChar (c : Char) : Bool :=
  c.isAlphanum || c = '_' || c = '-' || c = '$' || c = ':' || 0x80 ≤ c.toNat

/-- Names of partials may hold slashes, points and `@`, but no colon. -/
def isPartialChar (c : Char) : Bool :=
  c.isAlphanum || c = '_' || c = '-' || c = '/' || c = '.' || c = '@' || 0x80 ≤ c.toNat

def atWordChar : List Char → Bool
  | c :: _ => isWordChar c
  | [] => false

def readWord (text : List Char) : Option (String × List Char) :=
  match text.takeWhile isWordChar with
  | [] => none
  | word => some (String.ofList word, text.dropWhile isWordChar)

def readQuoted : List Char → Option (List Char × List Char)
  | [] => none
  | '\\' :: '\'' :: rest => (readQuoted rest).map fun (s, rest) => ('\\' :: '\'' :: s, rest)
  | '\'' :: rest => some (['\''], rest)
  | c :: rest => (readQuoted rest).map fun (s, rest) => (c :: s, rest)

def readPartialName (text : List Char) : Option (String × List Char) :=
  match text.takeWhile isPartialChar with
  | [] =>
      match text with
      | '\'' :: '\'' :: _ => none
      | '\'' :: rest =>
          (readQuoted rest).map fun (s, rest) => (String.ofList ('\'' :: s), rest)
      | _ => none
  | word => some (String.ofList word, text.dropWhile isPartialChar)

def atSeparator : List Char → Option (List Char)
  | '.' :: rest | '/' :: rest => some rest
  | _ => none

def readKey : List Char → Option (String × List Char)
  | '[' :: rest =>
      match rest.dropWhile (· ≠ ']') with
      | ']' :: more => some (String.ofList (rest.takeWhile (· ≠ ']')), more)
      | _ => none
  | text => readWord text

/-- The key `this` is where the path stands already. -/
def keyStep (key : String) : List Step :=
  if key = "this" then [] else [.key key]

def readUps : Nat → List Char → List Step × List Char
  | 0, text => ([], text)
  | fuel + 1, text =>
      match text with
      | '.' :: '.' :: rest =>
          match atSeparator rest with
          | some rest =>
              let (steps, rest) := readUps fuel rest
              (.up :: steps, rest)
          | none => ([], text)
      | _ => ([], text)

def readKeys : Nat → List Char → List Step × List Char
  | 0, text => ([], text)
  | fuel + 1, text =>
      match atSeparator text with
      | none => ([], text)
      | some rest =>
          match readKey rest with
          | none => ([], text)
          | some (key, rest) =>
              let (steps, rest) := readKeys fuel rest
              (keyStep key ++ steps, rest)

/-- `this` before a separator, which changes nothing. -/
def skipThis (text : List Char) : List Char :=
  match strip? "this".toList text with
  | some rest => (atSeparator rest).getD text
  | none => (strip? "./".toList text).getD text

def readRoot (text : List Char) : List Step × List Char :=
  match strip? "@root".toList text with
  | some rest =>
      match atSeparator rest with
      | some rest => ([.root], rest)
      | none => ([], text)
  | none => ([], text)

def readMark : List Char → List Step × List Char
  | '@' :: rest => ([.mark], rest)
  | text => ([], text)

def consumed (text tail : List Char) : List Char :=
  text.take (text.length - tail.length)

def readPath (text : List Char) : Option (Path × List Char) :=
  let rest := skipThis text
  let (root, rest) := readRoot rest
  let (mark, rest) := readMark rest
  let (ups, rest) := readUps rest.length rest
  match readKey rest with
  | none => none
  | some (key, rest) =>
      let (keys, tail) := readKeys rest.length rest
      some (⟨String.ofList (consumed text tail), root ++ mark ++ ups ++ keyStep key ++ keys⟩, tail)

def readLiteralString (quote : Char) : List Char → Option (List Char × List Char)
  | [] => none
  | '\\' :: 'u' :: a :: b :: c :: d :: rest =>
      if [a, b, c, d].all isHexDigit then
        (readLiteralString quote rest).map fun (s, tail) =>
          ('\\' :: 'u' :: a :: b :: c :: d :: s, tail)
      else none
  | '\\' :: c :: rest =>
      if c = quote || "\\/bfnrt".toList.contains c then
        (readLiteralString quote rest).map fun (s, tail) => ('\\' :: c :: s, tail)
      else none
  | c :: rest =>
      if c = quote then some ([], rest)
      else if c = '\\' then none
      else (readLiteralString quote rest).map fun (s, tail) => (c :: s, tail)

/-- A number, as far as a literal may have one: its exponent has a capital `E`. -/
def skipNumber (text : List Char) : Option (List Char) :=
  let rest := (strip? ['-'] text).getD text
  match rest.takeWhile isDigit with
  | [] => none
  | _ =>
      let rest := rest.dropWhile isDigit
      let rest := ((strip? ['.'] rest).getD rest).dropWhile isDigit
      let rest :=
        match rest with
        | 'E' :: more =>
            let digits := (strip? ['-'] more).getD more
            if (digits.takeWhile isDigit).isEmpty then rest else digits.dropWhile isDigit
        | _ => rest
      if atWordChar rest then none else some rest

def skipKeyword (word : String) (text : List Char) : Option (List Char) :=
  match strip? word.toList text with
  | some rest => if atWordChar rest then none else some rest
  | none => none

def skipString : List Char → Option (List Char)
  | '"' :: rest => (readLiteralString '"' rest).map (·.2)
  | '\'' :: rest => (readLiteralString '\'' rest).map (·.2)
  | _ => none

mutual

def skipLiteral : Nat → List Char → Option (List Char)
  | 0, _ => none
  | fuel + 1, text =>
      match text with
      | '"' :: _ | '\'' :: _ => skipString text
      | '[' :: rest =>
          let rest := skipBlanks rest
          match skipBlanks ((skipLiteral fuel rest).getD rest) with
          | ']' :: rest => some rest
          | rest => skipItems fuel rest
      | '\x7b' :: rest =>
          let rest := skipBlanks rest
          match skipBlanks ((skipField fuel rest).getD rest) with
          | '\x7d' :: rest => some rest
          | rest => skipFields fuel rest
      | _ =>
          match skipNumber text with
          | some rest => some rest
          | none =>
              match skipKeyword "null" text with
              | some rest => some rest
              | none =>
                  match skipKeyword "true" text with
                  | some rest => some rest
                  | none => skipKeyword "false" text

def skipItems : Nat → List Char → Option (List Char)
  | 0, _ => none
  | fuel + 1, text =>
      match text with
      | ']' :: rest => some rest
      | ',' :: rest =>
          match skipLiteral fuel (skipBlanks rest) with
          | some rest => skipItems fuel (skipBlanks rest)
          | none => none
      | _ => none

def skipField : Nat → List Char → Option (List Char)
  | 0, _ => none
  | fuel + 1, text =>
      match skipString text with
      | none => none
      | some rest =>
          match skipBlanks rest with
          | ':' :: rest => skipLiteral fuel (skipBlanks rest)
          | _ => none

def skipFields : Nat → List Char → Option (List Char)
  | 0, _ => none
  | fuel + 1, text =>
      match text with
      | '\x7d' :: rest => some rest
      | ',' :: rest =>
          match skipField fuel (skipBlanks rest) with
          | some rest => skipFields fuel (skipBlanks rest)
          | none => none
      | _ => none

end

def requote : List Char → List Char
  | [] => []
  | '\\' :: '\'' :: rest => '\'' :: requote rest
  | '"' :: rest => '\\' :: '"' :: requote rest
  | c :: rest => c :: requote rest

def literalValue (raw : List Char) : Option Value :=
  match raw with
  | '\'' :: body => Json.parse (String.ofList ('"' :: requote body.dropLast ++ ['"']))
  | _ => Json.parse (String.ofList raw)

/-- The word is here and no character of a word follows, not even after blanks. -/
def endsAtWord (word : String) (text : List Char) : Bool :=
  match strip? word.toList text with
  | some rest => !atWordChar (skipBlanks rest)
  | none => false

/-- `as` and `else` do not begin an argument, unless a word follows. -/
def atKeyword (text : List Char) : Bool :=
  endsAtWord "as" text || endsAtWord "else" text

/-- An argument that is not recognised ends the list; one that is recognised and has no value makes
the whole template wrong. -/
inductive Reading (α : Type)
  | absent
  | wrong
  | found (a : α) (rest : List Char)

mutual

def readParam : Nat → List Char → Reading Param
  | 0, _ => .wrong
  | fuel + 1, text =>
      if atKeyword text then .absent
      else
        match skipLiteral (2 * text.length + 2) text with
        | some rest =>
            match literalValue (consumed text rest) with
            | some v => .found (.literal v) rest
            | none => .wrong
        | none =>
            match readPath text with
            | some (p, rest) => .found (.path p) rest
            | none =>
                match text with
                | '(' :: rest => readCall fuel (skipBlanks rest)
                | _ => .absent

def readCall : Nat → List Char → Reading Param
  | 0, _ => .wrong
  | fuel + 1, text =>
      match readNamed fuel text with
      | .wrong => .wrong
      | .found (name, params, hash) rest =>
          match skipBlanks rest with
          | ')' :: rest => .found (.call name params hash) rest
          | _ => .absent
      | .absent =>
          match readPath text with
          | some (p, rest) =>
              match skipBlanks rest with
              | ')' :: rest => .found (.call p.raw [] []) rest
              | _ => .absent
          | none => .absent

def readNamed : Nat → List Char → Reading (String × List Param × List (String × Param))
  | 0, _ => .wrong
  | fuel + 1, text =>
      match readWord text with
      | none => .absent
      | some (name, rest) =>
          match readParams fuel [] [] rest with
          | .found ([], []) _ => .absent
          | .found (params, hash) rest => .found (name, params, hash) rest
          | .wrong => .wrong
          | .absent => .absent

def readParams : Nat → List Param → List (String × Param) → List Char →
    Reading (List Param × List (String × Param))
  | 0, _, _, _ => .wrong
  | fuel + 1, done, hash, text =>
      let start := skipBlanks text
      match readEntry fuel start with
      | .wrong => .wrong
      | .found (key, p) rest => readParams fuel done (Table.set key p hash) rest
      | .absent =>
          match readParam fuel start with
          | .wrong => .wrong
          | .found p rest => readParams fuel (p :: done) hash rest
          | .absent => .found (done.reverse, hash) text

def readEntry : Nat → List Char → Reading (String × Param)
  | 0, _ => .wrong
  | fuel + 1, text =>
      match readWord text with
      | none => .absent
      | some (key, rest) =>
          match skipBlanks rest with
          | '=' :: rest =>
              match readParam fuel (skipBlanks rest) with
              | .found p rest => .found (key, p) rest
              | .wrong => .wrong
              | .absent => .absent
          | _ => .absent

end

/-- Enough steps for every argument that the text can hold. -/
def stepsFor (text : List Char) : Nat := 3 * text.length + 8

def readBinders (text : List Char) : Option (Binders × List Char) :=
  match strip? "as".toList (skipBlanks text) with
  | none => none
  | some rest =>
      match skipBlanks rest with
      | '|' :: rest =>
          match readWord (skipBlanks rest) with
          | none => none
          | some (item, rest) =>
              match skipBlanks rest with
              | '|' :: rest => some (⟨item, none⟩, rest)
              | rest =>
                  match readWord rest with
                  | none => none
                  | some (place, rest) =>
                      match skipBlanks rest with
                      | '|' :: rest => some (⟨item, some place⟩, rest)
                      | _ => none
      | _ => none

def readLine (text : List Char) : Option (Call × Option Binders × List Char) :=
  match readWord text with
  | none => none
  | some (name, rest) =>
      match readParams (stepsFor rest) [] [] rest with
      | .found (params, hash) rest =>
          let call : Call := ⟨.word name, params, hash⟩
          match readBinders rest with
          | some (b, rest) => some (call, some b, rest)
          | none => some (call, none, rest)
      | _ => none

def readName (text : List Char) : Option (Name × List Char) :=
  match text with
  | '(' :: rest =>
      match readCall (stepsFor rest) (skipBlanks rest) with
      | .found p rest => some (.computed p, rest)
      | _ => none
  | _ => (readPath text).map fun (p, rest) => (.path p, rest)

def readValueCall (text : List Char) : Option (Call × List Char) :=
  match readNamed (stepsFor text) text with
  | .found (name, params, hash) rest => some (⟨.word name, params, hash⟩, rest)
  | .wrong => none
  | .absent => (readName text).map fun (name, rest) => (⟨name, [], []⟩, rest)

def readInclusion (text : List Char) : Option (Call × List Char) :=
  let start :=
    match readPartialName text with
    | some (name, rest) => some (Name.word name, rest)
    | none => readName text
  match start with
  | none => none
  | some (name, rest) =>
      match readParams (stepsFor rest) [] [] rest with
      | .found (params, hash) rest => some (⟨name, params, hash⟩, rest)
      | _ => none

end Viewsmith.Template
