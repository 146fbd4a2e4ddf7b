import Viewsmith.Settings.TomlScalar

namespace Viewsmith.Settings

/-- How a table came to be: by its own header, by the header of a table inside of it, or by dotted
keys. -/
inductive Origin
  | header
  | implied
  | dotted
deriving DecidableEq

/-- A document while it is read. `leaf` is closed to further keys; `tables` has the latest table
first. -/
inductive Node
  | leaf (v : Setting)
  | table (origin : Origin) (fields : List (String × Node))
  | tables (items : List (List (String × Node)))

mutual

def Node.toSetting : Node → Setting
  | .leaf v => v
  | .table _ fields => .table (settingsOf fields)
  | .tables items => .list (tablesOf items).reverse

def settingsOf : List (String × Node) → List (String × Setting)
  | [] => []
  | (k, n) :: rest => (k, n.toSetting) :: settingsOf rest

def tablesOf : List (List (String × Node)) → List Setting
  | [] => []
  | fields :: rest => .table (settingsOf fields) :: tablesOf rest

end

/-- Add a value under dotted keys. Only tables that dotted keys made are extended. -/
def addValue (key : String) (v : Setting) :
    List String → List (String × Node) → Option (List (String × Node))
  | [], fields =>
      if Table.has key fields then none else some (Table.set key (.leaf v) fields)
  | k :: path, fields =>
      match Table.find? k fields with
      | none => (addValue key v path []).map fun inner => Table.set k (.table .dotted inner) fields
      | some (.table origin inner) =>
          if origin = .header || (path.isEmpty && origin ≠ .dotted) then none
          else (addValue key v path inner).map fun inner => Table.set k (.table origin inner) fields
      | some (.tables (inner :: others)) =>
          if path.isEmpty then none
          else
            (addValue key v path inner).map fun inner =>
              Table.set k (.tables (inner :: others)) fields
      | _ => none

def atPath (change : Option Node → Option Node) :
    List String → List (String × Node) → Option (List (String × Node))
  | [], _ => none
  | [k], fields => (change (Table.find? k fields)).map (Table.set k · fields)
  | k :: path, fields =>
      match Table.find? k fields with
      | none => (atPath change path []).map fun inner => Table.set k (.table .implied inner) fields
      | some (.table origin inner) =>
          (atPath change path inner).map fun inner => Table.set k (.table origin inner) fields
      | some (.tables (inner :: others)) =>
          (atPath change path inner).map fun inner => Table.set k (.tables (inner :: others)) fields
      | _ => none

/-- A table gets its header once. -/
def openTable : Option Node → Option Node
  | none => some (.table .header [])
  | some (.table .implied fields) => some (.table .header fields)
  | _ => none

def openArray : Option Node → Option Node
  | none => some (.tables [[]])
  | some (.tables items) => some (.tables ([] :: items))
  | _ => none

def inTable (change : List (String × Node) → Option (List (String × Node))) (n : Option Node) :
    Option Node :=
  match n with
  | some (.table origin fields) => (change fields).map (.table origin)
  | some (.tables (fields :: others)) =>
      (change fields).map fun fields => .tables (fields :: others)
  | _ => none

def isBareKey (c : Char) : Bool := c.isAlphanum || c = '_' || c = '-'

def readTomlKey (text : List Char) : Option (String × List Char) :=
  match text with
  | '"' :: rest => readBasic (rest.length + 1) [] rest
  | '\'' :: rest => readLiteral [] rest
  | _ =>
      match text.takeWhile isBareKey with
      | [] => none
      | word => some (String.ofList word, text.dropWhile isBareKey)

def readTomlKeys : Nat → List Char → Option (List String × List Char)
  | 0, _ => none
  | fuel + 1, text =>
      match readTomlKey (skipBlank text) with
      | none => none
      | some (key, rest) =>
          match skipBlank rest with
          | '.' :: rest => (readTomlKeys fuel rest).map fun (keys, rest) => (key :: keys, rest)
          | rest => some ([key], rest)

def tomlDepthLimit : Nat := 80

def keysWithin (text : List Char) : Option (List String × List Char) :=
  match readTomlKeys (text.length + 1) text with
  | some (keys, rest) => if keys.length < tomlDepthLimit then some (keys, rest) else none
  | none => none

def skipComment (text : List Char) : List Char := text.dropWhile isTomlText

def skipTrivia : Nat → List Char → List Char
  | 0, text => text
  | fuel + 1, text =>
      match skipBlank text with
      | '#' :: rest =>
          match lineEnd? (skipComment rest) with
          | some rest => skipTrivia fuel rest
          | none => '#' :: rest
      | text =>
          match lineEnd? text with
          | some rest => skipTrivia fuel rest
          | none => text

mutual

def readTomlValue : Nat → Nat → List Char → Option (Setting × List Char)
  | 0, _, _ => none
  | fuel + 1, depth, text =>
      match text with
      | '[' :: rest =>
          if depth ≤ 1 then none
          else
            match skipTrivia rest.length rest with
            | ']' :: rest => some (.list [], rest)
            | rest => readTomlItems fuel (depth - 1) [] rest
      | '\x7b' :: rest =>
          if depth ≤ 1 then none
          else
            match skipBlank rest with
            | '\x7d' :: rest => some (.table [], rest)
            | rest => readTomlFields fuel (depth - 1) [] rest
      | _ => readScalar text

def readTomlItems : Nat → Nat → List Setting → List Char → Option (Setting × List Char)
  | 0, _, _, _ => none
  | fuel + 1, depth, done, text =>
      match readTomlValue fuel depth text with
      | none => none
      | some (v, rest) =>
          match skipTrivia rest.length rest with
          | ']' :: rest => some (.list (v :: done).reverse, rest)
          | ',' :: rest =>
              match skipTrivia rest.length rest with
              | ']' :: rest => some (.list (v :: done).reverse, rest)
              | rest => readTomlItems fuel depth (v :: done) rest
          | _ => none

def readTomlFields : Nat → Nat → List (String × Node) → List Char → Option (Setting × List Char)
  | 0, _, _, _ => none
  | fuel + 1, depth, fields, text =>
      match keysWithin text with
      | none => none
      | some (keys, rest) =>
          match rest with
          | '=' :: rest =>
              match readTomlValue fuel depth (skipBlank rest) with
              | none => none
              | some (v, rest) =>
                  match addValue (keys.getLast?.getD "") v keys.dropLast fields with
                  | none => none
                  | some fields =>
                      match skipBlank rest with
                      | ',' :: rest => readTomlFields fuel depth fields rest
                      | '\x7d' :: rest => some (.table (settingsOf fields), rest)
                      | _ => none
          | _ => none

end

structure Document where
  root : List (String × Node) := []
  current : List String := []

def Document.add (d : Document) (keys : List String) (v : Setting) : Option Document :=
  let add := addValue (keys.getLast?.getD "") v keys.dropLast
  let root :=
    match d.current with
    | [] => add d.root
    | path => atPath (inTable add) path d.root
  root.map fun root => { d with root }

def Document.begin (d : Document) (isArray : Bool) (keys : List String) : Option Document :=
  (atPath (if isArray then openArray else openTable) keys d.root).map fun root => ⟨root, keys⟩

def readHeader (d : Document) (text : List Char) : Option (Document × List Char) :=
  match text with
  | '[' :: rest =>
      match keysWithin rest with
      | some (keys, ']' :: ']' :: rest) => (d.begin true keys).map fun d => (d, rest)
      | _ => none
  | _ =>
      match keysWithin text with
      | some (keys, ']' :: rest) => (d.begin false keys).map fun d => (d, rest)
      | _ => none

def readPair (d : Document) (text : List Char) : Option (Document × List Char) :=
  match keysWithin text with
  | some (keys, '=' :: rest) =>
      let rest := skipBlank rest
      match readTomlValue (2 * rest.length + 2) tomlDepthLimit rest with
      | some (v, rest) => (d.add keys v).map fun d => (d, rest)
      | none => none
  | _ => none

def endLine (text : List Char) : Option (List Char) :=
  let rest :=
    match skipBlank text with
    | '#' :: rest => skipComment rest
    | rest => rest
  match rest with
  | [] => some []
  | _ => lineEnd? rest

def readLines : Nat → Document → List Char → Option Document
  | 0, _, _ => none
  | fuel + 1, d, text =>
      match skipBlank text with
      | [] => some d
      | '[' :: rest =>
          match readHeader d rest with
          | some (d, rest) => (endLine rest).bind (readLines fuel d)
          | none => none
      | rest =>
          match endLine rest with
          | some more => readLines fuel d more
          | none =>
              match readPair d rest with
              | some (d, rest) => (endLine rest).bind (readLines fuel d)
              | none => none

def dropMark : List Char → List Char
  | '\uFEFF' :: rest => rest
  | text => text

def parseToml (source : String) : Option (List (String × Setting)) :=
  let text := dropMark source.toList
  (readLines (text.length + 1) {} text).map fun d => settingsOf d.root

end Viewsmith.Settings
