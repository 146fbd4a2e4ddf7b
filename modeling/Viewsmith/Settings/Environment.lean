import Viewsmith.Settings.TomlScalar
import Viewsmith.Json.Reader
import Viewsmith.Text.Search

namespace Viewsmith.Settings

open Number (readDouble readNat)
open Json (strip?)

def variableStart : String := "DJANGO_SCAFFOLD_"

def isAsciiSpace (c : Char) : Bool :=
  c = ' ' || c = '\t' || c = '\n' || c = '\x0c' || c = '\r'

def skipAsciiSpace (text : List Char) : List Char := text.dropWhile isAsciiSpace

def isSeparator (c : Char) : Bool := "\x7b\x7d[],".toList.contains c

def isKeyChar (c : Char) : Bool := c.isAlphanum || c = '_' || c = '-'

def readQuotedText : List Char → Option (List Char × List Char)
  | [] => none
  | '"' :: rest => some ([], rest)
  | '\\' :: c :: rest => (readQuotedText rest).map fun (s, rest) => ('\\' :: c :: s, rest)
  | c :: rest => (readQuotedText rest).map fun (s, rest) => (c :: s, rest)

def fitting : Nat → List Char → List Char
  | _, [] => []
  | bytes, c :: cs => if c.utf8Size ≤ bytes then c :: fitting (bytes - c.utf8Size) cs else []

def readEscapes : Nat → List Char → Option (List Char)
  | 0, _ => none
  | _ + 1, [] => some []
  | fuel + 1, '\\' :: rest =>
      match readTomlEscape rest with
      | some (c, rest) => (readEscapes fuel rest).map (c :: ·)
      | none => none
  | fuel + 1, c :: rest => (readEscapes fuel rest).map (c :: ·)

/-- The inside of a string. Of the text before the first escape no more is kept than fits into one
byte for each of its characters. -/
def unescape (inside : List Char) : Option (List Char) :=
  let plain := inside.takeWhile (· ≠ '\\')
  match inside.dropWhile (· ≠ '\\') with
  | [] => some inside
  | escaped => (readEscapes (escaped.length + 1) escaped).map (fitting plain.length plain ++ ·)

def readVariableString (text : List Char) : Option (String × List Char) :=
  match readQuotedText text with
  | some (inside, rest) => (unescape inside).map fun s => (String.ofList s, rest)
  | none => none

def readBare (run : List Char) : Setting :=
  let s := Unicode.trim run
  let unsigned :=
    match s with
    | '+' :: ds => readNat ds
    | ds => readNat ds
  let signed :=
    match s with
    | '-' :: ds => readNat ds
    | _ => none
  match (if s.contains '.' then readDouble s else none), unsigned, signed with
  | some x, _, _ => .float x
  | none, some n, _ => if n < Nat.pow 2 64 then .unsigned n else .text (String.ofList s)
  | none, none, some n => if n ≤ Nat.pow 2 63 then .signed (-n) else .text (String.ofList s)
  | none, none, none => .text (String.ofList s)

def readVariableKey (text : List Char) : Option (String × List Char) :=
  match skipAsciiSpace text with
  | '"' :: rest => (readVariableString rest).map fun (s, rest) => (s, skipAsciiSpace rest)
  | text =>
      match text.takeWhile isKeyChar with
      | [] => none
      | key => some (String.ofList key, skipAsciiSpace (text.dropWhile isKeyChar))

mutual

def readVariable : Nat → List Char → Option (Setting × List Char)
  | 0, _ => none
  | fuel + 1, text =>
      match skipAsciiSpace text with
      | '\x7b' :: rest => readVariableFields fuel [] rest
      | '[' :: rest => readVariableItems fuel [] rest
      | '"' :: rest => (readVariableString rest).map fun (s, rest) => (.text s, rest)
      | '\'' :: c :: '\'' :: rest => some (.text (String.singleton c), rest)
      | '\'' :: _ => none
      | text =>
          match strip? "true".toList text with
          | some rest => some (.flag true, rest)
          | none =>
              match strip? "false".toList text with
              | some rest => some (.flag false, rest)
              | none =>
                  some (readBare (text.takeWhile (!isSeparator ·)), text.dropWhile (!isSeparator ·))

def readVariableItems : Nat → List Setting → List Char → Option (Setting × List Char)
  | 0, _, _ => none
  | _ + 1, done, ']' :: rest => some (.list done.reverse, rest)
  | fuel + 1, done, text =>
      match readVariable fuel text with
      | none => none
      | some (v, rest) =>
          match skipAsciiSpace rest with
          | ',' :: rest => readVariableItems fuel (v :: done) rest
          | ']' :: rest => some (.list (v :: done).reverse, rest)
          | _ => none

def readVariableFields : Nat → List (String × Setting) → List Char →
    Option (Setting × List Char)
  | 0, _, _ => none
  | _ + 1, done, '\x7d' :: rest => some (.table done, rest)
  | fuel + 1, done, text =>
      match readVariableKey text with
      | none => none
      | some (key, '=' :: rest) =>
          match readVariable fuel rest with
          | none => none
          | some (v, rest) =>
              match skipAsciiSpace rest with
              | ',' :: rest => readVariableFields fuel (Table.set key v done) rest
              | '\x7d' :: rest => some (.table (Table.set key v done), rest)
              | _ => none
      | _ => none

end

/-- The value of a variable. One that cannot be read is the text as it stands. -/
def variableValue (text : String) : Setting :=
  match readVariable (text.toList.length + 2) text.toList with
  | some (v, rest) => if (skipAsciiSpace rest).isEmpty then v else .text text
  | none => .text text

def lowerAscii (text : List Char) : List Char := text.map Char.toLower

/-- The keys a variable is for: its name after the common beginning, cut at points. -/
def variableKeys (name : String) : Option (List String) :=
  match strip? (lowerAscii variableStart.toList) (lowerAscii name.toList) with
  | none => none
  | some rest =>
      let keys := Text.splitOn (String.ofList (Unicode.trim rest)) '.'
      if keys.any String.isEmpty then none else some keys

def nest (v : Setting) : List String → Setting
  | [] => v
  | k :: keys => .table [(k, nest v keys)]

/-- The settings of all variables; a later one comes before an earlier one. -/
def environmentTable (environment : List (String × String)) : Setting :=
  environment.foldl (fun acc (name, value) =>
    match variableKeys name with
    | some keys => acc.merge (nest (variableValue value) keys)
    | none => acc) (.table [])

end Viewsmith.Settings
