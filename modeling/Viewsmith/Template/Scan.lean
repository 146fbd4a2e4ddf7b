import Viewsmith.Template.Argument
import Viewsmith.Unicode.Space

namespace Viewsmith.Template

open Json (skipBlanks strip?)
open Unicode (isBlank)

inductive Tag
  | value (call : Call)
  | opening (call : Call) (binders : Option Binders)
  | other
  | otherIf (call : Call) (binders : Option Binders)
  | closing (name : String)
  | inclusion (call : Call)
  | openInclusion (call : Call)
  | decorator (call : Call)
  | openDecorator (call : Call)
  | comment

structure Place where
  opensLine : Bool
  closesLine : Bool
  atEnd : Bool
  blanks : List Char

structure Mark where
  tag : Tag
  trimBefore : Bool
  trimAfter : Bool

/-- `gap` is white space between two tags, `verbatim` the inside of a raw block. -/
inductive Item
  | text (s : List Char)
  | gap (s : List Char)
  | verbatim (s : List Char)
  | mark (m : Mark) (p : Place)

def isLineEnd (c : Char) : Bool := c = '\n' || c = '\r'

/-- The text before the tag is held backwards. -/
def placeOf (before after : List Char) : Place where
  opensLine :=
    match before.dropWhile isBlank with
    | c :: _ => isLineEnd c
    | [] => true
  closesLine :=
    match after.dropWhile isBlank with
    | c :: _ => isLineEnd c
    | [] => false
  atEnd := after.isEmpty
  blanks := (before.takeWhile isBlank).reverse

def braces (n : Nat) : List Char := List.replicate n '\x7b'

def opens (n : Nat) (text : List Char) : Bool := (strip? (braces n) text).isSome

def backslashes (text : List Char) : Nat := (text.takeWhile (· = '\\')).length

/-- Text up to the next `stop` braces. A backslash makes the braces behind it text, and one of
several before braces is dropped. The next `plain` characters are taken as they are. -/
def readText (stop : Nat) : Nat → List Char → List Char × List Char
  | _, [] => ([], [])
  | plain + 1, c :: rest =>
      let (s, tail) := readText stop plain rest
      (c :: s, tail)
  | 0, c :: rest =>
      if c = '\\' then
        if opens 4 rest then readText stop 4 rest
        else if opens 2 rest then readText stop 2 rest
        else
          let n := backslashes rest
          if 0 < n && opens 2 (rest.drop n) then readText stop n rest
          else
            let (s, tail) := readText stop 0 rest
            (c :: s, tail)
      else if opens stop (c :: rest) then ([], c :: rest)
      else
        let (s, tail) := readText stop 0 rest
        (c :: s, tail)

def skipTilde (text : List Char) : Bool × List Char :=
  match skipBlanks text with
  | '~' :: rest => (true, skipBlanks rest)
  | rest => (false, rest)

def readEnd (closer : List Char) (text : List Char) : Option (Bool × List Char) :=
  let (tilde, rest) := skipTilde text
  (strip? closer rest).map fun rest => (tilde, rest)

def twoBraces : List Char := ['\x7d', '\x7d']

def finish (tag : Tag) (trimBefore : Bool) (closer text : List Char) :
    Option (Mark × List Char) :=
  (readEnd closer text).map fun (trimAfter, rest) => (⟨tag, trimBefore, trimAfter⟩, rest)

/-- A comment that opens with two dashes ends at two dashes, any other at the first braces. -/
def skipComment (closer : List Char) : List Char → Option (List Char)
  | [] => none
  | c :: rest =>
      match strip? closer (c :: rest) with
      | some tail => some tail
      | none => skipComment closer rest

def readComment (text : List Char) : Option (List Char) :=
  let short := skipComment twoBraces text
  match strip? ['-', '-'] (skipBlanks text) with
  | some rest =>
      match skipComment ('-' :: '-' :: twoBraces) rest with
      | some tail => some tail
      | none => short
  | none => short

def readOther (text : List Char) : Option (List Char) :=
  match strip? "else".toList text with
  | some rest => some rest
  | none => strip? ['^'] text

def readClosing (text : List Char) : Option (String × List Char) :=
  match text with
  | '\'' :: _ => readPartialName text
  | _ =>
      some
        ( String.ofList (text.takeWhile fun c => isWordChar c || isPartialChar c)
        , text.dropWhile fun c => isWordChar c || isPartialChar c )

def readValueTag (trimBefore : Bool) (closer text : List Char) : Option (Mark × List Char) :=
  match readValueCall text with
  | some (call, rest) => finish (.value call) trimBefore closer rest
  | none => none

def readOpening (trimBefore : Bool) (text : List Char) : Option (Mark × List Char) :=
  match text with
  | '>' :: rest =>
      match readInclusion (skipBlanks rest) with
      | some (call, rest) => finish (.openInclusion call) trimBefore twoBraces rest
      | none => none
  | '*' :: rest =>
      match readLine (skipBlanks rest) with
      | some (call, _, rest) => finish (.openDecorator call) trimBefore twoBraces rest
      | none => none
  | _ =>
      match readLine text with
      | some (call, binders, rest) => finish (.opening call binders) trimBefore twoBraces rest
      | none => none

def readPlain (trimBefore : Bool) (text : List Char) : Option (Mark × List Char) :=
  match readOther text with
  | none => readValueTag trimBefore twoBraces text
  | some rest =>
      match finish .other trimBefore twoBraces rest with
      | some found => some found
      | none =>
          let chained :=
            match readLine (skipBlanks rest) with
            | some (call, binders, rest) => finish (.otherIf call binders) trimBefore twoBraces rest
            | none => none
          match chained with
          | some found => some found
          | none => readValueTag trimBefore twoBraces text

def readTriple : List Char → Option (Mark × List Char)
  | '\x7b' :: rest =>
      let (trimBefore, rest) := skipTilde rest
      readValueTag trimBefore ('\x7d' :: twoBraces) rest
  | _ => none

def readBraced (trimBefore : Bool) (text : List Char) : Option (Mark × List Char) :=
  match readValueCall text with
  | some (call, rest) =>
      match skipBlanks rest with
      | '\x7d' :: rest => finish (.value call) trimBefore twoBraces rest
      | _ => none
  | none => none

def readNameTag (trimBefore : Bool) (text : List Char) : Option (Mark × List Char) :=
  match readName text with
  | some (name, rest) => finish (.value ⟨name, [], []⟩) trimBefore twoBraces rest
  | none => none

def readMarked (trimBefore : Bool) (text : List Char) : Option (Mark × List Char) :=
  match text with
  | '#' :: rest => readOpening trimBefore (skipBlanks rest)
  | '/' :: rest =>
      match readClosing (skipBlanks rest) with
      | some (name, rest) => finish (.closing name) trimBefore twoBraces rest
      | none => none
  | '>' :: rest =>
      match readInclusion (skipBlanks rest) with
      | some (call, rest) => finish (.inclusion call) trimBefore twoBraces rest
      | none => none
  | '*' :: rest =>
      match readLine (skipBlanks rest) with
      | some (call, _, rest) => finish (.decorator call) trimBefore twoBraces rest
      | none => none
  | '&' :: rest => readNameTag trimBefore (skipBlanks rest)
  | '\x7b' :: rest => readBraced trimBefore (skipBlanks rest)
  | rest => readPlain trimBefore rest

def readDouble : List Char → Option (Mark × List Char)
  | '!' :: rest => (readComment rest).map fun rest => (⟨.comment, false, false⟩, rest)
  | text =>
      let (trimBefore, rest) := skipTilde text
      readMarked trimBefore rest

def readTag (text : List Char) : Option (Mark × List Char) :=
  match readTriple text with
  | some found => some found
  | none => readDouble text

def readRawOpening (text : List Char) : Option (Mark × List Char) :=
  let (trimBefore, rest) := skipTilde text
  match readLine rest with
  | some (call, binders, rest) =>
      finish (.opening call binders) trimBefore (twoBraces ++ twoBraces) rest
  | none => none

def readRawClosing (text : List Char) : Option (Mark × List Char) :=
  match strip? (braces 4) text with
  | none => none
  | some rest =>
      let (trimBefore, rest) := skipTilde rest
      match rest with
      | '/' :: rest =>
          match readWord (skipBlanks rest) with
          | some (name, rest) => finish (.closing name) trimBefore (twoBraces ++ twoBraces) rest
          | none => none
      | _ => none

/-- The source before a tail that begins at `rest`, backwards. -/
def passed (before text rest : List Char) : List Char :=
  (consumed text rest).reverse ++ before

/-- A raw block: its opening tag, its text and its closing tag. -/
def readRaw (before text : List Char) : Option (List Item × List Char) :=
  match strip? (braces 4) text with
  | none => none
  | some inner =>
      match readRawOpening inner with
      | none => none
      | some (openMark, rest) =>
          let (body, close) := readText 4 0 (skipBlanks rest)
          match readRawClosing close with
          | none => none
          | some (closeMark, tail) =>
              some
                ([ .mark openMark (placeOf before rest)
                 , .verbatim body
                 , .mark closeMark (placeOf (passed before text close) tail) ], tail)

def scanFrom : Nat → List Char → List Char → Option (List Item)
  | 0, _, _ => none
  | _ + 1, _, [] => some []
  | fuel + 1, before, text =>
      match strip? (braces 2) text with
      | none =>
          let (s, rest) := readText 2 0 text
          let item : Item := if s.all Json.isBlank then .gap s else .text s
          (scanFrom fuel (passed before text rest) rest).map (item :: ·)
      | some inner =>
          match readTag inner with
          | some (m, rest) =>
              (scanFrom fuel (passed before text rest) rest).map (.mark m (placeOf before rest) :: ·)
          | none =>
              match readRaw before text with
              | some (items, rest) => (scanFrom fuel (passed before text rest) rest).map (items ++ ·)
              | none => none

def scan (source : List Char) : Option (List Item) :=
  scanFrom (source.length + 1) [] source

end Viewsmith.Template
