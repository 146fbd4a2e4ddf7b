import Viewsmith.Settings.Value
import Viewsmith.Number.Decimal
import Viewsmith.Unicode.Space

namespace Viewsmith.Settings

open Number (isDigit isHexDigit value valueIn readDouble)
open Unicode (isBlank)

def skipBlank (text : List Char) : List Char := text.dropWhile isBlank

/-- The characters behind a line end. A carriage return alone is none. -/
def lineEnd? : List Char → Option (List Char)
  | '\n' :: rest => some rest
  | '\r' :: '\n' :: rest => some rest
  | _ => none

def isTomlText (c : Char) : Bool := c = '\t' || (0x20 ≤ c.toNat && c.toNat ≠ 0x7F)

def readCodePoint (count : Nat) (text : List Char) : Option (Char × List Char) :=
  let ds := text.take count
  let n := valueIn 16 ds
  if ds.length = count && ds.all isHexDigit && n.isValidChar then
    some (Char.ofNat n, text.drop count)
  else none

def readTomlEscape : List Char → Option (Char × List Char)
  | 'b' :: rest => some ('\x08', rest)
  | 't' :: rest => some ('\t', rest)
  | 'n' :: rest => some ('\n', rest)
  | 'f' :: rest => some ('\x0c', rest)
  | 'r' :: rest => some ('\r', rest)
  | '"' :: rest => some ('"', rest)
  | '\\' :: rest => some ('\\', rest)
  | 'u' :: rest => readCodePoint 4 rest
  | 'U' :: rest => readCodePoint 8 rest
  | _ => none

def readBasic : Nat → List Char → List Char → Option (String × List Char)
  | 0, _, _ => none
  | _ + 1, _, [] => none
  | fuel + 1, done, c :: rest =>
      if c = '"' then some (String.ofList done.reverse, rest)
      else if c = '\\' then
        match readTomlEscape rest with
        | some (d, rest) => readBasic fuel (d :: done) rest
        | none => none
      else if isTomlText c then readBasic fuel (c :: done) rest
      else none

def readLiteral : List Char → List Char → Option (String × List Char)
  | _, [] => none
  | done, c :: rest =>
      if c = '\'' then some (String.ofList done.reverse, rest)
      else if isTomlText c then readLiteral (c :: done) rest
      else none

/-- The quotes that close a string of several lines, with up to two that belong to it. -/
def closing? (quote : Char) (text : List Char) : Option (List Char × List Char) :=
  let quotes := (text.takeWhile (· = quote)).length
  if quotes < 3 then none
  else
    let inside := min (quotes - 3) 2
    some (List.replicate inside quote, text.drop (inside + 3))

def skipSpace : Nat → List Char → List Char
  | 0, text => text
  | fuel + 1, text =>
      let text := skipBlank text
      match lineEnd? text with
      | some rest => skipSpace fuel rest
      | none => text

/-- The inside of a string of several lines. Between backslash and the next character there may be
line ends, which do not count. -/
def readLongBasic : Nat → List Char → List Char → Option (String × List Char)
  | 0, _, _ => none
  | fuel + 1, done, text =>
      match closing? '"' text with
      | some (quotes, rest) => some (String.ofList (done.reverse ++ quotes), rest)
      | none =>
          match lineEnd? text with
          | some rest => readLongBasic fuel ('\n' :: done) rest
          | none =>
              match text with
              | [] => none
              | '\\' :: rest =>
                  match lineEnd? (skipBlank rest) with
                  | some more => readLongBasic fuel done (skipSpace more.length more)
                  | none =>
                      match readTomlEscape rest with
                      | some (d, rest) => readLongBasic fuel (d :: done) rest
                      | none => none
              | c :: rest => if isTomlText c then readLongBasic fuel (c :: done) rest else none

def readLongLiteral : Nat → List Char → List Char → Option (String × List Char)
  | 0, _, _ => none
  | fuel + 1, done, text =>
      match closing? '\'' text with
      | some (quotes, rest) => some (String.ofList (done.reverse ++ quotes), rest)
      | none =>
          match lineEnd? text with
          | some rest => readLongLiteral fuel ('\n' :: done) rest
          | none =>
              match text with
              | [] => none
              | c :: rest => if isTomlText c then readLongLiteral fuel (c :: done) rest else none

def skipFirstLineEnd (text : List Char) : List Char := (lineEnd? text).getD text

def readTomlString (text : List Char) : Option (String × List Char) :=
  match text with
  | '"' :: '"' :: '"' :: rest => readLongBasic (rest.length + 1) [] (skipFirstLineEnd rest)
  | '\'' :: '\'' :: '\'' :: rest => readLongLiteral (rest.length + 1) [] (skipFirstLineEnd rest)
  | '"' :: rest => readBasic (rest.length + 1) [] rest
  | '\'' :: rest => readLiteral [] rest
  | _ => none

def digitsOf (isIn : Char → Bool) : List Char → Option (List Char)
  | [] => none
  | [c] => if isIn c then some [c] else none
  | c :: '_' :: rest => if isIn c then (digitsOf isIn rest).map (c :: ·) else none
  | c :: rest => if isIn c then (digitsOf isIn rest).map (c :: ·) else none

def wholeDigits (text : List Char) : Option (List Char) :=
  match text with
  | ['0'] => some ['0']
  | '0' :: _ => none
  | _ => digitsOf isDigit text

def splitSign : List Char → List Char × List Char
  | '-' :: rest => (['-'], rest)
  | '+' :: rest => ([], rest)
  | text => ([], text)

def bounded (n : Int) : Option Setting :=
  if -Int.pow 2 63 ≤ n && n < Int.pow 2 63 then some (.signed n) else none

def readWhole (text : List Char) : Option Setting :=
  match text with
  | '0' :: 'x' :: ds => (digitsOf isHexDigit ds).bind fun ds => bounded (valueIn 16 ds)
  | '0' :: 'o' :: ds =>
      (digitsOf (fun c => '0' ≤ c && c ≤ '7') ds).bind fun ds => bounded (valueIn 8 ds)
  | '0' :: 'b' :: ds =>
      (digitsOf (fun c => c = '0' || c = '1') ds).bind fun ds => bounded (valueIn 2 ds)
  | _ =>
      let (sign, ds) := splitSign text
      (wholeDigits ds).bind fun ds => bounded (if sign.isEmpty then value ds else -(value ds : Int))

def isExponentMark (c : Char) : Bool := c = 'e' || c = 'E'

def exponentDigits : List Char → Option (List Char)
  | [] => some []
  | _ :: rest =>
      let (sign, ds) := splitSign rest
      (digitsOf isDigit ds).map fun ds => 'e' :: sign ++ ds

/-- A float with a fraction, an exponent, or both. Too large a positive one is refused. -/
def readFloat (text : List Char) : Option Setting :=
  let (sign, body) := splitSign text
  if body = "inf".toList then some (.float (.infinite !sign.isEmpty))
  else if body = "nan".toList then some (.float .nan)
  else
    let mantissa := body.takeWhile (!isExponentMark ·)
    let exponent := body.dropWhile (!isExponentMark ·)
    let whole := mantissa.takeWhile (· ≠ '.')
    let fraction :=
      match mantissa.dropWhile (· ≠ '.') with
      | [] => if exponent.isEmpty then none else some []
      | _ :: ds => (digitsOf isDigit ds).map ('.' :: ·)
    match wholeDigits whole, fraction, exponentDigits exponent with
    | some whole, some fraction, some exponent =>
        match readDouble (sign ++ whole ++ fraction ++ exponent) with
        | some (.infinite false) => none
        | some x => some (.float x)
        | none => none
    | _, _, _ => none

def twoDigits (low high : Nat) : List Char → Option (Nat × List Char)
  | a :: b :: rest =>
      let n := value [a, b]
      if isDigit a && isDigit b && low ≤ n && n ≤ high then some (n, rest) else none
  | _ => none

def isLeapYear (y : Nat) : Bool := (y % 4 == 0 && y % 100 != 0) || y % 400 == 0

def daysIn (year month : Nat) : Nat :=
  if month = 2 then if isLeapYear year then 29 else 28
  else if month = 4 || month = 6 || month = 9 || month = 11 then 30
  else 31

def readDate : List Char → Option (List Char)
  | a :: b :: c :: d :: '-' :: rest =>
      if [a, b, c, d].all isDigit then
        match twoDigits 1 12 rest with
        | some (month, '-' :: rest) =>
            (twoDigits 1 (daysIn (value [a, b, c, d]) month) rest).map (·.2)
        | _ => none
      else none
  | _ => none

def readFraction : List Char → Option (List Char)
  | '.' :: rest =>
      if (rest.takeWhile isDigit).isEmpty then none else some (rest.dropWhile isDigit)
  | rest => some rest

def readTime (text : List Char) : Option (List Char) :=
  match twoDigits 0 23 text with
  | some (_, ':' :: rest) =>
      match twoDigits 0 59 rest with
      | some (_, ':' :: rest) =>
          match twoDigits 0 60 rest with
          | some (_, rest) => readFraction rest
          | none => none
      | _ => none
  | _ => none

def readOffset : List Char → Option (List Char)
  | 'Z' :: rest | 'z' :: rest => some rest
  | '+' :: rest | '-' :: rest =>
      match twoDigits 0 23 rest with
      | some (_, ':' :: rest) => (twoDigits 0 59 rest).map (·.2)
      | _ => none
  | rest => some rest

def readDateTime (text : List Char) : Option (List Char) :=
  match readDate text with
  | none => readTime text
  | some rest =>
      let time :=
        match rest with
        | 'T' :: more | 't' :: more | ' ' :: more => (readTime more).bind readOffset
        | _ => none
      some (time.getD rest)

def isNumberChar (c : Char) : Bool :=
  c.isAlphanum || c = '+' || c = '-' || c = '_' || c = '.' || c = ':'

/-- A date is a table of one field, as far as settings are concerned. -/
def readNumberOrDate (text : List Char) : Option (Setting × List Char) :=
  match readDateTime text with
  | some rest => some (.table [("date", .text "")], rest)
  | none =>
      let run := text.takeWhile isNumberChar
      let rest := text.dropWhile isNumberChar
      match readFloat run with
      | some x => some (x, rest)
      | none => (readWhole run).map fun n => (n, rest)

def readTomlWord (text : List Char) : Option (Setting × List Char) :=
  let run := text.takeWhile isNumberChar
  let rest := text.dropWhile isNumberChar
  if run = "true".toList then some (.flag true, rest)
  else if run = "false".toList then some (.flag false, rest)
  else if run = "inf".toList then some (.float (.infinite false), rest)
  else if run = "nan".toList then some (.float .nan, rest)
  else none

def readScalar (text : List Char) : Option (Setting × List Char) :=
  match text with
  | '"' :: _ | '\'' :: _ => (readTomlString text).map fun (s, rest) => (.text s, rest)
  | c :: _ => if isDigit c || c = '+' || c = '-' then readNumberOrDate text else readTomlWord text
  | [] => none

end Viewsmith.Settings
