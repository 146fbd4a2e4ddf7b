import Viewsmith.Json.Value
import Viewsmith.Number.Decimal

namespace Viewsmith.Json

open Viewsmith.Number

/-- Nesting of arrays and objects from here on is refused. -/
def depthLimit : Nat := 128

def isBlank (c : Char) : Bool := c = ' ' || c = '\t' || c = '\n' || c = '\r'

def skipBlanks (text : List Char) : List Char := text.dropWhile isBlank

def strip? : List Char → List Char → Option (List Char)
  | [], text => some text
  | c :: cs, d :: text => if c = d then strip? cs text else none
  | _ :: _, [] => none

def readUnit : List Char → Option (Nat × List Char)
  | a :: b :: c :: d :: rest =>
      if [a, b, c, d].all isHexDigit then some (valueIn 16 [a, b, c, d], rest) else none
  | _ => none

/-- The character behind `\u`; outside the first plane it takes two escapes. -/
def readEscapedPoint (text : List Char) : Option (Char × List Char) :=
  match readUnit text with
  | none => none
  | some (high, rest) =>
      if high < 0xD800 || 0xDFFF < high then some (Char.ofNat high, rest)
      else if 0xDC00 ≤ high then none
      else
        match rest with
        | '\\' :: 'u' :: more =>
            match readUnit more with
            | some (low, rest) =>
                if 0xDC00 ≤ low && low ≤ 0xDFFF then
                  some (Char.ofNat (0x10000 + (high - 0xD800) * 0x400 + (low - 0xDC00)), rest)
                else none
            | none => none
        | _ => none

def readEscape : List Char → Option (Char × List Char)
  | '"' :: rest => some ('"', rest)
  | '\\' :: rest => some ('\\', rest)
  | '/' :: rest => some ('/', rest)
  | 'b' :: rest => some ('\x08', rest)
  | 'f' :: rest => some ('\x0c', rest)
  | 'n' :: rest => some ('\n', rest)
  | 'r' :: rest => some ('\r', rest)
  | 't' :: rest => some ('\t', rest)
  | 'u' :: rest => readEscapedPoint rest
  | _ => none

def readString : Nat → List Char → List Char → Option (String × List Char)
  | 0, _, _ => none
  | _ + 1, _, [] => none
  | fuel + 1, done, c :: rest =>
      if c = '"' then some (String.ofList done.reverse, rest)
      else if c = '\\' then
        match readEscape rest with
        | some (d, rest) => readString fuel (d :: done) rest
        | none => none
      else if c.toNat < 0x20 then none
      else readString fuel (c :: done) rest

/-- The largest mantissa that is kept while digits are read. -/
def mantissaLimit : Nat := Nat.pow 2 64 - 1

/-- Multiply by ten to the power `k`, one rounding for each step of 308 powers. Too large a result
is an error. -/
def scaleStep (x : Double) (k : Int) : Option Double :=
  if 0 ≤ k then
    if 308 < k then if x.isZero then some x else none
    else
      let y := x.mul (.ofNat (Nat.pow 10 k.toNat))
      if y.isInfinite then none else some y
  else some (x.div (.ofNat (Nat.pow 10 (-k).toNat)))

def scale : Nat → Double → Int → Option Double
  | 0, x, _ => some x
  | fuel + 1, x, k =>
      if k < -308 then
        if x.isZero then some x
        else scale fuel (x.div (.ofNat (Nat.pow 10 308))) (k + 308)
      else scaleStep x k

def double (negative : Bool) (mantissa : Nat) (k : Int) : Option Double :=
  (scale 4 (.ofNat mantissa) k).map fun x => if negative then x.neg else x

/-- The digits of a mantissa as far as they fit, how many of them, and the digits left out. -/
def takeMantissa : Nat → Nat → List Char → Nat × Nat × List Char
  | m, count, [] => (m, count, [])
  | m, count, c :: cs =>
      if mantissaLimit < m * 10 + digitValue c then (m, count, c :: cs)
      else takeMantissa (m * 10 + digitValue c) (count + 1) cs

def readExponentPart (negative : Bool) (mantissa : Nat) (k : Int) (text : List Char) :
    Option (Numeral × List Char) :=
  let (down, rest) :=
    match text with
    | '+' :: cs => (false, cs)
    | '-' :: cs => (true, cs)
    | _ => (false, text)
  let ds := rest.takeWhile isDigit
  let rest := rest.dropWhile isDigit
  if ds.isEmpty then none
  else if Nat.pow 2 31 - 1 < value ds then
    if mantissa ≠ 0 && !down then none else some (.double (.zero negative), rest)
  else
    let e : Int := if down then k - value ds else k + value ds
    (double negative mantissa e).map fun x => (.double x, rest)

def finishFraction (negative : Bool) (mantissa : Nat) (k : Int) : List Char →
    Option (Numeral × List Char)
  | 'e' :: rest | 'E' :: rest => readExponentPart negative mantissa k rest
  | rest => (double negative mantissa k).map fun x => (.double x, rest)

def finishNumber (negative : Bool) (ds : List Char) (text : List Char) :
    Option (Numeral × List Char) :=
  let (m, _, dropped) := takeMantissa 0 0 ds
  let k : Int := dropped.length
  match text with
  | '.' :: cs =>
      let fraction := cs.takeWhile isDigit
      let rest := cs.dropWhile isDigit
      if fraction.isEmpty then none
      else
        let (m, count, _) := takeMantissa m 0 fraction
        finishFraction negative m (k - count) rest
  | 'e' :: rest | 'E' :: rest => readExponentPart negative m k rest
  | rest =>
      if !dropped.isEmpty then (double negative m k).map fun x => (.double x, rest)
      else if !negative then some (.whole m, rest)
      else if m = 0 || Nat.pow 2 63 < m then some (.double (Double.ofNat m).neg, rest)
      else some (.whole (-m), rest)

def readUnsignedNumber (negative : Bool) (text : List Char) : Option (Numeral × List Char) :=
  let ds := text.takeWhile isDigit
  match ds with
  | [] => none
  | '0' :: _ :: _ => none
  | _ => finishNumber negative ds (text.dropWhile isDigit)

def readNumber : List Char → Option (Numeral × List Char)
  | '-' :: rest => readUnsignedNumber true rest
  | text => readUnsignedNumber false text

def parseNumber (text : String) : Option Numeral :=
  match readNumber text.toList with
  | some (n, []) => some n
  | _ => none

def readWord (text : List Char) : Option (Value × List Char) :=
  match strip? "null".toList text with
  | some rest => some (.null, rest)
  | none =>
      match strip? "true".toList text with
      | some rest => some (.bool true, rest)
      | none =>
          match strip? "false".toList text with
          | some rest => some (.bool false, rest)
          | none => none

mutual

def readValue : Nat → Nat → List Char → Option (Value × List Char)
  | 0, _, _ => none
  | fuel + 1, depth, text =>
      match skipBlanks text with
      | [] => none
      | '"' :: rest =>
          (readString (rest.length + 1) [] rest).map fun (s, rest) => (.string s, rest)
      | '[' :: rest =>
          if depth ≤ 1 then none
          else
            match skipBlanks rest with
            | ']' :: rest => some (.array [], rest)
            | rest => readItems fuel (depth - 1) [] rest
      | '\x7b' :: rest =>
          if depth ≤ 1 then none
          else
            match skipBlanks rest with
            | '\x7d' :: rest => some (.object [], rest)
            | rest => readFields fuel (depth - 1) [] rest
      | c :: rest =>
          if c = '-' || isDigit c then
            (readNumber (c :: rest)).map fun (n, rest) => (.number n, rest)
          else readWord (c :: rest)

def readItems : Nat → Nat → List Value → List Char → Option (Value × List Char)
  | 0, _, _, _ => none
  | fuel + 1, depth, done, text =>
      match readValue fuel depth text with
      | none => none
      | some (v, rest) =>
          match skipBlanks rest with
          | ',' :: rest => readItems fuel depth (v :: done) rest
          | ']' :: rest => some (.array (v :: done).reverse, rest)
          | _ => none

def readFields : Nat → Nat → List (String × Value) → List Char → Option (Value × List Char)
  | 0, _, _, _ => none
  | fuel + 1, depth, done, text =>
      match skipBlanks text with
      | '"' :: rest =>
          match readString (rest.length + 1) [] rest with
          | none => none
          | some (key, rest) =>
              match skipBlanks rest with
              | ':' :: rest =>
                  match readValue fuel depth rest with
                  | none => none
                  | some (v, rest) =>
                      match skipBlanks rest with
                      | ',' :: rest => readFields fuel depth (Table.set key v done) rest
                      | '\x7d' :: rest => some (.object (Table.set key v done), rest)
                      | _ => none
              | _ => none
      | _ => none

end

def parseWithin (depth : Nat) (text : String) : Option Value :=
  match readValue (2 * text.toList.length + 2) depth text.toList with
  | some (v, rest) => if (skipBlanks rest).isEmpty then some v else none
  | none => none

def parse (text : String) : Option Value := parseWithin depthLimit text

end Viewsmith.Json
