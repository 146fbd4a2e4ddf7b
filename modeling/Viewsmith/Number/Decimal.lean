import Viewsmith.Number.Double

namespace Viewsmith.Number

def isDigit (c : Char) : Bool := '0' ≤ c && c ≤ '9'

def digitValue (c : Char) : Nat :=
  if isDigit c then c.toNat - 48
  else if 'a' ≤ c && c ≤ 'f' then c.toNat - 87
  else if 'A' ≤ c && c ≤ 'F' then c.toNat - 55
  else 0

def isHexDigit (c : Char) : Bool :=
  isDigit c || ('a' ≤ c && c ≤ 'f') || ('A' ≤ c && c ≤ 'F')

def valueIn (base : Nat) (ds : List Char) : Nat :=
  ds.foldl (fun n c => base * n + digitValue c) 0

def value (ds : List Char) : Nat := valueIn 10 ds

def readNat (text : List Char) : Option Nat :=
  if text.isEmpty || !text.all isDigit then none else some (value text)

def readInt : List Char → Option Int
  | '-' :: ds => (readNat ds).map (fun n => -(n : Int))
  | '+' :: ds => (readNat ds).map (fun n => (n : Int))
  | ds => (readNat ds).map (fun n => (n : Int))

/-- The number nearest to `n * 10 ^ k`. Powers that are out of range for every number of this many
digits are not computed. -/
def ofDecimal (negative : Bool) (n : Nat) (k : Int) : Double :=
  let size : Int := (Nat.toDigits 10 n).length
  if n = 0 then .zero negative
  else if 310 < size + k then .infinite negative
  else if size + k < -400 then .zero negative
  else if 0 ≤ k then .ofRatio negative (n * Nat.pow 10 k.toNat) 1
  else .ofRatio negative n (Nat.pow 10 (-k).toNat)

def readExponent : List Char → Option Int
  | [] => some 0
  | c :: rest => if c = 'e' || c = 'E' then readInt rest else none

/-- The digits of a decimal after its sign. A point needs a digit on one side of it. -/
def readUnsigned (negative : Bool) (text : List Char) : Option Double :=
  let whole := text.takeWhile isDigit
  let rest := text.dropWhile isDigit
  let (fraction, rest) :=
    match rest with
    | '.' :: cs => (cs.takeWhile isDigit, cs.dropWhile isDigit)
    | _ => ([], rest)
  if whole.isEmpty && fraction.isEmpty then none
  else
    (readExponent rest).map fun k =>
      ofDecimal negative (value (whole ++ fraction)) (k - fraction.length)

def isWord (word : String) (text : List Char) : Bool :=
  text.map Char.toLower == word.toList

def readDouble (text : List Char) : Option Double :=
  let (negative, body) :=
    match text with
    | '-' :: cs => (true, cs)
    | '+' :: cs => (false, cs)
    | _ => (false, text)
  if isWord "inf" body || isWord "infinity" body then some (.infinite negative)
  else if isWord "nan" body then some .nan
  else readUnsigned negative body

end Viewsmith.Number
