import Viewsmith.Number.Double

namespace Viewsmith.Number

/-- The number of digits before the point of `n / d`; negative by the zeros after the point. -/
def magnitude (n d : Nat) : Int :=
  if d ≤ n then (Nat.toDigits 10 (n / d)).length
  else 1 - (Nat.toDigits 10 ((d + n - 1) / n - 1)).length

def powerOfTen (k : Int) : Nat × Nat :=
  if 0 ≤ k then (Nat.pow 10 k.toNat, 1) else (1, Nat.pow 10 (-k).toNat)

/-- `c * 10 ^ k` rounds to the number of size `m * 2 ^ e`. -/
def names (c : Nat) (k : Int) (m : Nat) (e : Int) : Bool :=
  let (p, q) := powerOfTen k
  decide (Double.ofRatio false (c * p) q = .finite false m e)

def stripZeros : Nat → Nat → Int → Nat × Int
  | 0, c, k => (c, k)
  | fuel + 1, c, k => if c ≠ 0 ∧ c % 10 = 0 then stripZeros fuel (c / 10) (k + 1) else (c, k)

/-- With `count` digits or more: the nearest decimal that names the number. Seventeen digits are
always enough. -/
def shortestFrom (m : Nat) (e : Int) : Nat → Nat → Nat × Int
  | 0, _ => (0, 0)
  | fuel + 1, count =>
      let (n, d) := Double.ratio m e
      let k := magnitude n d - count
      let (p, q) := powerOfTen k
      let a := n * q
      let b := d * p
      let low := a / b
      let high := low + 1
      let lowNames := names low k m e
      let highNames := names high k m e
      if lowNames && (!highNames || 2 * (a % b) ≤ b) then stripZeros 20 low k
      else if highNames then stripZeros 20 high k
      else shortestFrom m e fuel (count + 1)

def shortest (m : Nat) (e : Int) : Nat × Int :=
  if m = 0 then (0, 0) else shortestFrom m e 18 1

def digits (n : Nat) : List Char := Nat.toDigits 10 n

def positional (ds : List Char) (k : Int) : List Char :=
  if 0 ≤ k then ds ++ List.replicate k.toNat '0'
  else
    let cut := (-k).toNat
    if ds.length ≤ cut then
      ['0', '.'] ++ List.replicate (cut - ds.length) '0' ++ ds
    else ds.take (ds.length - cut) ++ '.' :: ds.drop (ds.length - cut)

def scientific (ds : List Char) (power : Int) : List Char :=
  let head := ds.take 1 ++ (if ds.length ≤ 1 then [] else '.' :: ds.drop 1)
  head ++ ['e', if power < 0 then '-' else '+'] ++ digits power.natAbs

def signed (negative : Bool) (text : List Char) : String :=
  String.ofList (if negative then '-' :: text else text)

namespace Double

def plainText : Double → String
  | .finite s m e =>
      let (c, k) := shortest m e
      signed s (positional (digits c) k)
  | .infinite s => if s then "-inf" else "inf"
  | .nan => "NaN"

def pointedText : Double → String
  | .finite s m e =>
      let (c, k) := shortest m e
      let ds := digits c
      let power := k + ds.length - 1
      if m = 0 then signed s ['0', '.', '0']
      else if power < -5 || 16 ≤ power then signed s (scientific ds power)
      else if 0 ≤ k then signed s (positional ds k ++ ['.', '0'])
      else signed s (positional ds k)
  | .infinite s => if s then "-inf" else "inf"
  | .nan => "NaN"

end Double

end Viewsmith.Number
