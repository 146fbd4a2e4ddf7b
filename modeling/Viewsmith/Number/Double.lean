namespace Viewsmith.Number

/-- A finite number is `mantissa * 2 ^ exponent`. The mantissa is below `2 ^ 53`, and it is at
least `2 ^ 52` unless the exponent is the least one, `-1074`. -/
inductive Double
  | finite (negative : Bool) (mantissa : Nat) (exponent : Int)
  | infinite (negative : Bool)
  | nan
deriving DecidableEq

/-- The quotient nearest to `n / d`, the even one of two that are equally near. -/
def nearest (n d : Nat) : Nat :=
  let q := n / d
  let r := n % d
  if d < 2 * r || (2 * r == d && q % 2 == 1) then q + 1 else q

def overPower (n d : Nat) (e : Int) : Nat × Nat :=
  if 0 ≤ e then (n, d * Nat.pow 2 e.toNat) else (n * Nat.pow 2 (-e).toNat, d)

/-- The power of two under which `n / d` has a mantissa of 53 bits, as far as there is one. -/
def powerFor (n d : Nat) : Int :=
  let e : Int := n.log2 - d.log2 - 53
  let (a, b) := overPower n d e
  max (-1074) (if Nat.pow 2 53 ≤ a / b then e + 1 else e)

namespace Double

def zero (negative : Bool) : Double := .finite negative 0 (-1074)

def ofRatio (negative : Bool) (n d : Nat) : Double :=
  if n = 0 then zero negative
  else
    let e := powerFor n d
    let (a, b) := overPower n d e
    let m := nearest a b
    let (m, e) := if m = Nat.pow 2 53 then (Nat.pow 2 52, e + 1) else (m, e)
    if 971 < e then .infinite negative else .finite negative m e

def ofNat (n : Nat) : Double := ofRatio false n 1

def neg : Double → Double
  | .finite s m e => .finite (!s) m e
  | .infinite s => .infinite (!s)
  | .nan => .nan

def isZero : Double → Bool
  | .finite _ m _ => m == 0
  | _ => false

def isInfinite : Double → Bool
  | .infinite _ => true
  | _ => false

def power (e : Int) : Nat × Nat :=
  if 0 ≤ e then (Nat.pow 2 e.toNat, 1) else (1, Nat.pow 2 (-e).toNat)

def ratio (m : Nat) (e : Int) : Nat × Nat :=
  (m * (power e).1, (power e).2)

def mul : Double → Double → Double
  | .finite s m e, .finite s' m' e' =>
      let (n, d) := ratio (m * m') (e + e')
      ofRatio (s != s') n d
  | .finite s m _, .infinite s' => if m = 0 then .nan else .infinite (s != s')
  | .infinite s, .finite s' m _ => if m = 0 then .nan else .infinite (s != s')
  | .infinite s, .infinite s' => .infinite (s != s')
  | _, _ => .nan

def divFinite (x : Double) (s' : Bool) (m' : Nat) (e' : Int) : Double :=
  match x with
  | .finite s m e =>
      let (n, d) := ratio m (e - e')
      ofRatio (s != s') n (d * m')
  | .infinite s => .infinite (s != s')
  | .nan => .nan

def div (x y : Double) : Double :=
  match y with
  | .finite s' m' e' =>
      if m' = 0 then
        match x with
        | .finite s m _ => if m = 0 then .nan else .infinite (s != s')
        | .infinite s => .infinite (s != s')
        | .nan => .nan
      else divFinite x s' m' e'
  | .infinite s' =>
      match x with
      | .finite s _ _ => zero (s != s')
      | _ => .nan
  | .nan => .nan

def units (s : Bool) (m : Nat) (e : Int) : Int :=
  let size : Int := m * Int.pow 2 (e + 1074).toNat
  if s then -size else size

def compare : Double → Double → Option Ordering
  | .nan, _ | _, .nan => none
  | .infinite s, .infinite s' =>
      some (if s = s' then .eq else if s then .lt else .gt)
  | .infinite s, .finite _ _ _ => some (if s then .lt else .gt)
  | .finite _ _ _, .infinite s => some (if s then .gt else .lt)
  | .finite s m e, .finite s' m' e' => some (Ord.compare (units s m e) (units s' m' e'))

def compareInt (n : Int) : Double → Option Ordering
  | .nan => none
  | .infinite s => some (if s then .gt else .lt)
  | .finite s m e => some (Ord.compare (n * Int.pow 2 1074) (units s m e))

end Double

end Viewsmith.Number
