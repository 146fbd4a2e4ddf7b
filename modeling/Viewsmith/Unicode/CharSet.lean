namespace Viewsmith.Unicode

/-- Parity of the turning points up to `n`: the first one enters the set, the next one leaves it. -/
def inside : List Nat → Nat → Bool
  | [], _ => false
  | t :: ts, n => if n < t then false else !inside ts n

/-- A set of characters, written as the code points where membership changes, in rising order. -/
structure CharSet where
  turns : List Nat

def CharSet.contains (s : CharSet) (c : Char) : Bool :=
  inside s.turns c.toNat

end Viewsmith.Unicode
