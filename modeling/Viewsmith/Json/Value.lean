import Viewsmith.Number.Double
import Viewsmith.Table

namespace Viewsmith.Json

open Viewsmith.Number (Double)

/-- A number written without fraction or exponent is whole, as far as 64 bits reach. -/
inductive Numeral
  | whole (n : Int)
  | double (x : Double)
deriving DecidableEq

inductive Value
  | null
  | bool (b : Bool)
  | number (n : Numeral)
  | string (s : String)
  | array (items : List Value)
  | object (fields : List (String × Value))

namespace Numeral

/-- Whole numbers equal doubles never; the two zeros are equal. -/
def same : Numeral → Numeral → Bool
  | .whole a, .whole b => a == b
  | .double x, .double y => Double.compare x y == some .eq
  | _, _ => false

def compare : Numeral → Numeral → Option Ordering
  | .whole a, .whole b => some (Ord.compare a b)
  | .whole a, .double y => Double.compareInt a y
  | .double x, .whole b => (Double.compareInt b x).map Ordering.swap
  | .double x, .double y => Double.compare x y

end Numeral

mutual

def Value.same : Value → Value → Bool
  | .null, .null => true
  | .bool a, .bool b => a == b
  | .number a, .number b => a.same b
  | .string a, .string b => a == b
  | .array a, .array b => sameItems a b
  | .object a, .object b => sameFields a b
  | _, _ => false

def sameItems : List Value → List Value → Bool
  | [], [] => true
  | a :: as, b :: bs => a.same b && sameItems as bs
  | _, _ => false

def sameFields : List (String × Value) → List (String × Value) → Bool
  | [], [] => true
  | (k, a) :: as, (l, b) :: bs => k == l && a.same b && sameFields as bs
  | _, _ => false

end

namespace Value

def asString? : Value → Option String
  | .string s => some s
  | _ => none

def isNull : Value → Bool
  | .null => true
  | _ => false

def field? (v : Value) (key : String) : Option Value :=
  match v with
  | .object fields => Table.find? key fields
  | _ => none

end Value

end Viewsmith.Json
