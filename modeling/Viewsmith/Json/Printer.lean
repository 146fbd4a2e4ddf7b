import Viewsmith.Json.Value
import Viewsmith.Number.Digits

namespace Viewsmith.Json

open Viewsmith.Number

def Numeral.text : Numeral → String
  | .whole n => toString n
  | .double x => x.pointedText

def hexPair (n : Nat) : List Char :=
  let ds := Nat.toDigits 16 n
  if ds.length < 2 then '0' :: ds else ds

def escapedChar (c : Char) : List Char :=
  if c = '"' then ['\\', '"']
  else if c = '\\' then ['\\', '\\']
  else if c.toNat < 0x20 then '\\' :: 'u' :: '0' :: '0' :: hexPair c.toNat
  else [c]

def stringText (s : String) : List Char :=
  '"' :: s.toList.flatMap escapedChar ++ ['"']

mutual

def valueText : Value → List Char
  | .null => "null".toList
  | .bool b => if b then "true".toList else "false".toList
  | .number n => n.text.toList
  | .string s => stringText s
  | .array items => '[' :: itemsText items ++ [']']
  | .object fields => '\x7b' :: fieldsText fields ++ ['\x7d']

def itemsText : List Value → List Char
  | [] => []
  | [v] => valueText v
  | v :: rest => valueText v ++ ',' :: itemsText rest

def fieldsText : List (String × Value) → List Char
  | [] => []
  | [(k, v)] => stringText k ++ ':' :: valueText v
  | (k, v) :: rest => stringText k ++ ':' :: valueText v ++ ',' :: fieldsText rest

end

def print (v : Value) : String := String.ofList (valueText v)

end Viewsmith.Json
