import Viewsmith.Number.Digits
import Viewsmith.Table
import Viewsmith.Text.Quoted

namespace Viewsmith.Settings

open Number (Double)

inductive Setting
  | text (s : String)
  | flag (b : Bool)
  | signed (n : Int)
  | unsigned (n : Nat)
  | float (x : Double)
  | list (items : List Setting)
  | table (fields : List (String × Setting))

def Setting.describe : Setting → String
  | .text s => "string " ++ Text.quoted s
  | .flag b => "bool " ++ (if b then "true" else "false")
  | .signed n => "signed int `" ++ toString n ++ "`"
  | .unsigned n => "unsigned int `" ++ toString n ++ "`"
  | .float x => "float `" ++ x.plainText ++ "`"
  | .list _ => "sequence"
  | .table _ => "map"

mutual

def Setting.merge : Setting → Setting → Setting
  | old, .table fields => .table (mergeFields (match old with | .table f => f | _ => []) fields)
  | _, new => new

def mergeFields : List (String × Setting) → List (String × Setting) → List (String × Setting)
  | old, [] => old
  | old, (k, v) :: rest =>
      let merged :=
        match Table.find? k old with
        | some o => o.merge v
        | none => v
      mergeFields (Table.set k merged old) rest

end

end Viewsmith.Settings
