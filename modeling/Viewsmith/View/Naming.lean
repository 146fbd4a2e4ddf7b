import Viewsmith.Text.Lower
import Viewsmith.Text.Search
import Viewsmith.Unicode.Letter

namespace Viewsmith.View

def moduleName (model : String) : String := Text.lower model

def viewClassName (model base : String) : String := model ++ base

def urlName (model suffix : String) : String := Text.lower model ++ "." ++ suffix

def isClassName (model : String) : Bool :=
  match model.toList with
  | [] => false
  | c :: cs =>
      Unicode.uppercase.contains c &&
        (c :: cs).all (fun d => Unicode.isAlphanumeric d || d == '_')

structure Target where
  appName : String
  modelName : String
deriving DecidableEq

inductive TargetError
  | shape (input : String)
  | emptyApp (input : String)
  | modelName (model : String)
deriving DecidableEq

def TargetError.message : TargetError → String
  | .shape input =>
      "Target must be app name and model name in format app:ModelName, got '" ++ input ++ "'"
  | .emptyApp input => "App name is empty in target '" ++ input ++ "'"
  | .modelName model =>
      "Model name must be PascalCase (start with uppercase): '" ++ model ++ "'"

def Target.parse (input : String) : Except TargetError Target :=
  match Text.splitOn input ':' with
  | [app, model] =>
      if app.isEmpty then .error (.emptyApp input)
      else if !isClassName model then .error (.modelName model)
      else .ok ⟨Text.lower app, model⟩
  | _ => .error (.shape input)

end Viewsmith.View
