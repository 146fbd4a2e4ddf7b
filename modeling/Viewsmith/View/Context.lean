import Viewsmith.View.Kind
import Viewsmith.Json.Value
import Viewsmith.Number.Digits
import Viewsmith.Text.Quoted
import Viewsmith.Text.Search

namespace Viewsmith.View

open Json (Value)

def defaultPaginateBy : UInt32 := 5

def defaultSlugField : String := "slug"

def defaultDeleteSuccessUrl : String := "'/'"

structure Context where
  appName : String
  modelName : String
  viewImports : String
  includeForm : Bool
  options : Options
  paginateBy : UInt32 := defaultPaginateBy
  slugField : String := defaultSlugField
  deleteSuccessUrl : String := defaultDeleteSuccessUrl
deriving DecidableEq

def Options.viewImports (o : Options) : String :=
  Text.join ", " (o.enabled.map Kind.className)

inductive Mismatch
  | type (found : Value) (expected : String)
  | value (found : Value) (expected : String)

def describe : Value → String
  | .null => "null"
  | .bool b => "boolean `" ++ (if b then "true" else "false") ++ "`"
  | .number (.whole n) => "integer `" ++ toString n ++ "`"
  | .number (.double x) => "floating point `" ++ x.pointedText ++ "`"
  | .string s => "string " ++ Text.quoted s
  | .array _ => "sequence"
  | .object _ => "map"

def Mismatch.message : Mismatch → String
  | .type found expected => "invalid type: " ++ describe found ++ ", expected " ++ expected
  | .value found expected => "invalid value: " ++ describe found ++ ", expected " ++ expected

inductive ContextError
  | missing (field : String)
  | mismatch (m : Mismatch)

def decodeString : Value → Except Mismatch String
  | .string s => .ok s
  | v => .error (.type v "a string")

def decodeBool : Value → Except Mismatch Bool
  | .bool b => .ok b
  | v => .error (.type v "a boolean")

def decodeCount : Value → Except Mismatch UInt32
  | .number (.whole n) =>
      if 0 ≤ n && n < Int.pow 2 32 then .ok (UInt32.ofNat n.toNat)
      else .error (.value (.number (.whole n)) "u32")
  | v => .error (.type v "u32")

def decodeField {α : Type} (fields : List (String × Value)) (key : String) (default : α)
    (decode : Value → Except Mismatch α) : Except Mismatch α :=
  match Table.find? key fields with
  | some v => decode v
  | none => .ok default

/-- The flags in the order of their keys, so that the first wrong one is reported. -/
def decodeOptions (fields : List (String × Value)) : Except Mismatch Options := do
  let create ← decodeField fields "create" false decodeBool
  let delete ← decodeField fields "del" false decodeBool
  let detail ← decodeField fields "detail" false decodeBool
  let list ← decodeField fields "list" false decodeBool
  let update ← decodeField fields "update" false decodeBool
  return ⟨list, detail, create, update, delete⟩

def decodeContext (fields options : List (String × Value)) : Except Mismatch Context := do
  let appName ← decodeField fields "appName" "" decodeString
  let deleteSuccessUrl ←
    decodeField fields "deleteSuccessUrl" defaultDeleteSuccessUrl decodeString
  let includeForm ← decodeField fields "includeForm" false decodeBool
  let modelName ← decodeField fields "modelName" "" decodeString
  let options ← decodeOptions options
  let paginateBy ← decodeField fields "paginateBy" defaultPaginateBy decodeCount
  let slugField ← decodeField fields "slugField" defaultSlugField decodeString
  let viewImports ← decodeField fields "viewImports" "" decodeString
  return { appName, modelName, viewImports, includeForm, options, paginateBy, slugField,
           deleteSuccessUrl }

def isGiven (fields : List (String × Value)) (key : String) : Bool :=
  match Table.find? key fields with
  | some v => !v.isNull
  | none => false

def requiredFields : List String := ["appName", "modelName", "viewImports", "options"]

/-- The flags a context must carry, under the names that messages give them. -/
def missingFlag? (options : List (String × Value)) : Option String :=
  (Kind.all.find? (fun k => !isGiven options k.optionKey)).map ("options." ++ ·.optionKey)

namespace Context

def ofOptions (appName modelName : String) (options : Options) : Context :=
  { appName, modelName, options
    viewImports := options.viewImports
    includeForm := options.needsForm }

/-- The context a JSON object holds. Fields that are absent are told before fields that have the
wrong type. -/
def ofValue (v : Value) : Except ContextError Context :=
  match v with
  | .object fields =>
      match requiredFields.find? (fun key => !isGiven fields key) with
      | some key => .error (.missing key)
      | none =>
          match Table.find? "options" fields with
          | some (.object options) =>
              match missingFlag? options with
              | some flag => .error (.missing flag)
              | none =>
                  match decodeContext fields options with
                  | .ok c => .ok c
                  | .error m => .error (.mismatch m)
          | some other => .error (.mismatch (.type other "a map"))
          | none => .error (.missing "options")
  | _ => .error (.missing "appName")

def optionsValue (o : Options) : Value :=
  .object [
    ("create", .bool o.create), ("del", .bool o.delete), ("detail", .bool o.detail),
    ("list", .bool o.list), ("update", .bool o.update)]

def toValue (c : Context) : Value :=
  .object [
    ("appName", .string c.appName),
    ("deleteSuccessUrl", .string c.deleteSuccessUrl),
    ("includeForm", .bool c.includeForm),
    ("modelName", .string c.modelName),
    ("options", optionsValue c.options),
    ("paginateBy", .number (.whole c.paginateBy.toNat)),
    ("slugField", .string c.slugField),
    ("viewImports", .string c.viewImports)]

end Context

end Viewsmith.View
