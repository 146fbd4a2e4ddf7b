import Viewsmith.Settings.Toml
import Viewsmith.Settings.Environment
import Viewsmith.Files.Access
import Viewsmith.View.Context

namespace Viewsmith.Settings

open Files (FileTree)

structure Config where
  appsDir : String := "server/apps"
  partialsDir : Option String := none
  paginateBy : UInt32 := View.defaultPaginateBy
  slugField : String := View.defaultSlugField
  deleteSuccessUrl : String := View.defaultDeleteSuccessUrl
deriving DecidableEq

inductive SettingsError
  | invalidFile
  | type (key : String) (found : Setting) (expected : String)
  | value (key : String) (found : Setting) (expected : String)

def SettingsError.message : SettingsError → String
  | .invalidFile => "configuration file is not valid TOML"
  | .type key found expected =>
      "invalid type: found " ++ found.describe ++ ", expected " ++ expected ++ " [" ++ key ++ "]"
  | .value key found expected =>
      "invalid value " ++ found.describe ++ ", expected " ++ expected ++ " [" ++ key ++ "]"

def localFile : String := "django-scaffold.toml"

def defaultTable : Setting :=
  .table
    [ ("apps_dir", .text "server/apps")
    , ("delete_success_url", .text View.defaultDeleteSuccessUrl)
    , ("paginate_by", .signed View.defaultPaginateBy.toNat)
    , ("slug_field", .text View.defaultSlugField) ]

def fieldsOf : Setting → List (String × Setting)
  | .table fields => fields
  | _ => []

def textField (fields : List (String × Setting)) (key default expected : String) :
    Except SettingsError String :=
  match Table.find? key fields with
  | none => .ok default
  | some (.text s) => .ok s
  | some other => .error (.type key other expected)

def optionalPath (fields : List (String × Setting)) (key : String) :
    Except SettingsError (Option String) :=
  match Table.find? key fields with
  | none => .ok none
  | some (.text s) => .ok (some s)
  | some other => .error (.type key other "path string")

def inCountRange (n : Int) : Bool := 0 ≤ n && n < Int.pow 2 32

def countField (fields : List (String × Setting)) (key : String) (default : UInt32) :
    Except SettingsError UInt32 :=
  match Table.find? key fields with
  | none => .ok default
  | some (.signed n) =>
      if inCountRange n then .ok (UInt32.ofNat n.toNat) else .error (.value key (.signed n) "u32")
  | some (.unsigned n) =>
      if inCountRange n then .ok (UInt32.ofNat n) else .error (.value key (.unsigned n) "u32")
  | some other => .error (.type key other "u32")

/-- Fields in the order of their keys, so that the first wrong one is reported. -/
def decode (s : Setting) : Except SettingsError Config := do
  let fields := fieldsOf s
  let appsDir ← textField fields "apps_dir" "server/apps" "path string"
  let deleteSuccessUrl ←
    textField fields "delete_success_url" View.defaultDeleteSuccessUrl "a string"
  let paginateBy ← countField fields "paginate_by" View.defaultPaginateBy
  let partialsDir ← optionalPath fields "partials_dir"
  let slugField ← textField fields "slug_field" View.defaultSlugField "a string"
  return { appsDir, partialsDir, paginateBy, slugField, deleteSuccessUrl }

/-- What a file adds to the settings. A file that is not there adds nothing. -/
def mergeFile (t : FileTree) (base : Setting) (path : String) : Except SettingsError Setting :=
  if Files.isFile t path then
    match Files.readText t path with
    | .error _ => .error .invalidFile
    | .ok source =>
        match parseToml source with
        | some fields => .ok (base.merge (.table fields))
        | none => .error .invalidFile
  else .ok base

def mergeFiles (t : FileTree) (base : Setting) : List String → Except SettingsError Setting
  | [] => .ok base
  | path :: rest =>
      match mergeFile t base path with
      | .ok base => mergeFiles t base rest
      | .error e => .error e

structure Sources where
  userFile : Option String := none
  environment : List (String × String) := []

namespace Config

/-- The configuration from files, later ones first, with the environment before all of them. -/
def ofFiles (t : FileTree) (environment : List (String × String)) (paths : List String) :
    Except SettingsError Config := do
  let merged ← mergeFiles t defaultTable paths
  decode (merged.merge (environmentTable environment))

/-- The configuration of the project at `root`, which is an absolute path. -/
def load (t : FileTree) (sources : Sources) (root : String) : Except SettingsError Config :=
  ofFiles t sources.environment (sources.userFile.toList ++ [Files.join root localFile])

/-- The configuration with one file in place of the user's and the project's. The path is absolute; a
relative one would have to be looked for in the directories above as well. -/
def loadFrom (t : FileTree) (sources : Sources) (path : String) : Except SettingsError Config :=
  ofFiles t sources.environment [path]

def partialsPath? (c : Config) (root : String) : Option String :=
  c.partialsDir.map (Files.join root)

end Config

end Viewsmith.Settings
