import Viewsmith.Command.Survey

namespace Viewsmith.Main

open Viewsmith.Files (Entry FileTree Location)
open Viewsmith.Settings (Config Sources)

def pathText (l : Location) : String := "/" ++ Text.join "/" l

def entryOnDisk (l : Location) : IO (Option Entry) := do
  let path := (← IO.currentDir) / pathText l
  if ← path.isDir then return some .directory
  try
    let bytes ← IO.FS.readBinFile path
    match String.fromUTF8? bytes with
    | some s => return some (.file (.text s))
    | none => return some (.file (.bytes bytes.toList))
  catch _ => return none

def takeTree (locations : List Location) : IO FileTree := do
  let mut tree : FileTree := ⟨[]⟩
  for l in locations do
    if l ≠ [] && (tree.get? l).isNone then
      match ← entryOnDisk l with
      | some e => tree := tree.put l e
      | none => pure ()
  return tree

def applyChanges (before after : FileTree) : IO Unit := do
  for (l, e) in after.entries do
    if before.get? l ≠ some e then
      match e with
      | .directory => IO.FS.createDirAll (pathText l)
      | .file (.text s) => IO.FS.writeFile (pathText l) s
      | .file (.bytes b) => IO.FS.writeBinFile (pathText l) ⟨b.toArray⟩

def splitVariable (text : String) : Option (String × String) :=
  match text.toList.dropWhile (· ≠ '=') with
  | _ :: value => some (String.ofList (text.toList.takeWhile (· ≠ '=')), String.ofList value)
  | [] => none

def environment : IO (List (String × String)) := do
  try
    let bytes ← IO.FS.readBinFile "/proc/self/environ"
    match String.fromUTF8? bytes with
    | some s => return (Text.splitOn s '\x00').filterMap splitVariable
    | none => return []
  catch _ => return []

def userFile : IO (Option String) := do
  let file (dir : String) := Files.join (Files.join dir "django-scaffold") "config.toml"
  match ← IO.getEnv "XDG_CONFIG_HOME" with
  | some dir => if Files.isAbsolute dir then return some (file dir)
  | none => pure ()
  return (← IO.getEnv "HOME").map fun home => file (Files.join home ".config")

/-- The tree a request needs. The configuration says where to look for the rest. -/
def treeFor (r : Command.Request) (sources : Sources) (cwd : String) : IO FileTree := do
  let first ← takeTree ((r.paths sources cwd none).flatMap Command.locationsTo)
  match Config.load first sources cwd with
  | .ok config => takeTree ((r.paths sources cwd (some config)).flatMap Command.locationsTo)
  | .error _ => return first

def complain (e : Command.Exit) : IO Unit := do
  match e.report.failure with
  | some f => IO.eprintln f.report
  | none => if e.code = 2 then IO.eprint ("error: invalid arguments\n\n" ++ Command.usageText)

def run (words : List String) : IO UInt32 := do
  let out ← IO.getStdout
  let color := (← out.isTty) && (← IO.getEnv "NO_COLOR").isNone
  let cwd := toString (← IO.currentDir)
  let sources : Sources := ⟨← userFile, ← environment⟩
  let before ← treeFor (Command.readLine false words) sources cwd
  let done := Command.execute color before sources cwd words
  applyChanges before done.report.tree
  out.putStr done.report.printed
  complain done
  return UInt32.ofNat done.code

end Viewsmith.Main

def main (words : List String) : IO UInt32 := Viewsmith.Main.run words
