import Viewsmith.Command.Arguments
import Viewsmith.Command.Style
import Viewsmith.Scaffold.Generator

namespace Viewsmith.Command

open Files (FileTree)
open Scaffold (GeneratedFile Generator Outcome)
open Settings (Config Sources)
open View (Kind Options Target)

structure ViewCommand where
  target : Target
  options : Options
  force : Bool := false
  paginate : Option UInt32 := none
  slugField : Option String := none
  deleteSuccessUrl : Option String := none
  viewFile : Option String := none
  partials : Option String := none
  stdout : Bool := false
deriving DecidableEq

def readCount (text : String) : Option UInt32 :=
  match Number.readInt text.toList with
  | some n => if Settings.inCountRange n then some (UInt32.ofNat n.toNat) else none
  | none => none

def readTarget (text : String) : Option Target :=
  match Target.parse text with
  | .ok target => some target
  | .error _ => none

def checkViewArgument (name value : String) : Option UsageError :=
  if name = "target" then if (readTarget value).isSome then none else some .valueValidation
  else if name = "paginate" then if (readCount value).isSome then none else some .valueValidation
  else if name = "partials" && value.isEmpty then some .invalidValue
  else none

def viewSignature : Signature where
  flags :=
    Kind.all.map (fun k => (k.optionKey, none)) ++ [("force", some 'f'), ("stdout", none)]
  options := ["paginate", "slug-field", "delete-success-url", "view", "partials"]
  positional := "target"
  check := checkViewArgument

namespace ViewCommand

def ofArguments (given : List (String × String)) : Except UsageError ViewCommand :=
  match (Table.find? "target" given).bind readTarget with
  | none => .error .missingRequired
  | some target =>
      let has (k : Kind) := Table.has k.optionKey given
      .ok {
        target
        options := ⟨has .list, has .detail, has .create, has .update, has .delete⟩
        force := Table.has "force" given
        paginate := (Table.find? "paginate" given).bind readCount
        slugField := Table.find? "slug-field" given
        deleteSuccessUrl := Table.find? "delete-success-url" given
        viewFile := Table.find? "view" given
        partials := Table.find? "partials" given
        stdout := Table.has "stdout" given }

def parse (words : List String) : Except UsageError ViewCommand :=
  match readArguments viewSignature words with
  | .ok given => ofArguments given
  | .error e => .error e

def applyTo (c : ViewCommand) (config : Config) : Config :=
  { config with
    paginateBy := c.paginate.getD config.paginateBy
    slugField := c.slugField.getD config.slugField
    deleteSuccessUrl := c.deleteSuccessUrl.getD config.deleteSuccessUrl
    partialsDir := c.partials.or config.partialsDir }

end ViewCommand

structure Report where
  tree : FileTree
  printed : String
  failure : Option Failure

def printFiles (files : List GeneratedFile) : String :=
  String.join (files.map fun f => "# " ++ f.path ++ "\n" ++ f.content)

def outcomeLines (color : Bool) (f : GeneratedFile) : Outcome → String
  | .merged added skipped =>
      "  " ++ styled color .green "✓" ++ " " ++ styled color .dim f.path ++ " (appended " ++
        styled color .dim (Text.join ", " added) ++ ")\n" ++
      (if skipped.isEmpty then ""
       else
        "  " ++ styled color .yellow "-" ++ " " ++ styled color .dim f.path ++
          " already defines " ++ styled color .dim (Text.join ", " skipped) ++ "\n")
  | _ =>
      "  " ++ styled color .green "✓" ++ " " ++ styled color .dim f.path ++ " (" ++
        styled color .dim f.description ++ ")\n"

structure Writing where
  tree : FileTree
  printed : String
  added : Nat
  imports : List String

def Writing.note (w : Writing) (color : Bool) (f : GeneratedFile) (o : Outcome) : Writing :=
  let printed := w.printed ++ outcomeLines color f o
  match o with
  | .merged added _ =>
      { w with
        printed
        added := added.length
        imports := w.imports ++ (f.merge.map Scaffold.Merge.importLines).getD [] }
  | _ => { w with printed }

def writeFiles (color : Bool) (root : String) (force : Bool) :
    List GeneratedFile → Writing → Writing × Option Failure
  | [], w => (w, none)
  | f :: rest, w =>
      match f.writeTo w.tree root force with
      | (tree, .error e) => ({ w with tree }, some e)
      | (tree, .ok outcome) =>
          writeFiles color root force rest ({ w with tree }.note color f outcome)

def indentedLines (color : Bool) (lines : List String) : String :=
  String.join (lines.map fun l => "    " ++ styled color .yellow l ++ "\n")

def greeting (color : Bool) (model : String) : String :=
  "\n" ++ styled color .boldCyan "Generating views for" ++ " " ++ styled color .boldGreen model ++
    " " ++ styled color .boldCyan "..." ++ "\n"

def farewell (color : Bool) (target : Target) (w : Writing) (routes : List View.Route) : String :=
  "\n" ++ styled color .boldGreen "Finish!" ++ " " ++ toString w.added ++
    " views were added for " ++ styled color .boldGreen target.modelName ++ "\n" ++
  (if w.imports.isEmpty then ""
   else
    "\n" ++ styled color .boldCyan "Check the views imports:" ++ "\n" ++
      indentedLines color w.imports) ++
  "\n" ++ styled color .boldCyan "Next steps:" ++ "\n" ++
  "  Add to " ++ styled color .yellow (target.appName ++ "/urls.py") ++ ":\n" ++
  indentedLines color (routes.map View.Route.text)

namespace ViewCommand

def prepare (c : ViewCommand) (t : FileTree) (root : String) (config : Config) :
    Except Failure (Generator × List GeneratedFile) := do
  let generator ← within "Failed to create view generator"
    (Generator.create t c.target c.options (c.applyTo config) root)
  let generator := { generator with viewFile := c.viewFile.or generator.viewFile }
  let files ← within "Failed to generate view files" (generator.generate t)
  return (generator, files)

def write (c : ViewCommand) (color : Bool) (t : FileTree) (root : String) (generator : Generator)
    (files : List GeneratedFile) : Report :=
  let printed := greeting color c.target.modelName
  match Scaffold.checkConflicts t root c.force files with
  | .error f => ⟨t, printed, some f⟩
  | .ok _ =>
      match writeFiles color root c.force files ⟨t, printed, c.options.enabled.length, []⟩ with
      | (w, some f) => ⟨w.tree, w.printed, some f⟩
      | (w, none) =>
          ⟨w.tree, w.printed ++ farewell color c.target w generator.routes, none⟩

def runIn (c : ViewCommand) (color : Bool) (t : FileTree) (root : String) (config : Config) :
    Report :=
  match c.prepare t root config with
  | .error f => ⟨t, "", some f⟩
  | .ok (generator, files) =>
      if c.stdout then ⟨t, printFiles files, none⟩ else c.write color t root generator files

def run (c : ViewCommand) (color : Bool) (t : FileTree) (sources : Sources) (root : String) :
    Report :=
  match within "Failed to load configuration" (ofSettings (Config.load t sources root)) with
  | .error f => ⟨t, "", some f⟩
  | .ok config => c.runIn color t root config

end ViewCommand

end Viewsmith.Command
