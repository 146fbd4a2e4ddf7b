import Viewsmith.Failure

namespace Viewsmith.Scaffold

open Files (FileTree)

structure ViewSection where
  className : String
  body : String
deriving DecidableEq

def classOpening (className : String) : String := "class " ++ className ++ "("

def ViewSection.isDefinedIn (s : ViewSection) (content : String) : Bool :=
  Text.contains content (classOpening s.className)

structure Merge where
  header : String
  sections : List ViewSection
deriving DecidableEq

namespace Merge

def missingIn (m : Merge) (content : String) : List ViewSection :=
  m.sections.filter fun s => !s.isDefinedIn content

def definedIn (m : Merge) (content : String) : List ViewSection :=
  m.sections.filter fun s => s.isDefinedIn content

def importLines (m : Merge) : List String :=
  (Text.lines m.header).filter fun line => Text.startsWith line "from "

end Merge

def endedLine (content : String) : String :=
  match content.toList.reverse with
  | [] => content
  | '\n' :: _ => content
  | _ => content ++ "\n"

def appendSections (content : String) (sections : List ViewSection) : String :=
  sections.foldl (fun text s => text ++ s.body) (endedLine content)

/-- A file to be written. The path is relative to the project unless it is absolute. -/
structure GeneratedFile where
  path : String
  content : String
  description : String
  merge : Option Merge
deriving DecidableEq

inductive Outcome
  | created
  | overwritten
  | merged (added skipped : List String)
deriving DecidableEq

def ioFailure (context path : String) (e : Files.IoError) : Failure :=
  (Failure.ofCause (.io e)).within (context ++ path)

def existsMessage (paths : String) : String :=
  "File already exists: " ++ paths ++ " (use --force to overwrite)"

def Merge.appendTo (m : Merge) (t : FileTree) (path : String) : FileTree × Except Failure Outcome :=
  match Files.readText t path with
  | .error e => (t, .error (ioFailure "Failed to read file: " path e))
  | .ok content =>
      let added := m.missingIn content
      let skipped := m.definedIn content
      let outcome := Outcome.merged (added.map (·.className)) (skipped.map (·.className))
      if added.isEmpty then (t, .ok outcome)
      else
        match Files.writeText t path (appendSections content added) with
        | .ok t => (t, .ok outcome)
        | .error e => (t, .error (ioFailure "Failed to write file: " path e))

namespace GeneratedFile

def writeWhole (f : GeneratedFile) (t : FileTree) (path : String) (existed : Bool) :
    FileTree × Except Failure Outcome :=
  let dir := (Files.parent? path).getD ""
  match Files.makePath t dir with
  | (t, some e) => (t, .error (ioFailure "Failed to create directory: " dir e))
  | (t, none) =>
      match Files.writeText t path f.content with
      | .error e => (t, .error (ioFailure "Failed to write file: " path e))
      | .ok t => (t, .ok (if existed then .overwritten else .created))

/-- Write the file below a project. A views module that is there is extended, any other file that is
there is replaced only by force. -/
def writeTo (f : GeneratedFile) (t : FileTree) (root : String) (force : Bool) :
    FileTree × Except Failure Outcome :=
  let path := Files.join root f.path
  let existed := Files.pathExists t path
  match existed, f.merge with
  | true, some m => m.appendTo t path
  | true, none =>
      if force then f.writeWhole t path true else (t, .error (.refuse (existsMessage path)))
  | false, _ => f.writeWhole t path false

end GeneratedFile

def conflicts (t : FileTree) (root : String) (force : Bool) :
    List GeneratedFile → Except Failure (List String)
  | [] => .ok []
  | f :: rest =>
      let path := Files.join root f.path
      if !Files.pathExists t path then conflicts t root force rest
      else
        match f.merge with
        | some m =>
            match Files.readText t path with
            | .error e => .error (ioFailure "Failed to read file: " path e)
            | .ok content =>
                if (m.missingIn content).isEmpty then
                  .error (.refuse ("All selected views already exist in " ++ path))
                else conflicts t root force rest
        | none =>
            if force then conflicts t root force rest
            else (conflicts t root force rest).map (path :: ·)

/-- Check all files against the project before the first one is written. -/
def checkConflicts (t : FileTree) (root : String) (force : Bool) (files : List GeneratedFile) :
    Except Failure Unit :=
  match conflicts t root force files with
  | .error f => .error f
  | .ok [] => .ok ()
  | .ok paths => .error (.refuse (existsMessage (Text.join ", " paths)))

end Viewsmith.Scaffold
