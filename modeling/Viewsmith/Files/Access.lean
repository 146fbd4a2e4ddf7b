import Viewsmith.Files.Path
import Viewsmith.Files.Tree

namespace Viewsmith.Files

inductive IoError
  | notFound
  | alreadyExists
  | notDirectory
  | isDirectory
  | nameTooLong
  | notText
  | nulInName
deriving DecidableEq

def IoError.message : IoError → String
  | .notFound => "No such file or directory (os error 2)"
  | .alreadyExists => "File exists (os error 17)"
  | .notDirectory => "Not a directory (os error 20)"
  | .isDirectory => "Is a directory (os error 21)"
  | .nameTooLong => "File name too long (os error 36)"
  | .notText => "stream did not contain valid UTF-8"
  | .nulInName => "file name contained an unexpected NUL byte"

def nameLimit : Nat := 255

def pathLimit : Nat := 4096

/-- Errors that a path has wherever it leads. -/
def checkPath (path : String) : Except IoError Unit :=
  if path.toList.contains '\x00' then .error .nulInName
  else if path.isEmpty then .error .notFound
  else if pathLimit ≤ path.utf8ByteSize then .error .nameTooLong
  else .ok ()

def entryIn (t : FileTree) (dir : Location) (name : String) : Except IoError (Option Entry) :=
  if nameLimit < name.utf8ByteSize then .error .nameTooLong else .ok (t.get? (dir ++ [name]))

def walk (t : FileTree) : Location → List Component → Except IoError Location
  | dir, [] => .ok dir
  | dir, .up :: rest => walk t dir.dropLast rest
  | dir, .name n :: rest =>
      match entryIn t dir n with
      | .error e => .error e
      | .ok none => .error .notFound
      | .ok (some .directory) => walk t (dir ++ [n]) rest
      | .ok (some (.file _)) => .error .notDirectory

/-- The place a path leads to: a directory that is there, or a name in one. -/
inductive Place
  | directory (l : Location)
  | name (dir : Location) (n : String)

def locate (t : FileTree) (path : String) : Except IoError Place :=
  match checkPath path with
  | .error e => .error e
  | .ok _ =>
      let steps := components path
      match steps.getLast? with
      | none => .ok (.directory [])
      | some .up => (walk t [] steps).map .directory
      | some (.name n) => (walk t [] steps.dropLast).map (.name · n)

def find (t : FileTree) (path : String) : Except IoError (Location × Entry) :=
  match locate t path with
  | .error e => .error e
  | .ok (.directory l) => .ok (l, .directory)
  | .ok (.name dir n) =>
      match entryIn t dir n with
      | .error e => .error e
      | .ok none => .error .notFound
      | .ok (some .directory) => .ok (dir ++ [n], .directory)
      | .ok (some (.file c)) =>
          if wantsDirectory path then .error .notDirectory else .ok (dir ++ [n], .file c)

def pathExists (t : FileTree) (path : String) : Bool :=
  match find t path with
  | .ok _ => true
  | .error _ => false

def isDirectory (t : FileTree) (path : String) : Bool :=
  match find t path with
  | .ok (_, .directory) => true
  | _ => false

def isFile (t : FileTree) (path : String) : Bool :=
  match find t path with
  | .ok (_, .file _) => true
  | _ => false

def readText (t : FileTree) (path : String) : Except IoError String :=
  match find t path with
  | .error e => .error e
  | .ok (_, .directory) => .error .isDirectory
  | .ok (_, .file (.text s)) => .ok s
  | .ok (_, .file (.bytes _)) => .error .notText

def writeText (t : FileTree) (path : String) (s : String) : Except IoError FileTree :=
  match locate t path with
  | .error e => .error e
  | .ok (.directory _) => .error .isDirectory
  | .ok (.name dir n) =>
      match entryIn t dir n with
      | .error e => .error e
      | .ok (some .directory) => .error .isDirectory
      | .ok (some (.file _)) =>
          if wantsDirectory path then .error .notDirectory
          else .ok (t.put (dir ++ [n]) (.file (.text s)))
      | .ok none =>
          if wantsDirectory path then .error .isDirectory
          else .ok (t.put (dir ++ [n]) (.file (.text s)))

def makeDirectory (t : FileTree) (path : String) : Except IoError FileTree :=
  match locate t path with
  | .error e => .error e
  | .ok (.directory _) => .error .alreadyExists
  | .ok (.name dir n) =>
      match entryIn t dir n with
      | .error e => .error e
      | .ok (some _) => .error .alreadyExists
      | .ok none => .ok (t.put (dir ++ [n]) .directory)

/-- Make a directory and those above it. What was made stays if a later one fails. -/
def makeDirectories : Nat → FileTree → String → FileTree × Option IoError
  | 0, t, _ => (t, some .notFound)
  | fuel + 1, t, path =>
      if path.isEmpty then (t, none)
      else
        match makeDirectory t path with
        | .ok t => (t, none)
        | .error .notFound =>
            match parent? path with
            | none => (t, some .notFound)
            | some above =>
                match makeDirectories fuel t above with
                | (t, some e) => (t, some e)
                | (t, none) =>
                    match makeDirectory t path with
                    | .ok t => (t, none)
                    | .error e => if isDirectory t path then (t, none) else (t, some e)
        | .error e => if isDirectory t path then (t, none) else (t, some e)

/-- A path has no more directories above it than characters. -/
def makePath (t : FileTree) (path : String) : FileTree × Option IoError :=
  makeDirectories (path.length + 1) t path

end Viewsmith.Files
