import Viewsmith.Text.Search

namespace Viewsmith.Files

def isAbsolute (path : String) : Bool :=
  match path.toList with
  | '/' :: _ => true
  | _ => false

def endsInSlash (path : String) : Bool :=
  match path.toList.reverse with
  | '/' :: _ => true
  | _ => false

/-- The path `right` as seen from `left`. Nothing is normalised, and an absolute path stays. -/
def join (left right : String) : String :=
  if isAbsolute right then right
  else if left.isEmpty || endsInSlash left then left ++ right
  else left ++ "/" ++ right

/-- Drop what does not name anything at the end of a path, which is held backwards. -/
def dropIdle : List Char → List Char
  | '/' :: rest => if rest.isEmpty then ['/'] else dropIdle rest
  | '.' :: '/' :: rest => if rest.isEmpty then ['/'] else dropIdle rest
  | path => path

def parent? (path : String) : Option String :=
  match dropIdle path.toList.reverse with
  | [] => none
  | ['/'] => none
  | ['.'] => some ""
  | name => some (String.ofList (dropIdle (name.dropWhile (· ≠ '/'))).reverse)

inductive Component
  | up
  | name (s : String)
deriving DecidableEq

def components (path : String) : List Component :=
  (Text.splitOn path '/').filterMap fun s =>
    if s = "" || s = "." then none else if s = ".." then some .up else some (.name s)

/-- The path can only mean a directory. -/
def wantsDirectory (path : String) : Bool :=
  match path.toList.reverse with
  | '/' :: _ => true
  | '.' :: '/' :: _ => true
  | _ => false

end Viewsmith.Files
