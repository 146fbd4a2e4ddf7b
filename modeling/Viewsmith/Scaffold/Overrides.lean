import Viewsmith.Failure

namespace Viewsmith.Scaffold

open Files (FileTree)
open View (Kind Registry)

def overridePath (dir : String) (k : Kind) : String :=
  Files.join dir (k.partialName ++ ".py.hbs")

/-- Load the partials of some views from the files that are there. `seen` turns a path as it is
shown into one that can be followed. The partials loaded before a failure stay. -/
def loadKinds (t : FileTree) (seen : String → String) (dir : String) :
    List Kind → Registry → Registry × Except Failure (List String)
  | [], r => (r, .ok [])
  | k :: rest, r =>
      let path := overridePath dir k
      if !Files.isFile t (seen path) then loadKinds t seen dir rest r
      else
        match Files.readText t (seen path) with
        | .error e =>
            (r, .error ((Failure.ofCause (.io e)).within ("Failed to read partial: " ++ path)))
        | .ok body =>
            match loadKinds t seen dir rest (r.register k.partialName body) with
            | (r, .ok names) => (r, .ok (k.partialName :: names))
            | (r, .error f) => (r, .error f)

/-- Load every override in a directory. A relative path is seen from `cwd`. -/
def loadOverrides (t : FileTree) (cwd dir : String) (r : Registry) :
    Registry × Except Failure (List String) :=
  if Files.isDirectory t (Files.join cwd dir) then loadKinds t (Files.join cwd) dir Kind.all r
  else (r, .error (.refuse ("Partials directory not found: " ++ dir)))

def registryWith (t : FileTree) (cwd : String) (dir : Option String) : Except Failure Registry :=
  match dir with
  | none => .ok Registry.builtin
  | some dir =>
      match loadOverrides t cwd dir Registry.builtin with
      | (r, .ok _) => .ok r
      | (_, .error f) => .error f

end Viewsmith.Scaffold
