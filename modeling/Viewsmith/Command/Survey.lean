import Viewsmith.Command.Line

namespace Viewsmith.Command

open Settings (Config Sources)
open View (Kind)

def configPaths (sources : Sources) (root : String) : List String :=
  sources.userFile.toList ++ [Files.join root Settings.localFile]

def partialsPaths (dir : String) : List String :=
  dir :: Kind.all.map (Scaffold.overridePath dir)

def ViewCommand.paths (c : ViewCommand) (root : String) (config : Config) : List String :=
  let config := c.applyTo config
  let app := Files.join (Files.join root config.appsDir) c.target.appName
  let model := c.target.modelName
  let views := Files.join app "views"
  ((config.partialsPath? root).map partialsPaths).getD [] ++
    [ Files.join app "urls.py"
    , Files.join app "views.py"
    , Files.join views (Scaffold.pythonFile (c.viewFile.getD model))
    , Files.join (Files.join app "forms") (Scaffold.pythonFile model) ]

def RenderCommand.paths (c : RenderCommand) (cwd : String) : List String :=
  Files.join cwd c.context ::
    ((c.partials.map (Files.join cwd)).map partialsPaths).getD []

/-- The paths a run looks at, so that a file tree can be taken of them beforehand. Without a
configuration no more than its files are looked at. -/
def Request.paths (r : Request) (sources : Sources) (cwd : String) (config : Option Config) :
    List String :=
  match r with
  | .view c =>
      configPaths sources cwd ++
        match config with
        | some config => c.paths cwd config
        | none => []
  | .render c => c.paths cwd
  | _ => []

def locationOf (steps : List Files.Component) : Files.Location :=
  steps.foldl (fun l step =>
    match step with
    | .name n => l ++ [n]
    | .up => l.dropLast) []

def locationsTo (path : String) : List Files.Location :=
  let steps := Files.components path
  (List.range steps.length).map fun i => locationOf (steps.take (i + 1))

end Viewsmith.Command
