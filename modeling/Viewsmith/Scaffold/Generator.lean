import Viewsmith.Scaffold.Overrides
import Viewsmith.Scaffold.Generated
import Viewsmith.View.Route

namespace Viewsmith.Scaffold

open Files (FileTree)
open Settings (Config)
open View (Context Kind Options Renderer Target)

/-- The views of one model in the project at `root`, which is an absolute path. -/
structure Generator where
  target : Target
  context : Context
  renderer : Renderer
  appsDir : String
  viewFile : Option String
  root : String

/-- The project knows the list view of a model: its name stands in the URL patterns of the app. -/
def isListRegistered (t : FileTree) (appsDir : String) (target : Target) : Bool :=
  let path := Files.join (Files.join appsDir target.appName) "urls.py"
  match Files.readText t path with
  | .ok content => Text.contains content (View.urlName target.modelName Kind.list.urlSuffix)
  | .error _ => false

def deleteSuccessUrl (t : FileTree) (appsDir default : String) (target : Target) (o : Options) :
    String :=
  if o.list || isListRegistered t appsDir target then
    "reverse('" ++ target.appName ++ ":" ++
      View.urlName target.modelName Kind.list.urlSuffix ++ "')"
  else default

def noViewsMessage : String :=
  "No views selected; pass at least one of --list, --detail, --create, --update, --del"

def pythonFile (name : String) : String := View.moduleName name ++ ".py"

namespace Generator

def create (t : FileTree) (target : Target) (o : Options) (config : Config) (root : String) :
    Except Failure Generator :=
  if o.isEmpty then .error (.refuse noViewsMessage)
  else do
    let registry ← within "Failed to load partial overrides"
      (registryWith t root (config.partialsPath? root))
    let renderer ← within "Failed to compile view templates"
      (ofRender (Renderer.ofRegistry registry))
    let url := deleteSuccessUrl t (Files.join root config.appsDir) config.deleteSuccessUrl target o
    let context : Context :=
      { Context.ofOptions target.appName target.modelName o with
        paginateBy := config.paginateBy
        slugField := config.slugField
        deleteSuccessUrl := url }
    return { target, context, renderer, appsDir := config.appsDir, viewFile := none, root }

def appDir (g : Generator) : String := Files.join g.appsDir g.target.appName

def viewsPath (g : Generator) (t : FileTree) : String :=
  if Files.isDirectory t (Files.join (Files.join g.root g.appDir) "views") then
    Files.join (Files.join g.appDir "views") (pythonFile (g.viewFile.getD g.target.modelName))
  else Files.join g.appDir "views.py"

def formPath (g : Generator) : String :=
  Files.join (Files.join g.appDir "forms") (pythonFile g.target.modelName)

def viewSection (g : Generator) (k : Kind) : Except View.RenderError ViewSection :=
  (g.renderer.renderSection g.context k).map fun body =>
    ⟨View.viewClassName g.target.modelName k.className, body⟩

def sections (g : Generator) : List Kind → Except View.RenderError (List ViewSection)
  | [] => .ok []
  | k :: rest =>
      match g.viewSection k with
      | .error e => .error e
      | .ok s => (g.sections rest).map (s :: ·)

def viewsFile (g : Generator) (t : FileTree) : Except Failure GeneratedFile := do
  let content ← within "Failed to render views module" (ofRender (g.renderer.render g.context))
  let header ← within "Failed to render views imports"
    (ofRender (g.renderer.render { g.context with options := {} }))
  let sections ← within "Failed to render view classes"
    (ofRender (g.sections g.context.options.enabled))
  return {
    path := g.viewsPath t
    content
    description := g.context.viewImports ++ " for " ++ g.target.modelName
    merge := some ⟨header, sections⟩ }

def formFile (g : Generator) : Except Failure GeneratedFile := do
  let content ← within "Failed to render form module" (ofRender (g.renderer.renderForm g.context))
  return {
    path := g.formPath
    content
    description := g.target.modelName ++ "Form model form"
    merge := none }

def generate (g : Generator) (t : FileTree) : Except Failure (List GeneratedFile) := do
  let views ← g.viewsFile t
  if g.context.includeForm then
    let form ← g.formFile
    return [views, form]
  return [views]

def routes (g : Generator) : List View.Route :=
  View.routes g.target.modelName g.context.slugField g.context.options

end Generator

end Viewsmith.Scaffold
