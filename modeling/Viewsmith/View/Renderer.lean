import Viewsmith.View.Registry
import Viewsmith.View.Context
import Viewsmith.Template.Assemble
import Viewsmith.Template.Render

namespace Viewsmith.View

open Template (Node Fault)

inductive RenderError
  | missingField (field : String)
  | unknownPartial (name : String)
  | invalidContext (m : Mismatch)
  | template

def RenderError.message : RenderError → String
  | .missingField field => "Missing context field: " ++ field
  | .unknownPartial name => "Unknown partial: " ++ name
  | .invalidContext m => "Invalid context: " ++ m.message
  | .template => "Template error"

def ContextError.toRenderError : ContextError → RenderError
  | .missing field => .missingField field
  | .mismatch m => .invalidContext m

def RenderError.ofFault : Fault → RenderError
  | .unknownPartial name => .unknownPartial name
  | .other => .template

def viewsName : String := "views"

def formName : String := "form"

structure Renderer where
  registry : Registry
  templates : List (String × List Node)

def compileTemplate (source : String) : Except RenderError (List Node) :=
  match Template.compile source with
  | some nodes => .ok nodes
  | none => .error .template

def addPartials (templates : List (String × List Node)) :
    List (String × String) → Except RenderError (List (String × List Node))
  | [] => .ok templates
  | (name, body) :: rest => do
      let nodes ← compileTemplate body
      addPartials (Table.set name nodes templates) rest

def sectionTemplate (k : Kind) : String := tag ("> " ++ k.partialName)

namespace Renderer

def ofRegistry (registry : Registry) : Except RenderError Renderer := do
  let views ← compileTemplate viewsTemplate
  let form ← compileTemplate formTemplate
  let templates ←
    addPartials (Table.ofEntries [(viewsName, views), (formName, form)]) registry.partials
  return ⟨registry, templates⟩

/-- Expand a template; one with a name is not included by itself. -/
def expand (r : Renderer) (c : Context) (name : Option String) (nodes : List Node) :
    Except RenderError String :=
  match Template.render ⟨r.templates, c.toValue⟩ name nodes with
  | .ok text => .ok text
  | .error f => .error (.ofFault f)

def expandNamed (r : Renderer) (c : Context) (name : String) : Except RenderError String :=
  match Table.find? name r.templates with
  | some nodes => r.expand c (some name) nodes
  | none => .error .template

/-- The first view without a partial. -/
def missingPartial? (r : Renderer) (kinds : List Kind) : Option String :=
  (kinds.find? (fun k => !r.registry.contains k.partialName)).map Kind.partialName

def render (r : Renderer) (c : Context) : Except RenderError String :=
  match r.missingPartial? c.options.enabled with
  | some name => .error (.unknownPartial name)
  | none => r.expandNamed c viewsName

/-- The section of one view, whether it is selected or not. -/
def renderSection (r : Renderer) (c : Context) (k : Kind) : Except RenderError String :=
  match r.missingPartial? [k] with
  | some name => .error (.unknownPartial name)
  | none => do
      let nodes ← compileTemplate (sectionTemplate k)
      r.expand c none nodes

def renderForm (r : Renderer) (c : Context) : Except RenderError String :=
  r.expandNamed c formName

def renderValue (r : Renderer) (v : Json.Value) : Except RenderError String :=
  match Context.ofValue v with
  | .ok c => r.render c
  | .error e => .error e.toRenderError

end Renderer

end Viewsmith.View
