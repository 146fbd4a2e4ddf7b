import Viewsmith.Command.View
import Viewsmith.Json.Reader

namespace Viewsmith.Command

open Files (FileTree)
open View (Renderer)

structure RenderCommand where
  context : String
  partials : Option String := none
deriving DecidableEq

def checkRenderArgument (name value : String) : Option UsageError :=
  if (name = "context" || name = "partials") && value.isEmpty then some .invalidValue else none

def renderSignature : Signature where
  flags := []
  options := ["partials"]
  positional := "context"
  check := checkRenderArgument

namespace RenderCommand

def parse (words : List String) : Except UsageError RenderCommand :=
  match readArguments renderSignature words with
  | .error e => .error e
  | .ok given =>
      match Table.find? "context" given with
      | some context => .ok ⟨context, Table.find? "partials" given⟩
      | none => .error .missingRequired

def render (c : RenderCommand) (t : FileTree) (cwd : String) : Except Failure String := do
  let raw ← within ("Failed to read context: " ++ c.context)
    (ofIo (Files.readText t (Files.join cwd c.context)))
  let value ← within ("Context is not valid JSON: " ++ c.context)
    (match Json.parse raw with
     | some v => .ok v
     | none => .error (.ofCause .notJson))
  let registry ← Scaffold.registryWith t cwd c.partials
  let renderer ← ofRender (Renderer.ofRegistry registry)
  within ("Failed to render " ++ c.context) (ofRender (renderer.renderValue value))

def run (c : RenderCommand) (t : FileTree) (cwd : String) : Report :=
  match c.render t cwd with
  | .ok text => ⟨t, text, none⟩
  | .error f => ⟨t, "", some f⟩

end RenderCommand

end Viewsmith.Command
