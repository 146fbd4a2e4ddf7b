import Viewsmith.View.Renderer
import Viewsmith.Files.Access
import Viewsmith.Settings.Config
import Viewsmith.View.Naming

namespace Viewsmith

open View (RenderError)

inductive Cause
  | refused (text : String)
  | render (e : RenderError)
  | io (e : Files.IoError)
  | notJson
  | settings (e : Settings.SettingsError)

/-- The messages of a cause, outermost first. A value of the wrong form is named again by itself. -/
def Cause.messages : Cause → List String
  | .refused text => [text]
  | .render (.invalidContext m) => [(RenderError.invalidContext m).message, m.message]
  | .render e => [e.message]
  | .io e => [e.message]
  | .notJson => ["JSON syntax error"]
  | .settings e => [e.message]

structure Failure where
  contexts : List String
  cause : Cause

namespace Failure

def ofCause (c : Cause) : Failure := ⟨[], c⟩

def refuse (text : String) : Failure := ofCause (.refused text)

def within (context : String) (f : Failure) : Failure :=
  { f with contexts := context :: f.contexts }

def messages (f : Failure) : List String := f.contexts ++ f.cause.messages

def message (f : Failure) : String := f.messages.head?.getD ""

def numbered : Nat → List String → String
  | _, [] => ""
  | i, s :: rest => "\n    " ++ toString i ++ ": " ++ s ++ numbered (i + 1) rest

def report (f : Failure) : String :=
  let causes :=
    match f.messages.tail with
    | [] => ""
    | [cause] => "\n\nCaused by:\n    " ++ cause
    | causes => "\n\nCaused by:" ++ numbered 0 causes
  "Error: " ++ f.message ++ causes

end Failure

def within {α : Type} (context : String) : Except Failure α → Except Failure α
  | .ok a => .ok a
  | .error f => .error (f.within context)

def ofRender {α : Type} : Except RenderError α → Except Failure α
  | .ok a => .ok a
  | .error e => .error (.ofCause (.render e))

def ofIo {α : Type} : Except Files.IoError α → Except Failure α
  | .ok a => .ok a
  | .error e => .error (.ofCause (.io e))

def ofSettings {α : Type} : Except Settings.SettingsError α → Except Failure α
  | .ok a => .ok a
  | .error e => .error (.ofCause (.settings e))

def ofTarget {α : Type} : Except View.TargetError α → Except Failure α
  | .ok a => .ok a
  | .error e => .error (.refuse e.message)

end Viewsmith
