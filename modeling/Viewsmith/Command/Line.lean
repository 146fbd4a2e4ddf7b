import Viewsmith.Command.Render

namespace Viewsmith.Command

open Files (FileTree)
open Settings (Sources)

inductive Request
  | view (c : ViewCommand)
  | render (c : RenderCommand)
  | version
  | help
  | usage (e : Option UsageError)

def versionText : String := "django-scaffold 0.1.0-alpha.1\n"

def usageText : String :=
  "Usage: django-scaffold [-v] view <APP:MODEL> [OPTIONS]\n" ++
  "       django-scaffold [-v] render <CONTEXT> [--partials <DIR>]\n"

def Signature.withVerbose (s : Signature) : Signature :=
  { s with flags := s.flags ++ [("verbose", some 'v')] }

def ofUsage (e : UsageError) : Request :=
  if e = .displayHelp then .help else .usage (some e)

def readView (words : List String) : Request :=
  match readArguments viewSignature.withVerbose words with
  | .error e => ofUsage e
  | .ok given =>
      match ViewCommand.ofArguments given with
      | .ok c => .view c
      | .error e => ofUsage e

def readRender (words : List String) : Request :=
  match readArguments renderSignature.withVerbose words with
  | .error e => ofUsage e
  | .ok given =>
      match Table.find? "context" given with
      | some context => .render ⟨context, Table.find? "partials" given⟩
      | none => .usage (some .missingRequired)

def commandNames : List String := ["view", "render", "help"]

def readHelp : List String → Request
  | [] => .help
  | [name] => if commandNames.contains name then .help else .usage none
  | _ => .usage none

/-- The letters of flags in front of the command. The result says what they ask for at once, or
whether the output is to be verbose. -/
def readTopShort (verbose : Bool) : List Char → Except Request Bool
  | [] => .ok verbose
  | 'h' :: _ => .error .help
  | 'V' :: _ => .error .version
  | 'v' :: rest =>
      if verbose then .error (.usage (some .argumentConflict)) else readTopShort true rest
  | _ => .error (.usage (some .unknownArgument))

def readTopLong (verbose : Bool) (word : List Char) : Except Request Bool :=
  match splitAttached word with
  | (name, attached) =>
      if name = "help" || name = "version" || name = "verbose" then
        if attached.isSome then .error (.usage (some .tooManyValues))
        else if name = "help" then .error .help
        else if name = "version" then .error .version
        else if verbose then .error (.usage (some .argumentConflict))
        else .ok true
      else .error (.usage (some .unknownArgument))

def readLine (verbose : Bool) : List String → Request
  | [] => .usage none
  | word :: rest =>
      let proceed (flags : Except Request Bool) : Request :=
        match flags with
        | .error request => request
        | .ok verbose => readLine verbose rest
      match word.toList with
      | ['-', '-'] => .usage none
      | '-' :: '-' :: name => proceed (readTopLong verbose name)
      | '-' :: c :: letters => proceed (readTopShort verbose (c :: letters))
      | _ =>
          if word = "view" then readView rest
          else if word = "render" then readRender rest
          else if word = "help" then readHelp rest
          else .usage none

structure Exit where
  code : Nat
  report : Report

def execute (color : Bool) (t : FileTree) (sources : Sources) (cwd : String)
    (words : List String) : Exit :=
  let ofReport (r : Report) : Exit := ⟨if r.failure.isSome then 1 else 0, r⟩
  match readLine false words with
  | .view c => ofReport (c.run color t sources cwd)
  | .render c => ofReport (c.run t cwd)
  | .version => ⟨0, ⟨t, versionText, none⟩⟩
  | .help => ⟨0, ⟨t, usageText, none⟩⟩
  | .usage _ => ⟨2, ⟨t, "", none⟩⟩

end Viewsmith.Command
