namespace Viewsmith.Command

inductive Style
  | boldCyan
  | boldGreen
  | green
  | yellow
  | dim

def Style.codes : Style → List String
  | .boldCyan => ["36", "1"]
  | .boldGreen => ["32", "1"]
  | .green => ["32"]
  | .yellow => ["33"]
  | .dim => ["2"]

def escapeCode (code : String) : String := "\x1b[" ++ code ++ "m"

def styled (color : Bool) (s : Style) (text : String) : String :=
  if color then String.join (s.codes.map escapeCode) ++ text ++ escapeCode "0" else text

end Viewsmith.Command
