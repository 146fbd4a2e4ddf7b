import Viewsmith.Unicode.Case
import Viewsmith.Unicode.Letter

namespace Viewsmith.Text

open Unicode

/-- Upper case as far as ASCII goes: digits and every character beyond ASCII count as upper case. -/
def isAsciiUpper (c : Char) : Bool :=
  !('a' ≤ c && c ≤ 'z')

def isLowerAt (text : List Char) (i : Nat) : Bool :=
  match text[i]? with
  | some c => lowercase.contains c
  | none => false

/-- A small letter stands one place beside `i`. The place is counted in bytes by the caller and in
characters here, so beyond ASCII the two part. -/
def besideLower (text : List Char) (i : Nat) : Bool :=
  isLowerAt text (i + 1) || isLowerAt text (i - 1)

def snakeFrom (text : List Char) (i : Nat) (opening : Bool) : List Char → List Char
  | [] => []
  | c :: rest =>
      if isAlphanumeric c then
        let tail := snakeFrom text (i + c.utf8Size) false rest
        if !opening && isAsciiUpper c && besideLower text i then '_' :: c.toLower :: tail
        else c.toLower :: tail
      else if opening then snakeFrom text (i + c.utf8Size) true rest
      else '_' :: snakeFrom text (i + c.utf8Size) true rest

def trimEnd (text : List Char) : List Char :=
  (text.reverse.dropWhile (!isAlphanumeric ·)).reverse

def snake (s : String) : String :=
  String.ofList (snakeFrom s.toList 0 true (trimEnd s.toList))

end Viewsmith.Text
