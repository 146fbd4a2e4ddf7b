import Viewsmith.Unicode.CharSet

namespace Viewsmith.Unicode

def whiteSpace : CharSet where
  turns := [
    9, 14, 32, 33, 133, 134, 160, 161, 5760, 5761, 8192, 8203, 8232, 8234, 8239, 8240, 8287, 8288,
    12288, 12289]

def isSpace (c : Char) : Bool := whiteSpace.contains c

def isBlank (c : Char) : Bool := c = ' ' || c = '\t'

def trimStart (text : List Char) : List Char := text.dropWhile isSpace

def trimEnd (text : List Char) : List Char := (text.reverse.dropWhile isSpace).reverse

def trimBlankEnd (text : List Char) : List Char := (text.reverse.dropWhile isBlank).reverse

def trim (text : List Char) : List Char := trimEnd (trimStart text)

end Viewsmith.Unicode
