import Scrutiny.Text.Ranges

/-!
Blank characters, trimming and words. A character is blank when it is a space, a separator or
one of the control characters that move the position. Trimming drops blanks at both ends;
words are the maximal runs of characters that are not blank.
-/

set_option autoImplicit false

namespace Scrutiny.Text

def blankRanges : Ranges := [
  (9, 13), (28, 32), (133, 133), (160, 160), (5760, 5760), (8192, 8202), (8232, 8233),
  (8239, 8239), (8287, 8287), (12288, 12288)]

def isBlank (c : Char) : Bool := blankRanges.holds c

def trimStart (t : List Char) : List Char := t.dropWhile isBlank

def trimEnd (t : List Char) : List Char := (t.reverse.dropWhile isBlank).reverse

def trim (t : List Char) : List Char := trimEnd (trimStart t)

def isAllBlank (t : List Char) : Bool := t.all isBlank

/-- Words of a text whose last letters, in reverse, were already read. -/
def wordsFrom (held : List Char) : List Char → List (List Char)
  | [] => if held.isEmpty then [] else [held.reverse]
  | c :: r =>
    if isBlank c then
      if held.isEmpty then wordsFrom [] r else held.reverse :: wordsFrom [] r
    else wordsFrom (c :: held) r

def words (t : List Char) : List (List Char) := wordsFrom [] t

end Scrutiny.Text
