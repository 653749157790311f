import Switchboard.Unicode.Property

/-!
# White space

Trimming and splitting at white space, for the white space of all scripts.
-/

namespace Switchboard.Text

/-- White space. -/
def isBlank (c : Char) : Bool := Unicode.Property.whiteSpace.contains c.toNat

namespace Blank

/-- Drops leading white space. -/
def trimStart (cs : List Char) : List Char := cs.dropWhile isBlank

/-- Drops trailing white space. -/
def trimEnd (cs : List Char) : List Char := (cs.reverse.dropWhile isBlank).reverse

/-- Drops white space at both ends. -/
def trim (cs : List Char) : List Char := trimEnd (trimStart cs)

/-- Splits at white space, given the word read so far in reverse order. -/
def wordsFrom (word : List Char) : List Char → List (List Char)
  | [] => if word.isEmpty then [] else [word.reverse]
  | c :: rest =>
    if isBlank c then
      if word.isEmpty then wordsFrom [] rest else word.reverse :: wordsFrom [] rest
    else wordsFrom (c :: word) rest

/-- The longest pieces without white space, in order. -/
def words (cs : List Char) : List (List Char) := wordsFrom [] cs

end Blank

/-- A text without the white space at its ends. -/
def trim (s : String) : String := String.ofList (Blank.trim s.toList)

/-- Whether a text holds nothing but white space. -/
def isBlankText (s : String) : Bool := s.toList.all isBlank

end Switchboard.Text
