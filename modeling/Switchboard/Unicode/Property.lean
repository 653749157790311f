import Switchboard.Unicode.Category
import Switchboard.Unicode.Property.Table

/-!
# Character properties

Properties of characters as sets of runs. Most are a union of general categories and a few
characters more.
-/

namespace Switchboard.Unicode.Property

/-- The runs of a list of categories, one table after the other. -/
def ofCategories (categories : List Category) : List Runs := categories.map Category.runs

/-- Whether code point `n` is in one of the tables. -/
def anyContains (tables : List Runs) (n : Nat) : Bool := tables.any fun runs => runs.contains n

/-- Capital letters and other upper-case characters. -/
def uppercase : List Runs := [Category.Table.uppercaseLetter, Table.otherUppercase]

/-- Small letters and other lower-case characters. -/
def lowercase : List Runs := [Category.Table.lowercaseLetter, Table.otherLowercase]

/-- Characters with case. -/
def cased : List Runs := uppercase ++ lowercase ++ [Category.Table.titlecaseLetter]

/-- Characters over which the search for a cased neighbour passes. -/
def caseIgnorable : List Runs :=
  ofCategories [.nonspacingMark, .enclosingMark, .format, .modifierLetter, .modifierSymbol] ++
    [Table.otherCaseIgnorable]

/-- Characters with case. -/
def isCased (n : Nat) : Bool := anyContains cased n

/-- Characters over which the search for a cased neighbour passes. -/
def isCaseIgnorable (n : Nat) : Bool := anyContains caseIgnorable n

/-- Letters, letter numbers, and the marks and symbols used like letters. -/
def alphabetic : List Runs :=
  ofCategories (Category.letters ++ [.letterNumber]) ++
    [Table.alphabeticMarks, Table.alphabeticSymbols]

/-- Whether code point `n` is alphabetic. -/
def isAlphabetic (n : Nat) : Bool := anyContains alphabetic n

/-- Whether code point `n` is alphabetic or a number. -/
def isAlphanumeric (n : Nat) : Bool := isAlphabetic n || Category.anyContains Category.numbers n

/-- Characters of words: alphabetic characters, marks, decimal digits, connectors and joiners. -/
def word : List Runs :=
  ofCategories (Category.letters ++ [.letterNumber] ++ Category.marks ++
    [.decimalNumber, .connectorPunctuation]) ++ [Table.alphabeticSymbols, Table.joinControl]

/-- Characters that extend the grapheme before them. -/
def graphemeExtend : List Runs :=
  ofCategories [.nonspacingMark, .enclosingMark] ++ [Table.otherGraphemeExtend]

/-- White space. -/
def whiteSpace : Runs :=
  [(9, 0xD, 1), (0x20, 0x20, 1), (0x85, 0x85, 1), (0xA0, 0xA0, 1), (0x1680, 0x1680, 1),
    (0x2000, 0x200A, 1), (0x2028, 0x2029, 1), (0x202F, 0x202F, 1), (0x205F, 0x205F, 1),
    (0x3000, 0x3000, 1)]

/-- Whether a character can stand as it is in a quoted text: it is assigned, visible, and no space
but the plain one. -/
def isPrintable (c : Char) : Bool :=
  c = ' ' ||
    Category.anyContains (Category.letters ++ Category.marks ++ Category.numbers ++
      Category.punctuation ++ Category.symbols) c.toNat

/-- Whether a character attaches itself to the one before it. -/
def isGraphemeExtend (c : Char) : Bool := anyContains graphemeExtend c.toNat

end Switchboard.Unicode.Property
