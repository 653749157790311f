import Switchboard.Unicode.Category.Table

/-!
# General categories

Each code point belongs to exactly one general category. A category is known by a two-letter
abbreviation and by a long name; the first letter of the abbreviation names its group.
-/

namespace Switchboard.Unicode

/-- The general categories of assigned code points. -/
inductive Category
  | uppercaseLetter | lowercaseLetter | titlecaseLetter | modifierLetter | otherLetter
  | nonspacingMark | spacingMark | enclosingMark
  | decimalNumber | letterNumber | otherNumber
  | connectorPunctuation | dashPunctuation | openPunctuation | closePunctuation
  | initialPunctuation | finalPunctuation | otherPunctuation
  | mathSymbol | currencySymbol | modifierSymbol | otherSymbol
  | spaceSeparator | lineSeparator | paragraphSeparator
  | control | format | surrogate | privateUse
  deriving DecidableEq, Repr

namespace Category

/-- The code points of a category. -/
def runs : Category → Runs
  | uppercaseLetter => Table.uppercaseLetter
  | lowercaseLetter => Table.lowercaseLetter
  | titlecaseLetter => Table.titlecaseLetter
  | modifierLetter => Table.modifierLetter
  | otherLetter => Table.otherLetter
  | nonspacingMark => Table.nonspacingMark
  | spacingMark => Table.spacingMark
  | enclosingMark => Table.enclosingMark
  | decimalNumber => Table.decimalNumber
  | letterNumber => Table.letterNumber
  | otherNumber => Table.otherNumber
  | connectorPunctuation => Table.connectorPunctuation
  | dashPunctuation => Table.dashPunctuation
  | openPunctuation => Table.openPunctuation
  | closePunctuation => Table.closePunctuation
  | initialPunctuation => Table.initialPunctuation
  | finalPunctuation => Table.finalPunctuation
  | otherPunctuation => Table.otherPunctuation
  | mathSymbol => Table.mathSymbol
  | currencySymbol => Table.currencySymbol
  | modifierSymbol => Table.modifierSymbol
  | otherSymbol => Table.otherSymbol
  | spaceSeparator => Table.spaceSeparator
  | lineSeparator => Table.lineSeparator
  | paragraphSeparator => Table.paragraphSeparator
  | control => Table.control
  | format => Table.format
  | surrogate => Table.surrogate
  | privateUse => Table.privateUse

/-- Letters with case. -/
def casedLetters : List Category := [uppercaseLetter, lowercaseLetter, titlecaseLetter]

/-- Letters. -/
def letters : List Category := casedLetters ++ [modifierLetter, otherLetter]

/-- Marks. -/
def marks : List Category := [nonspacingMark, spacingMark, enclosingMark]

/-- Numbers. -/
def numbers : List Category := [decimalNumber, letterNumber, otherNumber]

/-- Punctuation. -/
def punctuation : List Category :=
  [connectorPunctuation, dashPunctuation, openPunctuation, closePunctuation, initialPunctuation,
    finalPunctuation, otherPunctuation]

/-- Symbols. -/
def symbols : List Category := [mathSymbol, currencySymbol, modifierSymbol, otherSymbol]

/-- Separators. -/
def separators : List Category := [spaceSeparator, lineSeparator, paragraphSeparator]

/-- Assigned code points that are no graphic characters. -/
def assignedOther : List Category := [control, format, surrogate, privateUse]

/-- All categories of assigned code points. -/
def all : List Category :=
  letters ++ marks ++ numbers ++ punctuation ++ symbols ++ separators ++ assignedOther

/-- Whether code point `n` is in one of the categories. -/
def anyContains (categories : List Category) (n : Nat) : Bool :=
  categories.any fun category => category.runs.contains n

end Category

end Switchboard.Unicode
