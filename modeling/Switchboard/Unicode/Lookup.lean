import Switchboard.Unicode.CharSet
import Switchboard.Unicode.Script

/-!
# Character properties by name

A property is named loosely: letter case, spaces, hyphens, low lines and a leading `is` do not
count. A bare name is tried as a property of its own, as a general category and as a script, in
this order; `sc`, `cf` and `lc` are categories although properties share these abbreviations.
-/

namespace Switchboard.Unicode.Lookup

/-- How a property is asked for. -/
inductive Query
  /-- A name without a value. -/
  | name (name : String)
  /-- A property together with a value of it. -/
  | value (property value : String)
  deriving Repr, DecidableEq

/-- Why a property cannot be looked up. -/
inductive Fault
  | unknownProperty
  | unknownValue
  deriving Repr, DecidableEq

/-- The letters of a name that count. A name that is just `is` followed by `c` keeps its first
letters, because `c` alone names a category. -/
def normalize (name : String) : String :=
  let cs := name.toList
  let startsWithIs := (cs.take 2).map Char.toLower == ['i', 's']
  let body := if startsWithIs then cs.drop 2 else cs
  let kept := (body.filter fun c => !(c == ' ' || c == '_' || c == '-') && c.toNat < 0x80).map
    Char.toLower
  if startsWithIs && kept == ['c'] then "isc" else String.ofList kept

/-- General categories and their groups under their normalized names. -/
def categories : List (List String × List Category) :=
  [(["lu", "uppercaseletter"], [.uppercaseLetter]), (["ll", "lowercaseletter"], [.lowercaseLetter]),
    (["lt", "titlecaseletter"], [.titlecaseLetter]), (["lm", "modifierletter"], [.modifierLetter]),
    (["lo", "otherletter"], [.otherLetter]), (["lc", "casedletter"], Category.casedLetters),
    (["l", "letter"], Category.letters), (["mn", "nonspacingmark"], [.nonspacingMark]),
    (["mc", "spacingmark"], [.spacingMark]), (["me", "enclosingmark"], [.enclosingMark]),
    (["m", "mark", "combiningmark"], Category.marks),
    (["nd", "decimalnumber", "digit"], [.decimalNumber]), (["nl", "letternumber"], [.letterNumber]),
    (["no", "othernumber"], [.otherNumber]), (["n", "number"], Category.numbers),
    (["pc", "connectorpunctuation"], [.connectorPunctuation]),
    (["pd", "dashpunctuation"], [.dashPunctuation]), (["ps", "openpunctuation"], [.openPunctuation]),
    (["pe", "closepunctuation"], [.closePunctuation]),
    (["pi", "initialpunctuation"], [.initialPunctuation]),
    (["pf", "finalpunctuation"], [.finalPunctuation]),
    (["po", "otherpunctuation"], [.otherPunctuation]),
    (["p", "punctuation", "punct"], Category.punctuation), (["sm", "mathsymbol"], [.mathSymbol]),
    (["sc", "currencysymbol"], [.currencySymbol]), (["sk", "modifiersymbol"], [.modifierSymbol]),
    (["so", "othersymbol"], [.otherSymbol]), (["s", "symbol"], Category.symbols),
    (["zs", "spaceseparator"], [.spaceSeparator]), (["zl", "lineseparator"], [.lineSeparator]),
    (["zp", "paragraphseparator"], [.paragraphSeparator]), (["z", "separator"], Category.separators),
    (["cc", "control", "cntrl"], [.control]), (["cf", "format"], [.format]),
    (["cs", "surrogate"], [.surrogate]), (["co", "privateuse"], [.privateUse])]

/-- All assigned code points. -/
def assigned : CharSet := .tables (Property.ofCategories Category.all)

/-- The set of a general category or a group of them. -/
def category? (name : String) : Option CharSet :=
  match name with
  | "any" => some .full
  | "ascii" => some (.span 0 0x7F)
  | "assigned" => some assigned
  | "cn" | "unassigned" => some (.compl assigned)
  | "c" | "other" =>
    some (.union (.compl assigned) (.tables (Property.ofCategories Category.assignedOther)))
  | _ =>
    (categories.find? fun entry => entry.1.contains name).map fun entry =>
      .tables (Property.ofCategories entry.2)

/-- Letters that begin identifiers. -/
def idStart : CharSet :=
  .diff (.tables (Property.ofCategories (Category.letters ++ [.letterNumber]) ++
    [Property.Table.otherIdStart])) (.tables [Property.Table.notIdStart])

/-- Characters that continue identifiers. -/
def idContinue : CharSet :=
  .union idStart (.tables (Property.ofCategories
    [.nonspacingMark, .spacingMark, .decimalNumber, .connectorPunctuation] ++
      [Property.Table.otherIdContinue]))

/-- Graphic characters that do not extend the grapheme before them. -/
def graphemeBase : CharSet :=
  .diff (.tables (Property.ofCategories (Category.letters ++ Category.marks ++ Category.numbers ++
    Category.punctuation ++ Category.symbols ++ [.spaceSeparator])))
    (.tables Property.graphemeExtend)

/-- Properties without values, under their normalized names. -/
def properties : List (List String × CharSet) :=
  open Property in
  [(["alphabetic", "alpha"], .tables alphabetic), (["lowercase", "lower"], .tables lowercase),
    (["uppercase", "upper"], .tables uppercase), (["cased"], .tables cased),
    (["caseignorable", "ci"], .tables caseIgnorable),
    (["whitespace", "wspace", "space"], .tables [whiteSpace]),
    (["idstart", "ids"], idStart), (["idcontinue", "idc"], idContinue),
    (["xidstart", "xids"], .diff idStart (.tables [Table.notXidStart])),
    (["xidcontinue", "xidc"], .diff idContinue (.tables [Table.notXidContinue])),
    (["math"], .tables (ofCategories [.mathSymbol] ++ [Table.otherMath])),
    (["graphemeextend", "grext"], .tables graphemeExtend),
    (["graphemebase", "grbase"], graphemeBase),
    (["asciihexdigit", "ahex"], .tables [Table.asciiHexDigit]),
    (["hexdigit", "hex"], .tables [Table.hexDigit]),
    (["bidicontrol", "bidic"], .tables [Table.bidiControl]),
    (["bidimirrored", "bidim"], .tables [Table.bidiMirrored]),
    (["dash"], .tables [Table.dash]),
    (["defaultignorablecodepoint", "di"], .tables [Table.defaultIgnorable]),
    (["deprecated", "dep"], .tables [Table.deprecated]),
    (["diacritic", "dia"], .tables [Table.diacritic]), (["emoji"], .tables [Table.emoji]),
    (["emojicomponent", "ecomp"], .tables [Table.emojiComponent]),
    (["emojimodifier", "emod"], .tables [Table.emojiModifier]),
    (["emojimodifierbase", "ebase"], .tables [Table.emojiModifierBase]),
    (["emojipresentation", "epres"], .tables [Table.emojiPresentation]),
    (["extendedpictographic", "extpict"], .tables [Table.extendedPictographic]),
    (["extender", "ext"], .tables [Table.extender]),
    (["idsbinaryoperator", "idsb"], .tables [Table.idsBinaryOperator]),
    (["idstrinaryoperator", "idst"], .tables [Table.idsTrinaryOperator]),
    (["ideographic", "ideo"], .tables [Table.ideographic]),
    (["joincontrol", "joinc"], .tables [Table.joinControl]),
    (["logicalorderexception", "loe"], .tables [Table.logicalOrderException]),
    (["noncharactercodepoint", "nchar"], .tables [Table.noncharacter]),
    (["patternsyntax", "patsyn"], .tables [Table.patternSyntax]),
    (["patternwhitespace", "patws"], .tables [Table.patternWhiteSpace]),
    (["quotationmark", "qmark"], .tables [Table.quotationMark]),
    (["radical"], .tables [Table.radical]),
    (["regionalindicator", "ri"], .tables [Table.regionalIndicator]),
    (["sentenceterminal", "sterm"], .tables [Table.sentenceTerminal]),
    (["softdotted", "sd"], .tables [Table.softDotted]),
    (["terminalpunctuation", "term"], .tables [Table.terminalPunctuation]),
    (["unifiedideograph", "uideo"], .tables [Table.unifiedIdeograph]),
    (["variationselector", "vs"], .tables [Table.variationSelector])]

/-- The set of a property without values. -/
def property? (name : String) : Option CharSet :=
  (properties.find? fun entry => entry.1.contains name).map Prod.snd

/-- The set of a script. -/
def script? (name : String) : Option CharSet :=
  (Script.find? name).map fun runs => .tables [runs]

/-- The set of characters that a query asks for. -/
def find : Query → Except Fault CharSet
  | .name raw =>
    let name := normalize raw
    match (property? name).or ((category? name).or (script? name)) with
    | some set => .ok set
    | none => .error .unknownProperty
  | .value rawProperty rawValue =>
    let property := normalize rawProperty
    let value := normalize rawValue
    if property = "gc" ∨ property = "generalcategory" then
      (category? value).elim (.error .unknownValue) .ok
    else if property = "sc" ∨ property = "script" then
      (script? value).elim (.error .unknownValue) .ok
    else if (property? property).isSome then .error .unknownValue
    else .error .unknownProperty

end Switchboard.Unicode.Lookup
