import Switchboard.Json.Number
import Switchboard.Text.Quoted

/-!
# Faults of JSON texts

A fault is a cause and a place. The place is kept as the bytes that were left, and told as a line
and a column, both counted in bytes; the first line is line 1, and the column is the number of bytes
since the last line end.
-/

namespace Switchboard.Json

/-- What was found in place of what was expected. -/
inductive Found
  | null
  | bool (b : Bool)
  | number (n : Number)
  | string (s : String)
  | array
  | object
  deriving DecidableEq, Repr

/-- What was found, in words. -/
def Found.describe : Found → String
  | null => "null"
  | bool true => "boolean `true`"
  | bool false => "boolean `false`"
  | number (.int n) => "integer `" ++ String.ofList (Number.intText n) ++ "`"
  | number (.double bits) => "floating point `" ++ String.ofList (Number.doubleText bits) ++ "`"
  | string s => "string " ++ Text.Quoted.quote s
  | array => "sequence"
  | object => "map"

/-- Why a text is not the JSON that was expected. -/
inductive Cause
  | unfinishedArray
  | unfinishedObject
  | unfinishedString
  | unfinishedValue
  | missingColon
  | missingCommaInArray
  | missingCommaInObject
  | badWord
  | noValue
  | badEscape
  | badNumber
  | numberOutOfRange
  | illFormedText
  | controlCharacter
  | keyNotString
  | loneSurrogate
  | trailingComma
  | trailingCharacters
  | surrogateCutOff
  | tooDeep
  /-- A value of another kind than the expected one. -/
  | mismatch (found : Found) (expected : String)
  /-- An array with too few items for a record. -/
  | tooShort (length : Nat) (expected : String)
  | missingField (key : String)
  | duplicateField (key : String)
  /-- A word that is none of the words of an enumeration. -/
  | unknownWord (word : String) (expected : List String)
  /-- Any other reason, in words. -/
  | invalid (reason : String)
  deriving DecidableEq, Repr

/-- Words in back quotes, as a list of two or more is told. -/
def oneOf (words : List String) : String :=
  match words with
  | [] => "there are no variants"
  | [a] => "expected `" ++ a ++ "`"
  | [a, b] => "expected `" ++ a ++ "` or `" ++ b ++ "`"
  | _ => "expected one of " ++ String.intercalate ", " (words.map fun w => "`" ++ w ++ "`")

/-- The cause in words. -/
def Cause.message : Cause → String
  | unfinishedArray => "EOF while parsing a list"
  | unfinishedObject => "EOF while parsing an object"
  | unfinishedString => "EOF while parsing a string"
  | unfinishedValue => "EOF while parsing a value"
  | missingColon => "expected `:`"
  | missingCommaInArray => "expected `,` or `]`"
  | missingCommaInObject => "expected `,` or `\x7d`"
  | badWord => "expected ident"
  | noValue => "expected value"
  | badEscape => "invalid escape"
  | badNumber => "invalid number"
  | numberOutOfRange => "number out of range"
  | illFormedText => "invalid unicode code point"
  | controlCharacter => "control character (\\u0000-\\u001F) found while parsing a string"
  | keyNotString => "key must be a string"
  | loneSurrogate => "lone leading surrogate in hex escape"
  | trailingComma => "trailing comma"
  | trailingCharacters => "trailing characters"
  | surrogateCutOff => "unexpected end of hex escape"
  | tooDeep => "recursion limit exceeded"
  | mismatch found expected => "invalid type: " ++ found.describe ++ ", expected " ++ expected
  | tooShort length expected => "invalid length " ++ toString length ++ ", expected " ++ expected
  | missingField key => "missing field `" ++ key ++ "`"
  | duplicateField key => "duplicate field `" ++ key ++ "`"
  | unknownWord word expected => "unknown variant `" ++ word ++ "`, " ++ oneOf expected
  | invalid reason => reason

/-- A cause and the bytes that were left where it was found. -/
structure Fault where
  cause : Cause
  left : List UInt8
  deriving Repr

/-- The line and the column of the end of some bytes. -/
def position (bytes : List UInt8) : Nat × Nat :=
  bytes.foldl (fun (line, column) (b : UInt8) =>
    if b = 10 then (line + 1, 0) else (line, column + 1)) (1, 0)

/-- The fault in words, with its place in the text. -/
def Fault.message (fault : Fault) (text : List UInt8) : String :=
  let (line, column) := position (text.take (text.length - fault.left.length))
  fault.cause.message ++ " at line " ++ toString line ++ " column " ++ toString column

end Switchboard.Json
