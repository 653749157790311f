import Switchboard.Json.Codec

/-!
# Identifiers of dispatches

An identifier has 128 bits. It is written as 32 digits of base sixteen in five groups with hyphens
between them, and read in four forms: the 32 digits alone, the five groups, the groups between
braces, and the groups behind `urn:uuid:`.
-/

namespace Switchboard.Alias

/-- Identifiers of 128 bits. -/
structure DispatchId where
  bits : BitVec 128
  deriving DecidableEq, Repr

namespace DispatchId

/-- Why a text is no identifier. -/
inductive Fault
  /-- A character that is no digit and no hyphen, with its place counted in bytes from one. -/
  | badCharacter (c : Char) (place : Nat)
  | simpleLength (length : Nat)
  | groupCount (count : Nat)
  | groupLength (group : Nat) (length : Nat)
  deriving DecidableEq, Repr

/-- How many digits each group has. -/
def groupSizes : List Nat := [8, 4, 4, 4, 12]

/-- The fault in words. -/
def Fault.message : Fault → String
  | badCharacter c place =>
    "invalid character: expected an optional prefix of `urn:uuid:` followed by [0-9a-fA-F-], found `"
      ++ c.toString ++ "` at " ++ toString place
  | simpleLength length =>
    "invalid length: expected length 32 for simple format, found " ++ toString length
  | groupCount count => "invalid group count: expected 5, found " ++ toString count
  | groupLength group length =>
    "invalid group length in group " ++ toString group ++ ": expected "
      ++ toString (groupSizes.getD group 0) ++ ", found " ++ toString length

/-- Splits a list behind each of the given sizes; what is left forms the last piece. -/
def splitSizes : List Nat → List Char → List (List Char)
  | [], cs => [cs]
  | size :: sizes, cs => cs.take size :: splitSizes sizes (cs.drop size)

/-- The digits between the hyphens of 36 characters, when the hyphens are in their places. -/
def hyphenated? (cs : List Char) : Option (List Char) :=
  match splitSizes [8, 1, 4, 1, 4, 1, 4, 1, 12] cs with
  | [a, ['-'], b, ['-'], c, ['-'], d, ['-'], e, []] => some (a ++ b ++ c ++ d ++ e)
  | _ => none

/-- What is inside the form that a text has: its bytes with their places from `offset` on, and
whether hyphens may be missing. -/
def unwrap (cs : List Char) : List Char × Nat × Bool :=
  match cs with
  | '\x7b' :: rest =>
    match rest.reverse with
    | '\x7d' :: inner => (inner.reverse, 1, false)
    | _ => (cs, 0, true)
  | 'u' :: 'r' :: 'n' :: ':' :: 'u' :: 'u' :: 'i' :: 'd' :: ':' :: rest => (rest, 9, false)
  | _ => (cs, 0, true)

/-- The first character that is no digit and no hyphen, or the places of the hyphens. -/
def scan (place : Nat) : List Char → Except Fault (List Nat)
  | [] => .ok []
  | c :: rest =>
    if c = '-' then (scan (place + 1) rest).map (place :: ·)
    else if Text.Hex.isDigit c then scan (place + 1) rest
    else .error (.badCharacter c (place + 1))

/-- The first group of a wrong length, given the places of the hyphens and where each group begins. -/
def wrongGroup (length : Nat) : (group : Nat) → (starts places : List Nat) → Fault
  | group, start :: next :: starts, place :: places =>
    if place + 1 ≠ next then .groupLength group (place - start)
    else wrongGroup length (group + 1) (next :: starts) places
  | group, start :: _, _ => .groupLength group (length - start)
  | group, [], _ => .groupLength group 0

/-- What is wrong with a text that is no identifier. -/
def diagnose (cs : List Char) : Fault :=
  let (inner, offset, simple) := unwrap cs
  match scan offset inner with
  | .error fault => fault
  | .ok places =>
    let length := (Text.Utf8.encodeChars cs).length
    if places.isEmpty && simple then .simpleLength length
    else if places.length ≠ 4 then .groupCount (places.length + 1)
    else wrongGroup length 0 [0, 9, 14, 19, 24] (places.map (· - offset))

/-- The identifier whose digits are given. -/
def ofDigitList (cs : List Char) : Option DispatchId :=
  (Text.Hex.number? cs).map fun n => ⟨.ofNat 128 n⟩

/-- Reads an identifier in one of its four forms. The form is chosen by the number of bytes. -/
def parseChars (cs : List Char) : Except Fault DispatchId :=
  let length := (Text.Utf8.encodeChars cs).length
  let grouped (inner : List Char) : Except Fault DispatchId :=
    match (hyphenated? inner).bind ofDigitList with
    | some id => .ok id
    | none => .error (diagnose inner)
  if length = 32 then
    match ofDigitList cs with
    | some id => .ok id
    | none => .error (diagnose cs)
  else if length = 36 then grouped cs
  else
    match unwrap cs with
    | (inner, 1, _) => if length = 38 then grouped inner else .error (diagnose cs)
    | (inner, 9, _) => if length = 45 then grouped inner else .error (diagnose cs)
    | _ => .error (diagnose cs)

/-- Reads an identifier in one of its four forms. -/
def parse (s : String) : Except Fault DispatchId := parseChars s.toList

/-- The last `count` digits of a number, most significant first. -/
def digitsOf : (count : Nat) → Nat → List Char
  | 0, _ => []
  | count + 1, n => digitsOf count (n / 16) ++ [Text.Hex.digit (n % 16)]

/-- The five groups of an identifier with hyphens between them. -/
def chars (id : DispatchId) : List Char :=
  let ds := digitsOf 32 id.bits.toNat
  ds.take 8 ++ '-' :: (ds.drop 8).take 4 ++ '-' :: (ds.drop 12).take 4 ++
    '-' :: (ds.drop 16).take 4 ++ '-' :: ds.drop 20

/-- The five groups of an identifier with hyphens between them. -/
def text (id : DispatchId) : String := String.ofList id.chars

/-- Identifiers as JSON strings. -/
def codec : Json.Codec DispatchId where
  encode id := .string id.text
  read _ bytes := do
    let (s, left) ← Json.Reader.stringAs "a formatted UUID string" bytes
    match parse s with
    | .ok id => return (id, left)
    | .error fault => Json.Reader.refuse (.invalid ("UUID parsing failed: " ++ fault.message)) left

end DispatchId

end Switchboard.Alias
