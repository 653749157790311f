import Switchboard.Json.Reader

/-!
# Typed JSON texts

A codec writes the values of a type as JSON values and reads them back from bytes. In contrast to
`Value.parse` followed by an inspection, a codec looks at the text only as far as it has to: it stops
at the first byte that no value of the type can have, and what belongs to no field is skipped without
being understood.

Records read both an object with the fields as members, in any order, and an array of the fields in
order.
-/

namespace Switchboard.Json

namespace Reader

/-! ### Values of the wrong kind -/

/-- Refuses a value that is not of the expected kind. A scalar is read first, so that the fault can
show it and a malformed one is told as such. -/
def refuseKind {α : Type} (expected : String) (b : UInt8) (r : List UInt8) : Except Fault α := do
  let mismatch {β : Type} (found : Found) (left : List UInt8) : Except Fault β :=
    refuse (.mismatch found expected) left
  if b = byte 'n' then mismatch .null (← word ['u', 'l', 'l'] r)
  else if b = byte 't' then mismatch (.bool true) (← word ['r', 'u', 'e'] r)
  else if b = byte 'f' then mismatch (.bool false) (← word ['a', 'l', 's', 'e'] r)
  else if b = byte '-' then
    let (n, left) ← number false r
    mismatch (.number n) left
  else if isDigit b then
    let (n, left) ← number true (b :: r)
    mismatch (.number n) left
  else if b = byte '"' then
    let (s, left) ← string r
    mismatch (.string s) left
  else if b = byte '[' then mismatch .array (b :: r)
  else if b = byte '\x7b' then mismatch .object (b :: r)
  else refuse .noValue r

/-- A string where `expected` tells what the string is for. -/
def stringAs (expected : String) : Reader String := fun bytes =>
  match skipSpace bytes with
  | [] => refuse .unfinishedValue []
  | b :: r => if b = byte '"' then string r else refuseKind expected b r

/-! ### Skipping -/

/-- Skips a string, from behind its opening quote. Escapes are checked only for their form. -/
def skipString : List UInt8 → Except Fault (List UInt8)
  | [] => refuse .unfinishedString []
  | b :: r =>
    if b = byte '"' then .ok r
    else if b = byte '\\' then
      match r with
      | [] => refuse .unfinishedString []
      | e :: r₁ =>
        if e = byte 'u' then
          match r₁ with
          | h₁ :: h₂ :: h₃ :: h₄ :: r₂ =>
            if (hexFour h₁ h₂ h₃ h₄).isSome then skipString r₂ else refuse .badEscape r₂
          | _ => refuse .unfinishedString []
        else if (simpleEscape e).isSome then skipString r₁
        else refuse .badEscape r₁
    else if b < 0x20 then refuse .controlCharacter r
    else skipString r

/-- Skips an exponent, from behind its letter. -/
def skipExponent (bytes : List UInt8) : Except Fault (List UInt8) :=
  let bytes := match bytes with
    | b :: r => if b = byte '+' ∨ b = byte '-' then r else b :: r
    | [] => []
  match bytes with
  | [] => refuse .badNumber []
  | b :: r => if isDigit b then .ok (countDigits r).2 else refuse .badNumber r

/-- Skips a number, from behind its sign. -/
def skipNumber : List UInt8 → Except Fault (List UInt8)
  | [] => refuse .badNumber []
  | b :: r =>
    if !isDigit b then refuse .badNumber r
    else if b = byte '0' && startsWithDigit r then refuse .badNumber (r.drop 1)
    else
      match (countDigits r).2 with
      | [] => .ok []
      | c :: r₁ =>
        if c = byte '.' then
          if startsWithDigit r₁ then
            match (countDigits r₁).2 with
            | [] => .ok []
            | d :: r₂ => if d = byte 'e' ∨ d = byte 'E' then skipExponent r₂ else .ok (d :: r₂)
          else refuse .badNumber (r₁.drop 1)
        else if c = byte 'e' ∨ c = byte 'E' then skipExponent r₁
        else .ok (c :: r₁)

/-- The brackets that are open while a value is skipped. -/
inductive Bracket
  | square
  | curly
  deriving DecidableEq

/-- Skips a key and its colon. -/
def skipKey (bytes : List UInt8) : Except Fault (List UInt8) :=
  match skipSpace bytes with
  | [] => refuse .unfinishedObject []
  | b :: r => if b = byte '"' then do colon (← skipString r) else refuse .keyNotString r

/-- Where the skipping of a value stands. -/
inductive SkipPoint
  /-- Before a value. -/
  | value
  /-- Behind a value or an opening bracket; a comma is accepted only behind a value. -/
  | after (comma : Bool)

/-- Skips a value of any depth. The list holds the brackets that are open; the fuel exceeds twice the
number of bytes. -/
def skipFrom : Nat → SkipPoint → List Bracket → List UInt8 → Except Fault (List UInt8)
  | 0, _, _, bytes => refuse .noValue bytes
  | _ + 1, .after _, [], bytes => .ok bytes
  | fuel + 1, .after comma, bracket :: outer, bytes =>
    match bracket, skipSpace bytes with
    | .square, [] => refuse .unfinishedArray []
    | .curly, [] => refuse .unfinishedObject []
    | bracket, b :: r =>
      if b = byte ',' && comma then
        match bracket with
        | .square => skipFrom fuel .value (bracket :: outer) r
        | .curly => do skipFrom fuel .value (bracket :: outer) (← skipKey r)
      else if b = (match bracket with | .square => byte ']' | .curly => byte '\x7d') then
        skipFrom fuel (.after true) outer r
      else if comma then
        match bracket with
        | .square => refuse .missingCommaInArray r
        | .curly => refuse .missingCommaInObject r
      else
        match bracket with
        | .square => skipFrom fuel .value (bracket :: outer) (b :: r)
        | .curly => do skipFrom fuel .value (bracket :: outer) (← skipKey (b :: r))
  | fuel + 1, .value, brackets, bytes =>
    match skipSpace bytes with
    | [] => refuse .unfinishedValue []
    | b :: r => do
      if b = byte 'n' then skipFrom fuel (.after true) brackets (← word ['u', 'l', 'l'] r)
      else if b = byte 't' then skipFrom fuel (.after true) brackets (← word ['r', 'u', 'e'] r)
      else if b = byte 'f' then skipFrom fuel (.after true) brackets (← word ['a', 'l', 's', 'e'] r)
      else if b = byte '-' then skipFrom fuel (.after true) brackets (← skipNumber r)
      else if isDigit b then skipFrom fuel (.after true) brackets (← skipNumber (b :: r))
      else if b = byte '"' then skipFrom fuel (.after true) brackets (← skipString r)
      else if b = byte '[' then skipFrom fuel (.after false) (.square :: brackets) r
      else if b = byte '\x7b' then skipFrom fuel (.after false) (.curly :: brackets) r
      else refuse .noValue r

/-- Skips a value of any depth. -/
def skip (bytes : List UInt8) : Except Fault (List UInt8) :=
  skipFrom (2 * bytes.length + 2) .value [] bytes

/-- The value `null`, where `expected` tells that nothing else is expected. -/
def unit : Reader Unit := fun bytes =>
  match skipSpace bytes with
  | [] => refuse .unfinishedValue []
  | b :: r =>
    if b = byte 'n' then (word ['u', 'l', 'l'] r).map fun left => ((), left)
    else refuseKind "unit" b r

/-- One of some words: a string, or an object with the word as its only key and the value `null`. -/
def oneWord {α : Type} (words : List (String × α)) (levels : Nat) : Reader α := fun bytes =>
  let pick (word : String) (left : List UInt8) : Except Fault α :=
    match words.find? fun entry => entry.1 == word with
    | some entry => .ok entry.2
    | none => refuse (.unknownWord word (words.map Prod.fst)) left
  match skipSpace bytes with
  | [] => refuse .unfinishedValue []
  | b :: r =>
    if b = byte '"' then do
      let (word, left) ← string r
      return (← pick word left, left)
    else if b = byte '\x7b' then
      match levels with
      | 0 => refuse .tooDeep r
      | _ + 1 => do
        let (word, left) ← stringAs "variant identifier" r
        let x ← pick word left
        let ((), left) ← unit (← colon left)
        match skipSpace left with
        | [] => refuse .unfinishedObject []
        | c :: r₁ => if c = byte '\x7d' then return (x, r₁) else refuse .noValue (c :: r₁)
    else refuse .noValue r

end Reader

/-! ### Codecs -/

/-- A way to write the values of a type and to read them, with arrays and objects nested in each
other up to a number of levels. -/
structure Codec (α : Type) where
  encode : α → Value
  read : (levels : Nat) → Reader α

namespace Codec

/-- Any value. -/
def any : Codec Value := ⟨id, Reader.value⟩

/-- Strings. -/
def text : Codec String := ⟨.string, fun _ => Reader.stringAs "a string"⟩

/-- A value or `null`. -/
def optional {α : Type} (codec : Codec α) : Codec (Option α) where
  encode
    | none => .null
    | some x => codec.encode x
  read levels bytes :=
    match Reader.skipSpace bytes with
    | b :: r =>
      if b = Reader.byte 'n' then (Reader.word ['u', 'l', 'l'] r).map fun left => (none, left)
      else (codec.read levels bytes).map fun (x, left) => (some x, left)
    | [] => (codec.read levels bytes).map fun (x, left) => (some x, left)

/-- Arrays of values of one type. -/
def list {α : Type} (codec : Codec α) : Codec (List α) where
  encode xs := .array (xs.map codec.encode)
  read levels bytes :=
    match Reader.skipSpace bytes with
    | [] => Reader.refuse .unfinishedValue []
    | b :: r =>
      if b = Reader.byte '[' then
        match levels with
        | 0 => Reader.refuse .tooDeep r
        | inner + 1 => Reader.items (codec.read inner) (r.length + 1) true r
      else Reader.refuseKind "a sequence" b r

/-- The words of an enumeration. -/
def words {α : Type} (word : α → String) (all : List α) : Codec α where
  encode x := .string (word x)
  read := Reader.oneWord (all.map fun x => (word x, x))

/-- The JSON text of a value. -/
def write {α : Type} (codec : Codec α) (x : α) : String := (codec.encode x).text

/-- The value that some bytes are the JSON text of. -/
def parseBytes {α : Type} (codec : Codec α) (bytes : List UInt8) : Except Fault α :=
  Reader.whole (codec.read Value.maxLevels) bytes

/-- The value that a text is the JSON text of. -/
def parse {α : Type} (codec : Codec α) (text : String) : Except Fault α :=
  codec.parseBytes (Text.Utf8.encode text)

end Codec

end Switchboard.Json
