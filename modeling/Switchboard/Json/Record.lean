import Switchboard.Json.Codec

/-!
# Records as JSON objects

A record type is described by its fields: keys, codecs, and what an absent field means. From the
description come a writer, which keeps the order of the fields, and a reader for objects and arrays.

The fields of a record are a nested pair, indexed by the list of their types, and the values read so
far are the same nested pair of optional values.
-/

namespace Switchboard.Json

/-- A field of a record. -/
structure Field (α : Type) where
  key : String
  codec : Codec α
  /-- The value of the field in an object without it. -/
  absent : Option α := none
  /-- The value of the field in an array that ends before it. -/
  beyond : Option α := absent
  /-- Whether the field is left out when a value is written. -/
  omitted : α → Bool := fun _ => false

/-- Nested pairs of one entry per type. -/
@[reducible] def Row (f : Type → Type) : List Type → Type
  | [] => Unit
  | α :: rest => f α × Row f rest

/-- The fields of a record. -/
abbrev Fields := Row Field

/-- The values read so far. -/
abbrev Slots := Row Option

/-- The values of all fields. -/
abbrev Values := Row id

namespace Fields

/-- No values. -/
def noSlots : (types : List Type) → Slots types
  | [] => ()
  | _ :: rest => (none, noSlots rest)

/-- The members that the values of a record are written as. -/
def encode : {types : List Type} → Fields types → Values types → List (String × Value)
  | [], _, _ => []
  | _ :: _, (field, fields), (x, values) =>
    if field.omitted x then encode fields values
    else (field.key, field.codec.encode x) :: encode fields values

/-- Reads the value of the field with the given key, which must not have been read before. Nothing
for a key of no field. -/
def member (levels : Nat) (key : String) :
    {types : List Type} → Fields types → Slots types → Option (Reader (Slots types))
  | [], _, _ => none
  | _ :: _, (field, fields), (slot, slots) =>
    if field.key = key then
      some fun bytes =>
        if slot.isSome then Reader.refuse (.duplicateField key) bytes
        else do
          let (x, left) ← field.codec.read levels (← Reader.colon bytes)
          return ((some x, slots), left)
    else
      (member levels key fields slots).map fun reader bytes =>
        (reader bytes).map fun (slots, left) => ((slot, slots), left)

/-- Reads the value of the member with the given key, and skips it if it belongs to no field. -/
def memberOrSkip {types : List Type} (fields : Fields types) (levels : Nat) (key : String)
    (slots : Slots types) : Reader (Slots types) :=
  match fields.member levels key slots with
  | some reader => reader
  | none => fun bytes => do
    let left ← Reader.skip (← Reader.colon bytes)
    return (slots, left)

/-- The values of all fields, absent ones by their default. -/
def complete : {types : List Type} → Fields types → Slots types → Except Cause (Values types)
  | [], _, _ => .ok ()
  | _ :: _, (field, fields), (slot, slots) =>
    match slot.or field.absent with
    | none => .error (.missingField field.key)
    | some x => (complete fields slots).map fun values => (x, values)

/-- Reads the values of the fields from the items of an array, of which `count` were read; `ended`
tells that the array has ended. -/
def ofItems (expected : String) (levels : Nat) :
    {types : List Type} → Fields types → (count : Nat) → (ended : Bool) → Reader (Values types)
  | [], _, _, true, bytes => .ok ((), bytes)
  | [], _, _, false, bytes =>
    match Reader.skipSpace bytes with
    | [] => Reader.refuse .unfinishedArray []
    | b :: r =>
      if b = Reader.byte ']' then .ok ((), r)
      else if b = Reader.byte ',' then
        match Reader.skipSpace r with
        | c :: r₁ =>
          if c = Reader.byte ']' then Reader.refuse .trailingComma r₁
          else Reader.refuse .trailingCharacters r₁
        | [] => Reader.refuse .trailingCharacters []
      else Reader.refuse .trailingCharacters r
  | _ :: _, (field, fields), count, true, bytes =>
    match field.beyond with
    | none => Reader.refuse (.tooShort count expected) bytes
    | some x => (ofItems expected levels fields count true bytes).map fun (values, left) =>
        ((x, values), left)
  | _ :: _, (field, fields), count, false, bytes =>
    let ends (left : List UInt8) : Except Fault (Values _ × List UInt8) :=
      match field.beyond with
      | none => Reader.refuse (.tooShort count expected) left
      | some x => (ofItems expected levels fields count true left).map fun (values, left) =>
          ((x, values), left)
    let reads (bytes : List UInt8) : Except Fault (Values _ × List UInt8) := do
      let (x, left) ← field.codec.read levels bytes
      let (values, left) ← ofItems expected levels fields (count + 1) false left
      return ((x, values), left)
    match Reader.skipSpace bytes with
    | [] => Reader.refuse .unfinishedArray []
    | b :: r =>
      if b = Reader.byte ']' then ends r
      else if count = 0 then reads (b :: r)
      else if b = Reader.byte ',' then
        match Reader.skipSpace r with
        | [] => Reader.refuse .unfinishedValue []
        | c :: r₁ => if c = Reader.byte ']' then Reader.refuse .trailingComma r₁ else reads (c :: r₁)
      else Reader.refuse .missingCommaInArray r

end Fields

/-- A record type: its name, its fields, and the passage between its values and their parts. -/
structure Record (α : Type) where
  name : String
  types : List Type
  fields : Fields types
  parts : α → Values types
  make : Values types → α

namespace Record

/-- What is expected in place of a record, in words. -/
def expected {α : Type} (record : Record α) : String := "struct " ++ record.name

/-- What is expected in place of an array that is too short, in words. -/
def expectedLength {α : Type} (record : Record α) : String :=
  let n := record.types.length
  record.expected ++ " with " ++ toString n ++ if n = 1 then " element" else " elements"

/-- Reads a record from behind the opening bracket of an object. -/
def ofObject {α : Type} (record : Record α) (levels : Nat) : Reader α := fun bytes => do
  let (slots, left) ← Reader.members (record.fields.memberOrSkip levels) (bytes.length + 1) true
    (Fields.noSlots record.types) bytes
  match record.fields.complete slots with
  | .ok values => return (record.make values, left)
  | .error cause => Reader.refuse cause left

/-- Reads a record from behind the opening bracket of an array. -/
def ofArray {α : Type} (record : Record α) (levels : Nat) : Reader α := fun bytes =>
  (record.fields.ofItems record.expectedLength levels 0 false bytes).map fun (values, left) =>
    (record.make values, left)

/-- The codec of a record type. -/
def codec {α : Type} (record : Record α) : Codec α where
  encode x := .object (record.fields.encode (record.parts x))
  read levels bytes :=
    match Reader.skipSpace bytes with
    | [] => Reader.refuse .unfinishedValue []
    | b :: r =>
      if b = Reader.byte '[' then
        match levels with
        | 0 => Reader.refuse .tooDeep r
        | inner + 1 => record.ofArray inner r
      else if b = Reader.byte '\x7b' then
        match levels with
        | 0 => Reader.refuse .tooDeep r
        | inner + 1 => record.ofObject inner r
      else Reader.refuseKind record.expected b r

end Record

end Switchboard.Json
