import Switchboard.Json.Record
import Switchboard.Text.Blank

/-!
# Aliases and their listing

An alias is a named command with the formats in which users may type it. The automation service
lists all aliases as a JSON array.

The listing is read leniently, field by field, so that one bad entry cannot hide the rest: an entry
that is no object with a string as its name is passed over, a description that is no string counts
as absent, and what is not a string among the formats is dropped.
-/

namespace Switchboard.Alias

/-- A named command with the formats that invoke it. -/
structure Definition where
  name : String
  description : Option String := none
  formats : List String := []
  deriving DecidableEq, Repr

namespace Definition

/-- The fields of an alias. -/
def record : Json.Record Definition where
  name := "AliasDefinition"
  types := [String, Option String, List String]
  fields :=
    ({ key := "name", codec := .text },
      { key := "description", codec := .optional .text, absent := some none,
        omitted := Option.isNone },
      { key := "formats", codec := .list .text, absent := some [] }, ())
  parts definition := (definition.name, definition.description, definition.formats, ())
  make := fun (name, description, formats, _) => ⟨name, description, formats⟩

/-- Aliases as JSON objects. -/
def codec : Json.Codec Definition := record.codec

/-- Why an alias cannot be registered. -/
inductive Invalid
  | emptyName
  | noFormats (name : String)
  deriving DecidableEq, Repr

/-- The reason in words. -/
def Invalid.message : Invalid → String
  | emptyName => "alias name must not be empty"
  | noFormats name => "no formats specified for alias '" ++ name ++ "'"

/-- Checks that an alias has a name that is not blank, and at least one format. -/
def validate (definition : Definition) : Except Invalid Unit :=
  if Text.isBlankText definition.name then .error .emptyName
  else if definition.formats.isEmpty then .error (.noFormats definition.name)
  else .ok ()

/-- Reads an entry of a listing. -/
def ofEntry? (entry : Json.Value) : Option Definition :=
  match entry.get? "name" with
  | some (.string name) =>
    some
      { name
        description := (entry.get? "description").bind Json.Value.string?
        formats :=
          match entry.get? "formats" with
          | some (.array items) => items.filterMap Json.Value.string?
          | _ => [] }
  | _ => none

end Definition

namespace Listing

/-- Why a text is no listing. -/
inductive Fault
  /-- The text is no JSON. -/
  | malformed (reason : String)
  /-- The text is JSON and no array; the beginning of the text is shown. -/
  | unexpected (shown : String)
  deriving DecidableEq, Repr

/-- The fault in words. -/
def Fault.message : Fault → String
  | malformed reason => "alias listing is not valid JSON: " ++ reason
  | unexpected shown => "alias listing must be a JSON array, got: " ++ shown

/-- How many characters of a text a fault shows. -/
def excerptLimit : Nat := 200

/-- The beginning of a text, without white space around it. -/
def excerpt (text : String) : String :=
  let cs := Text.Blank.trim text.toList
  if cs.length ≤ excerptLimit then String.ofList cs
  else String.ofList (cs.take excerptLimit ++ ['.', '.', '.'])

/-- Reads a listing. -/
def decode (text : String) : Except Fault (List Definition) :=
  match Json.Value.parse text with
  | .error fault => .error (.malformed (fault.message (Text.Utf8.encode text)))
  | .ok (.array entries) => .ok (entries.filterMap Definition.ofEntry?)
  | .ok _ => .error (.unexpected (excerpt text))

end Listing

end Switchboard.Alias
