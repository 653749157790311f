import Switchboard.Alias.Definition
import Switchboard.Proofs.Json.Writing

/-!
# Written listings

A listing is read field by field, by rules of its own, and not by the description of the fields from
which aliases are written. The two meet in the value that stands for an alias: a description that
there is none of is left out and read as absent, and what stands among the formats are strings, none
of which is dropped. The rest is the round trip of JSON texts.

## Main results

* `Definition.ofEntry?_encode`: an entry of a listing is read back.
* `Listing.decode_of_isDocument_encode`: so is a listing, from every text of it.
* `Listing.decode_write_listing`: so is a listing as it is written.
-/

namespace Switchboard.Alias

open Json (Value)

namespace Definition

/-- The description of an alias as a member, if there is one. -/
def descriptionMember (definition : Definition) : Json.Members :=
  (definition.description.map fun text => ("description", Value.string text)).toList

/-- The members that an alias is written as. -/
def members (definition : Definition) : Json.Members :=
  ("name", .string definition.name) ::
    (definition.descriptionMember ++ [("formats", .array (definition.formats.map .string))])

/-- A definition is written as an object of its members. -/
theorem encode_eq (definition : Definition) :
    codec.encode definition = .object definition.members := by
  obtain ⟨name, description, formats⟩ := definition
  cases description <;> rfl

/-- An alias is written without repeated keys, and its formats are nested in it. -/
theorem fits_encode (definition : Definition) (levels : Nat) :
    Json.Fits (levels + 2) (codec.encode definition) := by
  obtain ⟨name, description, formats⟩ := definition
  rw [encode_eq, Json.Fits]
  cases description <;> simp [members, descriptionMember, Json.Fits]

/-- **Entries** are read back: a string is taken as it is, and the description is absent exactly
when there is none. -/
theorem ofEntry?_encode (definition : Definition) :
    ofEntry? (codec.encode definition) = some definition := by
  obtain ⟨name, description, formats⟩ := definition
  have hentry : ofEntry? (codec.encode ⟨name, description, formats⟩) =
      some ⟨name, description, (formats.map Value.string).filterMap Value.string?⟩ := by
    cases description <;> rfl
  have hstrings : (formats.map Value.string).filterMap Value.string? = formats := by
    rw [List.filterMap_map]
    exact List.filterMap_some
  rw [hentry, hstrings]

end Definition

namespace Listing

/-- Listings as JSON arrays. -/
def codec : Json.Codec (List Definition) := .list Definition.codec

/-- A listing is written as an array of its definitions. -/
theorem encode_eq (listing : List Definition) :
    codec.encode listing = .array (listing.map Definition.codec.encode) := rfl

/-- A listing is nested no deeper than the reader goes. -/
theorem fits_encode (listing : List Definition) :
    Json.Fits Value.maxLevels (codec.encode listing) := by
  change Json.Fits (124 + 2 + 1) (.array (listing.map Definition.codec.encode))
  rw [Json.Fits]
  intro entry hentry
  obtain ⟨definition, -, rfl⟩ := List.mem_map.mp hentry
  exact definition.fits_encode 124

/-- A document of an array is a listing. -/
theorem decode_of_isDocument {entries : List Value} {text : String}
    (h : Json.IsDocument Value.maxLevels (.array entries) (Text.Utf8.encode text)) :
    decode text = .ok (entries.filterMap Definition.ofEntry?) := by
  rw [decode, Value.parse, Value.parseBytes_of_isDocument h]

/-- A listing is read from every text of the array that it is written as. -/
theorem decode_of_isDocument_encode {listing : List Definition} {text : String}
    (h : Json.IsDocument Value.maxLevels (codec.encode listing) (Text.Utf8.encode text)) :
    decode text = .ok listing := by
  have hentries : Definition.ofEntry? ∘ Definition.codec.encode = some := by
    funext definition
    exact definition.ofEntry?_encode
  rw [decode_of_isDocument (encode_eq listing ▸ h), List.filterMap_map, hentries,
    List.filterMap_some]

/-- **Written listings** are read back: no alias is lost, added or moved, and all of its texts are
as they were, whatever characters they hold. -/
theorem decode_write_listing (listing : List Definition) :
    decode (codec.write listing) = .ok listing :=
  decode_of_isDocument_encode (Json.isDocument_text (fits_encode listing))

end Listing

end Switchboard.Alias
