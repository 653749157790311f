import Switchboard.Proofs.Alias.Listings
import Switchboard.Proofs.Json.Outcomes
import Switchboard.Proofs.Json.Rereading

/-!
# Two ways to read an alias

An alias can be read by the description of its fields (`Definition.codec`), which refuses an object
with a field of the wrong kind, or as an entry of a listing (`Definition.ofEntry?`), which makes do with
what is there. Both are functions of the value; the strict one is so by what is known of codecs
(`Definition.strict?`). So they can be compared field by field. What the strict reader accepts, the
lenient one reads as the same alias. What only the lenient one accepts are the objects with a name in
which the description or the formats are of the wrong kind.

A listing is read from a text. Here it is the text that is written for an array of objects which were
read themselves, as when the entries of a listing are taken apart and put together again. A number
may be read as another number then (`Value.reread`), but no field of an alias is a number.

## Main results

* `Definition.toOption_parse_text`: what the strict reader makes of the text of an object.
* `Listing.decode_text`: what is read as a listing from the text of an array.
* `Listing.decode_extends`: the lenient reader extends the strict one.
-/

namespace Switchboard

open Json (Members Value)

/-! ### Fields of some kind -/

namespace Json.Value

variable {α : Type} {result : Value → Option α}

/-- All items are strings exactly if they are the values of some texts. -/
theorem mapM_string?_eq_some_iff {items : List Value} {texts : List String} :
    items.mapM string? = some texts ↔ items = texts.map .string := by
  induction items generalizing texts with
  | nil => simp [eq_comm]
  | cons item items ih =>
      simp only [List.mapM_cons, Option.bind_eq_bind, Option.bind_eq_some_iff,
        string?_eq_some_iff, ih]
      constructor
      · rintro ⟨text, rfl, rest, rfl, htexts⟩
        obtain rfl := Option.some.inj htexts
        rfl
      · intro h
        obtain ⟨text, rest, rfl, rfl, rfl⟩ := List.map_eq_cons_iff.mp h.symm
        exact ⟨text, rfl, rest, rfl, rfl⟩

/-- When an optional string is decoded: null stands for none. -/
theorem optional?_string?_eq_some_iff {v : Value} {o : Option String} :
    v.optional? string? = some o ↔
      (v = .null ∧ o = none) ∨ ∃ text, v = .string text ∧ o = some text := by
  cases v <;> simp [optional?, string?, eq_comm]

/-- When an optional string is refused. -/
theorem optional?_string?_eq_none_iff {v : Value} :
    v.optional? string? = none ↔ v ≠ .null ∧ ∀ text, v ≠ .string text := by
  cases v <;> simp [optional?, string?]

/-- When a list of strings is decoded. -/
theorem list?_string?_eq_some_iff {v : Value} {texts : List String} :
    v.list? string? = some texts ↔ v = .array (texts.map .string) := by
  cases v <;> simp [list?, mapM_string?_eq_some_iff]

/-- When a list of strings is refused. -/
theorem list?_string?_eq_none_iff {v : Value} :
    v.list? string? = none ↔ ∀ texts : List String, v ≠ .array (texts.map .string) := by
  simp only [Option.eq_none_iff_forall_ne_some, ne_eq, list?_string?_eq_some_iff]

/-- Reading an optional value again changes nothing that its decoder sees. -/
theorem optional?_reread (h : ∀ v, result v.reread = result v) (v : Value) :
    v.reread.optional? result = v.optional? result := by
  by_cases hnull : v = .null
  · rw [hnull, reread]
  · have hreread : v.reread ≠ .null := by
      cases v <;> simp [reread] at hnull ⊢
    rw [optional?_of_ne_null hnull, optional?_of_ne_null hreread, h v]

/-- Reading a list again changes nothing that the decoder of its items sees. -/
theorem list?_reread (h : ∀ v, result v.reread = result v) (v : Value) :
    v.reread.list? result = v.list? result := by
  cases v with
  | array items =>
      rw [reread, rereadItems_eq, list?, list?, List.mapM_map]
      exact congrArg (List.mapM · items) (funext h)
  | _ => rw [reread] <;> rfl

end Json.Value

namespace Alias

namespace Definition

/-- The alias that an object is by the description of its fields. -/
def strict? (entry : Value) : Option Definition := do
  let name ← (entry.get? "name").bind Value.string?
  let description ← (entry.get? "description").elim (some none) (Value.optional? Value.string?)
  let formats ← (entry.get? "formats").elim (some []) (Value.list? Value.string?)
  return ⟨name, description, formats⟩

/-- **The strict reader** is a function of values. -/
theorem codec_makes (members : Members) :
    codec.Makes (.object members) (strict? (.object members)) := by
  have hdecide : record.fields.Decide
      (Value.string?, Value.optional? Value.string?, Value.list? Value.string?, ()) :=
    ⟨Json.Codec.text_decides, Json.Codec.optional_decides Json.Codec.text_decides,
      Json.Codec.list_decides Json.Codec.text_decides, trivial⟩
  have hsame : (record.fields.ofMembers members
      (Value.string?, Value.optional? Value.string?, Value.list? Value.string?, ())).map
        record.make = strict? (.object members) := by
    simp only [record, Json.Fields.ofMembers, strict?, Value.get?]
    cases members.get? "name" with
    | none => rfl
    | some name =>
        rw [Option.elim_some, Option.bind_some]
        cases name.string? <;>
          cases (members.get? "description").elim (some none) (Value.optional? Value.string?) <;>
          cases (members.get? "formats").elim (some []) (Value.list? Value.string?) <;> rfl
  exact hsame ▸ Json.Record.codec_makes (by decide) hdecide members

/-- **The strict decoder**, field by field: the name must be a string, and the other two fields must
be left out or of their type. -/
theorem strict?_eq_some_iff {entry : Value} {definition : Definition} :
    strict? entry = some definition ↔
      entry.get? "name" = some (.string definition.name) ∧
        (entry.get? "description").elim (some none) (Value.optional? Value.string?) =
          some definition.description ∧
        (entry.get? "formats").elim (some []) (Value.list? Value.string?) =
          some definition.formats := by
  simp only [strict?, Option.bind_eq_bind, Option.bind_eq_some_iff, Value.string?_eq_some_iff]
  constructor
  · rintro ⟨name, ⟨v, hname, rfl⟩, description, hdescription, formats, hformats, hall⟩
    obtain rfl := Option.some.inj hall
    exact ⟨hname, hdescription, hformats⟩
  · rintro ⟨hname, hdescription, hformats⟩
    exact ⟨_, ⟨_, hname, rfl⟩, _, hdescription, _, hformats, rfl⟩

/-- Strings are read again as they are. -/
theorem bind_string?_reread (entry : Value) (key : String) :
    (entry.reread.get? key).bind Value.string? = (entry.get? key).bind Value.string? := by
  rw [Value.get?_reread, Option.bind_map]
  exact congrArg _ (funext Value.string?_reread)

/-- The strict decoder sees no difference between an entry and the entry that is read again. -/
theorem strict?_reread (entry : Value) : strict? entry.reread = strict? entry := by
  have hdescription : Value.optional? Value.string? ∘ Value.reread = Value.optional? Value.string? :=
    funext (Value.optional?_reread Value.string?_reread)
  have hformats : Value.list? Value.string? ∘ Value.reread = Value.list? Value.string? :=
    funext (Value.list?_reread Value.string?_reread)
  rw [strict?, strict?, bind_string?_reread, Value.get?_reread, Value.get?_reread,
    Option.elim_map, Option.elim_map, hdescription, hformats]

/-! ### The lenient reader -/

/-- The formats that the lenient reader takes from a member: the strings, if it is an array. -/
def keptFormats (member : Option Value) : List String :=
  match member with
  | some (.array items) => items.filterMap Value.string?
  | _ => []

/-- **The lenient decoder**, field by field: only the name decides whether there is a definition. -/
theorem ofEntry?_eq (entry : Value) :
    ofEntry? entry = ((entry.get? "name").bind Value.string?).map fun name =>
      ⟨name, (entry.get? "description").bind Value.string?, keptFormats (entry.get? "formats")⟩ := by
  unfold ofEntry?
  cases entry.get? "name" with
  | none => rfl
  | some v => cases v <;> rfl

/-- The lenient decoder takes every entry with a string for its name. -/
theorem exists_ofEntry?_iff (entry : Value) :
    (∃ definition, ofEntry? entry = some definition) ↔
      ∃ name, entry.get? "name" = some (.string name) := by
  simp [ofEntry?_eq, Option.bind_eq_some_iff, Value.string?_eq_some_iff]

/-- The lenient decoder sees no difference between an entry and the entry that is read again. -/
theorem ofEntry?_reread (entry : Value) : ofEntry? entry.reread = ofEntry? entry := by
  have hformats (member : Option Value) :
      keptFormats (member.map Value.reread) = keptFormats member := by
    cases member with
    | none => rfl
    | some v =>
        cases v with
        | array items =>
            rw [Option.map_some, Value.reread, Value.rereadItems_eq, keptFormats,
              List.filterMap_map, keptFormats]
            exact congrArg (List.filterMap · items) (funext Value.string?_reread)
        | _ => rw [Option.map_some, Value.reread] <;> rfl
  rw [ofEntry?_eq, ofEntry?_eq, bind_string?_reread, bind_string?_reread, Value.get?_reread,
    hformats]

/-- **What is accepted strictly** is read leniently as the same alias. -/
theorem ofEntry?_of_strict? {entry : Value} {definition : Definition}
    (h : strict? entry = some definition) : ofEntry? entry = some definition := by
  obtain ⟨hname, hdescription, hformats⟩ := strict?_eq_some_iff.mp h
  have hsame : (entry.get? "description").bind Value.string? = definition.description := by
    cases hmember : entry.get? "description" with
    | none =>
        rw [hmember] at hdescription
        exact Option.some.inj hdescription
    | some v =>
        rw [hmember] at hdescription
        obtain ⟨rfl, hnone⟩ | ⟨text, rfl, htext⟩ :=
          Value.optional?_string?_eq_some_iff.mp hdescription
        · exact hnone.symm
        · exact htext.symm
  have hkept : keptFormats (entry.get? "formats") = definition.formats := by
    cases hmember : entry.get? "formats" with
    | none =>
        rw [hmember] at hformats
        exact Option.some.inj hformats
    | some v =>
        rw [hmember] at hformats
        obtain rfl := Value.list?_string?_eq_some_iff.mp hformats
        rw [keptFormats, List.filterMap_map]
        exact List.filterMap_some
  rw [ofEntry?_eq, hname, hsame, hkept]
  rfl

/-- An object with a name is refused strictly only for its description or its formats. -/
theorem strict?_eq_none_iff {entry : Value} {name : String}
    (hname : entry.get? "name" = some (.string name)) :
    strict? entry = none ↔
      (∃ v, entry.get? "description" = some v ∧ v ≠ .null ∧ ∀ text, v ≠ .string text) ∨
        ∃ v, entry.get? "formats" = some v ∧ ∀ texts : List String, v ≠ .array (texts.map .string) := by
  have hdescription :
      (entry.get? "description").elim (some none) (Value.optional? Value.string?) = none ↔
        ∃ v, entry.get? "description" = some v ∧ v ≠ .null ∧ ∀ text, v ≠ .string text := by
    cases entry.get? "description" with
    | none => simp
    | some v => simp [Value.optional?_string?_eq_none_iff]
  have hformats : (entry.get? "formats").elim (some []) (Value.list? Value.string?) = none ↔
      ∃ v, entry.get? "formats" = some v ∧
        ∀ texts : List String, v ≠ .array (texts.map .string) := by
    cases entry.get? "formats" with
    | none => simp
    | some v => simp [Value.list?_string?_eq_none_iff]
  rw [← hdescription, ← hformats, strict?, hname]
  cases (entry.get? "description").elim (some none) (Value.optional? Value.string?) <;>
    cases (entry.get? "formats").elim (some []) (Value.list? Value.string?) <;>
    simp [Value.string?]

/-! ### Texts of entries -/

/-- An object that was read from a text, and can be an item of an array that is read. -/
structure IsEntry (entry : Value) : Prop where
  object : ∃ members, entry = .object members
  parsed : ∃ text, Value.parse text = .ok entry
  shallow : entry.depth < Value.maxLevels

/-- An object within the limit of nesting is an entry. -/
theorem IsEntry.of_fits {members : Members} (h : Json.Fits Value.maxLevels (.object members))
    (hdepth : (Value.object members).depth < Value.maxLevels) : IsEntry (.object members) :=
  ⟨⟨members, rfl⟩, ⟨_, Value.parse_text h⟩, hdepth⟩

/-- From the text of an entry, the entry is read up to its numbers. -/
theorem IsEntry.isStrictText {entry : Value} (h : IsEntry entry) {levels : Nat}
    (hdepth : entry.depth ≤ levels) :
    Json.IsStrictText levels entry.reread (Text.Utf8.encodeChars entry.chars) := by
  obtain ⟨text, htext⟩ := h.parsed
  obtain ⟨_, _, _, _, hmiddle, _⟩ := Value.parse_eq_ok_iff.mp htext
  exact Json.isStrictText_reread hmiddle hdepth

/-- **The strict reader** makes of the text of an entry what it makes of the entry. -/
theorem toOption_parse_text {entry : Value} (h : IsEntry entry) :
    (codec.parse entry.text).toOption = strict? entry := by
  obtain ⟨members, hmembers⟩ : ∃ members, entry.reread = .object members := by
    obtain ⟨members, rfl⟩ := h.object
    exact ⟨Value.rereadMembers members, by rw [Value.reread]⟩
  have hmakes : codec.Makes entry.reread (strict? entry.reread) := hmembers ▸ codec_makes members
  have hbytes := Json.spaced_self (h.isStrictText h.shallow.le)
  rw [Json.Codec.parse, Value.text, Text.Utf8.encode, String.toList_ofList,
    Json.Codec.toOption_parseBytes hmakes hbytes, strict?_reread]

/-- What the strict decoder reads from the text of an entry, the lenient one takes from the
entry. -/
theorem ofEntry?_of_parse_text {entry : Value} {definition : Definition} (h : IsEntry entry)
    (hparse : codec.parse entry.text = .ok definition) : ofEntry? entry = some definition := by
  rw [← toOption_eq_some_iff, toOption_parse_text h] at hparse
  exact ofEntry?_of_strict? hparse

/-- The text of an entry is refused exactly if the strict decoder refuses the entry. -/
theorem not_exists_parse_text_iff {entry : Value} (h : IsEntry entry) :
    (¬ ∃ definition, codec.parse entry.text = .ok definition) ↔ strict? entry = none := by
  simp only [← toOption_eq_some_iff, toOption_parse_text h, not_exists,
    Option.eq_none_iff_forall_ne_some, ne_eq]

end Definition

namespace Listing

open Definition (IsEntry)

variable {entries : List Value}

/-- **A listing** is read entry by entry from the text of an array. -/
theorem decode_text (h : ∀ entry ∈ entries, IsEntry entry) :
    decode (Value.array entries).text = .ok (entries.filterMap Definition.ofEntry?) := by
  have hitems : ∀ entry ∈ entries,
      Json.IsStrictText 126 entry.reread (Text.Utf8.encodeChars entry.chars) :=
    fun entry hentry => (h entry hentry).isStrictText (Nat.le_of_lt_succ (h entry hentry).shallow)
  have hdocument : Json.IsDocument Value.maxLevels (.array (entries.map Value.reread))
      (Text.Utf8.encode (Value.array entries).text) := by
    rw [Text.Utf8.encode, Value.text, String.toList_ofList, ← Value.rereadItems_eq,
      ← Value.reread]
    exact Json.spaced_self (Json.isStrictText_reread_array hitems).isText
  rw [decode_of_isDocument hdocument, List.filterMap_map]
  exact congrArg (Except.ok <| List.filterMap · entries) (funext Definition.ofEntry?_reread)

/-- A listing that the strict decoder reads entry by entry is the listing of the lenient one. -/
theorem filterMap_ofEntry?_of_forall₂ {listing : List Definition}
    (h : ∀ entry ∈ entries, IsEntry entry)
    (hlisting : List.Forall₂ (fun entry definition =>
      Definition.codec.parse entry.text = .ok definition) entries listing) :
    entries.filterMap Definition.ofEntry? = listing := by
  induction hlisting with
  | nil => rfl
  | cons hparse _ ih =>
      rw [List.forall_mem_cons] at h
      rw [List.filterMap_cons_some (Definition.ofEntry?_of_parse_text h.1 hparse), ih h.2]

/-- **The lenient reader extends the strict one.** Of every array of entries:

* if the strict reader accepts all of them, the array is read as the listing of just these aliases, in
  their order;
* whatever the strict reader makes of them, the array is read entry by entry;
* the entries that only the lenient reader accepts are those with a string as their name in which the
  description is there and neither `null` nor a string, or the formats are there and no array of
  strings. -/
theorem decode_extends (h : ∀ entry ∈ entries, IsEntry entry) :
    (∀ listing, List.Forall₂ (fun entry definition =>
        Definition.codec.parse entry.text = .ok definition) entries listing →
      decode (Value.array entries).text = .ok listing) ∧
    decode (Value.array entries).text = .ok (entries.filterMap Definition.ofEntry?) ∧
    ∀ entry ∈ entries,
      ((∃ definition, Definition.ofEntry? entry = some definition) ∧
          ¬ ∃ definition, Definition.codec.parse entry.text = .ok definition) ↔
        (∃ name, entry.get? "name" = some (.string name)) ∧
          ((∃ v, entry.get? "description" = some v ∧ v ≠ .null ∧ ∀ text, v ≠ .string text) ∨
            ∃ v, entry.get? "formats" = some v ∧
              ∀ texts : List String, v ≠ .array (texts.map .string)) := by
  refine ⟨fun listing hlisting => ?_, decode_text h, fun entry hentry => ?_⟩
  · rw [decode_text h, filterMap_ofEntry?_of_forall₂ h hlisting]
  · rw [Definition.exists_ofEntry?_iff, Definition.not_exists_parse_text_iff (h entry hentry)]
    refine and_congr_right fun hname => ?_
    obtain ⟨name, hname⟩ := hname
    exact Definition.strict?_eq_none_iff hname

/-- An alias that both readers accept. Its weight is no field of an alias. -/
def deployEntry : Value :=
  .object [("weight", .number (.double 0x3FF8000000000000)), ("name", .string "deploy"),
    ("description", .null)]

/-- An alias that only the lenient reader accepts. -/
def restartEntry : Value :=
  .object [("name", .string "restart"), ("description", .bool true),
    ("formats", .array [.string "restart", .null])]

/-- The entry of the example that both decoders take. -/
theorem isEntry_deployEntry : IsEntry deployEntry := by
  have hweight : Json.IsNumberText (.double 0x3FF8000000000000)
      (Text.Utf8.encodeChars (Json.Number.double 0x3FF8000000000000).text) := by
    have hbytes : Text.Utf8.encodeChars (Json.Number.double 0x3FF8000000000000).text =
        [Json.Reader.byte '1', Json.Reader.byte '.', Json.Reader.byte '5'] := by decide
    rw [hbytes]
    exact .inr ⟨_, _, rfl, by decide, toOption_eq_some_iff.mp (by decide +kernel)⟩
  have hfits : Json.Fits (126 + 1) deployEntry := by
    simp [deployEntry, Json.Fits, hweight]
  exact .of_fits hfits (by decide)

/-- The entry of the example that only the lenient decoder takes. -/
theorem isEntry_restartEntry : IsEntry restartEntry := by
  have hfits : Json.Fits (125 + 1 + 1) restartEntry := by
    simp [restartEntry, Json.Fits]
  exact .of_fits hfits (by decide)

/-- The two of them in one array, and the first one alone. -/
theorem decode_extends_deploy :
    (∀ entry ∈ [deployEntry, restartEntry], IsEntry entry) ∧
      decode (Value.array [deployEntry, restartEntry]).text =
        .ok [⟨"deploy", none, []⟩, ⟨"restart", none, ["restart"]⟩] ∧
      Definition.codec.parse deployEntry.text = .ok ⟨"deploy", none, []⟩ ∧
      decode (Value.array [deployEntry]).text = .ok [⟨"deploy", none, []⟩] ∧
      ¬ ∃ definition, Definition.codec.parse restartEntry.text = .ok definition := by
  have hentries : ∀ entry ∈ [deployEntry, restartEntry], IsEntry entry := by
    simp [isEntry_deployEntry, isEntry_restartEntry]
  have hdeploy : Definition.codec.parse deployEntry.text = .ok ⟨"deploy", none, []⟩ :=
    toOption_eq_some_iff.mp (Definition.toOption_parse_text isEntry_deployEntry)
  have hsingle : ∀ entry ∈ [deployEntry], IsEntry entry := by simp [isEntry_deployEntry]
  obtain ⟨-, hboth, honly⟩ := decode_extends hentries
  refine ⟨hentries, hboth, hdeploy, (decode_extends hsingle).1 _ (.cons hdeploy .nil), ?_⟩
  have hrestart := honly restartEntry (by simp)
  exact (hrestart.mpr ⟨⟨"restart", rfl⟩, .inl ⟨.bool true, rfl, by simp, by simp⟩⟩).2

end Listing

end Alias

end Switchboard
