import Switchboard.Proofs.Json.Records

/-!
# What codecs make of any value

`Codec.ReadsAs` tells what a codec reads. Here it is told too what it refuses: `codec.Makes v o` says
that on every strict text of the value `v` the codec comes to `o`, a result or nothing. So a codec is
a function of values (`Codec.Decides`), which can be compared with other functions of values.

A record is refused as soon as one of its fields refuses its member, whichever comes first. So what has
been read so far of an object is told by the slots when some members have been read
(`Fields.after`): there are none if one of these members was refused.

## Main results

* `Codec.text_decides`, `Codec.optional_decides`, `Codec.list_decides`: strings, options and arrays.
* `Record.codec_makes`: records, read from objects.
-/

namespace Switchboard.Json

open Reader (byte)

namespace Value

variable {α : Type}

/-- The value or `null` that a value is. -/
def optional? (result : Value → Option α) : Value → Option (Option α)
  | .null => some none
  | v => (result v).map some

/-- The list that a value is, if every item is one of its kind. -/
def list? (result : Value → Option α) : Value → Option (List α)
  | .array items => items.mapM result
  | _ => none

/-- A value that is not null must be decoded. -/
theorem optional?_of_ne_null {v : Value} (h : v ≠ .null) (result : Value → Option α) :
    v.optional? result = (result v).map some := by
  cases v with
  | null => exact absurd rfl h
  | _ => rfl

end Value

namespace Reader

variable {α : Type}

/-- What is refused gives nothing. -/
theorem toOption_refuse (cause : Cause) (left : List UInt8) :
    (refuse cause left : Except Fault α).toOption = none := rfl

/-- A value of the wrong kind is refused, whatever it is. -/
theorem toOption_refuseKind (expected : String) (b : UInt8) (r : List UInt8) :
    (refuseKind expected b r : Except Fault (α × List UInt8)).toOption = none := by
  unfold refuseKind
  split_ifs <;> simp only [toOption_bind, toOption_refuse, Option.bind_fun_none]

end Reader

namespace Codec

variable {α : Type} {codec : Codec α} {levels : Nat} {v : Value} {o : Option α}
  {result : Value → Option α}

/-- A codec makes `o` of a value: of every strict text of it, with space in front, and with anything
behind that does not begin with a byte of a number. -/
def Makes (codec : Codec α) (v : Value) (o : Option α) : Prop :=
  ∀ ⦃levels : Nat⦄ ⦃gap bytes rest : List UInt8⦄, IsGap gap → IsStrictText levels v bytes →
    Reader.Ends rest →
      (codec.read levels (gap ++ (bytes ++ rest))).toOption = o.map fun x => (x, rest)

/-- A codec is a function of values. -/
def Decides (codec : Codec α) (result : Value → Option α) : Prop :=
  ∀ v, codec.Makes v (result v)

/-- A codec makes the same of whole documents, with space around them. -/
theorem toOption_parseBytes (h : codec.Makes v o) {bytes : List UInt8}
    (hbytes : Spaced (IsStrictText Value.maxLevels) v bytes) :
    (codec.parseBytes bytes).toOption = o := by
  obtain ⟨before, middle, behind, hbefore, hmiddle, hbehind, rfl⟩ := hbytes
  have hread := h hbefore hmiddle (Reader.ends_gap hbehind)
  rw [← List.append_assoc] at hread
  cases o with
  | none =>
      rw [parseBytes, Reader.whole, toOption_bind, hread]
      rfl
  | some x =>
      rw [parseBytes, Reader.whole_eq_ok (toOption_eq_some_iff.mp hread) hbehind]
      rfl

/-! ### Strings, options and arrays -/

/-- **Strings** are read, and nothing else. -/
theorem text_decides : text.Decides Value.string? := by
  intro v levels gap bytes rest hgap hbytes hrest
  obtain ⟨b, r, rfl, hbegins⟩ := hbytes.isText.beginsWith
  obtain ⟨_, _, heq, hspace, -⟩ := hbytes.isText.starts
  obtain ⟨rfl, rfl⟩ := List.cons.inj heq
  by_cases hquote : b = byte '"'
  · obtain ⟨s, rfl⟩ := (hquote ▸ hbegins).exists_string
    rw [text_readsAs s hgap hbytes hrest]
    rfl
  · have hnone : v.string? = none := by
      cases v with
      | string s => exact absurd hbegins hquote
      | _ => rfl
    change (Reader.stringAs _ _).toOption = _
    rw [List.cons_append, Reader.stringAs, Reader.skipSpace_gap_cons hgap hspace]
    simp only [if_neg hquote, Reader.toOption_refuseKind, hnone, Option.map_none]

/-- **Options** are read as `null` or as the codec reads them. -/
theorem optional_decides (h : codec.Decides result) :
    (optional codec).Decides (Value.optional? result) := by
  intro v levels gap bytes rest hgap hbytes hrest
  by_cases hnull : v = .null
  · subst hnull
    rw [optional_readsAs_null hgap hbytes hrest]
    rfl
  · have hread := h v hgap hbytes hrest
    obtain ⟨b, r, rfl, hspace, -⟩ := hbytes.isText.starts
    have hn : b ≠ byte 'n' := fun heq =>
      hbytes.isText.head_ne_of_ne_null hnull (congrArg some heq)
    rw [List.cons_append] at hread ⊢
    rw [optional_read (Reader.skipSpace_gap_cons hgap hspace (r ++ rest)), if_neg hn,
      toOption_map, hread, Value.optional?_of_ne_null hnull, Option.map_map, Option.map_map]
    rfl

/-- **Arrays** are read if every item is. -/
theorem list_decides (h : codec.Decides result) : (list codec).Decides (Value.list? result) := by
  intro v levels gap bytes rest hgap hbytes _
  obtain ⟨b, r, heq, hbegins⟩ := hbytes.isText.beginsWith
  obtain ⟨_, _, heq', hspace, -⟩ := hbytes.isText.starts
  obtain ⟨rfl, rfl⟩ := List.cons.inj (heq.symm.trans heq')
  by_cases hbracket : b = byte '['
  · obtain ⟨items, rfl⟩ := (hbracket ▸ hbegins).exists_array
    obtain ⟨inner, body, rfl, hbody, rfl⟩ := hbytes.exists_of_array
    have hitem : Judges (codec.read inner) (IsStrictText inner) result :=
      { starts := fun hx => hx.isText.starts
        judges := fun hx hrest => h _ isGap_nil hx hrest }
    have hlength := hbody.length_le (fun _ _ hx => hx.isText.ne_nil) (byte ']' :: rest)
    have hskip := Reader.skipSpace_gap_cons hgap (b := byte '[') (by decide)
      (body ++ byte ']' :: rest)
    rw [List.cons_append, List.append_assoc, List.singleton_append, list_read hskip]
    exact Reader.items_judged hitem hbody hlength
  · have hnone : v.list? result = none := by
      cases v with
      | array items => exact absurd hbegins hbracket
      | _ => rfl
    have hskip := Reader.skipSpace_gap_cons hgap hspace (r ++ rest)
    rw [heq, List.cons_append]
    simp only [list, hskip, if_neg hbracket, Reader.toOption_refuseKind, hnone, Option.map_none]

end Codec

/-! ### Records -/

namespace Fields

/-- A function of values for each field. -/
abbrev Results := Row fun α => Value → Option α

/-- The codecs of the fields are these functions of values. -/
def Decide : {types : List Type} → Fields types → Results types → Prop
  | [], _, _ => True
  | _ :: _, (field, fields), (result, results) =>
    field.codec.Decides result ∧ Decide fields results

/-- The slots when some members have been read too; nothing if one of them is refused. -/
def after (members : Members) : {types : List Type} → Fields types → Results types →
    Slots types → Option (Slots types)
  | [], _, _, _ => some ()
  | _ :: _, (field, fields), (result, results), (slot, slots) => do
    let slot ← match members.get? field.key with
      | none => some slot
      | some v => if slot.isSome then none else (result v).map some
    let slots ← after members fields results slots
    return (slot, slots)

/-- The values that members hold for the fields; nothing if one is refused or missing. -/
def ofMembers (members : Members) : {types : List Type} → Fields types → Results types →
    Option (Values types)
  | [], _, _ => some ()
  | _ :: _, (field, fields), (result, results) => do
    let x ← (members.get? field.key).elim field.absent result
    let values ← ofMembers members fields results
    return (x, values)

variable {types : List Type} {fields : Fields types} {results : Results types} {levels : Nat}
  {members : Members} {key : String} {v : Value}

/-- Without members the slots stay as they are. -/
theorem after_nil (fields : Fields types) (results : Results types) (slots : Slots types) :
    fields.after [] results slots = some slots := by
  induction types with
  | nil => rfl
  | cons α types ih =>
      obtain ⟨field, fields⟩ := fields
      obtain ⟨result, results⟩ := results
      obtain ⟨slot, slots⟩ := slots
      rw [after, Members.get?_nil, ih fields results slots]
      rfl

/-- A key of no field is not looked for. -/
theorem after_cons_of_notMem (hkey : key ∉ fields.keys) (v : Value) (members : Members)
    (slots : Slots types) :
    fields.after ((key, v) :: members) results slots = fields.after members results slots := by
  induction types with
  | nil => rfl
  | cons α types ih =>
      obtain ⟨field, fields⟩ := fields
      obtain ⟨result, results⟩ := results
      obtain ⟨slot, slots⟩ := slots
      rw [keys, List.mem_cons, not_or] at hkey
      rw [after, after, Members.get?_cons, if_neg (Ne.symm hkey.1), ih hkey.2]

/-- **Members** fill the slots one after another. -/
theorem after_cons (hkeys : fields.keys.Nodup) (hkey : key ∉ members.map Prod.fst) (v : Value)
    (slots : Slots types) :
    fields.after ((key, v) :: members) results slots =
      (fields.after [(key, v)] results slots).bind (fields.after members results) := by
  induction types with
  | nil => rfl
  | cons α types ih =>
      obtain ⟨field, fields⟩ := fields
      obtain ⟨result, results⟩ := results
      obtain ⟨slot, slots⟩ := slots
      rw [keys, List.nodup_cons] at hkeys
      have hmore : after ((key, v) :: members) fields results slots =
          (after [(key, v)] fields results slots).bind (after members fields results) :=
        ih hkeys.2 slots
      by_cases hthis : field.key = key
      · subst hthis
        have hnone := Members.get?_eq_none_iff.mpr hkey
        simp only [after, Members.get?_cons, if_true, after_cons_of_notMem hkeys.1, after_nil]
        cases slot <;> cases result v <;> simp [hnone]
      · simp only [after, Members.get?_cons, if_neg hthis, Members.get?_nil, hmore]
        cases members.get? field.key with
        | none => cases after [(key, v)] fields results slots <;> simp
        | some v' => cases after [(key, v)] fields results slots <;> simp

/-- **One member** is given to its field. -/
theorem judgesMember_member (h : fields.Decide results) (hkeys : fields.keys.Nodup)
    (hkey : key ∈ fields.keys) (slots : Slots types) :
    ∃ reader, fields.member levels key slots = some reader ∧
      JudgesMember (fun _ _ => reader) (IsStrictText levels) (key, v) slots
        (fields.after [(key, v)] results slots) := by
  induction types with
  | nil => exact absurd hkey List.not_mem_nil
  | cons α types ih =>
      obtain ⟨field, fields⟩ := fields
      obtain ⟨result, results⟩ := results
      obtain ⟨slot, slots⟩ := slots
      rw [keys, List.nodup_cons] at hkeys
      obtain ⟨hfield, hmore⟩ := h
      by_cases hthis : field.key = key
      · subst hthis
        refine ⟨_, by rw [member, if_pos rfl], ?_⟩
        intro before behind bytes rest hbefore hbehind htext hrest
        simp only [after, Members.get?_cons, if_true, after_cons_of_notMem hkeys.1, after_nil]
        cases slot with
        | some x => rfl
        | none =>
            have hread := hfield v hbehind htext hrest
            simp only [Option.isSome_none, Bool.false_eq_true, if_false,
              Reader.colon_gap_append hbefore, toOption_bind]
            change (field.codec.read levels (behind ++ (bytes ++ rest))).toOption.bind _ = _
            rw [hread]
            cases result v <;> rfl
      · have hother : key ∈ keys fields := by
          rw [keys, List.mem_cons] at hkey
          exact hkey.resolve_left (Ne.symm hthis)
        obtain ⟨reader, hreader, hjudges⟩ := ih hmore hkeys.2 hother slots
        refine ⟨_, by rw [member, if_neg hthis, hreader, Option.map_some], ?_⟩
        intro before behind bytes rest hbefore hbehind htext hrest
        simp only [toOption_map, hjudges hbefore hbehind htext hrest, after, Members.get?_cons,
          if_neg hthis, Members.get?_nil]
        cases after [(key, v)] fields results slots <;> rfl

/-- From behind its key, a member is given to its field; what belongs to no field is skipped. -/
theorem judgesMember_after (h : fields.Decide results) (hkeys : fields.keys.Nodup)
    (slots : Slots types) :
    JudgesMember (fields.memberOrSkip levels) (IsStrictText levels) (key, v) slots
      (fields.after [(key, v)] results slots) := by
  intro before behind bytes rest hbefore hbehind htext hrest
  by_cases hkey : key ∈ fields.keys
  · obtain ⟨reader, hreader, hjudges⟩ := judgesMember_member h hkeys hkey slots
    rw [memberOrSkip, hreader]
    exact hjudges hbefore hbehind htext hrest
  · have hskip := Reader.skip_text hbehind htext.isText hrest
    rw [after_cons_of_notMem hkey, after_nil]
    simp only [memberOrSkip, member_eq_none hkey, Reader.colon_gap_append hbefore, hskip, bind,
      Except.bind]
    rfl

/-- **All members** are given to their fields. The induction is on the members that are still to
come. -/
theorem judgesMembers_after (h : fields.Decide results) (hkeys : fields.keys.Nodup)
    (hnodup : (members.map Prod.fst).Nodup) (slots : Slots types) :
    JudgesMembers (fields.memberOrSkip levels) (IsStrictText levels) members slots
      (fields.after members results slots) := by
  induction members generalizing slots with
  | nil =>
      rw [after_nil]
      exact .nil
  | cons entry members ih =>
      obtain ⟨key, v⟩ := entry
      rw [List.map_cons, List.nodup_cons] at hnodup
      have hfirst : JudgesMember (fields.memberOrSkip levels) (IsStrictText levels) (key, v) slots
          (fields.after [(key, v)] results slots) := judgesMember_after h hkeys slots
      rw [after_cons hkeys hnodup.1]
      cases hnext : fields.after [(key, v)] results slots with
      | none => exact .refused (hnext ▸ hfirst)
      | some next => exact .cons (hnext ▸ hfirst) (ih hnodup.2 next)

/-- A record is complete if each slot is filled or its field may be left out. -/
theorem toOption_complete_cons {α : Type} (field : Field α) (fields : Fields types)
    (slot : Option α) (slots : Slots types) :
    (@complete (α :: types) (field, fields) (slot, slots)).toOption =
      (slot.or field.absent).bind fun x =>
        (complete fields slots).toOption.bind fun values => some (x, values) := by
  rw [complete]
  cases slot.or field.absent with
  | none => rfl
  | some x => exact (toOption_map _).trans Option.map_eq_bind

/-- Behind the last member, the defaults are taken for what is missing. -/
theorem complete_after (members : Members) (fields : Fields types) (results : Results types) :
    ((fields.after members results (noSlots types)).bind fun slots =>
        (fields.complete slots).toOption) = fields.ofMembers members results := by
  induction types with
  | nil => rfl
  | cons α types ih =>
      obtain ⟨field, fields⟩ := fields
      obtain ⟨result, results⟩ := results
      rw [ofMembers, ← ih fields results, noSlots, after]
      cases members.get? field.key with
      | none =>
          cases after members fields results (noSlots types) with
          | none => simp
          | some slots => exact toOption_complete_cons field fields none slots
      | some v =>
          cases hresult : result v with
          | none => simp [hresult]
          | some x =>
              cases after members fields results (noSlots types) with
              | none => simp [hresult]
              | some slots =>
                  simp only [Option.elim_some, hresult]
                  exact toOption_complete_cons field fields (some x) slots

end Fields

namespace Record

variable {α : Type} {record : Record α} {members : Members} {results : Fields.Results record.types}

/-- **Records** are read from objects, in whatever order the members come and among whatever others,
if every field reads what it finds. -/
theorem codec_makes (hkeys : record.fields.keys.Nodup) (h : record.fields.Decide results)
    (members : Members) :
    record.codec.Makes (.object members)
      ((record.fields.ofMembers members results).map record.make) := by
  intro levels gap bytes rest hgap hbytes _
  obtain ⟨inner, -, rfl, hnodup, -⟩ := hbytes.exists_of_object
  have hjudges : JudgesMembers (record.fields.memberOrSkip inner) (IsStrictText inner) members
      (Fields.noSlots record.types) _ := Fields.judgesMembers_after h hkeys hnodup _
  obtain ⟨r, hskip, hread⟩ := Reader.members_object_judged hgap hbytes hjudges rest
  have hbracket : byte '\x7b' ≠ byte '[' := by decide
  simp only [codec, hskip, if_neg hbracket, if_true, ofObject]
  rw [toOption_bind, hread, ← Fields.complete_after]
  cases Fields.after members record.fields results (Fields.noSlots record.types) with
  | none => rfl
  | some slots =>
      simp only [Option.map_some, Option.bind_some]
      cases record.fields.complete slots <;> rfl

end Record

end Switchboard.Json
