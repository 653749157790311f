import Switchboard.Json.Record
import Switchboard.Proofs.Json.Codecs
import Switchboard.Proofs.Json.Skipping

/-!
# Records as they are read and written

The members of a record may come in any order, and there may be others, which are skipped. So what is
known while an object is read are the keys that have been seen: the slots are `filled` with the values
of the fields with these keys. One member adds its key to them, and behind the last one the slots are
filled with what the members say of the fields.

`Fields.Finds` is what has to be known of the members for that: the field finds its value under its
key, and a field without a member takes its default. Written members are of this kind, since a field is
left out only if its value is the default.

## Main results

* `Record.codec_readsAs`: a record is read from an object.
* `Record.codec_faithful`: a record is read back.
-/

namespace Switchboard.Json

open Reader (byte)

namespace Fields

/-! ### Keys -/

/-- The keys of the fields. -/
def keys : {types : List Type} → Fields types → List String
  | [], _ => []
  | _ :: _, (field, fields) => field.key :: keys fields

/-- Only keys of fields are written, each at most once and in their order. -/
theorem keys_encode_sublist {types : List Type} (fields : Fields types) (values : Values types) :
    List.Sublist ((fields.encode values).map Prod.fst) fields.keys := by
  induction types with
  | nil => exact List.Sublist.refl _
  | cons α types ih =>
      obtain ⟨field, fields⟩ := fields
      obtain ⟨x, values⟩ := values
      have hmore := ih fields values
      rw [encode, keys]
      split
      · exact hmore.cons field.key
      · exact hmore.cons_cons field.key

/-! ### What members say of the fields -/

/-- The members hold the values of the fields: under its key, or nowhere if it is the default. -/
def Finds (levels : Nat) (members : Members) :
    {types : List Type} → Fields types → Values types → Prop
  | [], _, _ => True
  | _ :: _, (field, fields), (x, values) =>
    (match members.get? field.key with
      | some v => field.codec.ReadsAs levels v x
      | none => field.absent = some x) ∧ Finds levels members fields values

variable {types : List Type} {fields : Fields types} {values : Values types} {levels : Nat}
  {members : Members} {seen : List String} {key : String} {v : Value}

/-- A member that belongs to no field changes nothing. -/
theorem Finds.cons (h : fields.Finds levels members values) (hkey : key ∉ fields.keys) (v : Value) :
    fields.Finds levels ((key, v) :: members) values := by
  induction types with
  | nil => trivial
  | cons α types ih =>
      obtain ⟨field, fields⟩ := fields
      obtain ⟨x, values⟩ := values
      rw [keys, List.mem_cons, not_or] at hkey
      obtain ⟨hfield, hmore⟩ := h
      refine ⟨?_, ih hmore hkey.2⟩
      rwa [Members.get?_cons, if_neg (Ne.symm hkey.1)]

/-- The fields are faithful to their values, and a value is left out only if it is the default. -/
def Faithful (levels : Nat) : {types : List Type} → Fields types → Values types → Prop
  | [], _, _ => True
  | _ :: _, (field, fields), (x, values) =>
    (if field.omitted x then field.absent = some x else field.codec.Faithful levels x) ∧
      Faithful levels fields values

/-- **Written members** hold the values of the fields. -/
theorem finds_encode (hkeys : fields.keys.Nodup) (h : fields.Faithful levels values) :
    fields.Finds levels (fields.encode values) values := by
  induction types with
  | nil => trivial
  | cons α types ih =>
      obtain ⟨field, fields⟩ := fields
      obtain ⟨x, values⟩ := values
      rw [keys, List.nodup_cons] at hkeys
      obtain ⟨hfield, hmore⟩ := h
      have hfinds := ih hkeys.2 hmore
      rw [encode]
      by_cases homitted : field.omitted x
      · rw [if_pos homitted] at hfield ⊢
        refine ⟨?_, hfinds⟩
        have hnone : Members.get? (encode fields values) field.key = none :=
          Members.get?_eq_none_iff.mpr fun hmem =>
            hkeys.1 ((keys_encode_sublist fields values).subset hmem)
        rw [hnone]
        exact hfield
      · rw [if_neg homitted] at hfield ⊢
        refine ⟨?_, hfinds.cons hkeys.1 _⟩
        rw [Members.get?_cons, if_pos rfl]
        exact hfield.reads

/-- Written members can be read back at all. -/
theorem fits_encode (h : fields.Faithful levels values) :
    ∀ member ∈ fields.encode values, Fits levels member.2 := by
  induction types with
  | nil => exact fun member hmember => absurd hmember List.not_mem_nil
  | cons α types ih =>
      obtain ⟨field, fields⟩ := fields
      obtain ⟨x, values⟩ := values
      obtain ⟨hfield, hmore⟩ := h
      rw [encode]
      by_cases homitted : field.omitted x
      · rw [if_pos homitted]
        exact ih hmore
      · rw [if_neg homitted] at hfield ⊢
        exact List.forall_mem_cons.mpr ⟨hfield.fits, ih hmore⟩

/-! ### Slots -/

/-- The slots when the keys in a list have been seen. -/
def filled (seen : List String) : {types : List Type} → Fields types → Values types → Slots types
  | [], _, _ => ()
  | _ :: _, (field, fields), (x, values) =>
    (if field.key ∈ seen then some x else none, filled seen fields values)

/-- Nothing is filled before the first member. -/
theorem noSlots_eq (fields : Fields types) (values : Values types) :
    noSlots types = fields.filled [] values := by
  induction types with
  | nil => rfl
  | cons α types ih =>
      obtain ⟨field, fields⟩ := fields
      obtain ⟨x, values⟩ := values
      rw [noSlots, filled, if_neg List.not_mem_nil, ih fields values]

/-- A key of no field fills no slot. -/
theorem filled_append (hkey : key ∉ fields.keys) :
    fields.filled (seen ++ [key]) values = fields.filled seen values := by
  induction types with
  | nil => rfl
  | cons α types ih =>
      obtain ⟨field, fields⟩ := fields
      obtain ⟨x, values⟩ := values
      rw [keys, List.mem_cons, not_or] at hkey
      have hsame : field.key ∈ seen ++ [key] ↔ field.key ∈ seen := by
        simp [Ne.symm hkey.1]
      simp only [filled, hsame, ih hkey.2]

/-- A key that is none of the fields fills no slot. -/
theorem member_eq_none (hkey : key ∉ fields.keys) (slots : Slots types) :
    fields.member levels key slots = none := by
  induction types with
  | nil => rfl
  | cons α types ih =>
      obtain ⟨field, fields⟩ := fields
      obtain ⟨slot, slots⟩ := slots
      rw [keys, List.mem_cons, not_or] at hkey
      rw [member, if_neg (Ne.symm hkey.1), ih hkey.2]
      rfl

/-- **One member** fills the slot of its field. -/
theorem member_filled (hkeys : fields.keys.Nodup) (h : fields.Finds levels members values)
    (hv : members.get? key = some v) (hkey : key ∈ fields.keys) (hseen : key ∉ seen) :
    ∃ reader, fields.member levels key (fields.filled seen values) = some reader ∧
      TakesMember (fun _ _ => reader) (IsStrictText levels) (key, v) (fields.filled seen values)
        (fields.filled (seen ++ [key]) values) := by
  induction types with
  | nil => exact absurd hkey List.not_mem_nil
  | cons α types ih =>
      obtain ⟨field, fields⟩ := fields
      obtain ⟨x, values⟩ := values
      rw [keys, List.nodup_cons] at hkeys
      obtain ⟨hfield, hmore⟩ := h
      by_cases hthis : field.key = key
      · subst hthis
        rw [hv] at hfield
        have hnext : @filled (seen ++ [field.key]) (α :: types) (field, fields) (x, values) =
            (some x, filled seen fields values) := by
          rw [filled, if_pos (by simp), filled_append hkeys.1]
        refine ⟨_, by rw [filled, member, if_pos rfl], ?_⟩
        intro before behind bytes rest hbefore hbehind htext hrest
        rw [hnext, if_neg hseen]
        simp only [Option.isSome_none, Bool.false_eq_true, if_false,
          Reader.colon_gap_append hbefore, hfield hbehind htext hrest, bind, Except.bind]
        rfl
      · have hother : key ∈ keys fields := by
          rw [keys, List.mem_cons] at hkey
          exact hkey.resolve_left (Ne.symm hthis)
        obtain ⟨reader, hreader, htakes⟩ := ih hkeys.2 hmore hother
        have hsame : field.key ∈ seen ++ [key] ↔ field.key ∈ seen := by simp [hthis]
        refine ⟨_, by rw [filled, member, if_neg hthis, hreader, Option.map_some], ?_⟩
        intro before behind bytes rest hbefore hbehind htext hrest
        have hread : reader (before ++ byte ':' :: (behind ++ (bytes ++ rest))) = _ :=
          htakes hbefore hbehind htext hrest
        simp only [hread, filled, hsame, Except.map]

/-- Slots that are filled with all there is are completed by the defaults. -/
theorem complete_filled (h : fields.Finds levels members values) :
    fields.complete (fields.filled (members.map Prod.fst) values) = .ok values := by
  induction types with
  | nil => rfl
  | cons α types ih =>
      obtain ⟨field, fields⟩ := fields
      obtain ⟨x, values⟩ := values
      obtain ⟨hfield, hmore⟩ := h
      have hslot : (if field.key ∈ members.map Prod.fst then some x else none).or field.absent =
          some x := by
        by_cases hmem : field.key ∈ members.map Prod.fst
        · rw [if_pos hmem]
          rfl
        · rw [Members.get?_eq_none_iff.mpr hmem] at hfield
          rw [if_neg hmem, Option.none_or]
          exact hfield
      rw [filled, complete, hslot]
      simp only [ih hmore]
      rfl

/-- From behind its key, a member fills the slot of its field; what belongs to no field is skipped. -/
theorem takesMember_filled (hkeys : fields.keys.Nodup) (h : fields.Finds levels members values)
    (hv : members.get? key = some v) (hseen : key ∉ seen) :
    TakesMember (fields.memberOrSkip levels) (IsStrictText levels) (key, v)
      (fields.filled seen values) (fields.filled (seen ++ [key]) values) := by
  intro before behind bytes rest hbefore hbehind htext hrest
  by_cases hkey : key ∈ fields.keys
  · obtain ⟨reader, hreader, htakes⟩ := member_filled hkeys h hv hkey hseen
    rw [memberOrSkip, hreader]
    exact htakes hbefore hbehind htext hrest
  · have hskip := Reader.skip_text hbehind htext.isText hrest
    simp only [memberOrSkip, member_eq_none hkey, filled_append hkey,
      Reader.colon_gap_append hbefore, hskip, bind, Except.bind]
    rfl

/-- **All members** fill the slots of their fields. The induction is on the members that are still
to come. -/
theorem takesMembers_filled (hkeys : fields.keys.Nodup) (h : fields.Finds levels members values)
    {entries : List (String × Value)} (hnodup : (seen ++ entries.map Prod.fst).Nodup)
    (hentries : ∀ entry ∈ entries, members.get? entry.1 = some entry.2) :
    TakesMembers (fields.memberOrSkip levels) (IsStrictText levels) entries
      (fields.filled seen values) (fields.filled (seen ++ entries.map Prod.fst) values) := by
  induction entries generalizing seen with
  | nil =>
      rw [List.map_nil, List.append_nil]
      exact .nil
  | cons entry entries ih =>
      obtain ⟨key, v⟩ := entry
      obtain ⟨hv, hmore⟩ := List.forall_mem_cons.mp hentries
      rw [List.map_cons] at hnodup ⊢
      have hseen : key ∉ seen := fun hmem =>
        (List.nodup_append.mp hnodup).2.2 key hmem key List.mem_cons_self rfl
      rw [List.append_cons] at hnodup ⊢
      exact .cons (takesMember_filled hkeys h hv hseen) (ih hnodup hmore)

end Fields

namespace Record

variable {α : Type} {record : Record α} {inner : Nat} {members : Members}
  {values : Values record.types} {x : α}

/-- **A record is read** from every object whose members hold the values of its fields, in any order
and among others. -/
theorem codec_readsAs (hkeys : record.fields.keys.Nodup)
    (h : record.fields.Finds inner members values) :
    record.codec.ReadsAs (inner + 1) (.object members) (record.make values) := by
  intro gap bytes rest hgap hbytes _
  obtain ⟨-, -, -, hnodup, -⟩ := hbytes.exists_of_object
  have htakes := Fields.takesMembers_filled hkeys h (show ([] ++ members.map Prod.fst).Nodup from hnodup)
    fun entry hentry => Members.get?_eq_some_of_mem hnodup hentry
  rw [← Fields.noSlots_eq, List.nil_append] at htakes
  obtain ⟨r, hskip, hmembers⟩ := Reader.members_object hgap hbytes htakes rest
  have hbracket : byte '\x7b' ≠ byte '[' := by decide
  simp only [codec, hskip, if_neg hbracket, if_true, ofObject, hmembers, bind, Except.bind,
    Fields.complete_filled h]
  rfl

/-- **A record is read back** if its fields are faithful. -/
theorem codec_faithful (hkeys : record.fields.keys.Nodup)
    (hmake : record.make (record.parts x) = x)
    (h : record.fields.Faithful inner (record.parts x)) : record.codec.Faithful (inner + 1) x where
  fits := by
    change Fits (inner + 1) (.object (record.fields.encode (record.parts x)))
    rw [Fits]
    exact ⟨hkeys.sublist (Fields.keys_encode_sublist _ _), Fields.fits_encode h⟩
  reads := by
    have hreads := codec_readsAs hkeys (Fields.finds_encode hkeys h)
    rwa [hmake] at hreads

end Record

end Switchboard.Json
