import Mathlib.Data.List.DropRight
import Switchboard.Proofs.Json.Acceptance
import Switchboard.Proofs.Json.Records
import Switchboard.Service.Token

/-!
# Bodies that tell a token

A token is taken from the body of an answer. What such a body looks like is said here without the
reader of answers: it is an object in which one member alone has the key `token`, and the value of
this member is a string. The other members may hold anything that is JSON by its form. Beside objects,
an array of nothing but a string tells a token too.

## Main results

* `TokenAnswer.tells_of_parse`: a token is read only from a body that tells it.
* `TokenAnswer.parse_of_gives`: a token is read from every object with a string as its member
  `token`.
-/

namespace Switchboard.Json

open Reader (byte)

namespace Reader

variable {bytes content left : List UInt8}

/-! ### Strings are skipped like anything else -/

/-- **A string** that is read can be skipped. The cases are those of the reader that give a result: the
closing quote, a pair of units, one unit, a letter behind a backslash, and a byte that stands for
itself. -/
theorem skipString_of_stringBytes (h : stringBytes bytes = .ok (content, left)) :
    skipString bytes = .ok left := by
  fun_induction stringBytes bytes generalizing content with
  | case2 r =>
      obtain ⟨-, rfl⟩ := Prod.mk.inj (Except.ok.inj h)
      rw [skipString.eq_def]
      simp only [if_true]
  | case9 _ _ _ _ _ hhigh _ _ _ _ _ _ _ _ hlow _ _ ih =>
      obtain ⟨_, h, -⟩ := exists_of_push h
      rw [skipString_unit hhigh, skipString_unit hlow, ih h]
  | case14 _ _ _ _ _ _ hunit _ _ _ ih =>
      obtain ⟨_, h, -⟩ := exists_of_push h
      rw [skipString_unit hunit, ih h]
  | case17 e r hu _ hletter hslash ih =>
      obtain ⟨_, h, -⟩ := exists_of_push h
      rw [skipString.eq_def]
      simp only [if_neg hslash, if_neg hu, if_true, hletter, Option.isSome_some]
      exact ih h
  | case19 b r hquote hslash hcontrol ih =>
      obtain ⟨_, h, -⟩ := exists_of_push h
      rw [skipString.eq_def]
      simp only [if_neg hquote, if_neg hslash, if_neg hcontrol]
      exact ih h
  | _ => exact absurd h (by simp [refuse])

/-- Refusing a value gives no result, also where a scalar is read before it is refused. -/
theorem refuseKind_ne_ok {α : Type} (expected : String) (b : UInt8) (r : List UInt8)
    (x : α × List UInt8) : refuseKind expected b r ≠ .ok x := by
  intro h
  unfold refuseKind at h
  simp only at h
  split_ifs at h
  iterate 6
    · obtain ⟨_, -, h⟩ := exists_of_bind_eq_ok h
      exact absurd h (by simp [refuse])
  all_goals exact absurd h (by simp [refuse])

/-- What is read as a string is a string, and the skipper gets past it too. -/
theorem skip_of_stringAs {expected s : String} (h : stringAs expected bytes = .ok (s, left)) :
    skip bytes = .ok left := by
  unfold stringAs at h
  split at h
  · exact absurd h (by simp [refuse])
  · next b r hskip =>
      split at h
      · next hquote =>
          obtain ⟨⟨content, left'⟩, hbytes, h⟩ := exists_of_bind_eq_ok h
          have hleft : left' = left := by
            simp only at h
            split at h
            · exact (Prod.mk.inj (Except.ok.inj h)).2
            · exact absurd h (by simp [refuse])
          subst hleft
          have hstring := skipString_of_stringBytes hbytes
          rw [skip, skipFrom_value hskip, hquote, if_neg (by decide), if_neg (by decide),
            if_neg (by decide), if_neg (by decide), if_neg (by decide), if_pos rfl, hstring]
          rfl
      · exact absurd h (refuseKind_ne_ok _ _ _ _)

/-- White space may stand in front of a string. -/
theorem stringAs_skipSpace (expected : String) (bytes : List UInt8) :
    stringAs expected (skipSpace bytes) = stringAs expected bytes := by
  rw [stringAs, stringAs, skipSpace, skipSpace, List.dropWhile_idempotent]

/-! ### Objects as they are written -/

/-- The members that are read from inside an object up to its end: each key with what is behind its
colon. What the values are does not matter. -/
inductive Walks : (first : Bool) → List UInt8 → List (String × List UInt8) → List UInt8 → Prop
  | done {first : Bool} {bytes left : List UInt8} (hend : nextKey first bytes = .ok (none, left)) :
      Walks first bytes [] left
  | member {first : Bool} {bytes r value next left : List UInt8} {key : String}
      {entries : List (String × List UInt8)} (hkey : nextKey first bytes = .ok (some key, r))
      (hcolon : colon r = .ok value) (hvalue : skip value = .ok next)
      (hmore : Walks false next entries left) : Walks first bytes ((key, value) :: entries) left

/-- What stands behind the colons of a key. -/
def valuesOf (key : String) (entries : List (String × List UInt8)) : List (List UInt8) :=
  (entries.filter fun entry => entry.1 = key).map Prod.snd

/-- The values under a key, where the first entry has it. -/
theorem valuesOf_cons_of_eq (key : String) (value : List UInt8)
    (entries : List (String × List UInt8)) :
    valuesOf key ((key, value) :: entries) = value :: valuesOf key entries := by
  rw [valuesOf, List.filter_cons_of_pos (by simp)]
  rfl

/-- The values under a key, where the first entry has another one. -/
theorem valuesOf_cons_of_ne {key other : String} (h : other ≠ key) (value : List UInt8)
    (entries : List (String × List UInt8)) :
    valuesOf key ((other, value) :: entries) = valuesOf key entries := by
  rw [valuesOf, List.filter_cons_of_neg (by simpa using h)]
  rfl

end Reader

end Switchboard.Json

namespace Switchboard.Service

open Json (Slots Value IsStrictText Spaced)
open Json.Reader

namespace TokenAnswer

/-- Some bytes tell a token. -/
inductive Tells (token : Token) (bytes : List UInt8) : Prop
  /-- They are an object, and the one member with the key `token` is a string. -/
  | object {r value rest left : List UInt8} {entries : List (String × List UInt8)}
      (hopen : skipSpace bytes = byte '\x7b' :: r) (hentries : Walks true r entries left)
      (honly : valuesOf "token" entries = [value])
      (hvalue : stringAs "a string" value = .ok (token.value, rest)) (hend : skipSpace left = [])
  /-- They are an array of one string. -/
  | array {r rest left : List UInt8} (hopen : skipSpace bytes = byte '[' :: r)
      (hvalue : stringAs "a string" r = .ok (token.value, rest))
      (hclose : skipSpace rest = byte ']' :: left) (hend : skipSpace left = [])

variable {token : Token} {levels fuel : Nat} {first : Bool} {key : String}
  {slots slots' : Slots [Token]} {bytes left : List UInt8}

/-- A token is read as a string. -/
theorem eq_ok_of_read (h : Token.codec.read levels bytes = .ok (token, left)) :
    stringAs "a string" bytes = .ok (token.value, left) := by
  obtain ⟨⟨value, left'⟩, hread, h⟩ := exists_of_bind_eq_ok h
  obtain ⟨rfl, rfl⟩ := Prod.mk.inj (Except.ok.inj h)
  exact hread

/-- The one field of an answer. -/
def fields : Json.Fields [Token] := ({ key := "token", codec := Token.codec }, ())

/-- A record of a token has one field. -/
theorem keys_fields : fields.keys = ["token"] := rfl

/-- One member is read: the slot for the token is filled by the key `token` only, and only once. -/
theorem memberOrSkip_eq_ok
    (h : fields.memberOrSkip levels key slots bytes = .ok (slots', left)) :
    ∃ value, colon bytes = .ok value ∧ skip value = .ok left ∧
      (key ≠ "token" ∧ slots' = slots ∨ key = "token" ∧ slots.1 = none ∧ ∃ token,
        slots'.1 = some token ∧ stringAs "a string" value = .ok (token.value, left)) := by
  obtain ⟨slot, ⟨⟩⟩ := slots
  by_cases hkey : key = "token"
  · subst hkey
    change (if slot.isSome then refuse _ bytes else _) = _ at h
    split_ifs at h with hslot
    · exact absurd h (by simp [refuse])
    · obtain ⟨value, hcolon, h⟩ := exists_of_bind_eq_ok h
      obtain ⟨⟨token, left'⟩, hread, h⟩ := exists_of_bind_eq_ok h
      obtain ⟨rfl, rfl⟩ := Prod.mk.inj (Except.ok.inj h)
      have hstring := eq_ok_of_read hread
      exact ⟨value, hcolon, skip_of_stringAs hstring,
        .inr ⟨rfl, by simpa using hslot, token, rfl, hstring⟩⟩
  · have hother : key ∉ fields.keys := by
      rw [keys_fields, List.mem_singleton]
      exact hkey
    simp only [Json.Fields.memberOrSkip, Json.Fields.member_eq_none hother] at h
    obtain ⟨value, hcolon, h⟩ := exists_of_bind_eq_ok h
    obtain ⟨left', hskip, h⟩ := exists_of_bind_eq_ok h
    obtain ⟨rfl, rfl⟩ := Prod.mk.inj (Except.ok.inj h)
    exact ⟨value, hcolon, hskip, .inl ⟨hkey, rfl⟩⟩

/-- **Members.** What is read from inside an object is written there. The induction is on the fuel,
member by member. -/
theorem walks_of_members
    (h : members (fields.memberOrSkip levels) fuel first slots bytes =
      .ok (slots', left)) :
    ∃ entries, Walks first bytes entries left ∧
      (valuesOf "token" entries = [] ∧ slots'.1 = slots.1 ∨
        slots.1 = none ∧ ∃ token value rest, slots'.1 = some token ∧
          valuesOf "token" entries = [value] ∧
          stringAs "a string" value = .ok (token.value, rest)) := by
  induction fuel generalizing first slots bytes with
  | zero => exact absurd h (by simp [members, refuse])
  | succ fuel ih =>
      rw [members.eq_def] at h
      obtain ⟨⟨found, r⟩, hkey, h⟩ := exists_of_bind_eq_ok h
      cases found with
      | none =>
          obtain ⟨rfl, rfl⟩ := Prod.mk.inj (Except.ok.inj h)
          exact ⟨[], .done hkey, .inl ⟨rfl, rfl⟩⟩
      | some key =>
          obtain ⟨⟨slots₁, next⟩, hmember, h⟩ := exists_of_bind_eq_ok h
          obtain ⟨value, hcolon, hskip, hslots⟩ := memberOrSkip_eq_ok hmember
          obtain ⟨entries, hwalks, hmore⟩ := ih h
          refine ⟨(key, value) :: entries, .member hkey hcolon hskip hwalks, ?_⟩
          rcases hslots with ⟨hne, rfl⟩ | ⟨rfl, hnone, token, hsome, hstring⟩
          · rwa [valuesOf_cons_of_ne hne]
          · rw [valuesOf_cons_of_eq]
            rcases hmore with ⟨hnil, hsame⟩ | ⟨habsurd, -⟩
            · exact .inr ⟨hnone, token, value, next, hsame.trans hsome, by rw [hnil], hstring⟩
            · exact absurd (hsome.symm.trans habsurd) (by simp)

variable {answer : TokenAnswer}

/-- **An object** that an answer is read from tells its token: without the member the record is not
complete. -/
theorem tells_of_ofObject {r : List UInt8} (hopen : skipSpace bytes = byte '\x7b' :: r)
    (h : record.ofObject levels r = .ok (answer, left)) (hend : skipSpace left = []) :
    Tells answer.token bytes := by
  obtain ⟨⟨slots, left'⟩, hmembers, h⟩ := exists_of_bind_eq_ok h
  obtain ⟨entries, hwalks, hslots⟩ := walks_of_members hmembers
  obtain ⟨slot, ⟨⟩⟩ := slots
  rcases hslots with ⟨-, hnone⟩ | ⟨-, token, value, rest, hsome, honly, hvalue⟩
  · obtain rfl : slot = none := hnone
    exact absurd h (by simp [record, Json.Fields.complete, refuse])
  · obtain rfl : slot = some token := hsome
    obtain ⟨rfl, rfl⟩ := Prod.mk.inj (Except.ok.inj h)
    exact .object hopen hwalks honly hvalue hend

/-- The end of an array behind the items that are expected. -/
theorem ofItems_nil_eq_ok {expected : String} {count : Nat}
    {noFields : Json.Fields []} {values : Json.Values []}
    (h : noFields.ofItems expected levels count false bytes = .ok (values, left)) :
    skipSpace bytes = byte ']' :: left := by
  rw [Json.Fields.ofItems.eq_def] at h
  simp only at h
  split at h
  · exact absurd h (by simp [refuse])
  · next b r hskip =>
      split_ifs at h with hclose hcomma
      · rw [hskip, hclose, (Prod.mk.inj (Except.ok.inj h)).2]
      · split at h
        · split_ifs at h
          all_goals exact absurd h (by simp [refuse])
        · exact absurd h (by simp [refuse])
      · exact absurd h (by simp [refuse])

/-- **An array** that an answer is read from tells its token: it has no other item. -/
theorem tells_of_ofArray {r : List UInt8} (hopen : skipSpace bytes = byte '[' :: r)
    (h : record.ofArray levels r = .ok (answer, left)) (hend : skipSpace left = []) :
    Tells answer.token bytes := by
  obtain ⟨⟨values, left'⟩, hitems, h⟩ := exists_of_map_eq_ok h
  obtain ⟨rfl, rfl⟩ := Prod.mk.inj h
  change fields.ofItems record.expectedLength levels 0 false r = .ok (values, left') at hitems
  rw [fields, Json.Fields.ofItems.eq_def] at hitems
  simp only at hitems
  split at hitems
  · exact absurd hitems (by simp [refuse])
  · next b r' hskip =>
      split_ifs at hitems
      · exact absurd hitems (by simp [refuse])
      · obtain ⟨⟨token, rest⟩, hread, hitems⟩ := exists_of_bind_eq_ok hitems
        obtain ⟨⟨_, left⟩, hclose, hitems⟩ := exists_of_bind_eq_ok hitems
        obtain ⟨rfl, rfl⟩ := Prod.mk.inj (Except.ok.inj hitems)
        have hvalue := eq_ok_of_read hread
        rw [← hskip, stringAs_skipSpace] at hvalue
        exact .array hopen hvalue (ofItems_nil_eq_ok hclose) hend

/-- Whatever an answer is read from tells its token. -/
theorem tells_of_read (h : record.codec.read levels bytes = .ok (answer, left))
    (hend : skipSpace left = []) : Tells answer.token bytes := by
  simp only [Json.Record.codec] at h
  split at h
  · exact absurd h (by simp [refuse])
  · next b r hskip =>
      split_ifs at h with harray hobject
      · obtain rfl := harray
        split at h
        · exact absurd h (by simp [refuse])
        · exact tells_of_ofArray hskip h hend
      · obtain rfl := hobject
        split at h
        · exact absurd h (by simp [refuse])
        · exact tells_of_ofObject hskip h hend
      · exact absurd h (refuseKind_ne_ok _ _ _ _)

/-- **A token is read** only from a body that tells it. -/
theorem tells_of_parse {text : String} (h : record.codec.parse text = .ok answer) :
    Tells answer.token (Text.Utf8.encode text) := by
  obtain ⟨⟨read, left⟩, hread, h⟩ := exists_of_bind_eq_ok h
  simp only at h
  split at h
  · next hend =>
      obtain rfl := Except.ok.inj h
      exact tells_of_read hread hend
  · exact absurd h (by simp [refuse])

/-! ### Objects with a token -/

/-- Every string is read as a token. -/
theorem token_readsAs (token : Token) :
    Token.codec.ReadsAs levels (.string token.value) token := by
  intro gap bytes rest hgap hbytes hrest
  have hread := Json.Codec.text_readsAs token.value hgap hbytes hrest
  simp only [Token.codec, hread, bind, Except.bind]
  rfl

/-- A text is the JSON text of an object with the token as its member `token`, and no object in it
repeats a key. -/
def Gives (token : Token) (text : String) : Prop :=
  ∃ members : Json.Members,
    Spaced (IsStrictText Value.maxLevels) (.object members) (Text.Utf8.encode text) ∧
      members.get? "token" = some (.string token.value)

/-- **A token is read** from every object with a string as its member `token`, whatever its other
members are. -/
theorem parse_of_gives {text : String} (h : Gives token text) :
    record.codec.parse text = .ok ⟨token⟩ := by
  obtain ⟨members, htext, htoken⟩ := h
  have hfinds : fields.Finds 126 members (token, ()) := by
    simp only [fields, Json.Fields.Finds, htoken]
    exact ⟨token_readsAs token, trivial⟩
  have hkeys : record.fields.keys.Nodup := List.nodup_singleton "token"
  exact Json.Codec.parseBytes_of_readsAs (Json.Record.codec_readsAs hkeys hfinds) htext

end TokenAnswer

end Switchboard.Service
