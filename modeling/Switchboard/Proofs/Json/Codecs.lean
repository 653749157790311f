import Switchboard.Json.Codec
import Switchboard.Proofs.Json.Integers

/-!
# What codecs read

`codec.ReadsAs levels v x` says that a codec reads `x` from every strict text of the value `v`, so
that what a codec reads is said of values, and not of texts. For every codec there is one lemma that
tells which values it reads as what.

Writing is a matter of values anyway. A codec that is `Faithful` to `x` reads the value of `x` as `x`,
and then it reads what it writes. For every codec there is a second lemma that tells to what it is
faithful.

## Main results

* `Codec.parseBytes_of_readsAs`: a codec reads whole documents.
* `Codec.Faithful.roundTrips`: a codec reads what it writes.
* `Codec.list_readsAs`, `Codec.list_faithful`: arrays are read item by item.
-/

namespace Switchboard.Json

open Reader (byte)

/-- A string is read from its opening quote on, whatever it is for. -/
theorem Reader.stringAs_quoted (expected : String) {s : String} {gap bytes rest : List UInt8}
    (hgap : IsGap gap) (h : IsQuoted s bytes) :
    stringAs expected (gap ++ (bytes ++ rest)) = .ok (s, rest) := by
  obtain ⟨content, hcontent, rfl⟩ := h
  have hskip := skipSpace_gap_cons hgap (b := byte '"') (by decide)
    (content ++ byte '"' :: rest)
  rw [List.append_assoc, List.cons_append, List.singleton_append, stringAs, hskip]
  simp only [if_true]
  exact string_content_append hcontent rest

/-- What is made of the members of an object, one after another. -/
theorem Reader.members_object_judged {σ : Type} {member : String → σ → Reader σ} {state : σ}
    {last : Option σ} {inner : Nat} {entries : Members} {gap bytes : List UInt8} (hgap : IsGap gap)
    (h : IsStrictText (inner + 1) (.object entries) bytes)
    (hjudges : JudgesMembers member (IsStrictText inner) entries state last)
    (rest : List UInt8) :
    ∃ r, skipSpace (gap ++ (bytes ++ rest)) = byte '\x7b' :: r ∧
      (members member (r.length + 1) true state r).toOption =
        last.map fun state => (state, rest) := by
  obtain ⟨_, body, heq, -, hbody, rfl⟩ := h.exists_of_object
  obtain rfl := Nat.succ.inj heq
  have hlength := hbody.length_le (fun _ _ hmiddle => hmiddle.ne_nil) (byte '\x7d' :: rest)
  refine ⟨body ++ byte '\x7d' :: rest, ?_, members_judged hbody hjudges hlength⟩
  rw [List.cons_append, List.append_assoc, List.singleton_append]
  exact skipSpace_gap_cons hgap (by decide) _

/-- The members of an object are read by any reader that takes them. -/
theorem Reader.members_object {σ : Type} {member : String → σ → Reader σ} {state last : σ}
    {inner : Nat} {entries : Members} {gap bytes : List UInt8} (hgap : IsGap gap)
    (h : IsStrictText (inner + 1) (.object entries) bytes)
    (htakes : TakesMembers member (IsStrictText inner) entries state last) (rest : List UInt8) :
    ∃ r, skipSpace (gap ++ (bytes ++ rest)) = byte '\x7b' :: r ∧
      members member (r.length + 1) true state r = .ok (last, rest) := by
  obtain ⟨r, hskip, hread⟩ := members_object_judged hgap h htakes.toJudges rest
  exact ⟨r, hskip, toOption_eq_some_iff.mp hread⟩

namespace Codec

variable {α : Type} {codec : Codec α} {levels : Nat} {v : Value} {x : α}

/-- A codec reads a value as `x`: from every strict text of it, with space in front, and with
anything behind that does not begin with a byte of a number. -/
def ReadsAs (codec : Codec α) (levels : Nat) (v : Value) (x : α) : Prop :=
  ∀ ⦃gap bytes rest : List UInt8⦄, IsGap gap → IsStrictText levels v bytes → Reader.Ends rest →
    codec.read levels (gap ++ (bytes ++ rest)) = .ok (x, rest)

/-- A codec reads whole documents, with space around them. -/
theorem parseBytes_of_readsAs (h : codec.ReadsAs Value.maxLevels v x) {bytes : List UInt8}
    (hbytes : Spaced (IsStrictText Value.maxLevels) v bytes) : codec.parseBytes bytes = .ok x := by
  obtain ⟨before, middle, behind, hbefore, hmiddle, hbehind, rfl⟩ := hbytes
  refine Reader.whole_eq_ok ?_ hbehind
  rw [List.append_assoc]
  exact h hbefore hmiddle (Reader.ends_gap hbehind)

/-- A codec reads the value of `x` as `x`, and that value can be read back at all. -/
structure Faithful (codec : Codec α) (levels : Nat) (x : α) : Prop where
  fits : Fits levels (codec.encode x)
  reads : codec.ReadsAs levels (codec.encode x) x

/-- What is written is read back, and what is read back is written with the same text. -/
def RoundTrips (codec : Codec α) (x : α) : Prop :=
  codec.parse (codec.write x) = .ok x ∧
    (codec.parse (codec.write x)).map codec.write = .ok (codec.write x)

/-- **A codec reads what it writes** if it is faithful. -/
theorem Faithful.roundTrips (h : codec.Faithful Value.maxLevels x) : codec.RoundTrips x := by
  have hparse : codec.parse (codec.write x) = .ok x := by
    refine parseBytes_of_readsAs h.reads ?_
    rw [Text.Utf8.encode, write, Value.text, String.toList_ofList]
    exact spaced_self (isStrictText_chars h.fits)
  refine ⟨hparse, ?_⟩
  rw [hparse]
  rfl

/-! ### Values and strings -/

/-- The codec of all values takes a value as it is. -/
theorem any_readsAs : any.ReadsAs levels v v := by
  intro gap bytes rest hgap hbytes hrest
  exact (Reader.value_gap_append hgap _).trans
    ((readsBack_value levels).reads hbytes.isText hrest)

/-- Values without doubles and repeated keys are read back. -/
theorem any_faithful (h : IsExact levels v) : any.Faithful levels v := ⟨h.fits, any_readsAs⟩

/-- The codec of texts takes strings. -/
theorem text_readsAs (s : String) : text.ReadsAs levels (.string s) s := by
  intro gap bytes rest hgap hbytes _
  rw [IsStrictText] at hbytes
  exact Reader.stringAs_quoted _ hgap hbytes

/-- A string is not nested. -/
theorem fits_string (levels : Nat) (s : String) : Fits levels (.string s) := by
  rw [Fits]
  trivial

/-- **Texts** are read back. -/
theorem text_faithful (levels : Nat) (s : String) : text.Faithful levels s :=
  ⟨fits_string levels s, text_readsAs s⟩

/-! ### Options -/

/-- The first byte decides whether an optional value is there. -/
theorem optional_read {bytes r : List UInt8} {b : UInt8} (h : Reader.skipSpace bytes = b :: r) :
    (optional codec).read levels bytes =
      if b = byte 'n' then (Reader.word ['u', 'l', 'l'] r).map fun left => (none, left)
      else (codec.read levels bytes).map fun (x, left) => (some x, left) := by
  simp only [optional, h]

/-- Null stands for none. -/
theorem optional_readsAs_null : (optional codec).ReadsAs levels .null none := by
  intro gap bytes rest hgap hbytes _
  rw [IsStrictText] at hbytes
  have hskip := Reader.skipSpace_gap_cons hgap (b := byte 'n') (by decide)
    (wordBytes ['u', 'l', 'l'] ++ rest)
  have hword : bytes ++ rest = byte 'n' :: (wordBytes ['u', 'l', 'l'] ++ rest) := by
    rw [hbytes]
    rfl
  rw [hword, optional_read hskip, if_pos rfl, Reader.word_append]
  rfl

/-- A value that is not `null` is read as the codec reads it. -/
theorem optional_readsAs (hv : v ≠ .null) (h : codec.ReadsAs levels v x) :
    (optional codec).ReadsAs levels v (some x) := by
  intro gap bytes rest hgap hbytes hrest
  have hread := h hgap hbytes hrest
  obtain ⟨b, r, rfl, hspace, -⟩ := hbytes.isText.starts
  have hn : b ≠ byte 'n' := by
    intro heq
    exact hbytes.isText.head_ne_of_ne_null hv (congrArg some heq)
  rw [List.cons_append] at hread ⊢
  rw [optional_read (Reader.skipSpace_gap_cons hgap hspace (r ++ rest)), if_neg hn, hread]
  rfl

/-- **Options** are read back if no value is written as `null`. -/
theorem optional_faithful {o : Option α}
    (h : ∀ x ∈ o, codec.encode x ≠ .null ∧ codec.Faithful levels x) :
    (optional codec).Faithful levels o := by
  cases o with
  | none =>
      have hfits : Fits levels .null := by
        rw [Fits]
        trivial
      exact ⟨hfits, optional_readsAs_null⟩
  | some x =>
      obtain ⟨hnull, hx⟩ := h x rfl
      exact ⟨hx.fits, optional_readsAs hnull hx.reads⟩

/-! ### Arrays -/

/-- The texts of the values that a codec reads as `x`. -/
def textOf (codec : Codec α) (levels : Nat) (x : α) (bytes : List UInt8) : Prop :=
  ∃ v, codec.ReadsAs levels v x ∧ IsStrictText levels v bytes

/-- A codec reads back the texts of the values that it reads. -/
theorem readsBack_textOf : ReadsBack (codec.read levels) (codec.textOf levels) where
  starts := fun ⟨_, _, hbytes⟩ => hbytes.isText.starts
  reads := fun ⟨_, hreads, hbytes⟩ hrest => by
    have hread := hreads isGap_nil hbytes hrest
    rwa [List.nil_append] at hread

/-- A list is read item by item behind its bracket. -/
theorem list_read {inner : Nat} {bytes r : List UInt8}
    (h : Reader.skipSpace bytes = byte '[' :: r) :
    (list codec).read (inner + 1) bytes =
      Reader.items (codec.read inner) (r.length + 1) true r := by
  simp only [list, h, if_true]

/-- **Arrays** are read item by item. -/
theorem list_readsAs {inner : Nat} {items : List Value} {xs : List α}
    (h : List.Forall₂ (codec.ReadsAs inner) items xs) :
    (list codec).ReadsAs (inner + 1) (.array items) xs := by
  intro gap bytes rest hgap hbytes _
  obtain ⟨_, body, heq, hbody, rfl⟩ := hbytes.exists_of_array
  obtain rfl := Nat.succ.inj heq
  have hitems : IsBody (codec.textOf inner) xs body :=
    hbody.transfer (fun v x middle hreads hmiddle => ⟨v, hreads, hmiddle⟩) h
  have hlength := hitems.length_le (fun _ _ ⟨_, _, hmiddle⟩ => hmiddle.isText.ne_nil)
    (byte ']' :: rest)
  have hskip := Reader.skipSpace_gap_cons hgap (b := byte '[') (by decide)
    (body ++ byte ']' :: rest)
  rw [List.cons_append, List.append_assoc, List.singleton_append, list_read hskip]
  exact Reader.items_body readsBack_textOf hitems hlength

/-- **Lists** are read back if their items are. -/
theorem list_faithful {inner : Nat} {xs : List α} (h : ∀ x ∈ xs, codec.Faithful inner x) :
    (list codec).Faithful (inner + 1) xs := by
  refine ⟨?_, list_readsAs ?_⟩
  · change Fits (inner + 1) (.array (xs.map codec.encode))
    rw [Fits]
    intro item hitem
    obtain ⟨x, hx, rfl⟩ := List.mem_map.mp hitem
    exact (h x hx).fits
  · rw [List.forall₂_map_left_iff, List.forall₂_same]
    exact fun x hx => (h x hx).reads

/-! ### Words -/

/-- **Words** are read as what they stand for, if no two of them are the same. -/
theorem words_readsAs {word : α → String} {all : List α} (hinj : Function.Injective word)
    (hx : x ∈ all) : (words word all).ReadsAs levels (.string (word x)) x := by
  intro gap bytes rest hgap hbytes _
  rw [IsStrictText] at hbytes
  obtain ⟨content, hcontent, rfl⟩ := hbytes
  have hfind : (all.map fun y => (word y, y)).find? (fun entry => entry.1 == word x) =
      some (word x, x) := by
    induction all with
    | nil => exact absurd hx List.not_mem_nil
    | cons y all ih =>
        rw [List.map_cons]
        by_cases hy : y = x
        · rw [hy, List.find?_cons_of_pos (by simp)]
        · have hne : word y ≠ word x := fun heq => hy (hinj heq)
          rw [List.find?_cons_of_neg (by simpa using hne)]
          exact ih ((List.mem_cons.mp hx).resolve_left (Ne.symm hy))
  have hskip := Reader.skipSpace_gap_cons hgap (b := byte '"') (by decide)
    (content ++ byte '"' :: rest)
  rw [List.append_assoc, List.cons_append, List.singleton_append]
  change Reader.oneWord _ levels _ = _
  rw [Reader.oneWord, hskip]
  simp only [if_true, Reader.string_content_append hcontent, hfind, bind, Except.bind]
  rfl

/-- **Words** that differ for different values are read back. -/
theorem words_faithful {word : α → String} {all : List α} (hinj : Function.Injective word)
    (hx : x ∈ all) : (words word all).Faithful levels x :=
  ⟨fits_string levels (word x), words_readsAs hinj hx⟩

end Codec

end Switchboard.Json
