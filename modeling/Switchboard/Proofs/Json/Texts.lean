import Switchboard.Proofs.Json.Numbers
import Switchboard.Proofs.Json.Strings
import Switchboard.Proofs.Results

/-!
# Texts of JSON values

`IsText levels value bytes` is the grammar of JSON: it relates a value to every text of it, with
any space between the parts, any way of writing a string, and any order and repetition of the
members that ends in the members of the value. It does not speak of a reader. The number of
levels bounds how deep arrays and objects are nested.

That the reader reads back every text is proved level by level. `ReadsBack` is what the reader of
arrays has to know about the reader of their items, and the same holds for objects and members, so
the two loops are followed once each, for items and members of any kind. They are followed up to the
first item or member that is refused, if there is one (`Judges`).

## Main results

* `Reader.items_judged`, `Reader.members_judged`: what the loops make of items and members.
* `Reader.items_body`, `Reader.members_body`: the loops read back items and members.
* `readsBack_value`: the reader of values reads back every text.
* `Value.parseBytes_of_isDocument`: so does parsing, with spaces around the text.
-/

namespace Switchboard.Json

open Reader (byte)

/-! ### Space -/

/-- Bytes without meaning. -/
def IsGap (bytes : List UInt8) : Prop := ∀ b ∈ bytes, Reader.isSpace b

/-- There may be no white space. -/
theorem isGap_nil : IsGap [] := by simp [IsGap]

namespace Reader

/-- White space is skipped. -/
theorem skipSpace_gap_append {gap : List UInt8} (hgap : IsGap gap) (rest : List UInt8) :
    skipSpace (gap ++ rest) = skipSpace rest := by
  rw [skipSpace, List.dropWhile_append_of_pos hgap]
  rfl

/-- A byte that is no white space ends the skipping. -/
theorem skipSpace_cons {b : UInt8} (hb : ¬ isSpace b) (rest : List UInt8) :
    skipSpace (b :: rest) = b :: rest := List.dropWhile_cons_of_neg hb

/-- White space is skipped up to the first other byte. -/
theorem skipSpace_gap_cons {gap : List UInt8} (hgap : IsGap gap) {b : UInt8} (hb : ¬ isSpace b)
    (rest : List UInt8) : skipSpace (gap ++ b :: rest) = b :: rest := by
  rw [skipSpace_gap_append hgap, skipSpace_cons hb]

/-- White space is skipped to its end. -/
theorem skipSpace_gap {gap : List UInt8} (hgap : IsGap gap) : skipSpace gap = [] := by
  have hskip := skipSpace_gap_append hgap []
  rwa [List.append_nil] at hskip

/-- A number ends before space. -/
theorem ends_gap_append {gap : List UInt8} (hgap : IsGap gap) {rest : List UInt8}
    (hrest : Ends rest) : Ends (gap ++ rest) := by
  cases gap with
  | nil => exact hrest
  | cons b gap =>
      have hspace : isSpace b := hgap b List.mem_cons_self
      simp only [isSpace, Bool.or_eq_true, decide_eq_true_eq] at hspace
      rw [List.cons_append, ends_cons]
      rcases hspace with ((rfl | rfl) | rfl) | rfl <;> decide

/-- A number may end in front of white space. -/
theorem ends_gap {gap : List UInt8} (hgap : IsGap gap) : Ends gap := by
  have hends := ends_gap_append hgap (show Ends [] by simp [Ends])
  rwa [List.append_nil] at hends

/-- A reader that leaves nothing but space reads the whole text. -/
theorem whole_eq_ok {α : Type} {reader : Reader α} {bytes left : List UInt8} {x : α}
    (hread : reader bytes = .ok (x, left)) (hleft : IsGap left) : whole reader bytes = .ok x := by
  rw [whole, hread]
  simp only [bind, Except.bind, skipSpace_gap hleft]
  rfl

end Reader

/-! ### Items between brackets -/

section Items

variable {α : Type}

/-- A text with space around it. -/
def Spaced (text : α → List UInt8 → Prop) (x : α) (bytes : List UInt8) : Prop :=
  ∃ before middle behind, IsGap before ∧ text x middle ∧ IsGap behind ∧
    bytes = before ++ middle ++ behind

/-- One or more texts with commas between them, and space around each. -/
inductive Separated (text : α → List UInt8 → Prop) : List α → List UInt8 → Prop
  | last {x : α} {bytes : List UInt8} (h : Spaced text x bytes) : Separated text [x] bytes
  | cons {x : α} {xs : List α} {bytes more : List UInt8} (h : Spaced text x bytes)
      (hmore : Separated text xs more) : Separated text (x :: xs) (bytes ++ byte ',' :: more)

/-- What stands between two brackets. -/
def IsBody (text : α → List UInt8 → Prop) (xs : List α) (bytes : List UInt8) : Prop :=
  (xs = [] ∧ IsGap bytes) ∨ Separated text xs bytes

/-- A reader reads back the texts of its values. A text begins with a byte that is neither space
nor the closing bracket of arrays, and behind a text stands no byte of a number. -/
structure ReadsBack (reader : Reader α) (text : α → List UInt8 → Prop) : Prop where
  starts {x : α} {bytes : List UInt8} : text x bytes →
    ∃ b r, bytes = b :: r ∧ ¬ Reader.isSpace b ∧ b ≠ byte ']'
  reads {x : α} {bytes rest : List UInt8} : text x bytes → Reader.Ends rest →
    reader (bytes ++ rest) = .ok (x, rest)

/-- What a reader makes of a text is told by the value: a result, or nothing if it refuses. -/
structure Judges {β : Type} (reader : Reader β) (text : α → List UInt8 → Prop)
    (result : α → Option β) : Prop where
  starts {x : α} {bytes : List UInt8} : text x bytes →
    ∃ b r, bytes = b :: r ∧ ¬ Reader.isSpace b ∧ b ≠ byte ']'
  judges {x : α} {bytes rest : List UInt8} : text x bytes → Reader.Ends rest →
    (reader (bytes ++ rest)).toOption = (result x).map fun y => (y, rest)

/-- A reader that gives back values judges their texts. -/
theorem ReadsBack.toJudges {reader : Reader α} {text : α → List UInt8 → Prop}
    (h : ReadsBack reader text) : Judges reader text some where
  starts := h.starts
  judges hx hrest := toOption_eq_some_iff.mpr (h.reads hx hrest)

/-- Texts of items have at least a byte each. -/
theorem Separated.length_le {text : α → List UInt8 → Prop} {xs : List α} {bytes : List UInt8}
    (hne : ∀ x middle, text x middle → middle ≠ []) (h : Separated text xs bytes) :
    xs.length ≤ bytes.length := by
  induction h with
  | last h =>
      obtain ⟨before, middle, behind, -, hmiddle, -, rfl⟩ := h
      have hpos := List.length_pos_iff.mpr (hne _ _ hmiddle)
      simp only [List.length_singleton, List.length_append]
      omega
  | cons h _ ih =>
      simp only [List.length_cons, List.length_append]
      omega

/-- A body has room for its items. -/
theorem IsBody.length_le {text : α → List UInt8 → Prop} {xs : List α} {bytes : List UInt8}
    (hne : ∀ x middle, text x middle → middle ≠ []) (h : IsBody text xs bytes)
    (rest : List UInt8) : xs.length ≤ (bytes ++ rest).length := by
  rcases h with ⟨rfl, -⟩ | hseparated
  · exact Nat.zero_le _
  · have hle := hseparated.length_le hne
    rw [List.length_append]
    omega

end Items

namespace Reader

section Loops

variable {α β : Type} {item : Reader β} {text : α → List UInt8 → Prop} {result : α → Option β}
  {rest : List UInt8}

/-- A number may end in front of a comma and in front of a closing bracket. -/
theorem ends_closing (rest : List UInt8) :
    Ends (byte ',' :: rest) ∧ Ends (byte ']' :: rest) ∧ Ends (byte '\x7d' :: rest) := by
  simp only [ends_cons]
  decide

/-- An item, and then the further ones. -/
def itemAndMore (item : Reader β) (fuel : Nat) : Reader (List β) := fun bytes => do
  let (x, left) ← item bytes
  let (xs, left) ← items item fuel false left
  return (x :: xs, left)

/-- The first item is read at once, a further one from behind a comma. -/
theorem items_eq {fuel : Nat} {b : UInt8} {r before : List UInt8} (hclose : b ≠ byte ']')
    (hbefore : skipSpace before = b :: r) :
    items item (fuel + 1) true before = itemAndMore item fuel (b :: r) ∧
      ∀ gap, IsGap gap → items item (fuel + 1) false (gap ++ byte ',' :: before) =
        itemAndMore item fuel (b :: r) := by
  refine ⟨?_, fun gap hgap => ?_⟩
  · rw [items, hbefore]
    simp only [if_neg hclose, if_true]
    rfl
  · have hcomma := skipSpace_gap_cons hgap (b := byte ',') (by decide) before
    have hnot : byte ',' ≠ byte ']' := by decide
    rw [items, hcomma]
    simp only [if_neg hnot, Bool.false_eq_true, if_false, if_true, hbefore, if_neg hclose]
    rfl

/-- Behind the last item the array ends. -/
theorem items_end {gap : List UInt8} (hgap : IsGap gap) (first : Bool) (fuel : Nat) :
    items item (fuel + 1) first (gap ++ byte ']' :: rest) = .ok ([], rest) := by
  have hend := skipSpace_gap_cons hgap (b := byte ']') (by decide) rest
  rw [items, hend]
  simp only [if_true]

/-- An item in front of what follows it. -/
theorem itemAndMore_spaced (hitem : Judges item text result) {x : α} {bytes left : List UInt8}
    (h : Spaced text x bytes) {b : UInt8} (hb : b = byte ',' ∨ b = byte ']') {fuel : Nat}
    {more : Option (List β)} (hmore : ∀ gap, IsGap gap →
      (items item fuel false (gap ++ b :: left)).toOption = more.map fun ys => (ys, rest)) :
    ∃ c r, skipSpace (bytes ++ b :: left) = c :: r ∧ c ≠ byte ']' ∧
      (itemAndMore item fuel (c :: r)).toOption =
        ((result x).bind fun y => more.map (y :: ·)).map fun ys => (ys, rest) := by
  obtain ⟨before, middle, behind, hbefore, hmiddle, hbehind, rfl⟩ := h
  obtain ⟨c, r, rfl, hspace, hclose⟩ := hitem.starts hmiddle
  have hends : Ends (behind ++ b :: left) := by
    refine ends_gap_append hbehind ?_
    rcases hb with rfl | rfl
    · exact (ends_closing left).1
    · exact (ends_closing left).2.1
  refine ⟨c, r ++ (behind ++ b :: left), ?_, hclose, ?_⟩
  · rw [List.append_assoc, List.append_assoc, skipSpace_gap_append hbefore, List.cons_append,
      skipSpace_cons hspace]
  · rw [← List.cons_append, itemAndMore, toOption_bind, hitem.judges hmiddle hends]
    cases result x with
    | none => rfl
    | some y =>
        simp only [Option.map_some, Option.bind_some, toOption_bind, hmore behind hbehind]
        cases more <;> rfl

/-- **Items.** The induction is on the items: what the loop does from an item on does not depend
on whether it is the first. -/
theorem itemAndMore_separated (hitem : Judges item text result) {xs : List α} {bytes : List UInt8}
    (h : Separated text xs bytes) {fuel : Nat} (hfuel : xs.length ≤ fuel) :
    ∃ b r, skipSpace (bytes ++ byte ']' :: rest) = b :: r ∧ b ≠ byte ']' ∧
      (itemAndMore item fuel (b :: r)).toOption =
        (xs.mapM result).map fun ys => (ys, rest) := by
  induction h generalizing fuel with
  | @last x bytes h =>
      obtain ⟨fuel, rfl⟩ := Nat.exists_eq_succ_of_ne_zero (Nat.ne_of_gt hfuel)
      have hend (gap : List UInt8) (hgap : IsGap gap) :
          (items item (fuel + 1) false (gap ++ byte ']' :: rest)).toOption =
            (some []).map fun ys => (ys, rest) := by
        rw [items_end hgap]
        rfl
      obtain ⟨b, r, hskip, hclose, hread⟩ := itemAndMore_spaced hitem h (.inr rfl) hend
      refine ⟨b, r, hskip, hclose, ?_⟩
      rw [hread, List.mapM_cons, List.mapM_nil]
      rfl
  | @cons x xs bytes more h _ ih =>
      obtain ⟨fuel, rfl⟩ := Nat.exists_eq_succ_of_ne_zero
        (Nat.ne_of_gt (lt_of_lt_of_le (Nat.succ_pos _) hfuel))
      obtain ⟨c, s, hskip, hcclose, hmore⟩ := ih (Nat.le_of_succ_le_succ hfuel)
      have hnext (gap : List UInt8) (hgap : IsGap gap) :
          (items item (fuel + 1) false (gap ++ byte ',' :: (more ++ byte ']' :: rest))).toOption =
            (xs.mapM result).map fun ys => (ys, rest) := by
        rw [(items_eq hcclose hskip).2 gap hgap, hmore]
      obtain ⟨b, r, hskip, hclose, hread⟩ := itemAndMore_spaced hitem h (.inl rfl) hnext
      refine ⟨b, r, ?_, hclose, ?_⟩
      · rw [List.append_assoc, List.cons_append, hskip]
      · rw [hread, List.mapM_cons]
        cases result x <;> cases xs.mapM result <;> rfl

/-- **Arrays.** What is made of the items between the brackets, one after another. -/
theorem items_judged (hitem : Judges item text result) {xs : List α} {bytes : List UInt8}
    (h : IsBody text xs bytes) {fuel : Nat} (hfuel : xs.length ≤ fuel) :
    (items item (fuel + 1) true (bytes ++ byte ']' :: rest)).toOption =
      (xs.mapM result).map fun ys => (ys, rest) := by
  rcases h with ⟨rfl, hgap⟩ | hseparated
  · rw [items_end hgap true fuel]
    rfl
  · obtain ⟨b, r, hskip, hclose, hmore⟩ := itemAndMore_separated hitem hseparated hfuel
    rw [(items_eq hclose hskip).1, hmore]

/-- The items between the brackets are read back. -/
theorem items_body {item : Reader α} (hitem : ReadsBack item text) {xs : List α}
    {bytes : List UInt8} (h : IsBody text xs bytes) {fuel : Nat} (hfuel : xs.length ≤ fuel) :
    items item (fuel + 1) true (bytes ++ byte ']' :: rest) = .ok (xs, rest) := by
  have hread : (items item (fuel + 1) true (bytes ++ byte ']' :: rest)).toOption = _ :=
    items_judged hitem.toJudges h hfuel
  have hall : xs.mapM some = some xs := by
    simpa using List.mapM_pure (m := Option) (f := id) (l := xs)
  rw [hall] at hread
  exact toOption_eq_some_iff.mp hread

end Loops

end Reader

/-! ### Members between braces -/

/-- The texts of a member: its key, a colon, and a text of its value. -/
def IsMember {α : Type} (text : α → List UInt8 → Prop) (entry : String × α)
    (bytes : List UInt8) : Prop :=
  ∃ key before behind value, IsQuoted entry.1 key ∧ IsGap before ∧ IsGap behind ∧
    text entry.2 value ∧ bytes = key ++ before ++ byte ':' :: (behind ++ value)

/-- A member has a text, because of its quotes at least. -/
theorem IsMember.ne_nil {α : Type} {text : α → List UInt8 → Prop} {entry : String × α}
    {bytes : List UInt8} (h : IsMember text entry bytes) : bytes ≠ [] := by
  obtain ⟨key, before, behind, value, -, -, -, -, rfl⟩ := h
  simp

/-- From behind its key, a reader takes a member and passes from a state to the next one. -/
def TakesMember {α σ : Type} (member : String → σ → Reader σ) (text : α → List UInt8 → Prop)
    (entry : String × α) (state next : σ) : Prop :=
  ∀ ⦃before behind value rest : List UInt8⦄, IsGap before → IsGap behind → text entry.2 value →
    Reader.Ends rest →
      member entry.1 state (before ++ byte ':' :: (behind ++ (value ++ rest))) = .ok (next, rest)

/-- A reader takes members one after another. -/
inductive TakesMembers {α σ : Type} (member : String → σ → Reader σ)
    (text : α → List UInt8 → Prop) : List (String × α) → σ → σ → Prop
  | nil {state : σ} : TakesMembers member text [] state state
  | cons {entry : String × α} {entries : List (String × α)} {state next last : σ}
      (h : TakesMember member text entry state next)
      (hmore : TakesMembers member text entries next last) :
      TakesMembers member text (entry :: entries) state last

/-- What a reader makes of a member in a state, from behind its key: the next state, or nothing if it
refuses the member. -/
def JudgesMember {α σ : Type} (member : String → σ → Reader σ) (text : α → List UInt8 → Prop)
    (entry : String × α) (state : σ) (next : Option σ) : Prop :=
  ∀ ⦃before behind value rest : List UInt8⦄, IsGap before → IsGap behind → text entry.2 value →
    Reader.Ends rest →
      (member entry.1 state (before ++ byte ':' :: (behind ++ (value ++ rest)))).toOption =
        next.map fun state => (state, rest)

/-- What a reader makes of members one after another, up to the first one that it refuses. -/
inductive JudgesMembers {α σ : Type} (member : String → σ → Reader σ)
    (text : α → List UInt8 → Prop) : List (String × α) → σ → Option σ → Prop
  | nil {state : σ} : JudgesMembers member text [] state (some state)
  | refused {entry : String × α} {entries : List (String × α)} {state : σ}
      (h : JudgesMember member text entry state none) :
      JudgesMembers member text (entry :: entries) state none
  | cons {entry : String × α} {entries : List (String × α)} {state next : σ} {last : Option σ}
      (h : JudgesMember member text entry state (some next))
      (hmore : JudgesMembers member text entries next last) :
      JudgesMembers member text (entry :: entries) state last

/-- Taking members in is one way of judging them. -/
theorem TakesMembers.toJudges {α σ : Type} {member : String → σ → Reader σ}
    {text : α → List UInt8 → Prop} {entries : List (String × α)} {state last : σ}
    (h : TakesMembers member text entries state last) :
    JudgesMembers member text entries state (some last) := by
  induction h with
  | nil => exact .nil
  | cons h _ ih =>
      exact .cons (fun _ _ _ _ hbefore hbehind hvalue hrest =>
        toOption_eq_some_iff.mpr (h hbefore hbehind hvalue hrest)) ih

namespace Reader

section Loops

variable {α σ : Type} {member : String → σ → Reader σ} {text : α → List UInt8 → Prop}
  {state next last : σ} {rest : List UInt8}

/-- A colon is read behind white space. -/
theorem colon_gap_append {gap : List UInt8} (hgap : IsGap gap) (rest : List UInt8) :
    colon (gap ++ byte ':' :: rest) = .ok rest := by
  rw [colon, skipSpace_gap_cons hgap (by decide)]
  exact if_pos rfl

/-- A member from behind the opening quote of its key, and then the further ones. -/
def memberAndMore (member : String → σ → Reader σ) (fuel : Nat) (state : σ) : Reader σ :=
  fun r => do
    let (key, left) ← string r
    let (state, left) ← member key state left
    members member fuel false state left

/-- The first member is read at once, a further one from behind a comma. -/
theorem members_eq {fuel : Nat} {r before : List UInt8}
    (hbefore : skipSpace before = byte '"' :: r) :
    members member (fuel + 1) true state before = memberAndMore member fuel state r ∧
      ∀ gap, IsGap gap → members member (fuel + 1) false state (gap ++ byte ',' :: before) =
        memberAndMore member fuel state r := by
  have hquote : byte '"' ≠ byte '\x7d' := by decide
  refine ⟨?_, fun gap hgap => ?_⟩
  · rw [members, nextKey, hbefore]
    simp only [if_neg hquote, if_true, memberAndMore]
    cases string r <;> rfl
  · have hcomma := skipSpace_gap_cons hgap (b := byte ',') (by decide) before
    have hnot : byte ',' ≠ byte '\x7d' := by decide
    rw [members, nextKey, hcomma]
    simp only [if_neg hnot, Bool.false_eq_true, if_false, if_true, hbefore, memberAndMore]
    cases string r <;> rfl

/-- Behind the last member the object ends. -/
theorem members_end {gap : List UInt8} (hgap : IsGap gap) (first : Bool) (fuel : Nat) :
    members member (fuel + 1) first state (gap ++ byte '\x7d' :: rest) = .ok (state, rest) := by
  have hend := skipSpace_gap_cons hgap (b := byte '\x7d') (by decide) rest
  rw [members, nextKey, hend]
  simp only [if_true]
  rfl

/-- A member in front of what follows it. -/
theorem memberAndMore_spaced {entry : String × α} {next : Option σ}
    (hjudges : JudgesMember member text entry state next) {bytes left : List UInt8}
    (h : Spaced (IsMember text) entry bytes) {b : UInt8} (hb : b = byte ',' ∨ b = byte '\x7d')
    {fuel : Nat} (result : Option (σ × List UInt8))
    (hmore : ∀ state ∈ next, ∀ gap, IsGap gap →
      (members member fuel false state (gap ++ b :: left)).toOption = result) :
    ∃ r, skipSpace (bytes ++ b :: left) = byte '"' :: r ∧
      (memberAndMore member fuel state r).toOption = next.bind fun _ => result := by
  obtain ⟨before, middle, behind, hbefore, hmiddle, hbehind, rfl⟩ := h
  obtain ⟨_, gap, gap', value, ⟨content, hcontent, rfl⟩, hgap, hgap', hvalue, rfl⟩ := hmiddle
  have hends : Ends (behind ++ b :: left) := by
    refine ends_gap_append hbehind ?_
    rcases hb with rfl | rfl
    · exact (ends_closing left).1
    · exact (ends_closing left).2.2
  refine ⟨content ++ byte '"' :: (gap ++ byte ':' :: (gap' ++ (value ++ (behind ++ b :: left)))),
    ?_, ?_⟩
  · rw [List.append_assoc, List.append_assoc, skipSpace_gap_append hbefore]
    simp only [List.append_assoc, List.cons_append, List.nil_append]
    exact skipSpace_cons (by decide) _
  · rw [memberAndMore, string_content_append hcontent]
    change (member entry.1 state _ >>= fun (state, left) =>
      members member fuel false state left).toOption = _
    rw [toOption_bind, hjudges hgap hgap' hvalue hends]
    cases next with
    | none => rfl
    | some state => exact hmore state rfl behind hbehind

/-- **Members.** The induction is on the members, as for items. -/
theorem memberAndMore_separated {entries : List (String × α)} {bytes : List UInt8}
    (h : Separated (IsMember text) entries bytes) {last : Option σ}
    (hjudges : JudgesMembers member text entries state last) {fuel : Nat}
    (hfuel : entries.length ≤ fuel) :
    ∃ r, skipSpace (bytes ++ byte '\x7d' :: rest) = byte '"' :: r ∧
      (memberAndMore member fuel state r).toOption = last.map fun state => (state, rest) := by
  induction h generalizing fuel state with
  | last h =>
      obtain ⟨fuel, rfl⟩ := Nat.exists_eq_succ_of_ne_zero (Nat.ne_of_gt hfuel)
      have hend (state : σ) (gap : List UInt8) (hgap : IsGap gap) :
          (members member (fuel + 1) false state (gap ++ byte '\x7d' :: rest)).toOption =
            some (state, rest) := by
        rw [members_end hgap]
        rfl
      cases hjudges with
      | refused hjudges =>
          exact memberAndMore_spaced hjudges h (.inr rfl) none (by simp)
      | @cons _ _ _ next _ hjudges hmore =>
          cases hmore with
          | nil =>
              refine memberAndMore_spaced hjudges h (.inr rfl) _ fun state hstate => ?_
              rw [Option.mem_some_iff] at hstate
              exact hstate ▸ hend next
  | cons h _ ih =>
      obtain ⟨fuel, rfl⟩ := Nat.exists_eq_succ_of_ne_zero
        (Nat.ne_of_gt (lt_of_lt_of_le (Nat.succ_pos _) hfuel))
      rw [List.append_assoc, List.cons_append]
      cases hjudges with
      | refused hjudges =>
          exact memberAndMore_spaced hjudges h (.inl rfl) none (by simp)
      | cons hjudges hrest =>
          obtain ⟨r, hskip, hmore⟩ := ih hrest (Nat.le_of_succ_le_succ hfuel)
          refine memberAndMore_spaced hjudges h (.inl rfl) (last.map fun state => (state, rest))
            fun state hstate gap hgap => ?_
          rw [Option.mem_some_iff] at hstate
          rw [← hstate, (members_eq hskip).2 gap hgap, hmore]

/-- **Objects.** What is made of the members between the braces, one after another. -/
theorem members_judged {entries : List (String × α)} {bytes : List UInt8}
    (h : IsBody (IsMember text) entries bytes) {last : Option σ}
    (hjudges : JudgesMembers member text entries state last) {fuel : Nat}
    (hfuel : entries.length ≤ fuel) :
    (members member (fuel + 1) true state (bytes ++ byte '\x7d' :: rest)).toOption =
      last.map fun state => (state, rest) := by
  rcases h with ⟨rfl, hgap⟩ | hseparated
  · cases hjudges with
    | nil =>
        rw [members_end hgap true fuel]
        rfl
  · obtain ⟨r, hskip, hmore⟩ := memberAndMore_separated hseparated hjudges hfuel
    rw [(members_eq hskip).1, hmore]

/-- The members between the braces are taken one after another. -/
theorem members_body {entries : List (String × α)} {bytes : List UInt8}
    (h : IsBody (IsMember text) entries bytes)
    (htakes : TakesMembers member text entries state last) {fuel : Nat}
    (hfuel : entries.length ≤ fuel) :
    members member (fuel + 1) true state (bytes ++ byte '\x7d' :: rest) = .ok (last, rest) :=
  toOption_eq_some_iff.mp (members_judged h htakes.toJudges hfuel)

end Loops

end Reader

/-! ### Values -/

/-- The bytes of a word. -/
def wordBytes (word : List Char) : List UInt8 := word.map byte

/-- The texts of a value in which arrays and objects are nested at most `levels` deep. -/
def IsText : (levels : Nat) → Value → List UInt8 → Prop
  | _, .null, bytes => bytes = wordBytes ['n', 'u', 'l', 'l']
  | _, .bool true, bytes => bytes = wordBytes ['t', 'r', 'u', 'e']
  | _, .bool false, bytes => bytes = wordBytes ['f', 'a', 'l', 's', 'e']
  | _, .number n, bytes => IsNumberText n bytes
  | _, .string s, bytes => IsQuoted s bytes
  | 0, .array _, _ => False
  | inner + 1, .array items, bytes =>
    ∃ body, IsBody (IsText inner) items body ∧ bytes = byte '[' :: (body ++ [byte ']'])
  | 0, .object _, _ => False
  | inner + 1, .object members, bytes =>
    ∃ entries body, IsBody (IsMember (IsText inner)) entries body ∧
      members = Members.ofList entries ∧ bytes = byte '\x7b' :: (body ++ [byte '\x7d'])

/-- The brackets of an array take up one level. -/
theorem IsText.exists_of_array {levels : Nat} {items : List Value} {bytes : List UInt8}
    (h : IsText levels (.array items) bytes) :
    ∃ inner body, levels = inner + 1 ∧ IsBody (IsText inner) items body ∧
      bytes = byte '[' :: (body ++ [byte ']']) := by
  cases levels with
  | zero => rw [IsText] at h; exact h.elim
  | succ inner =>
      rw [IsText] at h
      obtain ⟨body, hbody, rfl⟩ := h
      exact ⟨inner, body, rfl, hbody, rfl⟩

/-- The text of an object, whose last value counts where a key is given twice. -/
theorem IsText.exists_of_object {levels : Nat} {members : Members} {bytes : List UInt8}
    (h : IsText levels (.object members) bytes) :
    ∃ inner entries body, levels = inner + 1 ∧ IsBody (IsMember (IsText inner)) entries body ∧
      members = Members.ofList entries ∧ bytes = byte '\x7b' :: (body ++ [byte '\x7d']) := by
  cases levels with
  | zero => rw [IsText] at h; exact h.elim
  | succ inner =>
      rw [IsText] at h
      obtain ⟨entries, body, hbody, rfl, rfl⟩ := h
      exact ⟨inner, entries, body, rfl, hbody, rfl, rfl⟩

/-- The texts of a value with space around them. -/
def IsDocument (levels : Nat) : Value → List UInt8 → Prop := Spaced (IsText levels)

namespace Reader

/-- A word is read, whatever follows. -/
theorem word_append (cs : List Char) (rest : List UInt8) :
    word cs (wordBytes cs ++ rest) = .ok rest := by
  induction cs with
  | nil => rfl
  | cons c cs ih =>
      rw [wordBytes, List.map_cons, List.cons_append, word, if_pos rfl]
      exact ih

/-- Space in front of a value is skipped. -/
theorem value_gap_append {levels : Nat} {gap : List UInt8} (hgap : IsGap gap)
    (bytes : List UInt8) : value levels (gap ++ bytes) = value levels bytes := by
  unfold value
  rw [skipSpace_gap_append hgap]

/-- The members of an object are collected in their order. -/
theorem takesMembers_collect {inner : Nat} (hvalue : ReadsBack (value inner) (IsText inner))
    (entries before : List (String × Value)) :
    TakesMembers (fun key entries bytes => do
        let (v, left) ← value inner (← colon bytes)
        return (entries ++ [(key, v)], left))
      (IsText inner) entries before (before ++ entries) := by
  induction entries generalizing before with
  | nil =>
      rw [List.append_nil]
      exact .nil
  | cons entry entries ih =>
      have hmore := ih (before ++ [entry])
      rw [List.append_assoc, List.singleton_append] at hmore
      refine .cons ?_ hmore
      intro gap behind bytes rest hgap hbehind htext hrest
      simp only [bind, Except.bind, colon_gap_append hgap, value_gap_append hbehind,
        hvalue.reads htext hrest]
      rfl

/-- A digit does not begin anything but a number. -/
theorem apart_of_isDigit {b : UInt8} (h : isDigit b) :
    ¬ isSpace b ∧ b ≠ byte ']' ∧ b ≠ byte 'n' ∧ b ≠ byte 't' ∧ b ≠ byte 'f' ∧ b ≠ byte '-' := by
  have hbounds : 0x30 ≤ b.toNat ∧ b.toNat ≤ 0x39 := Text.Utf8.between_iff.mp h
  have apart (c : UInt8) (hc : c.toNat < 0x30 ∨ 0x39 < c.toNat) : b ≠ c := by
    rintro rfl
    omega
  refine ⟨?_, apart _ (by decide), apart _ (by decide), apart _ (by decide), apart _ (by decide),
    apart _ (by decide)⟩
  simp [isSpace, apart 0x20 (by decide), apart 0x0A (by decide), apart 0x09 (by decide),
    apart 0x0D (by decide)]

end Reader

/-- A text of the value can begin with the byte. -/
def Value.BeginsWith : Value → UInt8 → Prop
  | .null, b => b = byte 'n'
  | .bool true, b => b = byte 't'
  | .bool false, b => b = byte 'f'
  | .number _, b => b = byte '-' ∨ Reader.isDigit b
  | .string _, b => b = byte '"'
  | .array _, b => b = byte '['
  | .object _, b => b = byte '\x7b'

namespace Value.BeginsWith

variable {v : Value}

/-- Only null begins with its letter. -/
theorem eq_null (h : v.BeginsWith (byte 'n')) : v = .null := by
  cases v with
  | null => rfl
  | bool flag => cases flag <;> rw [BeginsWith] at h <;> exact absurd h (by decide)
  | number | string | array | object => rw [BeginsWith] at h; exact absurd h (by decide)

/-- Only strings begin with a quote. -/
theorem exists_string (h : v.BeginsWith (byte '"')) : ∃ s, v = .string s := by
  cases v with
  | string s => exact ⟨s, rfl⟩
  | bool flag => cases flag <;> rw [BeginsWith] at h <;> exact absurd h (by decide)
  | null | number | array | object => rw [BeginsWith] at h; exact absurd h (by decide)

/-- Only arrays begin with their bracket. -/
theorem exists_array (h : v.BeginsWith (byte '[')) : ∃ items, v = .array items := by
  cases v with
  | array items => exact ⟨items, rfl⟩
  | bool flag => cases flag <;> rw [BeginsWith] at h <;> exact absurd h (by decide)
  | null | number | string | object => rw [BeginsWith] at h; exact absurd h (by decide)

end Value.BeginsWith

/-- **The first byte** of a text tells what kind of value it is. -/
theorem IsText.beginsWith {levels : Nat} {v : Value} {bytes : List UInt8}
    (h : IsText levels v bytes) : ∃ b r, bytes = b :: r ∧ v.BeginsWith b := by
  cases v with
  | null => rw [IsText] at h; exact ⟨_, _, h, rfl⟩
  | bool b => cases b <;> rw [IsText] at h <;> exact ⟨_, _, h, rfl⟩
  | number n =>
      rw [IsText] at h
      rcases h with ⟨r, rfl, -⟩ | ⟨b, r, rfl, hdigit, -⟩
      · exact ⟨_, _, rfl, .inl rfl⟩
      · exact ⟨b, r, rfl, .inr hdigit⟩
  | string s =>
      rw [IsText] at h
      obtain ⟨content, -, rfl⟩ := h
      exact ⟨_, _, rfl, rfl⟩
  | array items =>
      obtain ⟨inner, body, -, -, rfl⟩ := h.exists_of_array
      exact ⟨_, _, rfl, rfl⟩
  | object members =>
      obtain ⟨inner, entries, body, -, -, -, rfl⟩ := h.exists_of_object
      exact ⟨_, _, rfl, rfl⟩

/-- A text of a value begins with neither space nor a closing bracket. -/
theorem IsText.starts {levels : Nat} {v : Value} {bytes : List UInt8} (h : IsText levels v bytes) :
    ∃ b r, bytes = b :: r ∧ ¬ Reader.isSpace b ∧ b ≠ byte ']' := by
  obtain ⟨b, r, rfl, hbegins⟩ := h.beginsWith
  refine ⟨b, r, rfl, ?_⟩
  cases v with
  | bool flag => cases flag <;> rw [hbegins] <;> decide
  | number n =>
      rcases hbegins with rfl | hdigit
      · decide
      · obtain ⟨hspace, hclose, -⟩ := Reader.apart_of_isDigit hdigit
        exact ⟨hspace, hclose⟩
  | null | string | array | object => rw [hbegins]; decide

/-- No value has an empty text. -/
theorem IsText.ne_nil {levels : Nat} {v : Value} {bytes : List UInt8} (h : IsText levels v bytes) :
    bytes ≠ [] := by
  obtain ⟨b, r, rfl, -⟩ := h.starts
  exact List.cons_ne_nil b r

namespace Reader

variable {levels : Nat} {rest : List UInt8}

/-- A value by its first byte. -/
theorem value_cons {b : UInt8} (hspace : ¬ isSpace b) (r : List UInt8) :
    value levels (b :: r) =
      if b = byte 'n' then (word ['u', 'l', 'l'] r).map fun left => (.null, left)
      else if b = byte 't' then (word ['r', 'u', 'e'] r).map fun left => (.bool true, left)
      else if b = byte 'f' then (word ['a', 'l', 's', 'e'] r).map fun left => (.bool false, left)
      else if b = byte '-' then (number false r).map fun (n, left) => (.number n, left)
      else if isDigit b then (number true (b :: r)).map fun (n, left) => (.number n, left)
      else if b = byte '"' then (string r).map fun (s, left) => (.string s, left)
      else if b = byte '[' then
        match levels with
        | 0 => refuse .tooDeep r
        | inner + 1 =>
          (items (value inner) (r.length + 1) true r).map fun (xs, left) => (.array xs, left)
      else if b = byte '\x7b' then
        match levels with
        | 0 => refuse .tooDeep r
        | inner + 1 =>
          (members (fun key entries bytes => do
            let (v, left) ← value inner (← colon bytes)
            return (entries ++ [(key, v)], left)) (r.length + 1) true [] r).map
              fun (entries, left) => (.object (Members.ofList entries), left)
      else refuse .noValue r := by
  have hvalue := value.eq_def levels (b :: r)
  simp only [skipSpace_cons hspace] at hvalue
  exact hvalue

/-- Null is read from its word. -/
theorem value_null : value levels (wordBytes ['n', 'u', 'l', 'l'] ++ rest) = .ok (.null, rest) := by
  rw [wordBytes, List.map_cons, List.cons_append, value_cons (by decide), if_pos rfl]
  exact congrArg _ (word_append ['u', 'l', 'l'] rest)

/-- The value true is read from its word. -/
theorem value_true :
    value levels (wordBytes ['t', 'r', 'u', 'e'] ++ rest) = .ok (.bool true, rest) := by
  rw [wordBytes, List.map_cons, List.cons_append, value_cons (by decide), if_neg (by decide),
    if_pos rfl]
  exact congrArg _ (word_append ['r', 'u', 'e'] rest)

/-- The value false is read from its word. -/
theorem value_false :
    value levels (wordBytes ['f', 'a', 'l', 's', 'e'] ++ rest) = .ok (.bool false, rest) := by
  rw [wordBytes, List.map_cons, List.cons_append, value_cons (by decide), if_neg (by decide),
    if_neg (by decide), if_pos rfl]
  exact congrArg _ (word_append ['a', 'l', 's', 'e'] rest)

/-- A number is read from its text, up to a byte that ends it. -/
theorem value_number {n : Number} {bytes : List UInt8} (h : IsNumberText n bytes)
    (hrest : Ends rest) : value levels (bytes ++ rest) = .ok (.number n, rest) := by
  rcases h with ⟨r, rfl, hnumber⟩ | ⟨b, r, rfl, hdigit, hnumber⟩
  · have hread := isLocal_number false hrest hnumber
    rw [List.cons_append, value_cons (by decide), if_neg (by decide), if_neg (by decide),
      if_neg (by decide), if_pos rfl, hread]
    rfl
  · obtain ⟨hspace, -, hn, ht, hf, hminus⟩ := apart_of_isDigit hdigit
    have hread := isLocal_number true hrest hnumber
    rw [List.cons_append] at hread ⊢
    rw [value_cons hspace, if_neg hn, if_neg ht, if_neg hf, if_neg hminus, if_pos hdigit, hread]
    rfl

/-- A string is read from its text. -/
theorem value_string {s : String} {bytes : List UInt8} (h : IsQuoted s bytes) :
    value levels (bytes ++ rest) = .ok (.string s, rest) := by
  obtain ⟨content, hcontent, rfl⟩ := h
  rw [List.append_assoc, List.cons_append, List.singleton_append, value_cons (by decide),
    if_neg (by decide), if_neg (by decide), if_neg (by decide), if_neg (by decide),
    if_neg (by decide), if_pos rfl, string_content_append hcontent]
  rfl

/-- An array is read if its items are. -/
theorem value_array (hvalue : ReadsBack (value levels) (IsText levels)) {items : List Value}
    {body : List UInt8} (h : IsBody (IsText levels) items body) :
    value (levels + 1) (byte '[' :: (body ++ [byte ']']) ++ rest) = .ok (.array items, rest) := by
  have hlength := h.length_le (fun _ _ hmiddle => IsText.ne_nil hmiddle) (byte ']' :: rest)
  rw [List.cons_append, List.append_assoc, List.singleton_append, value_cons (by decide),
    if_neg (by decide), if_neg (by decide), if_neg (by decide), if_neg (by decide),
    if_neg (by decide), if_neg (by decide), if_pos rfl]
  simp only [items_body hvalue h hlength]
  rfl

/-- An object is read if its members are. -/
theorem value_object (hvalue : ReadsBack (value levels) (IsText levels))
    {entries : List (String × Value)} {body : List UInt8}
    (h : IsBody (IsMember (IsText levels)) entries body) :
    value (levels + 1) (byte '\x7b' :: (body ++ [byte '\x7d']) ++ rest) =
      .ok (.object (Members.ofList entries), rest) := by
  have hlength := h.length_le (fun _ _ hmiddle => hmiddle.ne_nil) (byte '\x7d' :: rest)
  rw [List.cons_append, List.append_assoc, List.singleton_append, value_cons (by decide),
    if_neg (by decide), if_neg (by decide), if_neg (by decide), if_neg (by decide),
    if_neg (by decide), if_neg (by decide), if_neg (by decide), if_pos rfl]
  simp only [members_body h (takesMembers_collect hvalue entries []) hlength, List.nil_append]
  rfl

end Reader

/-- **Values.** The reader of values reads back every text of a value. The induction is on the
levels, which arrays and objects use up. -/
theorem readsBack_value (levels : Nat) : ReadsBack (Reader.value levels) (IsText levels) := by
  induction levels using Nat.strong_induction_on with
  | _ levels ih =>
      refine ⟨IsText.starts, fun {v bytes rest} h hrest => ?_⟩
      cases v with
      | null => rw [IsText] at h; rw [h, Reader.value_null]
      | bool b =>
          cases b with
          | false => rw [IsText] at h; rw [h, Reader.value_false]
          | true => rw [IsText] at h; rw [h, Reader.value_true]
      | number n => rw [IsText] at h; exact Reader.value_number h hrest
      | string s => rw [IsText] at h; exact Reader.value_string h
      | array items =>
          obtain ⟨inner, body, rfl, hbody, rfl⟩ := h.exists_of_array
          exact Reader.value_array (ih inner (Nat.lt_succ_self inner)) hbody
      | object members =>
          obtain ⟨inner, entries, body, rfl, hbody, rfl, rfl⟩ := h.exists_of_object
          exact Reader.value_object (ih inner (Nat.lt_succ_self inner)) hbody

/-- **Documents.** Parsing reads back the texts of values that are nested no deeper than the
limit, whatever space is around them. -/
theorem Value.parseBytes_of_isDocument {v : Value} {bytes : List UInt8}
    (h : IsDocument maxLevels v bytes) : parseBytes bytes = .ok v := by
  obtain ⟨before, middle, behind, hbefore, hmiddle, hbehind, rfl⟩ := h
  refine Reader.whole_eq_ok ?_ hbehind
  rw [List.append_assoc, Reader.value_gap_append hbefore]
  exact (readsBack_value maxLevels).reads hmiddle (Reader.ends_gap hbehind)

end Switchboard.Json
