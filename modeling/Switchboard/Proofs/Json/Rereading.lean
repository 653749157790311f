import Switchboard.Proofs.Json.Acceptance
import Switchboard.Proofs.Json.Doubles

/-!
# Values that are written after they were read

A value that was read from a text is written as another text, which is read again. It need not be read
as the same value: a double may be read as a neighbour. But nothing else changes, and whatever was
read can be read again, as long as the value is not nested too deeply. A value can be nested less
deeply than the text that it was read from, since of a repeated key only the last value is left.

## Main results

* `isStrictText_reread`: the compact text of a value that was read is a text of the value with its
  numbers as they are read from it.
-/

namespace Switchboard.Json

open Reader (byte)
open Text.Utf8 (encodeChar encodeChars)

/-- The number that the text of a number is read as. -/
def Number.reread (n : Number) : Number :=
  match Value.parseBytes (encodeChars n.text) with
  | .ok (.number m) => m
  | _ => n

namespace Value

mutual

/-- A value with the numbers that the texts of its numbers are read as. -/
def reread : Value → Value
  | null => null
  | bool b => bool b
  | number n => number n.reread
  | string s => string s
  | array items => array (rereadItems items)
  | object members => object (rereadMembers members)

/-- The same for the items of an array. -/
def rereadItems : List Value → List Value
  | [] => []
  | item :: rest => reread item :: rereadItems rest

/-- The same for the members of an object. -/
def rereadMembers : List (String × Value) → List (String × Value)
  | [] => []
  | (key, value) :: rest => (key, reread value) :: rereadMembers rest

end

mutual

/-- How deep arrays and objects are nested in each other. -/
def depth : Value → Nat
  | null => 0
  | bool _ => 0
  | number _ => 0
  | string _ => 0
  | array items => itemsDepth items + 1
  | object members => membersDepth members + 1

/-- How deep they are nested in the items of an array. -/
def itemsDepth : List Value → Nat
  | [] => 0
  | item :: rest => Nat.max (depth item) (itemsDepth rest)

/-- How deep they are nested in the members of an object. -/
def membersDepth : List (String × Value) → Nat
  | [] => 0
  | (_, value) :: rest => Nat.max (depth value) (membersDepth rest)

end

/-- Items are read again one by one. -/
theorem rereadItems_eq (items : List Value) : rereadItems items = items.map reread := by
  induction items with
  | nil => rfl
  | cons item items ih => rw [rereadItems, ih, List.map_cons]

/-- Members are read again one by one, under their keys. -/
theorem rereadMembers_eq (members : Members) :
    rereadMembers members = members.map fun member => (member.1, member.2.reread) := by
  induction members with
  | nil => rfl
  | cons member members ih => rw [rereadMembers, ih, List.map_cons]

/-- No item is nested deeper than all of them. -/
theorem depth_le_itemsDepth {items : List Value} {item : Value} (h : item ∈ items) :
    item.depth ≤ itemsDepth items := by
  induction items with
  | nil => exact absurd h List.not_mem_nil
  | cons first items ih =>
      rw [itemsDepth]
      rcases List.mem_cons.mp h with rfl | h
      · exact Nat.le_max_left _ _
      · exact (ih h).trans (Nat.le_max_right _ _)

/-- No member is nested deeper than all of them. -/
theorem depth_le_membersDepth {members : Members} {member : String × Value}
    (h : member ∈ members) : member.2.depth ≤ membersDepth members := by
  induction members with
  | nil => exact absurd h List.not_mem_nil
  | cons first members ih =>
      rw [membersDepth]
      rcases List.mem_cons.mp h with rfl | h
      · exact Nat.le_max_left _ _
      · exact (ih h).trans (Nat.le_max_right _ _)

/-- A string is itself, and nothing else becomes one. -/
theorem string?_reread (v : Value) : v.reread.string? = v.string? := by
  cases v <;> rw [reread] <;> rfl

/-- What stands under a key is read again. -/
theorem get?_reread (v : Value) (key : String) :
    v.reread.get? key = (v.get? key).map reread := by
  cases v with
  | object members =>
      rw [reread, rereadMembers_eq]
      induction members with
      | nil => rfl
      | cons member members ih =>
          change Members.get? _ key = _ at ih ⊢
          rw [List.map_cons, Members.get?_cons]
          change _ = (Members.get? _ key).map reread
          rw [Members.get?_cons]
          split
          · rfl
          · exact ih
  | _ => rw [reread]; rfl

end Value

/-- A number that was read is written as a text of the number that it is read as then. -/
theorem IsNumberText.reread {n : Number} {bytes : List UInt8} (h : IsNumberText n bytes) :
    IsNumberText n.reread (encodeChars n.text) := by
  obtain ⟨m, hm⟩ := Number.exists_isNumberText h.isLegible
  have htext : IsText Value.maxLevels (.number m) (encodeChars n.text) := by
    rwa [IsText]
  rw [Number.reread, Value.parseBytes_of_isDocument (spaced_self htext)]
  exact hm

/-- Each item of a body has its text. -/
theorem IsBody.exists_of_mem {α : Type} {text : α → List UInt8 → Prop} {xs : List α}
    {bytes : List UInt8} (h : IsBody text xs bytes) : ∀ x ∈ xs, ∃ middle, text x middle := by
  rcases h with ⟨rfl, -⟩ | hseparated
  · exact fun x hx => absurd hx List.not_mem_nil
  · induction hseparated with
    | last h =>
        obtain ⟨_, middle, _, _, hmiddle, _⟩ := h
        exact List.forall_mem_singleton.mpr ⟨middle, hmiddle⟩
    | cons h _ ih =>
        obtain ⟨_, middle, _, _, hmiddle, _⟩ := h
        exact List.forall_mem_cons.mpr ⟨⟨middle, hmiddle⟩, ih⟩

/-- The items of an array are read again one by one. -/
theorem isStrictText_reread_array {levels : Nat} {items : List Value}
    (h : ∀ item ∈ items, IsStrictText levels item.reread (encodeChars item.chars)) :
    IsStrictText (levels + 1) (Value.array items).reread
      (encodeChars (Value.array items).chars) := by
  have hitems : IsBody (fun item => IsStrictText levels item.reread) items
      (encodeChars (Value.itemChars items)) := isBody_itemChars h
  have hsame : List.Forall₂ (fun item found => found = Value.reread item) items
      (items.map Value.reread) := List.forall₂_map_right_iff.mpr (List.forall₂_same.mpr fun _ _ => rfl)
  have hbody : IsBody (IsStrictText levels) (items.map Value.reread)
      (encodeChars (Value.itemChars items)) := by
    refine hitems.transfer ?_ hsame
    rintro item _ middle rfl hmiddle
    exact hmiddle
  rw [Value.reread, Value.rereadItems_eq, IsStrictText, Value.chars, List.cons_append,
    encodeChars_cons rfl, encodeChars_append]
  exact ⟨_, hbody, rfl⟩

/-- The members of an object are read again one by one. -/
theorem isStrictText_reread_object {levels : Nat} {members : Members}
    (hnodup : (members.map Prod.fst).Nodup)
    (h : ∀ member ∈ members,
      IsStrictText levels member.2.reread (encodeChars member.2.chars)) :
    IsStrictText (levels + 1) (Value.object members).reread
      (encodeChars (Value.object members).chars) := by
  have hmembers : IsBody (IsMember fun value => IsStrictText levels value.reread) members
      (encodeChars (Value.memberChars members)) := isBody_memberChars h
  have hsame : List.Forall₂
      (fun (member found : String × Value) => found = (member.1, member.2.reread)) members
      (members.map fun member => (member.1, member.2.reread)) :=
    List.forall₂_map_right_iff.mpr (List.forall₂_same.mpr fun _ _ => rfl)
  have hbody : IsBody (IsMember (IsStrictText levels))
      (members.map fun member => (member.1, member.2.reread))
      (encodeChars (Value.memberChars members)) := by
    refine hmembers.transfer ?_ hsame
    rintro member _ middle rfl hmiddle
    exact hmiddle
  rw [Value.reread, Value.rereadMembers_eq, IsStrictText, Value.chars, List.cons_append,
    encodeChars_cons rfl, encodeChars_append]
  refine ⟨?_, _, hbody, rfl⟩
  rwa [List.map_map]

/-- **Values that were read** can be read again from their compact texts. The induction is on the
levels, which are enough for what is left of the text that the value was read from. -/
theorem isStrictText_reread {levels limit : Nat} {v : Value} {bytes : List UInt8}
    (h : IsText limit v bytes) (hdepth : v.depth ≤ levels) :
    IsStrictText levels v.reread (encodeChars v.chars) := by
  induction levels using Nat.strong_induction_on generalizing limit v bytes with
  | _ levels ih =>
      cases v with
      | null => rw [Value.reread, IsStrictText]; rfl
      | bool b => cases b <;> rw [Value.reread, IsStrictText] <;> rfl
      | number n =>
          rw [IsText] at h
          rw [Value.reread, IsStrictText]
          exact h.reread
      | string s =>
          rw [Value.reread, IsStrictText]
          exact .of_quote s
      | array items =>
          rw [Value.depth] at hdepth
          obtain ⟨inner, rfl⟩ := Nat.exists_eq_add_of_le' (Nat.one_le_of_lt hdepth)
          obtain ⟨_, body, -, hbody, -⟩ := h.exists_of_array
          refine isStrictText_reread_array fun item hitem => ?_
          obtain ⟨middle, hmiddle⟩ := hbody.exists_of_mem item hitem
          exact ih inner (Nat.lt_succ_self inner) hmiddle
            ((Value.depth_le_itemsDepth hitem).trans (Nat.le_of_succ_le_succ hdepth))
      | object members =>
          rw [Value.depth] at hdepth
          obtain ⟨inner, rfl⟩ := Nat.exists_eq_add_of_le' (Nat.one_le_of_lt hdepth)
          obtain ⟨_, entries, body, -, hbody, rfl, -⟩ := h.exists_of_object
          refine isStrictText_reread_object (Members.nodup_ofList entries)
            fun member hmember => ?_
          obtain ⟨_, _, _, _, middle, -, -, -, hmiddle, -⟩ :=
            hbody.exists_of_mem member (Members.mem_of_mem_ofList hmember)
          exact ih inner (Nat.lt_succ_self inner) hmiddle
            ((Value.depth_le_membersDepth hmember).trans (Nat.le_of_succ_le_succ hdepth))

end Switchboard.Json
