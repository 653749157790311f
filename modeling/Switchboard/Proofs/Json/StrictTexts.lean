import Switchboard.Proofs.Json.Members
import Switchboard.Proofs.Json.Texts

/-!
# Texts without repeated keys

`IsText` lets an object repeat a key, since the reader of values keeps the last value. The readers
of records refuse a repeated key, so what they are asked to read is narrower: `IsStrictText` is the
same grammar, but every object is written with its own members, in their order, and no key twice.

## Main results

* `IsBody.transfer`: what is said of the items of a list is said of what corresponds to them.
* `IsStrictText.isText`: strict texts are texts.
-/

namespace Switchboard.Json

open Reader (byte)

/-! ### Corresponding items -/

section Transfer

variable {α β : Type} {text : α → List UInt8 → Prop} {text' : β → List UInt8 → Prop}
  {R : α → β → Prop} {xs : List α} {ys : List β} {bytes : List UInt8}

/-- What holds of a text may be weakened, with white space around it. -/
theorem Spaced.imp {x : α} {y : β} (h : Spaced text x bytes)
    (himp : ∀ middle, text x middle → text' y middle) : Spaced text' y bytes := by
  obtain ⟨before, middle, behind, hbefore, hmiddle, hbehind, hbytes⟩ := h
  exact ⟨before, middle, behind, hbefore, himp middle hmiddle, hbehind, hbytes⟩

/-- Texts in a list stand for whatever they stand for one by one. -/
theorem Separated.transfer (himp : ∀ x y middle, R x y → text x middle → text' y middle)
    (h : Separated text xs bytes) (hxs : List.Forall₂ R xs ys) : Separated text' ys bytes := by
  induction h generalizing ys with
  | last hx =>
      cases hxs with
      | cons hR hnil =>
          cases hnil
          exact .last (hx.imp fun middle => himp _ _ middle hR)
  | cons hx _ ih =>
      cases hxs with
      | cons hR hmore => exact .cons (hx.imp fun middle => himp _ _ middle hR) (ih hmore)

/-- Texts of items are texts of corresponding items, if that holds of each item. -/
theorem IsBody.transfer (himp : ∀ x y middle, R x y → text x middle → text' y middle)
    (h : IsBody text xs bytes) (hxs : List.Forall₂ R xs ys) : IsBody text' ys bytes := by
  rcases h with ⟨rfl, hgap⟩ | hseparated
  · cases hxs
    exact .inl ⟨rfl, hgap⟩
  · exact .inr (hseparated.transfer himp hxs)

/-- What holds of the items of a body may be weakened. -/
theorem IsBody.imp {text' : α → List UInt8 → Prop} (h : IsBody text xs bytes)
    (himp : ∀ x middle, text x middle → text' x middle) : IsBody text' xs bytes := by
  refine h.transfer (R := Eq) ?_ (List.forall₂_eq_eq_eq ▸ rfl)
  rintro x _ middle rfl hmiddle
  exact himp x middle hmiddle

/-- What holds of the value of a member may be weakened. -/
theorem IsMember.imp {text' : α → List UInt8 → Prop} {entry : String × α}
    (h : IsMember text entry bytes) (himp : ∀ x middle, text x middle → text' x middle) :
    IsMember text' entry bytes := by
  obtain ⟨key, before, behind, value, hkey, hbefore, hbehind, hvalue, hbytes⟩ := h
  exact ⟨key, before, behind, value, hkey, hbefore, hbehind, himp _ _ hvalue, hbytes⟩

end Transfer

/-! ### Strict texts -/

/-- The texts of a value in which no object repeats a key. -/
def IsStrictText : (levels : Nat) → Value → List UInt8 → Prop
  | _, .null, bytes => bytes = wordBytes ['n', 'u', 'l', 'l']
  | _, .bool true, bytes => bytes = wordBytes ['t', 'r', 'u', 'e']
  | _, .bool false, bytes => bytes = wordBytes ['f', 'a', 'l', 's', 'e']
  | _, .number n, bytes => IsNumberText n bytes
  | _, .string s, bytes => IsQuoted s bytes
  | 0, .array _, _ => False
  | inner + 1, .array items, bytes =>
    ∃ body, IsBody (IsStrictText inner) items body ∧ bytes = byte '[' :: (body ++ [byte ']'])
  | 0, .object _, _ => False
  | inner + 1, .object members, bytes =>
    (members.map Prod.fst).Nodup ∧
      ∃ body, IsBody (IsMember (IsStrictText inner)) members body ∧
        bytes = byte '\x7b' :: (body ++ [byte '\x7d'])

/-- The strict text of an array. -/
theorem IsStrictText.exists_of_array {levels : Nat} {items : List Value} {bytes : List UInt8}
    (h : IsStrictText levels (.array items) bytes) :
    ∃ inner body, levels = inner + 1 ∧ IsBody (IsStrictText inner) items body ∧
      bytes = byte '[' :: (body ++ [byte ']']) := by
  cases levels with
  | zero => rw [IsStrictText] at h; exact h.elim
  | succ inner =>
      rw [IsStrictText] at h
      obtain ⟨body, hbody, rfl⟩ := h
      exact ⟨inner, body, rfl, hbody, rfl⟩

/-- The strict text of an object, no key of which is given twice. -/
theorem IsStrictText.exists_of_object {levels : Nat} {members : Members} {bytes : List UInt8}
    (h : IsStrictText levels (.object members) bytes) :
    ∃ inner body, levels = inner + 1 ∧ (members.map Prod.fst).Nodup ∧
      IsBody (IsMember (IsStrictText inner)) members body ∧
      bytes = byte '\x7b' :: (body ++ [byte '\x7d']) := by
  cases levels with
  | zero => rw [IsStrictText] at h; exact h.elim
  | succ inner =>
      rw [IsStrictText] at h
      obtain ⟨hnodup, body, hbody, rfl⟩ := h
      exact ⟨inner, body, rfl, hnodup, hbody, rfl⟩

/-- **Strict texts** are texts. -/
theorem IsStrictText.isText {levels : Nat} {v : Value} {bytes : List UInt8}
    (h : IsStrictText levels v bytes) : IsText levels v bytes := by
  induction levels using Nat.strong_induction_on generalizing v bytes with
  | _ levels ih =>
      cases v with
      | null => rw [IsStrictText] at h; rwa [IsText]
      | bool b => cases b <;> rw [IsStrictText] at h <;> rwa [IsText]
      | number n => rw [IsStrictText] at h; rwa [IsText]
      | string s => rw [IsStrictText] at h; rwa [IsText]
      | array items =>
          obtain ⟨inner, body, rfl, hbody, rfl⟩ := h.exists_of_array
          rw [IsText]
          exact ⟨body, hbody.imp fun x middle => ih inner (Nat.lt_succ_self inner), rfl⟩
      | object members =>
          obtain ⟨inner, body, rfl, hnodup, hbody, rfl⟩ := h.exists_of_object
          rw [IsText]
          refine ⟨members, body, hbody.imp fun entry middle hmember => ?_,
            (Members.ofList_eq_self hnodup).symm, rfl⟩
          exact hmember.imp fun x middle => ih inner (Nat.lt_succ_self inner)

/-- Only the text of `null` begins with its letter. -/
theorem IsText.head_ne_of_ne_null {levels : Nat} {v : Value} {bytes : List UInt8}
    (h : IsText levels v bytes) (hne : v ≠ .null) : bytes.head? ≠ some (byte 'n') := by
  obtain ⟨b, r, rfl, hbegins⟩ := h.beginsWith
  intro heq
  obtain rfl : b = byte 'n' := Option.some.inj heq
  exact hne hbegins.eq_null

end Switchboard.Json
