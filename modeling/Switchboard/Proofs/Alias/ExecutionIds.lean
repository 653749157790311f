import Switchboard.Alias.Dispatch
import Switchboard.Proofs.Json.Acceptance
import Switchboard.Proofs.Json.Integers

/-!
# Identifiers of executions

The body of an answer names the execution that it accepts in one of three places: the body is a JSON
string, or it is an object with a string under `id`, or with an object under `execution` that has one.
A body that names nothing is itself the identifier.

The members are looked up one after the other, and the first that is there is taken, whatever it is.
So a member `id` that is no string hides the identifier under `execution`, and what is told in chat is
then the whole body.

Bodies are compared with the grammar of JSON, in which arrays and objects are nested no deeper than
the reader allows.

## Main results

* `executionId_eq_iff`: which identifier is taken from a body.
-/

namespace Switchboard.Alias

open Json (IsDocument IsExact IsSixtyFourBit Members Value)

/-- The places where a value names an execution, in the order in which they are preferred. Only
objects have members. -/
inductive Names : Value → String → Prop
  | text {id : String} : Names (.string id) id
  | own {value : Value} {id : String} (hid : value.get? "id" = some (.string id)) : Names value id
  | inner {value execution : Value} {id : String}
      (hown : ∀ own, value.get? "id" ≠ some (.string own))
      (hexecution : value.get? "execution" = some execution)
      (hid : execution.get? "id" = some (.string id)) : Names value id

/-- A member `id` that is no string, in an object that names an execution all the same. -/
def Hides (value : Value) : Prop :=
  ∃ own id, value.get? "id" = some own ∧ (∀ s, own ≠ .string s) ∧ Names value id

/-- The identifier of a body, as it is meant: what the body names or else the body itself, without
white space around it. -/
inductive Identifies (body : String) : String → Prop
  | named {value : Value} {id : String}
      (hvalue : IsDocument Value.maxLevels value (Text.Utf8.encode body)) (hid : Names value id) :
      Identifies body id
  | bare (hnone : ∀ value id, IsDocument Value.maxLevels value (Text.Utf8.encode body) →
      ¬ Names value id) : Identifies body (Text.trim body)

/-- A body whose identifier is hidden. -/
def IsHidden (body : String) : Prop :=
  ∃ value, IsDocument Value.maxLevels value (Text.Utf8.encode body) ∧ Hides value

/-! ### Values -/

/-- The identifier that is taken from a value. -/
def idOf? : Value → Option String
  | .string s => some s
  | .object members => executionIdOfMembers members
  | _ => none

/-- The identifier of a body, in terms of the value that is read from it. -/
theorem executionId_eq (body : String) :
    executionId body = ((Value.parse body).toOption.bind idOf?).getD (Text.trim body) := by
  unfold executionId
  cases Value.parse body with
  | error fault => rfl
  | ok value => cases value <;> rfl

/-- What is taken from an object is under `id`, or under `execution` if nothing is under `id`. -/
theorem executionIdOfMembers_eq_some_iff {members : Members} {id : String} :
    executionIdOfMembers members = some id ↔
      (Value.object members).get? "id" = some (.string id) ∨
        (Value.object members).get? "id" = none ∧ ∃ execution,
          (Value.object members).get? "execution" = some execution ∧
            execution.get? "id" = some (.string id) := by
  have hget (key : String) : Members.get? members key = (Value.object members).get? key := rfl
  unfold executionIdOfMembers
  rw [hget, hget]
  cases (Value.object members).get? "id" with
  | some own =>
      simp only [Option.some_or, Option.bind_some, Value.string?_eq_some_iff, Option.some.injEq,
        reduceCtorEq, false_and, or_false]
  | none =>
      simp only [Option.none_or, Option.bind_eq_some_iff, Value.string?_eq_some_iff, reduceCtorEq,
        true_and, false_or, exists_eq_right]

/-- A string names itself, and nothing else. -/
theorem Names.of_string {s id : String} (h : Names (.string s) id) : s = id := by
  cases h with
  | text => rfl
  | own hid => cases hid
  | inner _ hexecution _ => cases hexecution

/-- An object names at most one identifier, and hides it if a member `id` is no string. -/
theorem names_and_not_hides_iff {members : Members} {id : String} :
    Names (.object members) id ∧ ¬ Hides (.object members) ↔
      (Value.object members).get? "id" = some (.string id) ∨
        (Value.object members).get? "id" = none ∧ ∃ execution,
          (Value.object members).get? "execution" = some execution ∧
            execution.get? "id" = some (.string id) := by
  constructor
  · rintro ⟨hnames, hhides⟩
    cases hnames with
    | own hid => exact .inl hid
    | inner hown hexecution hid =>
        refine .inr ⟨?_, _, hexecution, hid⟩
        by_contra hsome
        obtain ⟨own, hown'⟩ := Option.ne_none_iff_exists'.mp hsome
        exact hhides ⟨own, id, hown', fun s hs => hown s (hs ▸ hown'), .inner hown hexecution hid⟩
  · rintro (hid | ⟨hnone, execution, hexecution, hid⟩)
    · refine ⟨.own hid, ?_⟩
      rintro ⟨own, _, hown, hstring, -⟩
      exact hstring id (Option.some.inj (hown.symm.trans hid))
    · refine ⟨.inner (fun own => by simp [hnone]) hexecution hid, ?_⟩
      rintro ⟨own, _, hown, -⟩
      exact absurd (hnone.symm.trans hown) (by simp)

/-- **Values.** What is taken from a value is what it names, unless that is hidden. -/
theorem idOf?_eq_some_iff {value : Value} {id : String} :
    idOf? value = some id ↔ Names value id ∧ ¬ Hides value := by
  have hnone (hmember : ∀ key, value.get? key = none) : ¬ Hides value := by
    rintro ⟨own, _, hown, -⟩
    exact absurd ((hmember _).symm.trans hown) (by simp)
  cases value with
  | object members => exact executionIdOfMembers_eq_some_iff.trans names_and_not_hides_iff.symm
  | string s =>
      refine ⟨fun h => ?_, fun h => congrArg some h.1.of_string⟩
      rw [← Option.some.inj h]
      exact ⟨.text, hnone fun _ => rfl⟩
  | _ =>
      refine ⟨nofun, fun h => ?_⟩
      cases h.1 with
      | own hid => cases hid
      | inner _ hexecution _ => cases hexecution

/-! ### Bodies -/

section Bodies

variable {body id : String} {value : Value}

/-- A body that is read is a text of the value that was read, and of no other one. -/
theorem isDocument_iff {other : Value} (hparse : Value.parse body = .ok value) :
    IsDocument Value.maxLevels other (Text.Utf8.encode body) ↔ other = value := by
  rw [← Value.parse_eq_ok_iff, hparse, Except.ok.injEq]
  exact eq_comm

/-- Whether an identifier is hidden in a body can be told from its value. -/
theorem isHidden_iff (hparse : Value.parse body = .ok value) : IsHidden body ↔ Hides value := by
  simp only [IsHidden, isDocument_iff hparse, exists_eq_left]

/-- What a body identifies can be told from its value and from the trimmed body. -/
theorem identifies_iff (hparse : Value.parse body = .ok value) :
    Identifies body id ↔ Names value id ∨ (∀ id, ¬ Names value id) ∧ id = Text.trim body := by
  constructor
  · rintro (⟨hvalue, hid⟩ | hnone)
    · exact .inl ((isDocument_iff hparse).mp hvalue ▸ hid)
    · exact .inr ⟨fun id => hnone value id ((isDocument_iff hparse).mpr rfl), rfl⟩
  · rintro (hid | ⟨hnone, rfl⟩)
    · exact .named ((isDocument_iff hparse).mpr rfl) hid
    · exact .bare fun other id hother => (isDocument_iff hparse).mp hother ▸ hnone id

/-- **Bodies.** The identifier of a body is taken, unless it is hidden. Then the body itself is taken,
without white space around it. -/
theorem executionId_eq_iff :
    executionId body = id ↔
      (¬ IsHidden body ∧ Identifies body id) ∨ (IsHidden body ∧ id = Text.trim body) := by
  rw [executionId_eq]
  cases hparse : Value.parse body with
  | error fault =>
      have hnone (value : Value) : ¬ IsDocument Value.maxLevels value (Text.Utf8.encode body) := by
        rw [← Value.parse_eq_ok_iff, hparse]
        exact nofun
      have hhidden : ¬ IsHidden body := fun ⟨value, hvalue, _⟩ => hnone value hvalue
      have hbare : Identifies body id ↔ id = Text.trim body := by
        constructor
        · rintro (⟨hvalue, -⟩ | -)
          · exact absurd hvalue (hnone _)
          · rfl
        · rintro rfl
          exact .bare fun value _ hvalue => absurd hvalue (hnone value)
      simp only [hhidden, not_false_eq_true, true_and, false_and, or_false, hbare]
      exact eq_comm
  | ok value =>
      rw [isHidden_iff hparse, identifies_iff hparse]
      simp only [Except.toOption, Option.bind_some]
      cases htaken : idOf? value with
      | some taken =>
          obtain ⟨hnames, hhides⟩ := idOf?_eq_some_iff.mp htaken
          have hunique (id : String) : Names value id ↔ taken = id := by
            rw [← Option.some.injEq, ← htaken, idOf?_eq_some_iff, and_iff_left hhides]
          simp only [Option.getD_some, hhides, not_false_eq_true, true_and, false_and, or_false,
            hunique, forall_eq']
      | none =>
          rw [Option.getD_none, eq_comm]
          by_cases hhides : Hides value
          · simp only [hhides, not_true_eq_false, false_and, true_and, false_or]
          · have hnone (id : String) : ¬ Names value id := fun hid =>
              Option.some_ne_none id ((idOf?_eq_some_iff.mpr ⟨hid, hhides⟩).symm.trans htaken)
            simp only [hhides, not_false_eq_true, true_and, false_and, or_false, hnone, false_or,
              implies_true]

end Bodies

/-- An object in which a number under `id` hides the string under `execution`. -/
def numbered : Value :=
  .object [("id", .number (.int 7)), ("execution", .object [("id", .string "5f1e")])]

/-- The number hides the string: the identifier is the whole body. -/
theorem executionId_numbered :
    numbered.text = "\x7b\"id\":7,\"execution\":\x7b\"id\":\"5f1e\"\x7d\x7d" ∧
      Identifies numbered.text "5f1e" ∧ executionId numbered.text = numbered.text := by
  have hexact : IsExact Value.maxLevels numbered := by
    simp [IsExact, IsSixtyFourBit, numbered, Value.maxLevels]
  have hparse := Value.parse_text hexact.fits
  refine ⟨by decide, (identifies_iff hparse).mpr (.inl (.inner ?_ rfl rfl)), ?_⟩
  · intro own hown
    cases hown
  · rw [executionId_eq, hparse]
    decide

end Switchboard.Alias
