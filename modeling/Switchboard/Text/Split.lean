/-!
# Splitting

Splitting a list at a separator: at its first occurrence, or at each occurrence of a single item.
-/

namespace Switchboard.Text.Split

variable {α : Type} [DecidableEq α]

/-- Splits a list at the first occurrence of a separator. -/
def once (separator : List α) : List α → Option (List α × List α)
  | [] => none
  | x :: rest =>
    if separator.isPrefixOf (x :: rest) then some ([], (x :: rest).drop separator.length)
    else (once separator rest).map fun (front, back) => (x :: front, back)

/-- What is behind the separator is no longer than the list. -/
theorem length_of_once {separator xs front back : List α}
    (h : once separator xs = some (front, back)) : back.length ≤ xs.length := by
  induction xs generalizing front with
  | nil => simp [once] at h
  | cons x rest ih =>
    unfold once at h
    split at h
    · simp only [Option.some.injEq, Prod.mk.injEq] at h
      rw [← h.2, List.length_drop]
      exact Nat.sub_le _ _
    · obtain ⟨⟨front', back'⟩, hsplit, heq⟩ := Option.map_eq_some_iff.1 h
      simp only [Prod.mk.injEq] at heq
      obtain ⟨-, rfl⟩ := heq
      exact Nat.le_succ_of_le (ih hsplit)

/-- Splits a list at each occurrence of an item. -/
def all (separator : α) : List α → List (List α)
  | [] => [[]]
  | x :: rest =>
    match all separator rest with
    | piece :: pieces => if x = separator then [] :: piece :: pieces else (x :: piece) :: pieces
    | [] => [[x]]

end Switchboard.Text.Split
