import Mathlib.Tactic
import Switchboard.Alias.Format
import Switchboard.Proofs.Text.Pieces

/-!
# The segments of formats

A format is made up of its segments (`flatMap_chars_split`), and so it can be rewritten segment by
segment. Where the characters of literal text are replaced and the placeholders are kept, the result
is split at the same places (`split_rewrite`), provided that no brace gets into literal text.

## Main results

* `flatMap_chars_split`: the segments of a format make up the format.
* `split_rewrite`: the segments of a rewritten format are the rewritten segments.
-/

namespace Switchboard.Alias

namespace Segment

/-- All characters of literal text have a property. -/
def ForallLiteral (p : Char → Prop) : Segment → Prop
  | literal text => ∀ c ∈ text, p c
  | placeholder _ => True

instance (p : Char → Prop) [DecidablePred p] (segment : Segment) :
    Decidable (segment.ForallLiteral p) :=
  match segment with
  | .literal text => List.decidableBAll p text
  | .placeholder _ => .isTrue trivial

/-- What holds of the characters of a literal may be weakened. -/
theorem ForallLiteral.imp {p q : Char → Prop} {segment : Segment} (h : segment.ForallLiteral p)
    (hpq : ∀ c, p c → q c) : segment.ForallLiteral q := by
  cases segment with
  | literal text => exact fun c hc => hpq c (h c hc)
  | placeholder inner => trivial

/-- A segment in which every character of literal text is replaced. -/
def rewrite (f : Char → List Char) : Segment → Segment
  | literal text => .literal (text.flatMap f)
  | placeholder inner => .placeholder inner

end Segment

namespace Format

/-- A placeholder that is read is what the text begins with. -/
theorem placeholder?_eq_some {cs inner after : List Char}
    (h : placeholder? cs = some (inner, after)) : cs = (Segment.placeholder inner).chars ++ after := by
  obtain ⟨c, rest, front, rfl, honce, rfl⟩ := exists_of_placeholder? h
  rw [Text.Split.eq_append_of_once honce, Segment.chars]
  simp

/-- A character in front comes in as it is. -/
theorem flatMap_chars_consLiteral (c : Char) (segments : List Segment) :
    (consLiteral c segments).flatMap Segment.chars = c :: segments.flatMap Segment.chars := by
  unfold consLiteral
  split <;> simp [Segment.chars]

/-- A format that begins with a placeholder. -/
theorem split_of_placeholder? {cs inner after : List Char}
    (h : placeholder? cs = some (inner, after)) : split cs = .placeholder inner :: split after := by
  cases cs with
  | nil => exact absurd h (by simp [placeholder?])
  | cons c rest =>
      rw [split]
      split
      · next h' =>
          obtain ⟨rfl, rfl⟩ := Prod.mk.inj (Option.some.inj (h.symm.trans h'))
          rfl
      · next h' => exact absurd (h.symm.trans h') (by simp)

/-- A format that does not. -/
theorem split_cons {c : Char} {cs : List Char} (h : placeholder? (c :: cs) = none) :
    split (c :: cs) = consLiteral c (split cs) := by
  rw [split]
  split
  · next h' => exact absurd (h.symm.trans h') (by simp)
  · rfl

/-- **The segments of a format** make up the format. -/
theorem flatMap_chars_split (cs : List Char) : (split cs).flatMap Segment.chars = cs := by
  induction cs using split.induct with
  | case1 => rw [split]; rfl
  | case2 c rest inner after h _ ih =>
      rw [split_of_placeholder? h, List.flatMap_cons, ih, ← placeholder?_eq_some h]
  | case3 c rest h ih => rw [split_cons h, flatMap_chars_consLiteral, ih]

/-- Only the empty format has no segments. -/
theorem isEmpty_eq_isEmpty_split (format : String) :
    format.isEmpty = (split format.toList).isEmpty := by
  rw [Bool.eq_iff_iff, List.isEmpty_iff, String.isEmpty_iff]
  constructor
  · rintro rfl
    simp [split]
  · intro hsplit
    have hchars := flatMap_chars_split format.toList
    rw [hsplit] at hchars
    exact String.toList_eq_nil_iff.mp hchars.symm

/-! ### Literal text -/

/-- What stands behind a placeholder has no part in it. -/
theorem placeholder?_append {cs inner after : List Char}
    (h : placeholder? cs = some (inner, after)) (other : List Char) :
    placeholder? ((Segment.placeholder inner).chars ++ other) = some (inner, other) := by
  obtain ⟨c, rest, front, rfl, honce, rfl⟩ := exists_of_placeholder? h
  have honce' := Text.Split.once_append (by simp) honce other
  simp only [Segment.chars, List.cons_append, placeholder?, honce', Option.map_some]

/-- What holds of the literals holds of the character that came in, and of those without it. -/
theorem forall_mem_consLiteral {p : Char → Prop} {c : Char} {segments : List Segment}
    (h : ∀ segment ∈ consLiteral c segments, segment.ForallLiteral p) :
    p c ∧ ∀ segment ∈ segments, segment.ForallLiteral p := by
  unfold consLiteral at h
  split at h
  · obtain ⟨hliteral, hrest⟩ := List.forall_mem_cons.mp h
    obtain ⟨hc, htext⟩ := List.forall_mem_cons.mp hliteral
    exact ⟨hc, List.forall_mem_cons.mpr ⟨htext, hrest⟩⟩
  · obtain ⟨hliteral, hrest⟩ := List.forall_mem_cons.mp h
    exact ⟨hliteral c List.mem_cons_self, hrest⟩

/-- A text in front comes in as it is. -/
theorem flatMap_chars_foldr (text : List Char) (segments : List Segment) :
    (text.foldr consLiteral segments).flatMap Segment.chars =
      text ++ segments.flatMap Segment.chars := by
  induction text with
  | nil => rfl
  | cons c text ih => rw [List.foldr_cons, flatMap_chars_consLiteral, ih, List.cons_append]

/-- Text in front of a literal makes it longer. -/
theorem foldr_consLiteral_literal (text rest : List Char) (segments : List Segment) :
    text.foldr consLiteral (.literal rest :: segments) = .literal (text ++ rest) :: segments := by
  induction text with
  | nil => rfl
  | cons c text ih => rw [List.foldr_cons, ih]; rfl

/-- Text in front of a placeholder makes up a literal. -/
theorem foldr_consLiteral {text : List Char} (htext : text ≠ []) {segments : List Segment}
    (hsegments : ∀ rest others, segments ≠ .literal rest :: others) :
    text.foldr consLiteral segments = .literal text :: segments := by
  induction text with
  | nil => exact absurd rfl htext
  | cons c text ih =>
      by_cases hnil : text = []
      · subst hnil
        rw [List.foldr_cons, List.foldr_nil, consLiteral]
        exact fun rest others => hsegments rest others
      · rw [List.foldr_cons, ih hnil, consLiteral]

/-- Text in which no placeholder begins is literal. -/
theorem split_append_of_placeholder? {text rest : List Char}
    (h : ∀ before c behind, text = before ++ c :: behind →
      placeholder? (c :: behind ++ rest) = none) :
    split (text ++ rest) = text.foldr consLiteral (split rest) := by
  induction text with
  | nil => rfl
  | cons c text ih =>
      have hnone : placeholder? (c :: (text ++ rest)) = none := h [] c text rfl
      rw [List.cons_append, split_cons hnone, List.foldr_cons,
        ih fun before d behind htext => h (c :: before) d behind (by rw [htext]; rfl)]

/-- Characters other than braces are literal text. -/
theorem split_append {text : List Char} (htext : '\x7b' ∉ text) (rest : List Char) :
    split (text ++ rest) = text.foldr consLiteral (split rest) := by
  refine split_append_of_placeholder? fun before c behind heq => ?_
  unfold placeholder?
  split
  · next hbrace =>
      obtain rfl := (List.cons.inj hbrace).1
      exact absurd (heq ▸ List.mem_append_right before List.mem_cons_self) htext
  · rfl

/-! ### Rewriting -/

/-- Characters may be rewritten before they make up literals or behind. -/
theorem map_rewrite_consLiteral {f : Char → List Char} {c : Char} (hc : f c ≠ [])
    (segments : List Segment) :
    (consLiteral c segments).map (Segment.rewrite f) =
      (f c).foldr consLiteral (segments.map (Segment.rewrite f)) := by
  match segments with
  | [] => rw [List.map_nil, foldr_consLiteral hc (by simp)]; simp [consLiteral, Segment.rewrite]
  | .literal text :: segments =>
      rw [List.map_cons, Segment.rewrite, foldr_consLiteral_literal]
      simp [consLiteral, Segment.rewrite]
  | .placeholder inner :: segments =>
      rw [List.map_cons, Segment.rewrite, foldr_consLiteral hc (by simp)]
      simp [consLiteral, Segment.rewrite]

/-- Rewriting literals keeps the names of the placeholders. -/
theorem names_rewrite (f : Char → List Char) (segments : List Segment) :
    names (segments.map (Segment.rewrite f)) = names segments := by
  rw [names, names, List.filterMap_map]
  refine congrArg (List.filterMap · segments) (funext fun segment => ?_)
  cases segment <;> rfl

/-- **Rewriting.** A format whose literal text is rewritten has the same segments, with their literal
text rewritten. -/
theorem split_rewrite {f : Char → List Char} {cs : List Char}
    (hf : ∀ segment ∈ split cs, segment.ForallLiteral fun c => f c ≠ [] ∧ '\x7b' ∉ f c) :
    split (((split cs).map (Segment.rewrite f)).flatMap Segment.chars) =
      (split cs).map (Segment.rewrite f) := by
  induction cs using split.induct with
  | case1 => simp [split]
  | case2 c rest inner after h _ ih =>
      rw [split_of_placeholder? h] at hf ⊢
      have hafter := ih (List.forall_mem_cons.mp hf).2
      rw [List.map_cons, Segment.rewrite, List.flatMap_cons,
        split_of_placeholder? (placeholder?_append h _), hafter]
  | case3 c rest h ih =>
      rw [split_cons h] at hf ⊢
      obtain ⟨⟨hne, hbrace⟩, hrest⟩ := forall_mem_consLiteral hf
      rw [map_rewrite_consLiteral hne, flatMap_chars_foldr, split_append hbrace, ih hrest]

end Format

end Switchboard.Alias
