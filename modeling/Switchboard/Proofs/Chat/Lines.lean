import Mathlib.Tactic
import Switchboard.Chat.Shell
import Switchboard.Proofs.Text.Utf8

/-!
# The lines of a byte stream

The lines of a stream are what line feeds separate. A line that a line feed ends loses one carriage
return at its end, and what stands behind the last line feed is a line if there is anything
(`Shell.contents`). Chat over a byte stream finds these lines byte by byte; here they are shown to
be the same.

Streams are taken apart line by line: a stream without a line feed is at most one line, and every
other one is a line in front of a stream (`line_induction`).

## Main results

* `map_content_lines`: the lines that are found are those of the stream.
* `lines_append`: behind a line feed the lines start anew.
-/

namespace Switchboard.Chat.Shell

open Text

/-- A line without a carriage return at its end. -/
def dropReturn (line : List UInt8) : List UInt8 :=
  if line.getLast? = some 0x0D then line.dropLast else line

/-- The lines of a stream without their ends. -/
def contents (bytes : List UInt8) : List (List UInt8) :=
  let pieces := bytes.splitOn 0x0A
  pieces.dropLast.map dropReturn ++ (pieces.getLast?.filter (· ≠ [])).toList

/-- Streams are made of lines that a line feed ends, and of a piece without a line feed. -/
theorem line_induction {motive : List UInt8 → Prop} (tail : ∀ tail, 0x0A ∉ tail → motive tail)
    (line : ∀ body rest, 0x0A ∉ body → motive rest → motive (body ++ 0x0A :: rest))
    (bytes : List UInt8) : motive bytes := by
  induction hn : bytes.length using Nat.strong_induction_on generalizing bytes with
  | _ n ih =>
      by_cases hmem : 0x0A ∈ bytes
      · obtain ⟨body, rest, rfl, hbody⟩ := List.eq_append_cons_of_mem hmem
        rw [List.length_append, List.length_cons] at hn
        exact line body rest hbody (ih rest.length (by omega) rest rfl)
      · exact tail bytes hmem

variable {body tail : List UInt8}

/-! ### A line and what follows -/

/-- Bytes up to the first line feed are a line. -/
theorem lines_body (hbody : 0x0A ∉ body) (rest : List UInt8) :
    lines (body ++ 0x0A :: rest) = (body ++ [0x0A]) :: lines rest := by
  induction body with
  | nil => rfl
  | cons b body ih =>
      obtain ⟨hb, hbody⟩ := not_or.mp (mt List.mem_cons.mpr hbody)
      rw [List.cons_append, lines, if_neg (Ne.symm hb), ih hbody]
      rfl

/-- What such a line says is what stands before its end. -/
theorem contents_body (hbody : 0x0A ∉ body) (rest : List UInt8) :
    contents (body ++ 0x0A :: rest) = dropReturn body :: contents rest := by
  have hne : rest.splitOn 0x0A ≠ [] := List.splitOn_ne_nil _ _
  rw [contents, List.splitOn_append_cons_self_of_not_mem hbody]
  simp only [List.dropLast_cons_of_ne_nil hne, List.getLast?_cons_of_ne_nil hne, List.map_cons,
    List.cons_append, contents]

/-- The content of a line with its line feed. -/
theorem content_body (body : List UInt8) : content (body ++ [0x0A]) = dropReturn body := by
  rw [content, List.reverse_append, List.reverse_singleton, List.singleton_append, dropReturn]
  rcases List.eq_nil_or_concat' body with rfl | ⟨front, b, rfl⟩
  · rfl
  · rw [List.reverse_append, List.reverse_singleton, List.singleton_append, List.getLast?_concat,
      List.dropLast_concat]
    by_cases hb : b = 0x0D
    · rw [hb, if_pos rfl]
      exact List.reverse_reverse front
    · rw [if_neg (by simpa using hb)]
      split
      · next h => exact absurd (List.cons.inj (List.cons.inj h).2).1 hb
      · next h => rw [← (List.cons.inj h).2, List.reverse_cons, List.reverse_reverse]
      · next h => exact absurd rfl (h _)

/-! ### A piece without a line feed -/

/-- Bytes without a line feed are the last line, if there are any. -/
theorem lines_tail (htail : 0x0A ∉ tail) : lines tail = if tail = [] then [] else [tail] := by
  induction tail with
  | nil => rfl
  | cons b tail ih =>
      obtain ⟨hb, htail⟩ := not_or.mp (mt List.mem_cons.mpr htail)
      rw [lines, if_neg (Ne.symm hb), ih htail, if_neg (List.cons_ne_nil b tail)]
      by_cases hnil : tail = []
      · rw [hnil]
        rfl
      · rw [if_neg hnil]

/-- The last line says what it is. -/
theorem contents_tail (htail : 0x0A ∉ tail) :
    contents tail = if tail = [] then [] else [tail] := by
  rw [contents, List.splitOn_eq_singleton htail]
  cases tail <;> simp

/-- The content of a line without a line feed. -/
theorem content_tail (htail : 0x0A ∉ tail) : content tail = tail := by
  have hlast (rest : List UInt8) : tail.reverse ≠ 0x0A :: rest :=
    fun h => htail (List.mem_reverse.mp (h ▸ List.mem_cons_self))
  rw [content]
  split
  · next h => exact absurd h (hlast _)
  · next h => exact absurd h (hlast _)
  · rfl

/-! ### Streams -/

/-- **The lines that are found** are the lines of the stream. -/
theorem map_content_lines (bytes : List UInt8) : (lines bytes).map content = contents bytes := by
  induction bytes using line_induction with
  | tail tail htail =>
      rw [lines_tail htail, contents_tail htail]
      split
      · rfl
      · rw [List.map_singleton, content_tail htail]
  | line body rest hbody ih =>
      rw [lines_body hbody, contents_body hbody, List.map_cons, content_body, ih]

/-- A stream is complete when nothing stands behind its last line feed. -/
def Complete (bytes : List UInt8) : Prop := bytes = [] ∨ bytes.getLast? = some 0x0A

/-- **A complete stream** and another one behind it have their lines one after the other. -/
theorem lines_append {front : List UInt8} (h : Complete front) (back : List UInt8) :
    lines (front ++ back) = lines front ++ lines back := by
  induction front using line_induction with
  | tail tail htail =>
      obtain rfl | hlast := h
      · rfl
      · exact absurd (List.mem_of_getLast? hlast) htail
  | line body rest hbody ih =>
      have hrest : Complete rest := by
        cases rest with
        | nil => exact .inl rfl
        | cons b rest => exact .inr (by simpa [Complete] using h)
      rw [List.append_assoc, List.cons_append, lines_body hbody, lines_body hbody, ih hrest,
        List.cons_append]

end Switchboard.Chat.Shell
