import Switchboard.Text.Blank
import Switchboard.Text.Split

/-!
# Formats of aliases

A format is literal text with placeholders in it. A placeholder is an opening `{{`, at least one
character, and the nearest `}}` behind that character; an opening that is never closed is literal
text. The name of a placeholder is what stands before the first equals sign in it, trimmed; a
default value may follow the sign.

The format stands for a pattern. Literal text is taken into it as it is, so that it may itself use
the syntax of patterns. A placeholder becomes a group for one or more characters, as few as possible,
and a trailer is added for pairs `key=value` at the end of the text. The pattern is bound to the end
of the text and not to its beginning.
-/

namespace Switchboard.Alias

/-- A piece of a format. -/
inductive Segment
  | literal (text : List Char)
  /-- A placeholder, given by what its braces enclose. -/
  | placeholder (inner : List Char)
  deriving DecidableEq, Repr

/-- A segment as it is written. -/
def Segment.chars : Segment → List Char
  | literal text => text
  | placeholder inner => '{' :: '{' :: inner ++ ['}', '}']

/-- The name of a placeholder. -/
def Segment.name? : Segment → Option String
  | literal _ => none
  | placeholder inner => some (String.ofList (Text.Blank.trim (inner.takeWhile (· ≠ '='))))

namespace Format

/-- The inside of the placeholder at the beginning of a text, and what stands behind it. -/
def placeholder? : List Char → Option (List Char × List Char)
  | '{' :: '{' :: c :: rest => (Text.Split.once ['}', '}'] rest).map fun (inner, after) => (c :: inner, after)
  | _ => none

/-- What a placeholder is taken out of: its first character is not looked at. -/
theorem exists_of_placeholder? {cs inner after : List Char}
    (h : placeholder? cs = some (inner, after)) :
    ∃ c rest front, cs = '{' :: '{' :: c :: rest ∧
      Text.Split.once ['}', '}'] rest = some (front, after) ∧ inner = c :: front := by
  unfold placeholder? at h
  split at h
  · next c rest =>
      obtain ⟨⟨front, back⟩, honce, heq⟩ := Option.map_eq_some_iff.mp h
      obtain ⟨rfl, rfl⟩ := Prod.mk.inj heq
      exact ⟨c, rest, front, rfl, honce, rfl⟩
  · exact absurd h (by simp)

/-- What stands behind a placeholder is shorter than the text that begins with it. -/
theorem length_of_placeholder? {cs inner after : List Char}
    (h : placeholder? cs = some (inner, after)) : after.length < cs.length := by
  obtain ⟨c, rest, front, rfl, honce, -⟩ := exists_of_placeholder? h
  have hlength := Text.Split.length_of_once honce
  simp only [List.length_cons]
  omega

/-- Puts a character of literal text in front of some segments. -/
def consLiteral (c : Char) : List Segment → List Segment
  | .literal text :: rest => .literal (c :: text) :: rest
  | segments => .literal [c] :: segments

/-- The segments of a format. -/
def split (cs : List Char) : List Segment :=
  match cs with
  | [] => []
  | c :: rest =>
    match h : placeholder? (c :: rest) with
    | some (inner, after) =>
      have : after.length < rest.length + 1 := length_of_placeholder? h
      .placeholder inner :: split after
    | none => consLiteral c (split rest)
termination_by cs.length

/-- The names of the placeholders among some segments, in order. -/
def names (segments : List Segment) : List String := segments.filterMap Segment.name?

/-- The name of the group for the placeholder of the given number, counted from zero. -/
def groupName (index : Nat) : String := "p" ++ toString index

/-- The pattern for the placeholder of the given number. -/
def groupPattern (index : Nat) : List Char :=
  '(' :: '?' :: 'P' :: '<' :: (groupName index).toList ++ ['>', '.', '+', '?', ')']

/-- The pattern for some segments, the first placeholder having the given number. -/
def patternFrom : (index : Nat) → List Segment → List Char
  | _, [] => []
  | index, .literal text :: rest => text ++ patternFrom index rest
  | index, .placeholder _ :: rest => groupPattern index ++ patternFrom (index + 1) rest

/-- The name of the group for the trailer. -/
def trailerName : String := "trailer"

/-- The pattern for the trailer: white space, then any number of pairs of words with an equals sign
between them, each behind at most one blank, up to the end of the text. -/
def trailerPattern : List Char :=
  "(?P<trailer>(?:\\s+)?(?:\\s?[0-9A-Za-z_]+=[0-9A-Za-z_]+)*)$".toList

/-- The pattern for a format. -/
def pattern (format : String) : String :=
  String.ofList (patternFrom 0 (split format.toList) ++ trailerPattern)

/-- The names of the placeholders of a format, in order. -/
def placeholders (format : String) : List String := names (split format.toList)

end Format

end Switchboard.Alias
