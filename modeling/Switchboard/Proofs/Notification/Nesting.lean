import Switchboard.Proofs.Notification.Blocks

/-!
# Nested messages

The lines of a value do not depend on where it stands: at a depth they are the lines that the value
has by itself, with the indentation of the depth in front of each, and what was written before stays
as it is. So the lines of an object or array are put together from those of its parts. A part is
introduced by its key or by the mark of an item, in one line, and the lines of a part with lines of
its own follow that line.

A line is one item of the list of lines here. A text with ends of lines in it is still one line;
what becomes of it in the finished block is told by `block_lines`.

## Main results

* `Entry.line_deepen`, `entries_add`: entries some levels deeper.
* `push_compositional`: the lines of a value at a depth, and those of an object or array.
-/

namespace Switchboard.Notification.Layout

open Json (Value)

/-! ### Deeper entries -/

/-- Indentation adds up. -/
theorem indent_add (depth levels : Nat) :
    indent (depth + levels) = indent levels ++ indent depth := by
  rw [indent, indent, indent, List.replicate_append_replicate]
  congr 1
  omega

/-- What is introduced by an indented line begins with the same indentation. -/
theorem entryLine_append (front lead : Line) (v : Value) :
    entryLine (front ++ lead) v = front ++ entryLine lead v := by
  simp only [entryLine]
  split
  · rfl
  · rw [List.append_assoc]

namespace Entry

/-- An entry some levels deeper. -/
def deepen (levels : Nat) (entry : Entry) : Entry := { entry with depth := entry.depth + levels }

/-- A deeper entry is indented by as much more. -/
theorem lead_deepen (levels : Nat) (entry : Entry) :
    (entry.deepen levels).lead = indent levels ++ entry.lead := by
  rw [lead, lead, List.append_assoc, List.append_assoc, ← List.append_assoc (indent levels),
    ← indent_add]
  rfl

/-- **A deeper entry** is written with more indentation. -/
theorem line_deepen (levels : Nat) (entry : Entry) :
    (entry.deepen levels).line = indent levels ++ entry.line := by
  rw [line, line, lead_deepen, entryLine_append]
  split
  · next h => exact (if_pos h).symm ▸ rfl
  · next h => exact (if_neg h).symm ▸ rfl

end Entry

mutual

/-- **The entries** of a value at a greater depth are the same entries some levels deeper. -/
theorem entries_add (v : Value) (depth levels : Nat) :
    entries v (depth + levels) = (entries v depth).map (Entry.deepen levels) := by
  match v with
  | .object members => exact memberEntries_add members depth levels
  | .array items => exact itemEntries_add items depth levels
  | .null | .bool _ | .number _ | .string _ => simp [entries]

/-- Members at a greater depth have the same entries, deeper. -/
theorem memberEntries_add (members : List (String × Value)) (depth levels : Nat) :
    memberEntries members (depth + levels) =
      (memberEntries members depth).map (Entry.deepen levels) := by
  match members with
  | [] => rfl
  | (key, value) :: rest =>
      rw [memberEntries, memberEntries, Nat.add_right_comm, entries_add value,
        memberEntries_add rest, List.map_cons, List.map_append]
      rfl

/-- Items at a greater depth have the same entries, deeper. -/
theorem itemEntries_add (items : List Value) (depth levels : Nat) :
    itemEntries items (depth + levels) =
      (itemEntries items depth).map (Entry.deepen levels) := by
  match items with
  | [] => rfl
  | value :: rest =>
      rw [itemEntries, itemEntries, Nat.add_right_comm, entries_add value, itemEntries_add rest,
        List.map_cons, List.map_append]
      rfl

end

/-! ### The lines of a value -/

/-- Objects and arrays, also those without entries. -/
def IsContainer : Value → Prop
  | .object _ | .array _ => True
  | _ => False

/-- A part of an object or array: how it is introduced, and its value. -/
structure Part where
  lead : Line
  value : Value

/-- The members of an object, introduced by their keys, or the items of an array. -/
def parts : Value → List Part
  | .object members => members.map fun (key, item) => ⟨key.toList ++ [':'], item⟩
  | .array items => items.map fun item => ⟨['-'], item⟩
  | _ => []

/-- The lines of a value by itself. -/
def linesOf (v : Value) : List Line := (push v 0 #[]).toList

/-- The lines of a part. A value with lines of its own has them behind the line that introduces it,
and indented; any other value stands in that line. -/
def Part.lines (part : Part) : List Line :=
  if isNested part.value then part.lead :: (linesOf part.value).map (indent 1 ++ ·)
  else [entryLine part.lead part.value]

/-- The lines of an object or array are those of its entries. Where it is empty, there are none. -/
theorem toList_push_container {v : Value} (h : IsContainer v) (depth : Nat) (lines : Array Line) :
    (push v depth lines).toList = lines.toList ++ (entries v depth).map Entry.line := by
  cases v with
  | object members => exact toList_pushMembers members depth lines
  | array items => exact toList_pushItems items depth lines
  | _ => exact h.elim

/-- The lines of a container are those of its entries. -/
theorem linesOf_container {v : Value} (h : IsContainer v) :
    linesOf v = (entries v 0).map Entry.line := by
  rw [linesOf, toList_push_container h]
  rfl

/-- **Depth and earlier lines.** The lines of a value at a depth are its lines by itself with
indentation in front, behind those that there are already. -/
theorem toList_push_indent (v : Value) (depth : Nat) (lines : Array Line) :
    (push v depth lines).toList = lines.toList ++ (linesOf v).map (indent depth ++ ·) := by
  have hcontainer (h : IsContainer v) :
      (push v depth lines).toList = lines.toList ++ (linesOf v).map (indent depth ++ ·) := by
    have hentries := entries_add v 0 depth
    rw [Nat.zero_add] at hentries
    rw [toList_push_container h, linesOf_container h, hentries, List.map_map, List.map_map]
    congr 2
    funext entry
    exact Entry.line_deepen depth entry
  cases v with
  | object members => exact hcontainer trivial
  | array items => exact hcontainer trivial
  | _ => simp [linesOf, push, indent]

/-- The lines of a part are its line as an entry, and those of the entries below it. -/
theorem Part.lines_eq (part : Part) :
    part.lines = (if isNested part.value then part.lead else entryLine part.lead part.value) ::
      (entries part.value 1).map Entry.line := by
  rw [Part.lines]
  by_cases h : isNested part.value
  · have hlines := toList_push_indent part.value 1 #[]
    rw [toList_push part.value 1 #[] h] at hlines
    rw [if_pos h, if_pos h]
    exact congrArg (part.lead :: ·) hlines.symm
  · rw [if_neg h, if_neg h, entries_eq_nil h, List.map_nil]

/-- **Order.** The lines of an object or array are those of its parts, one part after another. -/
theorem linesOf_eq_flatMap {v : Value} (h : IsContainer v) :
    linesOf v = (parts v).flatMap Part.lines := by
  rw [linesOf_container h]
  cases v with
  | object members =>
      rw [entries, parts, List.flatMap_map]
      induction members with
      | nil => rfl
      | cons member rest ih =>
          rw [memberEntries, List.map_cons, List.map_append, ih trivial, List.flatMap_cons,
            Part.lines_eq]
          rfl
  | array items =>
      rw [entries, parts, List.flatMap_map]
      induction items with
      | nil => rfl
      | cons item rest ih =>
          rw [itemEntries, List.map_cons, List.map_append, ih trivial, List.flatMap_cons,
            Part.lines_eq]
          rfl
  | _ => exact h.elim

/-- **Count.** There is a line for every part, and a part with lines of its own adds these. -/
theorem length_flatMap_lines (parts : List Part) :
    (parts.flatMap Part.lines).length = parts.length +
      ((parts.filter fun part => isNested part.value).map fun part =>
        (linesOf part.value).length).sum := by
  induction parts with
  | nil => rfl
  | cons part rest ih =>
      rw [List.flatMap_cons, List.length_append, ih, List.length_cons, Part.lines]
      by_cases h : isNested part.value
      · rw [if_pos h, List.filter_cons, if_pos h, List.map_cons, List.sum_cons, List.length_cons,
          List.length_map]
        omega
      · rw [if_neg h, List.filter_cons, if_neg h, List.length_singleton]
        omega

/-- **Nested messages.** To write a value at a depth leaves the earlier lines as they are, and
appends the lines that the value has by itself with two spaces a level in front of each. The lines
of an object or array are those of its parts in order, where the lines of a nested part follow the
one that introduces it; so there are as many as parts, and those of every nested part besides. -/
theorem push_compositional (v : Value) (depth : Nat) (lines : Array Line) :
    (push v depth lines).toList =
        lines.toList ++ (push v 0 #[]).toList.map (List.replicate (2 * depth) ' ' ++ ·) ∧
      (IsContainer v →
        (push v 0 #[]).toList = (parts v).flatMap (fun part =>
          if isNested part.value then
            part.lead :: (push part.value 0 #[]).toList.map ([' ', ' '] ++ ·)
          else [entryLine part.lead part.value]) ∧
        (push v depth lines).size = lines.size + ((parts v).length +
          (((parts v).filter fun part => isNested part.value).map fun part =>
            (push part.value 0 #[]).size).sum)) := by
  have hpush := toList_push_indent v depth lines
  refine ⟨hpush, fun hcontainer => ⟨linesOf_eq_flatMap hcontainer, ?_⟩⟩
  have hlength := congrArg List.length hpush
  rwa [List.length_append, List.length_map, linesOf_eq_flatMap hcontainer,
    length_flatMap_lines] at hlength

/-- Nested, empty and missing values side by side, two levels deep behind an earlier line. -/
theorem push_compositional_host :
    ∃ message : Value,
      message = .object [("web-01", .object [("codes", .array [.null, .array []])]),
        ("log", .string "")] ∧
      IsContainer message ∧
      (push message 0 #[]).toList =
        ["web-01:", "  codes:", "    -", "    - []", "log:"].map String.toList ∧
      (push message 2 #[fence]).toList =
        ["```", "    web-01:", "      codes:", "        -", "        - []", "    log:"].map
          String.toList ∧
      (push message 2 #[fence]).size = 6 := by
  refine ⟨_, rfl, trivial, ?_⟩
  obtain ⟨hindent, hparts⟩ := push_compositional (.object
    [("web-01", .object [("codes", .array [.null, .array []])]), ("log", .string "")]) 2 #[fence]
  obtain ⟨horder, hcount⟩ := hparts trivial
  exact ⟨horder.trans (by decide), hindent.trans (by decide),
    hcount.trans (by decide)⟩

end Switchboard.Notification.Layout
