import Switchboard.Notification.Layout
import Switchboard.Proofs.Json.Integers
import Switchboard.Proofs.Text.Pieces

/-!
# Lines of a block

A block is meant to have one line per entry between its two fences. `entries` lists the entries of a
value, those of a nested value behind the one that holds it, and `Entry.line` is what is written for
one of them. What is written stands in one line as long as no text in it holds an end of a line. Keys
and strings are written as they are, though, and everything else in an entry is free of ends of
lines. So every end of a line in a key or a string adds one line to the block, and these are the only
lines that a block has more than entries.

For the same reason a key or a string can close the block early, namely when one of its lines is the
fence and does not share its line with another part of the entry (`Entry.Closes`).

## Main results

* `toList_push`: the lines of a value are those of its entries.
* `Entry.fence_mem_lines_iff`: which entries close a block.
* `block_lines`: the text lines of a block.
-/

namespace Switchboard.Json.Number

/-- Whole numbers are written within a line. -/
theorem newline_not_mem_digits (n : Nat) : '\n' ∉ digits n :=
  fun h => absurd (isDigit_of_mem_digits h) (by decide)

/-- Decimals are written within a line. -/
theorem newline_not_mem_decimalText (d : Decimal) : '\n' ∉ decimalText d := by
  have hdigits := newline_not_mem_digits
  have htake (k : Nat) : '\n' ∉ (digits d.digits).take k :=
    fun h => hdigits d.digits (List.mem_of_mem_take h)
  have hdrop (k : Nat) : '\n' ∉ (digits d.digits).drop k :=
    fun h => hdigits d.digits (List.mem_of_mem_drop h)
  have htail : '\n' ∉ (digits d.digits).tail := fun h => hdigits d.digits (List.mem_of_mem_tail h)
  simp only [decimalText]
  split_ifs <;> simp [hdigits, htake, hdrop, htail]

/-- Numbers are written in one line. -/
theorem newline_not_mem_text (n : Number) : '\n' ∉ n.text := by
  cases n with
  | int n =>
      cases n with
      | ofNat n => exact newline_not_mem_digits n
      | negSucc n => simpa [text, intText] using newline_not_mem_digits (n + 1)
  | double bits =>
      rw [text, doubleText, List.mem_append, not_or]
      refine ⟨by split_ifs <;> simp, ?_⟩
      split_ifs
      · decide
      · exact newline_not_mem_decimalText _

end Switchboard.Json.Number

namespace Switchboard.Notification.Layout

open Json (Value)

/-! ### Entries -/

/-- The text in a value that is written as it is: that of a string. -/
def content : Value → List Char
  | .string s => s.toList
  | _ => []

/-- An entry of a block: a member of an object or an item of an array. -/
structure Entry where
  depth : Nat
  /-- The key of a member. -/
  key : Option String
  value : Value

namespace Entry

/-- The key as it is written. -/
def name (entry : Entry) : List Char := (entry.key.map String.toList).getD []

/-- The mark of a member or of an item. -/
def mark (entry : Entry) : Char := if entry.key.isSome then ':' else '-'

/-- How an entry is introduced: two spaces for every level above it, and its key with a colon or the
mark of an item. -/
def lead (entry : Entry) : Line := indent entry.depth ++ entry.name ++ [entry.mark]

/-- What is written for an entry. The value of an entry stands behind its mark, unless it has entries
itself. -/
def line (entry : Entry) : Line :=
  if isNested entry.value then entry.lead else entryLine entry.lead entry.value

/-- The text lines of an entry. -/
def lines (entry : Entry) : List Line := entry.line.splitOn '\n'

/-- How many ends of lines there are in the key and in the string of an entry. -/
def breaks (entry : Entry) : Nat := entry.name.count '\n' + (content entry.value).count '\n'

/-- **Closing a block early**: a line that ends within the key of the entry is the fence, or a line
that begins within its string is. The first line of the key has the indentation in front of it. -/
def Closes (entry : Entry) : Prop :=
  fence ∈ ((indent entry.depth ++ entry.name).splitOn '\n').dropLast ∨
    fence ∈ ((content entry.value).splitOn '\n').tail

instance : DecidablePred Closes := fun _ => inferInstanceAs (Decidable (_ ∨ _))

end Entry

mutual

/-- The entries of a value, the outermost of them at a depth. -/
def entries : Value → (depth : Nat) → List Entry
  | .object members, depth => memberEntries members depth
  | .array items, depth => itemEntries items depth
  | _, _ => []

/-- The members of an object, each one with the entries of its value behind it. -/
def memberEntries : List (String × Value) → (depth : Nat) → List Entry
  | [], _ => []
  | (key, value) :: rest, depth =>
    ⟨depth, some key, value⟩ :: (entries value (depth + 1) ++ memberEntries rest depth)

/-- The items of an array, each one with its entries behind it. -/
def itemEntries : List Value → (depth : Nat) → List Entry
  | [], _ => []
  | value :: rest, depth =>
    ⟨depth, none, value⟩ :: (entries value (depth + 1) ++ itemEntries rest depth)

end

/-- Only objects and arrays that are not empty have entries. -/
theorem entries_eq_nil {v : Value} (h : ¬ isNested v) (depth : Nat) : entries v depth = [] := by
  cases v with
  | array items =>
      obtain rfl : items = [] := by simpa [isNested] using h
      rw [entries, itemEntries]
  | object members =>
      obtain rfl : members = [] := by simpa [isNested] using h
      rw [entries, memberEntries]
  | _ => simp [entries]

/-- The lines of a single entry and of the entries below it, given those of its value. -/
theorem toList_entry {v : Value} {depth : Nat}
    (hpush : ∀ lines, isNested v →
      (push v depth lines).toList = lines.toList ++ (entries v depth).map Entry.line)
    (lead : Line) (lines : Array Line) :
    (if isNested v then push v depth (lines.push lead) else lines.push (entryLine lead v)).toList =
      lines.toList ++
        (if isNested v then lead else entryLine lead v) :: (entries v depth).map Entry.line := by
  by_cases hv : isNested v
  · simp only [if_pos hv, hpush _ hv, Array.toList_push, List.append_assoc, List.singleton_append]
  · simp only [if_neg hv, entries_eq_nil hv, Array.toList_push, List.map_nil]

mutual

/-- **The lines of a value** are those of its entries. -/
theorem toList_push (v : Value) (depth : Nat) (lines : Array Line) (h : isNested v) :
    (push v depth lines).toList = lines.toList ++ (entries v depth).map Entry.line := by
  match v with
  | .object members => exact toList_pushMembers members depth lines
  | .array items => exact toList_pushItems items depth lines

/-- Members are pushed entry by entry. -/
theorem toList_pushMembers (members : List (String × Value)) (depth : Nat) (lines : Array Line) :
    (pushMembers members depth lines).toList =
      lines.toList ++ (memberEntries members depth).map Entry.line := by
  match members with
  | [] => simp [pushMembers, memberEntries]
  | (key, value) :: rest =>
      rw [pushMembers, memberEntries, toList_pushMembers rest,
        toList_entry (toList_push value (depth + 1))]
      simp [Entry.line, Entry.lead, Entry.name, Entry.mark]

/-- Items are pushed entry by entry. -/
theorem toList_pushItems (items : List Value) (depth : Nat) (lines : Array Line) :
    (pushItems items depth lines).toList =
      lines.toList ++ (itemEntries items depth).map Entry.line := by
  match items with
  | [] => simp [pushItems, itemEntries]
  | value :: rest =>
      rw [pushItems, itemEntries, toList_pushItems rest,
        toList_entry (toList_push value (depth + 1))]
      simp [Entry.line, Entry.lead, Entry.name, Entry.mark]

end

/-! ### The text lines of an entry -/

/-- Objects and arrays hold their strings in entries of their own. -/
theorem content_eq_nil {v : Value} (h : isNested v) : content v = [] := by
  cases v with
  | string s => exact absurd h (by simp [isNested])
  | _ => rfl

/-- In a value without entries only a string has ends of lines. -/
theorem tail_splitOn_inline {v : Value} (h : ¬ isNested v) :
    ((inline v).splitOn '\n').tail = ((content v).splitOn '\n').tail := by
  cases v with
  | null => rfl
  | bool b => cases b <;> decide
  | number n =>
      have hline : inline (.number n) = n.text := rfl
      rw [hline, List.splitOn_eq_singleton n.newline_not_mem_text]
      rfl
  | string s => rfl
  | array items =>
      obtain rfl : items = [] := by simpa [isNested] using h
      decide
  | object members =>
      obtain rfl : members = [] := by simpa [isNested] using h
      decide

namespace Entry

/-- The mark of an entry ends no line and stands in no fence. -/
theorem mark_ne (entry : Entry) : entry.mark ≠ '\n' ∧ entry.mark ∉ fence := by
  unfold mark
  split <;> decide

/-- What is written behind the mark ends the same lines as the string of the entry. -/
theorem exists_line_eq_append (entry : Entry) :
    ∃ rest, entry.line = entry.lead ++ rest ∧
      (rest.splitOn '\n').tail = ((content entry.value).splitOn '\n').tail := by
  by_cases hnested : isNested entry.value
  · refine ⟨[], ?_, by rw [content_eq_nil hnested]⟩
    rw [line, if_pos hnested, List.append_nil]
  · have hinline := tail_splitOn_inline hnested
    rw [line, if_neg hnested, entryLine]
    split
    · next hempty =>
        rw [List.isEmpty_iff.mp hempty] at hinline
        exact ⟨[], (List.append_nil _).symm, hinline⟩
    · refine ⟨' ' :: inline entry.value, rfl, ?_⟩
      rw [List.splitOn_cons_eq_if_modifyHead, if_neg (by decide), List.tail_modifyHead, hinline]

/-- **Ends of lines** in an entry are those in its key and in its string. -/
theorem length_lines (entry : Entry) : entry.lines.length = entry.breaks + 1 := by
  obtain ⟨rest, hline, hrest⟩ := entry.exists_line_eq_append
  have hcount := congrArg List.length hrest
  rw [List.length_tail, List.length_tail, Text.length_splitOn, Text.length_splitOn] at hcount
  have hmark : [entry.mark].count '\n' = 0 := by
    rw [List.count_eq_zero, List.mem_singleton]
    exact entry.mark_ne.1.symm
  have hindent : (indent entry.depth).count '\n' = 0 := by
    rw [List.count_eq_zero]
    exact fun h => absurd (List.eq_of_mem_replicate h) (by decide)
  rw [lines, Text.length_splitOn, hline, lead, List.count_append, List.count_append,
    List.count_append, hmark, hindent, breaks]
  omega

/-- **The fence** is a line of an entry exactly if the entry closes the block. The line with the mark of
the entry is not the fence, and the lines behind it are those of the string. -/
theorem fence_mem_lines_iff (entry : Entry) : fence ∈ entry.lines ↔ entry.Closes := by
  obtain ⟨rest, hline, hrest⟩ := entry.exists_line_eq_append
  obtain ⟨front, last, first, behind, hkey, hvalue, hlines⟩ := Text.exists_splitOn_append '\n'
    (indent entry.depth ++ entry.name) (entry.mark :: rest)
  rw [List.splitOn_cons_eq_if_modifyHead, if_neg (by simpa using entry.mark_ne.1)] at hvalue
  have hbehind : behind = ((content entry.value).splitOn '\n').tail := by
    rw [← hrest, ← List.tail_modifyHead, hvalue, List.tail_cons]
  have hmark : entry.mark ∈ last ++ first := by
    obtain ⟨start, more, heq⟩ := List.exists_cons_of_ne_nil (List.splitOn_ne_nil '\n' rest)
    rw [heq, List.modifyHead_cons] at hvalue
    rw [← (List.cons.inj hvalue).1]
    simp
  have hmiddle : fence ≠ last ++ first := by
    intro heq
    exact entry.mark_ne.2 (heq ▸ hmark)
  have hfront : ((indent entry.depth ++ entry.name).splitOn '\n').dropLast = front := by
    rw [hkey, List.dropLast_concat]
  rw [lines, hline, lead, List.append_assoc _ [_], List.singleton_append, hlines, Closes, hfront,
    ← hbehind, List.mem_append, List.mem_cons]
  simp [hmiddle]

/-- An entry is one line exactly if there is no end of a line in it. -/
theorem lines_eq_singleton_iff (entry : Entry) : entry.lines = [entry.line] ↔ entry.breaks = 0 := by
  have hlength := entry.length_lines
  constructor
  · intro h
    rw [h, List.length_singleton] at hlength
    omega
  · intro h
    rw [h, Nat.zero_add] at hlength
    obtain ⟨only, honly⟩ := List.length_eq_one_iff.mp hlength
    have hline : ['\n'].intercalate entry.lines = entry.line := List.intercalate_splitOn '\n'
    rw [honly, List.intercalate_singleton] at hline
    rw [honly, hline]

/-- An entry of one line does not close the block: its mark is no part of the fence. -/
theorem not_closes {entry : Entry} (h : entry.breaks = 0) : ¬ entry.Closes := by
  obtain ⟨rest, hline, -⟩ := entry.exists_line_eq_append
  rw [← fence_mem_lines_iff, (lines_eq_singleton_iff entry).mpr h, List.mem_singleton]
  intro heq
  refine entry.mark_ne.2 ?_
  rw [heq, hline, lead]
  simp

/-- Every end of a line adds a line to those that there are for the entries. -/
theorem length_flatMap_lines (es : List Entry) :
    (es.flatMap lines).length = es.length + (es.map breaks).sum := by
  induction es with
  | nil => rfl
  | cons entry es ih =>
      rw [List.flatMap_cons, List.length_append, ih, length_lines, List.length_cons, List.map_cons,
        List.sum_cons]
      omega

/-- The lines are the entries exactly if there are no ends of lines in them. -/
theorem flatMap_lines_eq_map_iff {es : List Entry} :
    es.flatMap lines = es.map line ↔ ∀ entry ∈ es, entry.breaks = 0 := by
  constructor
  · intro h entry hentry
    have hlength := congrArg List.length h
    rw [length_flatMap_lines, List.length_map] at hlength
    have hle := List.le_sum_of_mem (List.mem_map_of_mem hentry : entry.breaks ∈ es.map breaks)
    omega
  · intro h
    rw [← List.flatMap_pure_eq_map]
    refine List.flatMap_congr fun entry hentry => ?_
    exact (lines_eq_singleton_iff entry).mpr (h entry hentry)

end Entry

/-! ### Blocks -/

/-- **Blocks.** The text lines of a block are a fence, those of its entries in order, and a fence.

* The text of an entry begins with two spaces for every level above it, its key and its mark.
* There is one line for each entry, and one more for each end of a line in a key or a string; so
  the entries are the lines exactly if there is none of these.
* A fence is among these lines exactly if some entry closes the block early. Without ends of lines in
  keys and strings there is none. -/
theorem block_lines {message : Value} (h : isNested message) :
    (text message).toList.splitOn '\n' =
        fence :: ((entries message 0).flatMap Entry.lines ++ [fence]) ∧
      (∀ entry ∈ entries message 0,
        List.replicate (2 * entry.depth) ' ' ++ entry.name ++ [entry.mark] <+: entry.line) ∧
      ((entries message 0).flatMap Entry.lines).length =
        (entries message 0).length + ((entries message 0).map Entry.breaks).sum ∧
      ((entries message 0).flatMap Entry.lines = (entries message 0).map Entry.line ↔
        ∀ entry ∈ entries message 0, entry.breaks = 0) ∧
      (fence ∈ (entries message 0).flatMap Entry.lines ↔
        ∃ entry ∈ entries message 0, entry.Closes) ∧
      ((∀ entry ∈ entries message 0, entry.breaks = 0) →
        fence ∉ (entries message 0).flatMap Entry.lines) := by
  have hfence : fence ∈ (entries message 0).flatMap Entry.lines ↔
      ∃ entry ∈ entries message 0, entry.Closes := by
    simp only [List.mem_flatMap, Entry.fence_mem_lines_iff]
  refine ⟨?_, fun entry _ => ?_, Entry.length_flatMap_lines _, Entry.flatMap_lines_eq_map_iff,
    hfence, fun hbreaks => ?_⟩
  · have hchars : chars message =
        ['\n'].intercalate (fence :: ((entries message 0).map Entry.line ++ [fence])) := by
      rw [chars, if_pos h, toList_push message 0 #[] h]
      rfl
    have hone : fence.splitOn '\n' = [fence] := List.splitOn_eq_singleton (by decide)
    rw [text, String.toList_ofList, hchars,
      Text.splitOn_intercalate_eq_flatMap '\n' (List.cons_ne_nil _ _), List.flatMap_cons,
      List.flatMap_append, List.flatMap_singleton, hone, List.flatMap_map]
    rfl
  · obtain ⟨rest, hline, -⟩ := entry.exists_line_eq_append
    exact ⟨rest, hline.symm⟩
  · rw [hfence]
    rintro ⟨entry, hentry, hcloses⟩
    exact Entry.not_closes (hbreaks entry hentry) hcloses

/-- A nested value without line feeds in its strings: one line for each entry, between the
fences. -/
theorem block_lines_nested :
    ∃ message : Value,
      message = .object [("host", .string "web-01"), ("log", .array [.string "up", .null])] ∧
        isNested message ∧
        (text message).toList.splitOn '\n' =
          ["```", "host: web-01", "log:", "  - up", "  -", "```"].map String.toList ∧
        fence ∉ (entries message 0).flatMap Entry.lines := by
  have hnested : isNested
      (.object [("host", .string "web-01"), ("log", .array [.string "up", .null])]) := by decide
  obtain ⟨hlines, -, -, -, -, hfence⟩ := block_lines hnested
  exact ⟨_, rfl, hnested, hlines.trans (by decide), hfence (by decide)⟩

/-- A string of three lines makes three lines of one entry, and one of them closes the block. -/
theorem block_closed_early :
    ∃ message : Value, message = .object [("stdout", .string "one\n```\ntwo")] ∧
      isNested message ∧ (entries message 0).length = 1 ∧
      (∃ entry ∈ entries message 0, entry.Closes) ∧
      (text message).toList.splitOn '\n' =
        ["```", "stdout: one", "```", "two", "```"].map String.toList := by
  refine ⟨_, rfl, ?_⟩
  decide

end Switchboard.Notification.Layout
