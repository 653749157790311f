import Switchboard.Proofs.Chat.Mentions

/-!
# The form of a mention

A message in which a command is found is a mention of the bot: white space, at most one at sign, the
name in any ASCII case, a mark, and a rest that is not blank; the command is the trimmed rest. The name
is looked for by its number of bytes, but it is cut off only between characters, so whatever stands at
the place of the cut is a name or nothing is found.

The converse holds as far as the front of the message is unambiguous. White space and an at sign are
dropped before the name is looked for, so a name that begins with either is found behind an at sign
only.

## Main results

* `afterSeparator_eq_some_iff`: the marks.
* `exists_isMention_of_command?`: commands are found in mentions only.
* `command?_of_isMention`: mentions are understood.
* `command?_isMention`: both, and which texts hold no command.
-/

namespace Switchboard.Chat.Mention

open Text (isBlank)
open Text.Utf8 (encode encodeChars)

/-- What separates a name from a command. -/
def IsMark (c : Char) : Prop := c = ':' ∨ c = ',' ∨ isBlank c

/-- A text that mentions the bot, with what stands behind the mark: white space, at most one at sign,
as many bytes as the name has and equal to it up to ASCII case, and a mark. -/
def IsMention (bot text : String) (rest : List Char) : Prop :=
  bot ≠ "" ∧ ∃ lead sign name mark,
    text.toList = lead ++ (sign ++ (name ++ mark :: rest)) ∧
      (∀ c ∈ lead, isBlank c) ∧ (sign = [] ∨ sign = ['@']) ∧
      (encodeChars name).length = (encode bot).length ∧
      name.map Char.toLower = bot.toList.map Char.toLower ∧ IsMark mark

/-! ### Marks -/

/-- A mark that is white space is trimmed with what stands behind it. -/
theorem trim_cons_of_isBlank {mark : Char} (h : isBlank mark) (rest : List Char) :
    Text.Blank.trim (mark :: rest) = Text.Blank.trim rest := by
  rw [Text.Blank.trim, Text.Blank.trimStart, List.dropWhile_cons_of_pos h]
  rfl

/-- A colon or a comma is dropped, and white space is left to be trimmed. -/
theorem afterSeparator_eq_some_iff {after rest : List Char} :
    afterSeparator after = some rest ↔
      ∃ mark tail, after = mark :: tail ∧
        ((mark = ':' ∨ mark = ',') ∧ rest = tail ∨ isBlank mark ∧ rest = mark :: tail) := by
  constructor
  · intro h
    cases after with
    | nil => exact absurd h (by simp [afterSeparator])
    | cons mark tail =>
        rw [afterSeparator] at h
        refine ⟨mark, tail, rfl, ?_⟩
        split_ifs at h with hmark hblank
        · exact .inl ⟨hmark, (Option.some.inj h).symm⟩
        · exact .inr ⟨hblank, (Option.some.inj h).symm⟩
  · rintro ⟨mark, tail, rfl, ⟨hmark, rfl⟩ | ⟨hblank, rfl⟩⟩
    · rw [afterSeparator, if_pos hmark]
    · have hnot : ¬ (mark = ':' ∨ mark = ',') := by
        rintro (rfl | rfl)
        · exact absurd hblank (by decide)
        · exact absurd hblank (by decide)
      rw [afterSeparator, if_neg hnot, if_pos hblank]

/-- Whatever the mark, the command is the trimmed rest. -/
theorem afterSeparator_of_isMark {mark : Char} (hmark : IsMark mark) (rest : List Char) :
    ∃ found, afterSeparator (mark :: rest) = some found ∧
      Text.Blank.trim found = Text.Blank.trim rest := by
  rcases hmark with hcolon | hcomma | hblank
  · exact ⟨rest, afterSeparator_eq_some_iff.mpr ⟨mark, rest, rfl, .inl ⟨.inl hcolon, rfl⟩⟩, rfl⟩
  · exact ⟨rest, afterSeparator_eq_some_iff.mpr ⟨mark, rest, rfl, .inl ⟨.inr hcomma, rfl⟩⟩, rfl⟩
  · exact ⟨mark :: rest, afterSeparator_eq_some_iff.mpr ⟨mark, rest, rfl, .inr ⟨hblank, rfl⟩⟩,
      trim_cons_of_isBlank hblank rest⟩

/-! ### The front of a message -/

/-- White space is all that is dropped in front. -/
theorem exists_eq_append_trimStart (cs : List Char) :
    ∃ lead, cs = lead ++ Text.Blank.trimStart cs ∧ ∀ c ∈ lead, isBlank c :=
  ⟨cs.takeWhile isBlank, List.takeWhile_append_dropWhile.symm, fun _ => List.mem_takeWhile_imp⟩

/-- One at sign is all that is dropped in front of a name. -/
theorem exists_eq_append_dropAt (cs : List Char) :
    ∃ sign, cs = sign ++ dropAt cs ∧ (sign = [] ∨ sign = ['@']) := by
  unfold dropAt
  split
  · exact ⟨['@'], rfl, .inr rfl⟩
  · exact ⟨[], rfl, .inl rfl⟩

/-- The name is what is left when the front is dropped, if it stands behind an at sign or begins with
nothing that is dropped. -/
theorem dropAt_trimStart_front {lead sign name : List Char} (hlead : ∀ c ∈ lead, isBlank c)
    (hname : name ≠ []) (hsign : sign = [] ∧ IsCallable name ∨ sign = ['@']) (rest : List Char) :
    dropAt (Text.Blank.trimStart (lead ++ (sign ++ (name ++ rest)))) = name ++ rest := by
  rw [Text.Blank.trimStart_append hlead]
  rcases hsign with ⟨rfl, hcallable⟩ | rfl
  · obtain ⟨c, name, rfl⟩ := List.exists_cons_of_ne_nil hname
    obtain ⟨hat, hblank⟩ := hcallable c rfl
    rw [List.nil_append, List.cons_append, Text.Blank.trimStart,
      List.dropWhile_cons_of_neg hblank]
    unfold dropAt
    split
    · next hcons => exact absurd (List.cons.inj hcons).1 hat
    · rfl
  · rw [List.singleton_append, Text.Blank.trimStart, List.dropWhile_cons_of_neg not_isBlank_at,
      dropAt]

/-! ### Mentions -/

variable {bot text command : String} {rest : List Char}

/-- A text that is not empty has characters. -/
theorem toList_ne_nil {s : String} (h : s ≠ "") : s.toList ≠ [] := by
  simpa using h

/-- **Commands** are found in mentions only, and are what is left of the rest when it is trimmed. -/
theorem exists_isMention_of_command? (h : command? bot text = some command) :
    ∃ rest, IsMention bot text rest ∧ command ≠ "" ∧
      command = String.ofList (Text.Blank.trim rest) := by
  obtain ⟨chars, hchars, rfl⟩ := Option.map_eq_some_iff.mp h
  obtain ⟨hbot, hne, name, after, found, htext, hname, hfound, rfl⟩ :=
    commandChars_eq_some_iff.mp hchars
  obtain ⟨mark, tail, rfl, htail⟩ := afterSeparator_eq_some_iff.mp hfound
  obtain ⟨lead, hsplit, hlead⟩ := exists_eq_append_trimStart text.toList
  obtain ⟨sign, hat, hsign⟩ := exists_eq_append_dropAt (Text.Blank.trimStart text.toList)
  have hmention (hmark : IsMark mark) : IsMention bot text tail := by
    refine ⟨fun hnil => hbot (by rw [hnil]; rfl), lead, sign, name, mark, ?_, hlead, hsign,
      length_encodeChars_of_same hname, sameIgnoringCase_iff.mp hname, hmark⟩
    rw [← htext, ← hat, ← hsplit]
  have hcommand : String.ofList (Text.Blank.trim found) ≠ "" := by
    intro hnil
    exact hne (String.ofList_injective hnil)
  rcases htail with ⟨hmark, rfl⟩ | ⟨hblank, rfl⟩
  · exact ⟨found, hmention (hmark.elim .inl (.inr ∘ .inl)), hcommand, rfl⟩
  · exact ⟨tail, hmention (.inr (.inr hblank)), hcommand,
      congrArg String.ofList (trim_cons_of_isBlank hblank tail)⟩

/-- **Mentions** with a rest that is not blank are understood, if the name begins with nothing that is
dropped in front of a name. -/
theorem command?_of_isMention (hcallable : IsCallable bot.toList) (h : IsMention bot text rest)
    (hrest : ¬ ∀ c ∈ rest, isBlank c) :
    command? bot text = some (String.ofList (Text.Blank.trim rest)) := by
  obtain ⟨hbot, lead, sign, name, mark, htext, hlead, hsign, -, hname, hmark⟩ := h
  have hsame : sameIgnoringCase name bot.toList := sameIgnoringCase_iff.mpr hname
  have hne : name ≠ [] := by
    rintro rfl
    exact toList_ne_nil hbot (List.map_eq_nil_iff.mp hname.symm)
  have hfront := dropAt_trimStart_front hlead hne
    (hsign.imp_left fun hnone => ⟨hnone, hcallable.of_same hsame⟩) (mark :: rest)
  obtain ⟨found, hfound, htrim⟩ := afterSeparator_of_isMark hmark rest
  have hblank : Text.Blank.trim rest ≠ [] := mt Text.Blank.trim_eq_nil_iff.mp hrest
  rw [command?, Option.map_eq_some_iff]
  refine ⟨_, commandChars_eq_some_iff.mpr ⟨toList_ne_nil hbot, hblank, name, mark :: rest, found,
    ?_, hsame, hfound, htrim.symm⟩, rfl⟩
  rw [htext, hfront]

/-- **Mention detection.** Whatever the name of the bot and the text are, with whatever characters at
the place where the name would end:

* A command that is found stands behind a mention of the bot, is not empty, and is the trimmed rest.
* If the name begins neither with an at sign nor with white space, every mention with a rest that is
  not blank is understood, with this command, and nothing is found exactly if there is none. -/
theorem command?_isMention (bot text : String) :
    (∀ command, command? bot text = some command → ∃ rest, IsMention bot text rest ∧
        command ≠ "" ∧ command = String.ofList (Text.Blank.trim rest)) ∧
      (IsCallable bot.toList →
        (∀ rest, IsMention bot text rest → (¬ ∀ c ∈ rest, isBlank c) →
          command? bot text = some (String.ofList (Text.Blank.trim rest))) ∧
        (command? bot text = none ↔
          ∀ rest, IsMention bot text rest → ∀ c ∈ rest, isBlank c)) := by
  refine ⟨fun command => exists_isMention_of_command?, fun hcallable =>
    ⟨fun rest => command?_of_isMention hcallable, fun hnone rest hmention => ?_, fun hblank => ?_⟩⟩
  · by_contra hrest
    exact absurd (hnone.symm.trans (command?_of_isMention hcallable hmention hrest)) (by simp)
  · rw [Option.eq_none_iff_forall_ne_some]
    intro command hcommand
    obtain ⟨rest, hmention, hne, rfl⟩ := exists_isMention_of_command? hcommand
    rw [Text.Blank.trim_eq_nil_iff.mpr (hblank rest hmention)] at hne
    exact hne rfl

/-- A name of two bytes a character, in another case where it is of ASCII, behind an at sign. -/
theorem command?_isMention_zoe :
    IsCallable "Zoë".toList ∧
      IsMention "Zoë" "\u00A0@zOë,\u2003état " "\u2003état ".toList ∧
      (¬ ∀ c ∈ "\u2003état ".toList, isBlank c) ∧
      command? "Zoë" "\u00A0@zOë,\u2003état " = some "état" ∧
      ∃ rest, IsMention "Zoë" "\u00A0@zOë,\u2003état " rest ∧ "état" ≠ "" ∧
        "état" = String.ofList (Text.Blank.trim rest) := by
  have hcallable : IsCallable "Zoë".toList := by
    intro c hc
    obtain rfl : 'Z' = c := Option.some.inj hc
    decide
  have hmention : IsMention "Zoë" "\u00A0@zOë,\u2003état " "\u2003état ".toList :=
    ⟨by decide, ['\u00A0'], ['@'], "zOë".toList, ',', by decide,
      List.forall_mem_singleton.mpr (by decide), .inr rfl, by decide, by decide, .inr (.inl rfl)⟩
  have hrest : ¬ ∀ c ∈ "\u2003état ".toList, isBlank c :=
    fun hblank => absurd (hblank 'é' (by decide)) (by decide)
  have htrim : String.ofList (Text.Blank.trim "\u2003état ".toList) = "état" := by decide
  have hcommand : command? "Zoë" "\u00A0@zOë,\u2003état " = some "état" :=
    htrim ▸ ((command?_isMention "Zoë" _).2 hcallable).1 _ hmention hrest
  exact ⟨hcallable, hmention, hrest, hcommand, (command?_isMention "Zoë" _).1 _ hcommand⟩

end Switchboard.Chat.Mention
