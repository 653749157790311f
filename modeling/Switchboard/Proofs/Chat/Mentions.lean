import Mathlib.Data.List.TakeWhile
import Mathlib.Tactic
import Switchboard.Chat.Mention
import Switchboard.Proofs.Config.Variables
import Switchboard.Proofs.Text.Ascii
import Switchboard.Proofs.Text.Pieces

/-!
# Bots that can be addressed

A message to a bot is its name, a mark and a command, perhaps with white space and an at sign in front.
The name of a bot is whatever is configured, and it is not trimmed: it may begin with white space or
with an at sign, which are dropped from the front of a message before the name is looked for. The
name of such a bot is no longer there when it is compared, unless an at sign is put in front of it.

That nothing else can be found in its place is seen by counting at signs. A message has those of the
name and those of the command, and what was found instead of the name has as many as the name, so if
an at sign was dropped, the command that was found lacks one.

## Main results

* `commandChars_eq_some_iff`: which texts hold a command.
* `commandChars_eq_trim_iff`: which ways to address a bot are understood.
* `command?_eq_trim_iff`: the same for every name that can be configured.
-/

namespace Switchboard

open Text (isBlank)

/-! ### Trimmed texts -/

namespace Text.Blank

/-- White space in front is dropped. -/
theorem trimStart_append {front : List Char} (hfront : ∀ c ∈ front, isBlank c) (cs : List Char) :
    trimStart (front ++ cs) = trimStart cs := List.dropWhile_append_of_pos hfront

/-- Dropping white space loses no other character. -/
theorem count_trimStart {a : Char} (ha : ¬ isBlank a) (cs : List Char) :
    (trimStart cs).count a = cs.count a := by
  induction cs with
  | nil => rfl
  | cons c cs ih =>
      rw [trimStart] at ih ⊢
      by_cases hc : isBlank c
      · have hne : c ≠ a := by
          rintro rfl
          exact ha hc
        rw [List.dropWhile_cons_of_pos hc, ih, List.count_cons_of_ne hne]
      · rw [List.dropWhile_cons_of_neg hc]

/-- Trimming drops nothing but white space. -/
theorem count_trim {a : Char} (ha : ¬ isBlank a) (cs : List Char) :
    (trim cs).count a = cs.count a := by
  have hend (ds : List Char) : (trimEnd ds).count a = ds.count a := by
    rw [trimEnd, List.count_reverse]
    exact (count_trimStart ha ds.reverse).trans List.count_reverse
  rw [trim, hend, count_trimStart ha]

/-- What is left does not begin with white space. -/
theorem head?_trimStart (cs : List Char) : ∀ c ∈ (trimStart cs).head?, ¬ isBlank c := by
  intro c hc
  have hnot := List.head?_dropWhile_not isBlank cs
  rw [← trimStart, Option.mem_def.mp hc] at hnot
  simpa using hnot

end Text.Blank

/-! ### Beginnings of so many bytes -/

namespace Text.Utf8

/-- The length of a text in bytes, character by character. -/
theorem length_encodeChars_cons (c : Char) (cs : List Char) :
    (encodeChars (c :: cs)).length = width c + (encodeChars cs).length := by
  rw [encodeChars, List.flatMap_cons, List.length_append]
  rfl

/-- A character takes at least one byte. -/
theorem width_pos (c : Char) : 0 < width c := by
  unfold width encodeChar
  simp only
  split_ifs <;> simp

/-- Only the empty text takes no bytes. -/
theorem eq_nil_of_length_encodeChars {cs : List Char} (h : (encodeChars cs).length = 0) :
    cs = [] := by
  cases cs with
  | nil => rfl
  | cons c cs =>
      have hpos := width_pos c
      rw [length_encodeChars_cons] at h
      omega

/-- A beginning that has bytes begins with the first character. -/
theorem exists_of_length_encodeChars {n : Nat} {c : Char} {rest front back : List Char}
    (happend : c :: rest = front ++ back) (hlength : (encodeChars front).length = n + 1) :
    ∃ more, front = c :: more ∧ rest = more ++ back ∧
      width c + (encodeChars more).length = n + 1 := by
  cases front with
  | nil => exact absurd hlength.symm (Nat.succ_ne_zero n)
  | cons d more =>
      obtain ⟨rfl, rfl⟩ := List.cons.inj happend
      rw [length_encodeChars_cons] at hlength
      exact ⟨more, rfl, rfl, hlength⟩

/-- A text is split behind the characters that have so many bytes. -/
theorem splitAtBytes_eq_some_iff {n : Nat} {cs front back : List Char} :
    splitAtBytes n cs = some (front, back) ↔
      cs = front ++ back ∧ (encodeChars front).length = n := by
  fun_induction splitAtBytes n cs generalizing front with
  | case1 cs =>
      simp only [Option.some.injEq, Prod.mk.injEq]
      constructor
      · rintro ⟨rfl, rfl⟩
        exact ⟨rfl, rfl⟩
      · rintro ⟨rfl, hlength⟩
        obtain rfl := eq_nil_of_length_encodeChars hlength
        exact ⟨rfl, rfl⟩
  | case2 n =>
      simp only [reduceCtorEq, false_iff, not_and]
      intro hnil
      rw [(List.append_eq_nil_iff.mp hnil.symm).1]
      exact Nat.succ_ne_zero n ∘ Eq.symm
  | case3 n c rest hwidth ih =>
      simp only [Option.map_eq_some_iff, Prod.exists, Prod.mk.injEq]
      constructor
      · rintro ⟨front', back', hsplit, rfl, rfl⟩
        obtain ⟨rfl, hlength⟩ := ih.mp hsplit
        refine ⟨rfl, ?_⟩
        rw [length_encodeChars_cons]
        omega
      · rintro ⟨happend, hlength⟩
        obtain ⟨more, rfl, rfl, hmore⟩ := exists_of_length_encodeChars happend hlength
        exact ⟨more, back, ih.mpr ⟨rfl, by omega⟩, rfl, rfl⟩
  | case4 n c rest hwidth =>
      simp only [reduceCtorEq, false_iff, not_and]
      intro happend hlength
      obtain ⟨more, -, -, hmore⟩ := exists_of_length_encodeChars happend hlength
      omega

end Text.Utf8

namespace Chat.Mention

/-! ### Letters in either case -/

/-- At signs and white space are no letters. -/
theorem eq_of_toLower_eq {c d : Char} (h : c.toLower = d.toLower) (hd : d = '@' ∨ isBlank d) :
    c = d := by
  have hall : ∀ n < 0x80, (Char.ofNat n = '@' ∨ isBlank (Char.ofNat n) ∨
      (Char.ofNat n).toLower = '@' ∨ isBlank (Char.ofNat n).toLower) →
        (Char.ofNat n).toLower = Char.ofNat n := by decide
  have hself (e : Char) (he : e = '@' ∨ isBlank e ∨ e.toLower = '@' ∨ isBlank e.toLower) :
      e.toLower = e := by
    rcases Text.toLower_cases e with h | h
    · exact h
    · exact Text.forall_ascii (P := fun e => (e = '@' ∨ isBlank e ∨ e.toLower = '@' ∨
        isBlank e.toLower) → e.toLower = e) hall h he
  have hd' : d.toLower = d := hself d (hd.imp_right .inl)
  have hc : c.toLower = '@' ∨ isBlank c.toLower := by rwa [h, hd']
  rw [← hd', ← h, hself c (.inr (.inr hc))]

/-- Names are compared by their small ASCII letters. -/
theorem sameIgnoringCase_iff {a b : List Char} :
    sameIgnoringCase a b ↔ a.map Char.toLower = b.map Char.toLower := beq_iff_eq

variable {a b : List Char}

/-- Names that are the same take as many bytes. -/
theorem length_encodeChars_of_same (h : sameIgnoringCase a b) :
    (Text.Utf8.encodeChars a).length = (Text.Utf8.encodeChars b).length := by
  have hlower (cs : List Char) : (Text.Utf8.encodeChars (cs.map Char.toLower)).length =
      (Text.Utf8.encodeChars cs).length := by
    induction cs with
    | nil => rfl
    | cons c cs ih =>
        rw [List.map_cons, Text.Utf8.length_encodeChars_cons, Text.Utf8.length_encodeChars_cons,
          Text.width_toLower, ih]
  rw [← hlower a, sameIgnoringCase_iff.mp h, hlower b]

/-- They have as many at signs. -/
theorem count_at_of_same (h : sameIgnoringCase a b) : a.count '@' = b.count '@' := by
  have hlower (cs : List Char) : (cs.map Char.toLower).count '@' = cs.count '@' := by
    induction cs with
    | nil => rfl
    | cons c cs ih =>
        rw [List.map_cons, List.count_cons, List.count_cons, ih]
        have hiff : c.toLower = '@' ↔ c = '@' :=
          ⟨fun hc => eq_of_toLower_eq (hc.trans (by decide)) (.inl rfl), fun hc => by rw [hc]; decide⟩
        simp only [beq_iff_eq, hiff]
  rw [← hlower a, sameIgnoringCase_iff.mp h, hlower b]

/-- A name begins with an at sign or with white space in both cases. -/
theorem head?_eq_of_same (h : sameIgnoringCase a b) {c : Char} (hc : c ∈ b.head?)
    (hstripped : c = '@' ∨ isBlank c) : c ∈ a.head? := by
  obtain ⟨b, rfl⟩ := List.head?_eq_some_iff.mp hc
  cases a with
  | nil => exact absurd (sameIgnoringCase_iff.mp h) (by simp)
  | cons d a =>
      obtain ⟨hd, -⟩ := List.cons.inj (sameIgnoringCase_iff.mp h)
      exact congrArg some (eq_of_toLower_eq hd hstripped)

/-! ### What is understood -/

variable {bot text command : List Char}

/-- **Commands.** A text holds a command when, without white space and one at sign at the front, it
begins with the name, and a separator and something that is not blank follow. -/
theorem commandChars_eq_some_iff :
    commandChars bot text = some command ↔
      bot ≠ [] ∧ command ≠ [] ∧ ∃ name after rest,
        dropAt (Text.Blank.trimStart text) = name ++ after ∧ sameIgnoringCase name bot ∧
        afterSeparator after = some rest ∧ command = Text.Blank.trim rest := by
  simp only [commandChars, Option.bind_eq_bind, Option.bind_eq_some_iff, Option.pure_def,
    Option.some.injEq, Option.guard_eq_some', Prod.exists, Text.Utf8.splitAtBytes_eq_some_iff,
    Bool.and_eq_true, Bool.not_eq_true', List.isEmpty_eq_false_iff]
  constructor
  · rintro ⟨name, after, ⟨htext, -⟩, -, ⟨hbot, hname⟩, rest, hrest, -, hne, rfl⟩
    exact ⟨hbot, hne, name, after, rest, htext, hname, hrest, rfl⟩
  · rintro ⟨hbot, hne, name, after, rest, htext, hname, hrest, rfl⟩
    exact ⟨name, after, ⟨htext, length_encodeChars_of_same hname⟩, (), ⟨hbot, hname⟩, rest, hrest,
      (), hne, rfl⟩

/-- An at sign is no white space. -/
theorem not_isBlank_at : ¬ isBlank '@' := by decide

/-- A separator holds no at sign. -/
theorem count_at_of_afterSeparator {after rest : List Char} (h : afterSeparator after = some rest) :
    rest.count '@' = after.count '@' := by
  cases after with
  | nil => exact absurd h (by simp [afterSeparator])
  | cons c after =>
      rw [afterSeparator] at h
      split at h
      · next hc =>
          have hne : c ≠ '@' := by rcases hc with rfl | rfl <;> decide
          rw [← Option.some.inj h, List.count_cons_of_ne hne]
      · split at h
        · rw [← Option.some.inj h]
        · exact absurd h (by simp)

/-! ### Ways to address a bot -/

/-- What may stand between a name and a command. -/
def marks : List (List Char) := [[' '], [':', ' '], [',', ' ']]

/-- A message that addresses a bot: white space, an at sign if it is signed, the name with its ASCII
letters in any case, a mark and the command. -/
def Addresses (bot : List Char) (signed : Bool) (command message : List Char) : Prop :=
  ∃ lead name, ∃ mark ∈ marks, (∀ c ∈ lead, isBlank c) ∧ sameIgnoringCase name bot ∧
    message = lead ++ ((if signed then ['@'] else []) ++ name ++ (mark ++ command))

/-- A name that begins with nothing that is dropped in front of a name. -/
def IsCallable (bot : List Char) : Prop := ∀ c ∈ bot.head?, c ≠ '@' ∧ ¬ isBlank c

/-- Behind each mark the command follows, with a space in front in any case. -/
theorem afterSeparator_mark {mark : List Char} (hmark : mark ∈ marks) (command : List Char) :
    afterSeparator (mark ++ command) = some (' ' :: command) := by
  have hspace : isBlank ' ' := by decide
  simp only [marks, List.mem_cons, List.not_mem_nil, or_false] at hmark
  rcases hmark with rfl | rfl | rfl
  · simp [afterSeparator, hspace]
  · simp [afterSeparator]
  · simp [afterSeparator]

/-- This space is trimmed again. -/
theorem trim_space_cons (command : List Char) :
    Text.Blank.trim (' ' :: command) = Text.Blank.trim command := by
  have hspace : isBlank ' ' := by decide
  rw [Text.Blank.trim, Text.Blank.trimStart, List.dropWhile_cons_of_pos hspace]
  rfl

/-- Whether a name can be called does not depend on its capitals. -/
theorem IsCallable.of_same (h : IsCallable b) (hsame : sameIgnoringCase a b) : IsCallable a := by
  intro c hc
  by_contra hstripped
  have hmem : c ∈ b.head? :=
    head?_eq_of_same (sameIgnoringCase_iff.mpr (sameIgnoringCase_iff.mp hsame).symm) hc
      (or_iff_not_imp_left.mpr fun hne => not_not.mp fun hblank => hstripped ⟨hne, hblank⟩)
  exact hstripped (h c hmem)

/-- A name that is left where it is, is found. -/
theorem commandChars_of_dropAt {name mark : List Char} (hbot : bot ≠ [])
    (hname : sameIgnoringCase name bot) (hmark : mark ∈ marks)
    (hcommand : Text.Blank.trim command ≠ [])
    (htext : dropAt (Text.Blank.trimStart text) = name ++ (mark ++ command)) :
    commandChars bot text = some (Text.Blank.trim command) :=
  commandChars_eq_some_iff.mpr ⟨hbot, hcommand, name, mark ++ command, _, htext, hname,
    afterSeparator_mark hmark command, (trim_space_cons command).symm⟩

/-- A text that loses no at sign begins with none. -/
theorem dropAt_eq_self_of_count {cs : List Char} (h : (dropAt cs).count '@' = cs.count '@') :
    dropAt cs = cs ∧ cs.head? ≠ some '@' := by
  unfold dropAt at h ⊢
  split
  · simp at h
  · next hne =>
      refine ⟨rfl, fun hhead => ?_⟩
      obtain ⟨rest, rfl⟩ := List.head?_eq_some_iff.mp hhead
      exact hne rest rfl

/-- A name that is heard, with its mark, is callable: no at sign was dropped, so that what was found is
where the message begins. -/
theorem isCallable_of_commandChars {lead name mark : List Char} (hlead : ∀ c ∈ lead, isBlank c)
    (hname : sameIgnoringCase name bot) (hmark : mark ∈ marks)
    (hfound : commandChars bot (lead ++ (name ++ (mark ++ command))) =
      some (Text.Blank.trim command)) :
    IsCallable bot := by
  obtain ⟨-, -, name', after, rest, htext, hname', hrest, htrim⟩ :=
    commandChars_eq_some_iff.mp hfound
  have hmarkCount : mark.count '@' = 0 := by
    have hall : ∀ mark ∈ marks, mark.count '@' = 0 := by decide
    exact hall mark hmark
  have hcommandCount : command.count '@' = after.count '@' := by
    rw [← Text.Blank.count_trim not_isBlank_at command, htrim,
      Text.Blank.count_trim not_isBlank_at, count_at_of_afterSeparator hrest]
  have hstart := Text.Blank.head?_trimStart (lead ++ (name ++ (mark ++ command)))
  have hcount : (dropAt (Text.Blank.trimStart (lead ++ (name ++ (mark ++ command))))).count '@' =
      (Text.Blank.trimStart (lead ++ (name ++ (mark ++ command)))).count '@' := by
    rw [htext, Text.Blank.trimStart_append hlead, Text.Blank.count_trimStart not_isBlank_at,
      List.count_append, List.count_append, List.count_append, hmarkCount, hcommandCount,
      count_at_of_same hname, count_at_of_same hname']
    omega
  generalize Text.Blank.trimStart (lead ++ (name ++ (mark ++ command))) = start
    at htext hcount hstart
  obtain ⟨hself, hat⟩ := dropAt_eq_self_of_count hcount
  intro c hc
  by_contra hstripped
  have hmem : c ∈ start.head? := by
    obtain ⟨name', rfl⟩ := List.head?_eq_some_iff.mp
      (head?_eq_of_same hname' hc (by tauto))
    rw [← hself, htext]
    rfl
  refine hstripped ⟨?_, hstart c hmem⟩
  rintro rfl
  exact hat hmem

/-- **Addressing a bot.** Its command is understood if an at sign is put in front of the name, and
otherwise exactly if the name begins neither with an at sign nor with white space. -/
theorem commandChars_eq_trim_iff {signed : Bool} {message : List Char} (hbot : bot ≠ [])
    (hcommand : Text.Blank.trim command ≠ []) (h : Addresses bot signed command message) :
    commandChars bot message = some (Text.Blank.trim command) ↔ signed ∨ IsCallable bot := by
  obtain ⟨lead, name, mark, hmark, hlead, hname, rfl⟩ := h
  cases signed with
  | true =>
      refine iff_of_true (commandChars_of_dropAt hbot hname hmark hcommand ?_) (.inl rfl)
      rw [Text.Blank.trimStart_append hlead, if_pos rfl, List.singleton_append, List.cons_append,
        Text.Blank.trimStart, List.dropWhile_cons_of_neg not_isBlank_at, dropAt]
  | false =>
      rw [if_neg Bool.false_ne_true, List.nil_append]
      constructor
      · intro hfound
        exact .inr (isCallable_of_commandChars hlead hname hmark hfound)
      · intro hcallable
        have hne : name ≠ [] := by
          rintro rfl
          exact hbot (List.map_eq_nil_iff.mp (sameIgnoringCase_iff.mp hname).symm)
        obtain ⟨n, name, rfl⟩ := List.exists_cons_of_ne_nil hne
        obtain ⟨hat, hblank⟩ := (hcallable.resolve_left Bool.false_ne_true).of_same hname n rfl
        refine commandChars_of_dropAt hbot hname hmark hcommand ?_
        rw [Text.Blank.trimStart_append hlead, List.cons_append, Text.Blank.trimStart,
          List.dropWhile_cons_of_neg hblank]
        unfold dropAt
        split
        · next hcons => exact absurd (List.cons.inj hcons).1 hat
        · rfl

/-! ### Names that are configured -/

/-- Texts are trimmed character by character. -/
theorem trim_eq_ofList (s : String) : Text.trim s = String.ofList (Text.Blank.trim s.toList) := rfl

/-- A name that is set has characters. -/
theorem toList_ne_nil_of_isSet {value : String} (h : Config.isSet value) : value.toList ≠ [] := by
  intro hnil
  rw [Config.isSet, trim_eq_ofList, hnil] at h
  exact absurd h (by decide)

/-- **Bots that can be addressed.** A bot can be given any name that counts as set. A command that is
not blank is understood when an at sign is put in front of the name. Without one it is understood
exactly if the name begins neither with an at sign nor with white space. -/
theorem command?_eq_trim_iff {bot command message : String} {signed : Bool}
    (hbot : Config.isSet bot) (hcommand : ¬ Text.isBlankText command)
    (h : Addresses bot.toList signed command.toList message.toList) :
    (∃ env config, Config.read env = .ok config ∧ config.botName = bot) ∧
      (command? bot message = some (Text.trim command) ↔ signed ∨ IsCallable bot.toList) := by
  refine ⟨Config.exists_read_iff_isSet.mpr hbot, ?_⟩
  have htrim : Text.Blank.trim command.toList ≠ [] := by
    rw [Ne, Text.Blank.trim_eq_nil_iff]
    simpa [Text.isBlankText] using hcommand
  rw [← commandChars_eq_trim_iff (toList_ne_nil_of_isSet hbot) htrim h, command?, trim_eq_ofList,
    Option.map_eq_some_iff]
  constructor
  · rintro ⟨found, hfound, heq⟩
    rwa [String.ofList_injective heq] at hfound
  · exact fun hfound => ⟨_, hfound, rfl⟩

/-- A bot that hears its name in capitals, behind a space and in front of a colon. -/
theorem command?_eq_trim_stanley :
    Config.isSet "Stanley" ∧ ¬ Text.isBlankText "restart web" ∧
      Addresses "Stanley".toList false "restart web".toList " STANLEY: restart web".toList ∧
      command? "Stanley" " STANLEY: restart web" = some "restart web" := by
  have hbot : Config.isSet "Stanley" := by decide
  have hcommand : ¬ Text.isBlankText "restart web" := by decide
  have haddress : Addresses "Stanley".toList false "restart web".toList
      " STANLEY: restart web".toList :=
    ⟨[' '], "STANLEY".toList, [':', ' '], by decide, List.forall_mem_singleton.mpr (by decide),
      by decide, by decide⟩
  have hcallable : IsCallable "Stanley".toList := by
    intro c hc
    obtain rfl : 'S' = c := Option.some.inj hc
    decide
  have htrim : Text.trim "restart web" = "restart web" := by decide
  exact ⟨hbot, hcommand, haddress,
    htrim ▸ (command?_eq_trim_iff hbot hcommand haddress).2.mpr (.inr hcallable)⟩

/-- A bot whose name begins with an at sign does not hear it, and one whose name begins with white
space does not either. -/
theorem command?_at_hubot :
    (∃ env config, Config.read env = .ok config ∧ config.botName = "@hubot") ∧
      Addresses "@hubot".toList false "status".toList "@hubot status".toList ∧
      command? "@hubot" "@hubot status" = none ∧
      Addresses " hubot".toList false "status".toList " hubot status".toList ∧
      command? " hubot" " hubot status" = none := by
  refine ⟨Config.exists_read_iff_isSet.mpr (by decide), ?_, by decide, ?_,
    by decide⟩
  · exact ⟨[], "@hubot".toList, [' '], by decide, List.forall_mem_nil _, by decide, by decide⟩
  · exact ⟨[], " hubot".toList, [' '], by decide, List.forall_mem_nil _, by decide, by decide⟩

end Chat.Mention

end Switchboard
