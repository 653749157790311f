import Mathlib.Tactic
import Switchboard.Alias.Dispatch

/-!
# Identifiers in acknowledgements

A template for an acknowledgement is literal text without braces, and references to the identifier
between the literals. It is read literal by literal: in text without braces no bracket opens, and a
reference ends where it is written to end. So nothing of the identifier is ever read as a template: it
stands in the sentence as it is, at the place of each reference.

What a template loses is a line end at its own end. A carriage return counts as one, so a template that
ends with it is not rendered in full (`render_return_lost`).

## Main results

* `Template.pieces_composed`: the pieces of a template, literal by literal.
* `Template.render_composed`: a template that does not end with a line end.
* `render_verbatim`: identifiers are rendered verbatim, by every sentence too, and can be told apart.
* `Answer.tells_message`: what a reply says about each answer of the automation service.
-/

namespace Switchboard

namespace Text.Template

/-! ### Literal text -/

/-- Text without an opening brace opens nothing. -/
theorem splitOpening_of_forall_ne {front : List Char} (h : ∀ c ∈ front, c ≠ '\x7b') :
    splitOpening front = (front, none) := by
  fun_induction splitOpening front with
  | case1 => rfl
  | case2 c => rfl
  | case3 c d rest bracket hbracket =>
      rw [if_neg (h c List.mem_cons_self)] at hbracket
      exact absurd hbracket (by simp)
  | case4 c d rest hnone front found hsplit ih =>
      rw [hsplit] at ih
      obtain ⟨rfl, rfl⟩ := Prod.mk.inj (ih (List.forall_mem_cons.mp h).2)
      rfl

/-- Text without braces goes up to the next bracket. -/
theorem splitOpening_append {front : List Char} (h : ∀ c ∈ front, c ≠ '\x7b') (rest : List Char) :
    splitOpening (front ++ '\x7b' :: '\x7b' :: rest) = (front, some (.reference, rest)) := by
  induction front with
  | nil => rfl
  | cons c front ih =>
      obtain ⟨hc, hfront⟩ := List.forall_mem_cons.mp h
      obtain ⟨d, behind, hbehind⟩ : ∃ d behind, front ++ '\x7b' :: '\x7b' :: rest = d :: behind :=
        List.exists_cons_of_ne_nil (by simp)
      rw [List.cons_append, hbehind, splitOpening, if_neg hc]
      simp only [← hbehind, ih hfront]

/-! ### References -/

/-- The name that references are to. -/
def name : List Char := "execution_id".toList

/-- A reference, as it is written in a template. -/
def written : List Char := "\x7b\x7b execution_id \x7d\x7d".toList

/-- A reference is read from behind its bracket, whatever follows it. -/
theorem reference?_written (rest : List Char) :
    mark (written.drop 2 ++ rest) = (false, written.drop 2 ++ rest) ∧
      reference? (written.drop 2 ++ rest) = some (.reference name [], false, rest) := ⟨rfl, rfl⟩

/-- The first reference behind a literal is where the literal ends. -/
theorem splitOpening_append_written {front : List Char} (h : ∀ c ∈ front, c ≠ '\x7b')
    (rest : List Char) :
    splitOpening (front ++ (written ++ rest)) = (front, some (.reference, written.drop 2 ++ rest)) :=
  splitOpening_append h (written.drop 2 ++ rest)

/-! ### Templates -/

variable {first : List Char} {literals : List (List Char)}

/-- **The pieces of a template** are its literals and the references between them. The induction is on
the literals behind the first one, each of which takes a unit of fuel. -/
theorem pieces_composed (hplain : ∀ literal ∈ first :: literals, ∀ c ∈ literal, c ≠ '\x7b')
    {fuel : Nat} (hfuel : literals.length < fuel) :
    pieces fuel false (written.intercalate (first :: literals)) =
      some (.text first :: literals.flatMap fun literal => [.reference name [], .text literal]) := by
  induction literals generalizing first fuel with
  | nil =>
      obtain ⟨fuel, rfl⟩ := Nat.exists_eq_add_one_of_ne_zero (Nat.ne_of_gt hfuel)
      have hsplit := splitOpening_of_forall_ne (hplain first List.mem_cons_self)
      simp only [List.intercalate_singleton, pieces, Bool.false_eq_true, if_false, hsplit,
        List.flatMap_nil]
  | cons literal literals ih =>
      obtain ⟨fuel, rfl⟩ := Nat.exists_eq_add_one_of_ne_zero (Nat.ne_zero_of_lt hfuel)
      obtain ⟨hfirst, hmore⟩ := List.forall_mem_cons.mp hplain
      have hrest := ih hmore (Nat.lt_of_succ_lt_succ hfuel)
      obtain ⟨hmark, hreference⟩ :=
        reference?_written (written.intercalate (literal :: literals))
      rw [List.intercalate_cons_cons, List.append_assoc]
      simp only [pieces, Bool.false_eq_true, if_false, splitOpening_append_written hfirst, hmark,
        hreference, bind, Option.bind, hrest, List.flatMap_cons, List.cons_append, List.nil_append]
      rfl

/-- The name stands for a value in a template that has no more than the name. -/
theorem renderPieces_composed (value first : List Char) (literals : List (List Char)) :
    renderPieces name value
        (.text first :: literals.flatMap fun literal => [.reference name [], .text literal]) =
      some (value.intercalate (first :: literals)) := by
  induction literals generalizing first with
  | nil => simp [renderPieces, renderPiece]
  | cons literal literals ih =>
      have hrest := ih literal
      rw [List.intercalate_cons_cons, List.flatMap_cons, List.cons_append, List.cons_append,
        List.nil_append, renderPieces, renderPieces, hrest, List.append_assoc]
      simp only [renderPiece, if_true, bind, Option.bind, pure]

/-- Text that ends within a line has no line end to drop. -/
theorem dropLineEnd_eq_self {cs : List Char} (h : ∀ c ∈ cs.getLast?, c ≠ '\n' ∧ c ≠ '\r') :
    dropLineEnd cs = cs := by
  have hne (c : Char) (hc : c = '\n' ∨ c = '\r') : cs.getLast? ≠ some c := by
    intro hlast
    obtain ⟨hline, hreturn⟩ := h c hlast
    exact hc.elim hline hreturn
  rw [dropLineEnd, if_neg (hne '\n' (.inl rfl))]
  exact if_neg (hne '\r' (.inr rfl))

/-- How long pieces with a separator between them are. -/
theorem length_intercalate (separator first : List Char) (literals : List (List Char)) :
    (separator.intercalate (first :: literals)).length =
      ((first :: literals).map List.length).sum + literals.length * separator.length := by
  induction literals generalizing first with
  | nil => simp
  | cons literal literals ih =>
      rw [List.intercalate_cons_cons, List.length_append, List.length_append, ih,
        List.map_cons (l := literal :: literals), List.sum_cons, List.length_cons]
      ring

/-- **Rendering.** In a template that does not end with a line end, the value stands for every
reference, and the literals stand as they are. -/
theorem render_composed (hplain : ∀ literal ∈ literals, ∀ c ∈ literal, c ≠ '\x7b')
    (hend : ∀ c ∈ (written.intercalate literals).getLast?, c ≠ '\n' ∧ c ≠ '\r')
    (value : List Char) :
    render (written.intercalate literals) name value = some (value.intercalate literals) := by
  cases literals with
  | nil => rfl
  | cons first literals =>
      have hfuel : literals.length < (written.intercalate (first :: literals)).length + 1 := by
        have hpos : 0 < written.length := by decide
        rw [length_intercalate]
        nlinarith [Nat.zero_le ((first :: literals).map List.length).sum]
      rw [render, parse, dropLineEnd_eq_self hend]
      simp only [pieces_composed hplain hfuel, bind, Option.bind]
      exact renderPieces_composed value first literals

/-- What stands in the place of references can be told from the text. -/
theorem eq_of_intercalate_eq {value value' first second : List Char}
    (h : value.intercalate (first :: second :: literals) =
      value'.intercalate (first :: second :: literals)) : value = value' := by
  have hlength := congrArg List.length h
  rw [length_intercalate, length_intercalate, Nat.add_left_cancel_iff, List.length_cons] at hlength
  have hsame := Nat.eq_of_mul_eq_mul_left (Nat.succ_pos literals.length) hlength
  rw [List.intercalate_cons_cons, List.intercalate_cons_cons, List.append_assoc, List.append_assoc]
    at h
  exact (List.append_inj (List.append_cancel_left h) hsame).1

end Text.Template

namespace Alias.Acknowledgement

/-! ### Acknowledgements -/

/-- A reference to the identifier, as it is written in a template. -/
def reference : String := "\x7b\x7b execution_id \x7d\x7d"

/-- A template is made of literals without braces, with references to the identifier between them. -/
structure IsComposed (template : String) (literals : List String) : Prop where
  eq : template = reference.intercalate literals
  plain : ∀ literal ∈ literals, ∀ c ∈ literal.toList, c ≠ '\x7b' ∧ c ≠ '\x7d'

/-- A text that does not end with a line end, which is a line feed or a carriage return. -/
def EndsWithin (text : String) : Prop := ∀ c ∈ text.toList.getLast?, c ≠ '\n' ∧ c ≠ '\r'

variable {template : String} {literals : List String}

/-- A template that ends within a line is rendered as its literals with the identifier between
them. -/
theorem render_of_isComposed (h : IsComposed template literals) (hend : EndsWithin template)
    (executionId : String) : render template executionId = executionId.intercalate literals := by
  obtain ⟨rfl, hplain⟩ := h
  have htemplate : (reference.intercalate literals).toList =
      Text.Template.written.intercalate (literals.map String.toList) := String.toList_intercalate
  have hliterals : ∀ literal ∈ literals.map String.toList, ∀ c ∈ literal, c ≠ '\x7b' := by
    intro literal hliteral c hc
    obtain ⟨literal, hmem, rfl⟩ := List.mem_map.mp hliteral
    exact (hplain literal hmem c hc).1
  rw [EndsWithin, htemplate] at hend
  have hrender := Text.Template.render_composed hliterals hend executionId.toList
  have hname : "execution_id".toList = Text.Template.name := rfl
  rw [← String.toList_inj, String.toList_intercalate, render, htemplate, hname]
  simp only [hrender, String.toList_ofList]

/-- Every sentence is made of two literals and a reference between them, and ends within a line. The
sentences are compared as lists of characters, since the kernel does not decode the bytes of literals. -/
theorem exists_isComposed_of_mem (h : template ∈ templates) :
    ∃ before behind, IsComposed template [before, behind] ∧ EndsWithin template := by
  have hall : ∀ template ∈ templates,
      let before := template.toList.takeWhile (· ≠ '\x7b')
      let behind := template.toList.drop (before.length + reference.toList.length)
      template.toList = before ++ (reference.toList ++ behind) ∧
        (before ++ behind).all (fun c => c ≠ '\x7b' ∧ c ≠ '\x7d') ∧
        template.toList.getLast?.all fun c => c ≠ '\n' ∧ c ≠ '\r' := by
    simp only [templates, reference, List.forall_mem_cons]
    repeat rw [String.toList_ofList]
    decide +kernel
  obtain ⟨heq, hplain, hend⟩ := hall template h
  simp only [List.all_eq_true, Option.all_eq_true, decide_eq_true_eq] at hplain hend
  generalize template.toList.takeWhile (· ≠ '\x7b') = before at heq hplain
  generalize template.toList.drop (before.length + reference.toList.length) = behind at heq hplain
  obtain ⟨hbefore, hbehind⟩ := List.forall_mem_append.mp hplain
  refine ⟨String.ofList before, String.ofList behind, ⟨?_, ?_⟩, hend⟩
  · rw [← String.toList_inj, heq, String.intercalate_cons_cons, String.intercalate_singleton]
    simp
  · rw [List.forall_mem_cons, List.forall_mem_singleton, String.toList_ofList,
      String.toList_ofList]
    exact ⟨hbefore, hbehind⟩

/-- **Identifiers are rendered verbatim.** Let a template be made of literals without braces and of any
number of references to the identifier between them, and let it not end with a line feed or a carriage
return.

* It is rendered as its literals with the identifier between them, unchanged, whatever characters the
  identifier has.
* If it has a reference, different identifiers are rendered differently.

Every sentence for an accepted command is such a template, with one reference. -/
theorem render_verbatim :
    (∀ template literals, IsComposed template literals → EndsWithin template →
      (∀ executionId, render template executionId = executionId.intercalate literals) ∧
        (2 ≤ literals.length → Function.Injective (render template))) ∧
      ∀ template ∈ templates, ∃ before behind,
        IsComposed template [before, behind] ∧ EndsWithin template := by
  refine ⟨fun template literals h hend => ⟨render_of_isComposed h hend, fun hlength => ?_⟩,
    fun template => exists_isComposed_of_mem⟩
  intro executionId executionId' heq
  rw [render_of_isComposed h hend, render_of_isComposed h hend, ← String.toList_inj,
    String.toList_intercalate, String.toList_intercalate] at heq
  obtain _ | ⟨first, _ | ⟨second, literals⟩⟩ := literals
  · exact absurd hlength (by simp)
  · exact absurd hlength (by simp)
  · exact String.toList_inj.mp (Text.Template.eq_of_intercalate_eq heq)

/-- An identifier that looks like a template and like markup. -/
theorem render_verbatim_braces :
    IsComposed "\x7b\x7b execution_id \x7d\x7d is \x7b\x7b execution_id \x7d\x7d!" ["", " is ", "!"] ∧
      EndsWithin "\x7b\x7b execution_id \x7d\x7d is \x7b\x7b execution_id \x7d\x7d!" ∧
      render "\x7b\x7b execution_id \x7d\x7d is \x7b\x7b execution_id \x7d\x7d!"
          "<b>\x7b\x7b execution_id \x7d\x7d\n" =
        "<b>\x7b\x7b execution_id \x7d\x7d\n is <b>\x7b\x7b execution_id \x7d\x7d\n!" ∧
      2 ≤ ["", " is ", "!"].length ∧
      Function.Injective
        (render "\x7b\x7b execution_id \x7d\x7d is \x7b\x7b execution_id \x7d\x7d!") := by
  have hcomposed : IsComposed
      "\x7b\x7b execution_id \x7d\x7d is \x7b\x7b execution_id \x7d\x7d!" ["", " is ", "!"] :=
    ⟨rfl, by simp⟩
  have hend : EndsWithin "\x7b\x7b execution_id \x7d\x7d is \x7b\x7b execution_id \x7d\x7d!" := by
    simp [EndsWithin]
  obtain ⟨hrender, hinjective⟩ := render_verbatim.1 _ _ hcomposed hend
  exact ⟨hcomposed, hend, hrender _, by decide, hinjective (by decide)⟩

/-- A carriage return at the end of a template is not rendered. -/
theorem render_return_lost :
    IsComposed "ID \x7b\x7b execution_id \x7d\x7d\r" ["ID ", "\r"] ∧
      "ID \x7b\x7b execution_id \x7d\x7d\r".toList.getLast? ≠ some '\n' ∧
      render "ID \x7b\x7b execution_id \x7d\x7d\r" "x" = "ID x" ∧
      render "ID \x7b\x7b execution_id \x7d\x7d\r" "x" ≠ "x".intercalate ["ID ", "\r"] :=
  ⟨⟨rfl, by simp⟩, by decide, by decide, by decide⟩

end Alias.Acknowledgement

namespace Alias

/-! ### Replies -/

/-- What a reply to a command says about the answer to its request: the reason if there was no
answer, the status with the body if the status is not 200, and otherwise one of the nine sentences,
with the identifier of the execution between its two literals and nothing in place of it. -/
inductive Answer.Tells : Answer → String → Prop
  | failed (reason : String) : Tells (.failure reason) ("error : " ++ reason)
  | rejected {status : Nat} (body : String) (h : status ≠ 200) :
      Tells (.response status body) ("status code \"" ++ toString status ++ "\": " ++ body)
  | accepted {template before behind : String} (body : String)
      (hmem : template ∈ Acknowledgement.templates)
      (hcomposed : Acknowledgement.IsComposed template [before, behind]) :
      Tells (.response 200 body) (before ++ executionId body ++ behind)

/-- **What a reply says.** The message of the outcome of an answer tells that answer, whichever
sentence is chosen for it. In particular no acceptance is ever acknowledged with the plain sentence,
which stands for faulty templates only. -/
theorem Answer.tells_message (choice : Fin Acknowledgement.templates.length) (answer : Answer) :
    Tells answer (Outcome.ofAnswer choice answer).message := by
  cases answer with
  | failure reason => exact .failed reason
  | response status body =>
      by_cases hstatus : status = acceptedStatus
      · obtain rfl : status = 200 := hstatus
        have hmem := Acknowledgement.templates.get_mem choice
        obtain ⟨before, behind, hcomposed, hend⟩ := Acknowledgement.exists_isComposed_of_mem hmem
        have hmessage : (Outcome.ofAnswer choice (.response 200 body)).message =
            before ++ executionId body ++ behind :=
          (Acknowledgement.render_of_isComposed hcomposed hend (executionId body)).trans
            (by simp [String.intercalate_cons_cons, String.append_assoc])
        exact hmessage ▸ .accepted body hmem hcomposed
      · have hmessage : (Outcome.ofAnswer choice (.response status body)).message =
            "status code \"" ++ toString status ++ "\": " ++ body := by
          rw [Outcome.ofAnswer, if_neg hstatus, Outcome.message]
        exact hmessage ▸ .rejected body hstatus

end Alias

end Switchboard
