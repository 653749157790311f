import Switchboard.Unicode.CharSet

/-!
# Expressions

An expression is what a pattern means: atoms, sequence, choice, and three forms of repetition. The
order of the two sides of a choice, and the greed of a repetition, say which of several ways to match
is preferred.

Expressions are generic in their atoms. In a compiled pattern an atom is a set of characters or a
condition on a place; on a given text it becomes a set of positions.
-/

namespace Switchboard.Pattern

/-- Expressions over atoms. -/
inductive Expr (α : Type)
  /-- Matches the empty text. -/
  | empty
  | atom (a : α)
  /-- A group whose span is recorded, under the name of the group if it has one. -/
  | capture (name : Option String) (e : Expr α)
  | cat (e f : Expr α)
  /-- A choice that prefers its left side. -/
  | alt (e f : Expr α)
  /-- Once or not at all; greedy ones prefer once. -/
  | opt (greedy : Bool) (e : Expr α)
  /-- Once or more often; greedy ones prefer more often. Every repetition after the first one takes
  at least one character. -/
  | loop (greedy : Bool) (e : Expr α)
  /-- Exactly `n` times. -/
  | times (n : Nat) (e : Expr α)
  /-- At most `n` times, each time only after the one before. -/
  | upTo (n : Nat) (greedy : Bool) (e : Expr α)
  deriving Repr

namespace Expr

variable {α β : Type}

/-- Replaces the atoms. -/
def map (f : α → β) : Expr α → Expr β
  | empty => empty
  | atom a => atom (f a)
  | capture name e => capture name (map f e)
  | cat e₁ e₂ => cat (map f e₁) (map f e₂)
  | alt e₁ e₂ => alt (map f e₁) (map f e₂)
  | opt greedy e => opt greedy (map f e)
  | loop greedy e => loop greedy (map f e)
  | times n e => times n (map f e)
  | upTo n greedy e => upTo n greedy (map f e)

/-- Expressions one after the other. -/
def concat : List (Expr α) → Expr α
  | [] => empty
  | [e] => e
  | e :: rest => cat e (concat rest)

/-- Expressions of which the first that matches is preferred. -/
def choice : List (Expr α) → Expr α
  | [] => empty
  | [e] => e
  | e :: rest => alt e (choice rest)

/-- Between `min` and `max` times, or at least `min` times. -/
def rep (min : Nat) (max : Option Nat) (greedy : Bool) (e : Expr α) : Expr α :=
  match max with
  | none =>
    if min = 0 then opt greedy (loop greedy e)
    else if min = 1 then loop greedy e
    else cat (times (min - 1) e) (loop greedy e)
  | some max =>
    if max = 0 then empty
    else if min = max then if min = 1 then e else times min e
    else if min = 0 then if max = 1 then opt greedy e else upTo max greedy e
    else cat (times min e) (upTo (max - min) greedy e)

end Expr

/-- Conditions on a place between two characters. -/
inductive Look
  | start
  | finish
  | startLine
  | endLine
  | startLineCrlf
  | endLineCrlf
  | word (ascii : Bool)
  | notWord (ascii : Bool)
  | wordStart (ascii : Bool)
  | wordEnd (ascii : Bool)
  | wordStartHalf (ascii : Bool)
  | wordEndHalf (ascii : Bool)
  deriving DecidableEq, Repr

/-- Atoms of compiled patterns. -/
inductive Atom
  /-- One character of a set. -/
  | set (s : Unicode.CharSet)
  | look (l : Look)
  deriving Repr

end Switchboard.Pattern
