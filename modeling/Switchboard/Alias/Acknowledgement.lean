import Switchboard.Text.Template

/-!
# Acknowledgements of accepted commands

An accepted command is answered with one of nine sentences that mention the identifier of its
execution.
-/

namespace Switchboard.Alias.Acknowledgement

/-- The sentences. -/
def templates : List String :=
  ["I'll take it from here! Your execution ID for reference is \x7b\x7b execution_id \x7d\x7d",
    "Got it! Remember \x7b\x7b execution_id \x7d\x7d as your execution ID",
    "I'm on it! Your execution ID is \x7b\x7b execution_id \x7d\x7d",
    "Let me get right on that. Remember \x7b\x7b execution_id \x7d\x7d as your execution ID",
    "Always something with you. :) I'll take care of that. Your ID is \x7b\x7b execution_id \x7d\x7d",
    "I have it covered. Your execution ID is \x7b\x7b execution_id \x7d\x7d",
    "Let me start up the machine! Your execution ID is \x7b\x7b execution_id \x7d\x7d",
    "I'll throw that task in the oven and get cookin'! Your execution ID is \x7b\x7b execution_id \x7d\x7d",
    "Want me to take that off your hand? You got it! Don't forget your execution ID: \x7b\x7b execution_id \x7d\x7d"]

/-- The index that a number comes to, counted around the sentences. -/
def around (n : Nat) : Fin templates.length := ⟨n % templates.length, Nat.mod_lt n (Nat.succ_pos 8)⟩

/-- The sentence that needs no template. -/
def plain (executionId : String) : String := "Your execution ID is " ++ executionId

/-- A sentence for an execution; the plain one if the template is faulty. -/
def render (template executionId : String) : String :=
  match Text.Template.render template.toList "execution_id".toList executionId.toList with
  | some cs => String.ofList cs
  | none => plain executionId

/-- The sentence of the given number for an execution. -/
def nth (index : Fin templates.length) (executionId : String) : String :=
  render (templates.get index) executionId

/-- Whether a text is one of the sentences for an execution. -/
def isFor (text executionId : String) : Bool :=
  templates.any fun template => render template executionId == text

end Switchboard.Alias.Acknowledgement
