import Switchboard.Alias.Acknowledgement
import Switchboard.Alias.Request
import Switchboard.Text.Blank

/-!
# Dispatch of commands

A request is submitted once, without retries, and whatever comes back becomes an outcome that can be
told in chat: an answer of status 200 is an acceptance, any other answer a rejection, and no answer at
all a failure.
-/

namespace Switchboard.Alias

/-- What comes back from the automation service. -/
inductive Answer
  | response (status : Nat) (body : String)
  /-- No answer could be obtained. -/
  | failure (reason : String)
  deriving DecidableEq, Repr

/-- What became of a command. -/
inductive Outcome
  | accepted (executionId : String) (acknowledgement : String)
  | rejected (status : Nat) (body : String)
  | failed (reason : String)
  deriving DecidableEq, Repr

namespace Outcome

/-- The outcome as it is told in chat. -/
def message : Outcome → String
  | accepted _ acknowledgement => acknowledgement
  | rejected status body => "status code \"" ++ toString status ++ "\": " ++ body
  | failed reason => "error : " ++ reason

/-- Whether the command was accepted. -/
def isAccepted : Outcome → Bool
  | accepted .. => true
  | _ => false

end Outcome

/-- The identifier that a JSON object gives to an execution. -/
def executionIdOfMembers (members : Json.Members) : Option String :=
  ((members.get? "id").or ((members.get? "execution").bind fun execution => execution.get? "id")).bind
    Json.Value.string?

/-- The identifier of an execution, from the body of the answer that accepted it: a JSON string, or
the member `id` of a JSON object or of its member `execution`. Any other body is the identifier
itself, without white space around it. -/
def executionId (body : String) : String :=
  let found : Option String :=
    match Json.Value.parse body with
    | .ok (.string s) => some s
    | .ok (.object members) => executionIdOfMembers members
    | _ => none
  found.getD (Text.trim body)

/-- The status of an acceptance. -/
def acceptedStatus : Nat := 200

/-- The outcome of an answer. An acceptance is acknowledged with the sentence number `choice`. -/
def Outcome.ofAnswer (choice : Fin Acknowledgement.templates.length) : Answer → Outcome
  | .response status body =>
    if status = acceptedStatus then
      let id := executionId body
      .accepted id (Acknowledgement.nth choice id)
    else .rejected status body
  | .failure reason => .failed reason

end Switchboard.Alias
