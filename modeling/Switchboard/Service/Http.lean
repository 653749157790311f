import Switchboard.Text.Utf8

/-!
# Exchanges over HTTP

A request is answered by a status and a body, or not at all. How that comes about is left open: an
exchange acts on a state. What it does with a request whose headers cannot be sent is its own affair
too, so nothing is checked here.
-/

namespace Switchboard.Service

/-- A header. -/
structure Header where
  name : String
  value : String
  deriving DecidableEq, Repr

/-- The methods in use. -/
inductive Method
  | get
  | post
  deriving DecidableEq, Repr

/-- The word for a method. -/
def Method.word : Method → String
  | get => "GET"
  | post => "POST"

/-- A request. -/
structure HttpRequest where
  method : Method
  url : String
  headers : List Header := []
  /-- The JSON text that is posted. -/
  body : Option String := none
  deriving DecidableEq, Repr

/-- An answer. -/
structure HttpResponse where
  status : Nat
  body : List UInt8
  deriving DecidableEq, Repr

namespace HttpResponse

/-- Whether the status tells a success. -/
def isSuccess (response : HttpResponse) : Bool := 200 ≤ response.status && response.status < 300

/-- The text of the body. -/
def text (response : HttpResponse) : String := Text.Utf8.decodeBody response.body

end HttpResponse

/-- A way to send requests; it may fail with a reason. -/
abbrev Exchange (σ : Type) := HttpRequest → σ → Except String HttpResponse × σ

/-- The exchange in which no request is answered. -/
def Exchange.offline {σ : Type} (reason : String) : Exchange σ := fun _ state =>
  (.error reason, state)

end Switchboard.Service
