import Switchboard.Json.Record

/-!
# Tokens and credentials

A token is given out for a user name and a password, and is then attached to every request. Neither
the token nor the password is ever shown.
-/

namespace Switchboard.Service

/-- A token. -/
structure Token where
  value : String
  deriving DecidableEq

namespace Token

/-- What is shown of a token. -/
def shown (_ : Token) : String := "AuthToken(<redacted>)"

/-- Tokens as JSON strings. -/
def codec : Json.Codec Token where
  encode token := .string token.value
  read levels bytes := do
    let (value, left) ← Json.Codec.text.read levels bytes
    return (⟨value⟩, left)

end Token

/-- A user name and a password. -/
structure Credentials where
  username : String
  password : String
  deriving DecidableEq

/-- What is shown of credentials. -/
def Credentials.shown (credentials : Credentials) : String :=
  "Credentials \x7b username: " ++ Text.Quoted.quote credentials.username ++
    ", password: \"<redacted>\" \x7d"

/-- The answer that gives out a token. -/
structure TokenAnswer where
  token : Token

/-- The fields of an answer that gives out a token. -/
def TokenAnswer.record : Json.Record TokenAnswer where
  name := "TokenResponse"
  types := [Token]
  fields := ({ key := "token", codec := Token.codec }, ())
  parts answer := (answer.token, ())
  make := fun (token, _) => ⟨token⟩

/-- Why no token was obtained. -/
inductive AuthFault
  /-- No answer could be obtained. -/
  | transport (reason : String)
  /-- The answer was no success. -/
  | rejected (status : Nat) (body : String)
  /-- The answer held no token. -/
  | malformed (reason : String)
  deriving DecidableEq, Repr

/-- The fault in words. -/
def AuthFault.message : AuthFault → String
  | transport reason => "token request failed: " ++ reason
  | rejected status body =>
    "token request rejected with status " ++ toString status ++ ": " ++ body
  | malformed reason => "malformed token response: " ++ reason

/-! ### Starting up -/

/-- How the relay starts. -/
inductive Plan
  /-- A token is obtained first. -/
  | authenticate (credentials : Credentials)
  /-- Requests carry no token. -/
  | direct
  deriving DecidableEq

namespace Plan

/-- A token is obtained only when both a user name and a password are given. -/
def ofParts : (username password : Option String) → Plan
  | some username, some password => authenticate ⟨username, password⟩
  | _, _ => direct

/-- What is shown of a plan. -/
def shown : Plan → String
  | authenticate credentials => "Authenticate(" ++ credentials.shown ++ ")"
  | direct => "Direct"

/-- Obtains the token that the plan asks for. -/
def token {σ : Type} (issue : Credentials → σ → Except AuthFault Token × σ) (plan : Plan)
    (state : σ) : Except AuthFault (Option Token) × σ :=
  match plan with
  | direct => (.ok none, state)
  | authenticate credentials =>
    let (result, state) := issue credentials state
    (result.map some, state)

end Plan

end Switchboard.Service
