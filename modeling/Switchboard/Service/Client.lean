import Switchboard.Alias.Dispatch
import Switchboard.Alias.Source
import Switchboard.Config
import Switchboard.Service.Http
import Switchboard.Service.Token
import Switchboard.Text.Base64

/-!
# The client of the automation service

The client lists the aliases, posts requests to execute them, and obtains tokens. A token that is
installed goes with every listing and every execution and with nothing else; a user name and a password
go only where tokens are given out.
-/

namespace Switchboard.Service

/-- A client. -/
structure Client where
  aliasUrl : String
  executionUrl : String
  tokensUrl : String
  token : Option Token := none
  deriving DecidableEq

namespace Client

/-- The client of a configuration, without a token. -/
def ofConfig (config : Config) : Client where
  aliasUrl := config.aliasUrl
  executionUrl := config.executionUrl
  tokensUrl := config.tokensUrl

/-- Whether requests carry a token. -/
def isAuthenticated (client : Client) : Bool := client.token.isSome

/-! ### Requests -/

/-- The header that holds the token. -/
def tokenHeaders (client : Client) : List Header :=
  match client.token with
  | some token => [⟨"X-Auth-Token", token.value⟩]
  | none => []

/-- The header of JSON bodies. -/
def jsonHeader : Header := ⟨"Content-Type", "application/json"⟩

/-- The header that holds a user name and a password. -/
def basicHeader (credentials : Credentials) : Header :=
  ⟨"Authorization",
    "Basic " ++ String.ofList
      (Text.Base64.encode
        (Text.Utf8.encode (credentials.username ++ ":" ++ credentials.password)))⟩

/-- The request for the listing. -/
def listingRequest (client : Client) : HttpRequest :=
  { method := .get, url := client.aliasUrl, headers := client.tokenHeaders }

/-- The request to execute an alias. -/
def executionRequest (client : Client) (request : Alias.Request) : HttpRequest :=
  { method := .post
    url := client.executionUrl
    headers := client.tokenHeaders ++ [jsonHeader]
    body := some (Alias.Request.codec.write request) }

/-- The request for a token. -/
def tokenRequest (client : Client) (credentials : Credentials) : HttpRequest :=
  { method := .post
    url := client.tokensUrl
    headers := [basicHeader credentials, jsonHeader]
    body := some "\x7b\x7d" }

/-! ### Answers -/

/-- The listing in an answer. -/
def listingOf (response : HttpResponse) : Alias.Fetched :=
  if response.isSuccess then (Alias.Listing.decode response.text).mapError .listing
  else .error (.status response.status response.text)

/-- The token in an answer. -/
def tokenOf (response : HttpResponse) : Except AuthFault Token :=
  if response.isSuccess then
    match TokenAnswer.record.codec.parse response.text with
    | .ok answer => .ok answer.token
    | .error fault => .error (.malformed (fault.message (Text.Utf8.encode response.text)))
  else .error (.rejected response.status response.text)

/-! ### Calls -/

/-- Fetches the listing. -/
def fetch {σ : Type} (client : Client) (exchange : Exchange σ) (state : σ) : Alias.Fetched × σ :=
  match exchange client.listingRequest state with
  | (.ok response, state) => (listingOf response, state)
  | (.error reason, state) => (.error (.transport reason), state)

/-- Executes an alias. -/
def execute {σ : Type} (client : Client) (exchange : Exchange σ) (request : Alias.Request)
    (state : σ) : Alias.Answer × σ :=
  match exchange (client.executionRequest request) state with
  | (.ok response, state) => (.response response.status response.text, state)
  | (.error reason, state) => (.failure reason, state)

/-- Obtains a token. -/
def authenticate {σ : Type} (client : Client) (exchange : Exchange σ) (credentials : Credentials)
    (state : σ) : Except AuthFault Token × σ :=
  match exchange (client.tokenRequest credentials) state with
  | (.ok response, state) => (tokenOf response, state)
  | (.error reason, state) => (.error (.transport reason), state)

/-- Obtains the token that a plan asks for, and installs it. -/
def start {σ : Type} (client : Client) (exchange : Exchange σ) (plan : Plan) (state : σ) :
    Except AuthFault (Option Token) × Client × σ :=
  match plan.token (client.authenticate exchange) state with
  | (.ok token, state) => (.ok token, { client with token }, state)
  | (.error fault, state) => (.error fault, client, state)

end Client

end Switchboard.Service
