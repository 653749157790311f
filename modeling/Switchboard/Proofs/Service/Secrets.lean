import Switchboard.Proofs.Service.Requests
import Switchboard.Proofs.Service.Tokens

/-!
# Tokens and credentials on their way

A client sends three kinds of requests, and its token changes while it runs. Whatever is called in
whatever order, and whatever is answered, the token goes with listings and executions only, and a
user name with its password only to where tokens are given out.

A call is told as an event: the client before and after it, the requests that went out, and what came
of it. The calls of a client are the list of these events, each of them at the client that the one
before has left.

## Convention

The client hands its requests to an exchange and knows nothing of what is done with them. What went out
is told by a function `wire` on the states of the exchange, and what an HTTP client is relied on for is
the hypothesis `Exchange.Faithful`: it sends what it is given, and it refuses a request with an illegal
header before anything goes out.

## Main results

* `Client.belongs_eventOf`: one call sends tokens and credentials where they belong.
* `Client.secrets_belong`: so do all calls of a client.
* `Client.start_array_installs`: a token is also taken from a body that is no object.
-/

namespace Switchboard.Service

/-! ### What goes out -/

/-- The requests that have gone out, with what came of them. -/
abbrev Log := List (HttpRequest × Except String HttpResponse)

/-- What HTTP clients do with the requests that they are handed, when `wire` tells what has gone out. -/
structure Exchange.Faithful {σ : Type} (exchange : Exchange σ) (wire : σ → Log) : Prop where
  /-- A request with legal headers goes out once, as it is, and its answer is handed back. -/
  sends (request : HttpRequest) (state : σ) (h : request.IsLegal) :
    wire (exchange request state).2 = wire state ++ [(request, (exchange request state).1)]
  /-- A request with an illegal header fails, and nothing goes out. -/
  withholds (request : HttpRequest) (state : σ) (h : ¬ request.IsLegal) :
    wire (exchange request state).2 = wire state ∧
      ∃ reason, (exchange request state).1 = .error reason

/-! ### Calls -/

/-- What a client is called for. -/
inductive Call
  | fetch
  | execute (request : Alias.Request)
  | authenticate (credentials : Credentials)
  | start

/-- What comes of a call. -/
inductive Outcome
  | fetched (result : Alias.Fetched)
  | executed (answer : Alias.Answer)
  | issued (result : Except AuthFault Token)
  | started (result : Except AuthFault (Option Token))

/-- The call failed because no answer could be obtained. -/
inductive Outcome.IsTransport : Outcome → Prop
  | fetched (reason : String) : IsTransport (.fetched (.error (.transport reason)))
  | executed (reason : String) : IsTransport (.executed (.failure reason))
  | issued (reason : String) : IsTransport (.issued (.error (.transport reason)))
  | started (reason : String) : IsTransport (.started (.error (.transport reason)))

namespace Client

variable {σ : Type}

/-- Calls a client. -/
def perform (client : Client) (exchange : Exchange σ) (plan : Plan) (state : σ) :
    Call → Outcome × Client × σ
  | .fetch =>
    let (result, state) := client.fetch exchange state
    (.fetched result, client, state)
  | .execute request =>
    let (answer, state) := client.execute exchange request state
    (.executed answer, client, state)
  | .authenticate credentials =>
    let (result, state) := client.authenticate exchange credentials state
    (.issued result, client, state)
  | .start =>
    let (result, client, state) := client.start exchange plan state
    (.started result, client, state)

/-- The request of a call. Only a start may do without one. -/
def requestOf (client : Client) (plan : Plan) : Call → Option HttpRequest
  | .fetch => some client.listingRequest
  | .execute request => some (client.executionRequest request)
  | .authenticate credentials => some (client.tokenRequest credentials)
  | .start =>
    match plan with
    | .authenticate credentials => some (client.tokenRequest credentials)
    | .direct => none

/-- The token that an answer gives out. -/
def issuedBy : Except String HttpResponse → Except AuthFault Token
  | .ok response => tokenOf response
  | .error reason => .error (.transport reason)

/-- What comes of the answer to a call, and the client that it leaves. -/
def settle (client : Client) (answer : Except String HttpResponse) : Call → Outcome × Client
  | .fetch =>
    (.fetched (match answer with
      | .ok response => listingOf response
      | .error reason => .error (.transport reason)), client)
  | .execute _ =>
    (.executed (match answer with
      | .ok response => .response response.status response.text
      | .error reason => .failure reason), client)
  | .authenticate _ => (.issued (issuedBy answer), client)
  | .start =>
    (.started ((issuedBy answer).map some),
      match issuedBy answer with
      | .ok token => { client with token := some token }
      | .error _ => client)

variable {client : Client} {exchange : Exchange σ} {plan : Plan} {call : Call} {state : σ}

/-- Fetching a listing makes one request and reads its answer. -/
theorem fetch_eq : client.fetch exchange state =
    ((match (exchange client.listingRequest state).1 with
      | .ok response => listingOf response
      | .error reason => .error (.transport reason)),
      (exchange client.listingRequest state).2) := by
  unfold fetch
  generalize exchange client.listingRequest state = sent
  obtain ⟨answer | answer, after⟩ := sent <;> rfl

/-- Executing a command makes one request and reports its answer. -/
theorem execute_eq (request : Alias.Request) : client.execute exchange request state =
    ((match (exchange (client.executionRequest request) state).1 with
      | .ok response => .response response.status response.text
      | .error reason => .failure reason),
      (exchange (client.executionRequest request) state).2) := by
  unfold execute
  generalize exchange (client.executionRequest request) state = sent
  obtain ⟨answer | answer, after⟩ := sent <;> rfl

/-- Asking for a token makes one request and reads its answer. -/
theorem authenticate_eq (credentials : Credentials) :
    client.authenticate exchange credentials state =
      (issuedBy (exchange (client.tokenRequest credentials) state).1,
        (exchange (client.tokenRequest credentials) state).2) := by
  unfold authenticate
  generalize exchange (client.tokenRequest credentials) state = sent
  obtain ⟨answer | answer, after⟩ := sent <;> rfl

/-- **A call with a request** sends it and settles its answer. -/
theorem perform_of_request {request : HttpRequest} {answer : Except String HttpResponse} {after : σ}
    (hrequest : client.requestOf plan call = some request)
    (hsend : exchange request state = (answer, after)) :
    client.perform exchange plan state call =
      ((client.settle answer call).1, (client.settle answer call).2, after) := by
  cases call with
  | fetch =>
      obtain rfl := Option.some.inj hrequest
      simp only [perform, fetch_eq, hsend, settle]
  | execute request =>
      obtain rfl := Option.some.inj hrequest
      simp only [perform, execute_eq, hsend, settle]
  | authenticate credentials =>
      obtain rfl := Option.some.inj hrequest
      simp only [perform, authenticate_eq, hsend, settle]
  | start =>
      cases plan with
      | direct => exact absurd hrequest (by simp [requestOf])
      | authenticate credentials =>
          obtain rfl := Option.some.inj hrequest
          simp only [perform, start, Plan.token, authenticate_eq, hsend, settle]
          cases issuedBy answer <;> rfl

/-- A call without a request is a start that needs no token. -/
theorem perform_of_no_request (exchange : Exchange σ) (state : σ)
    (hrequest : client.requestOf plan call = none) :
    call = .start ∧ plan = .direct ∧ client.perform exchange plan state call =
      (.started (.ok none), { client with token := none }, state) := by
  cases call with
  | fetch => exact absurd hrequest (by simp [requestOf])
  | execute request => exact absurd hrequest (by simp [requestOf])
  | authenticate credentials => exact absurd hrequest (by simp [requestOf])
  | start =>
      cases plan with
      | direct => exact ⟨rfl, rfl, rfl⟩
      | authenticate credentials => exact absurd hrequest (by simp [requestOf])

end Client

/-! ### Events -/

/-- A call of a client, and what comes of it. -/
structure Event where
  before : Client
  call : Call
  /-- The requests that go out, with what is answered. -/
  sent : Log
  outcome : Outcome
  after : Client

namespace Client

variable {σ : Type}

/-- What happens in one call. What goes out is what the wire holds afterwards and did not hold
before. -/
def eventOf (client : Client) (exchange : Exchange σ) (wire : σ → Log) (plan : Plan) (call : Call)
    (state : σ) : Event × σ :=
  let (outcome, after, state') := client.perform exchange plan state call
  let sent := (wire state').drop (wire state).length
  ({ before := client, call, sent, outcome, after }, state')

/-- What happens in one call after another. -/
def events (exchange : Exchange σ) (wire : σ → Log) (plan : Plan) :
    Client → List Call → σ → List Event
  | _, [], _ => []
  | client, call :: calls, state =>
    let (event, state) := client.eventOf exchange wire plan call state
    event :: events exchange wire plan event.after calls state

variable {client : Client} {exchange : Exchange σ} {wire : σ → Log} {plan : Plan} {call : Call}
  {state : σ}

/-- What can happen in a call: its request goes out and is answered, or it has an illegal header and
does not go out, or there is nothing to be sent. -/
theorem eventOf_cases (hfaithful : exchange.Faithful wire) (client : Client) (plan : Plan)
    (call : Call) (state : σ) :
    (∃ request answer, client.requestOf plan call = some request ∧ request.IsLegal ∧
      (client.eventOf exchange wire plan call state).1 =
        ⟨client, call, [(request, answer)], (client.settle answer call).1,
          (client.settle answer call).2⟩) ∨
    (∃ request reason, client.requestOf plan call = some request ∧ ¬ request.IsLegal ∧
      (client.eventOf exchange wire plan call state).1 =
        ⟨client, call, [], (client.settle (.error reason) call).1,
          (client.settle (.error reason) call).2⟩) ∨
    call = .start ∧ plan = .direct ∧ (client.eventOf exchange wire plan call state).1 =
      ⟨client, call, [], .started (.ok none), { client with token := none }⟩ := by
  cases hrequest : client.requestOf plan call with
  | some request =>
      rcases hanswer : exchange request state with ⟨answer, after⟩
      have hperform := perform_of_request hrequest hanswer
      by_cases hlegal : request.IsLegal
      · have hwire := hfaithful.sends request state hlegal
        rw [hanswer] at hwire
        refine .inl ⟨request, answer, rfl, hlegal, ?_⟩
        simp only [eventOf, hperform, hwire, List.drop_left]
      · obtain ⟨hwire, reason, hreason⟩ := hfaithful.withholds request state hlegal
        rw [hanswer] at hwire hreason
        obtain rfl : answer = .error reason := hreason
        refine .inr (.inl ⟨request, reason, rfl, hlegal, ?_⟩)
        simp only [eventOf, hperform, hwire, List.drop_length]
  | none =>
      obtain ⟨hcall, hplan, hperform⟩ := perform_of_no_request exchange state hrequest
      refine .inr (.inr ⟨hcall, hplan, ?_⟩)
      simp only [eventOf, hperform, List.drop_length]

end Client

/-! ### Where secrets belong -/

/-- What becomes of a request for a token. A token comes only from a success whose body tells it. -/
inductive Settles : Except String HttpResponse → Except AuthFault Token → Prop
  | issued {response : HttpResponse} {token : Token} (hsuccess : response.isSuccess)
      (hread : TokenAnswer.record.codec.parse response.text = .ok ⟨token⟩)
      (htells : TokenAnswer.Tells token (Text.Utf8.encode response.text)) :
      Settles (.ok response) (.ok token)
  | malformed {response : HttpResponse} {fault : Json.Fault} (hsuccess : response.isSuccess)
      (hread : TokenAnswer.record.codec.parse response.text = .error fault)
      (hnone : ∀ token, ¬ TokenAnswer.Gives token response.text) :
      Settles (.ok response)
        (.error (.malformed (fault.message (Text.Utf8.encode response.text))))
  | rejected {response : HttpResponse} (hrejected : ¬ response.isSuccess) :
      Settles (.ok response) (.error (.rejected response.status response.text))
  | transport {reason : String} : Settles (.error reason) (.error (.transport reason))

/-- **What becomes of an answer** to credentials: a token is issued exactly if the answer tells
one. -/
theorem settles_issuedBy (answer : Except String HttpResponse) :
    Settles answer (Client.issuedBy answer) := by
  cases answer with
  | error reason => exact .transport
  | ok response =>
      unfold Client.issuedBy Client.tokenOf
      simp only
      split_ifs with hsuccess
      · cases hparse : TokenAnswer.record.codec.parse response.text with
        | ok answer => exact .issued hsuccess hparse (TokenAnswer.tells_of_parse hparse)
        | error fault =>
            refine .malformed hsuccess hparse fun token hgives => ?_
            exact absurd (hparse.symm.trans (TokenAnswer.parse_of_gives hgives)) (by simp)
      · exact .rejected hsuccess

namespace Event

/-- The call goes with the token of the client, and with nothing else. -/
structure Attaches (event : Event) (url : String) : Prop where
  /-- What is sent goes to the one endpoint and carries the token. -/
  carries : ∀ entry ∈ event.sent,
    entry.1.url = url ∧ entry.1.CarriesToken event.before.token
  /-- Without a token and with a legal one, one request is sent. -/
  sends : (∀ token ∈ event.before.token, IsHeaderText token.value) →
    ∃ request answer, event.sent = [(request, answer)]
  /-- With an illegal one, nothing is sent. -/
  withholds : (∃ token ∈ event.before.token, ¬ IsHeaderText token.value) →
    event.sent = [] ∧ event.outcome.IsTransport
  /-- The client keeps its token. -/
  keeps : event.after = event.before

/-- One request for a token is sent, with a user name and a password. -/
def Asks (event : Event) (url : String) (credentials : Credentials)
    (result : Except AuthFault Token) : Prop :=
  ∃ request answer, event.sent = [(request, answer)] ∧ request.url = url ∧
    request.CarriesCredentials credentials ∧ Settles answer result

/-- What a call sends belongs where it goes, and a token is installed only by a start that obtains
it. -/
def Belongs (event : Event) (config : Config) : Prop :=
  match event.call with
  | .fetch => event.Attaches config.aliasUrl
  | .execute _ => event.Attaches config.executionUrl
  | .authenticate credentials => ∃ result, event.Asks config.tokensUrl credentials result ∧
      event.outcome = .issued result ∧ event.after = event.before
  | .start =>
    match config.username, config.password with
    | some username, some password =>
      ∃ result, event.Asks config.tokensUrl ⟨username, password⟩ result ∧
        event.outcome = .started (result.map some) ∧
        ((∃ token, result = .ok token ∧ event.after = { event.before with token := some token }) ∨
          (∃ fault, result = .error fault ∧ event.after = event.before))
    | _, _ => event.sent = [] ∧ event.outcome = .started (.ok none) ∧
        event.after = { event.before with token := none }

end Event

namespace Client

variable {σ : Type} {client : Client} {config : Config} {exchange : Exchange σ} {wire : σ → Log}
  {plan : Plan} {call : Call} {state : σ}

/-- A call goes with the token if its request does, and if nothing but the token can make the request
illegal. -/
theorem attaches_eventOf {request : HttpRequest} {url : String} (hfaithful : exchange.Faithful wire)
    (hrequest : client.requestOf plan call = some request) (hurl : request.url = url)
    (hcarries : request.CarriesToken client.token)
    (hlegal : request.IsLegal ↔ ∀ token ∈ client.token, IsHeaderText token.value)
    (htransport : ∀ reason, (client.settle (.error reason) call).1.IsTransport)
    (hkeeps : ∀ answer, (client.settle answer call).2 = client) :
    (client.eventOf exchange wire plan call state).1.Attaches url := by
  rcases eventOf_cases hfaithful client plan call state with
    ⟨request', answer, hrequest', hall, hevent⟩ | ⟨request', reason, hrequest', hillegal, hevent⟩ |
      ⟨rfl, rfl, -⟩
  · obtain rfl := Option.some.inj (hrequest.symm.trans hrequest')
    rw [hevent]
    refine ⟨fun entry hentry => ?_, fun _ => ⟨request, answer, rfl⟩, fun hillegal => ?_, hkeeps answer⟩
    · obtain rfl := List.mem_singleton.mp hentry
      exact ⟨hurl, hcarries⟩
    · obtain ⟨token, htoken, hillegal⟩ := hillegal
      exact absurd (hlegal.mp hall token htoken) hillegal
  · obtain rfl := Option.some.inj (hrequest.symm.trans hrequest')
    rw [hevent]
    exact ⟨fun entry hentry => absurd hentry List.not_mem_nil,
      fun htoken => absurd (hlegal.mpr htoken) hillegal, fun _ => ⟨rfl, htransport _⟩, hkeeps _⟩
  · exact absurd hrequest (by simp [requestOf])

/-- A request for a token always goes out. -/
theorem exists_eventOf_eq (hfaithful : exchange.Faithful wire) (state : σ) (credentials : Credentials)
    (hrequest : client.requestOf plan call = some (client.tokenRequest credentials)) :
    ∃ answer, (client.eventOf exchange wire plan call state).1 =
      ⟨client, call, [(client.tokenRequest credentials, answer)], (client.settle answer call).1,
        (client.settle answer call).2⟩ := by
  rcases eventOf_cases hfaithful client plan call state with
    ⟨request, answer, hrequest', -, hevent⟩ | ⟨request, -, hrequest', hillegal, -⟩ | ⟨rfl, rfl, -⟩
  · obtain rfl := Option.some.inj (hrequest.symm.trans hrequest')
    exact ⟨answer, hevent⟩
  · obtain rfl := Option.some.inj (hrequest.symm.trans hrequest')
    exact absurd (client.isLegal_tokenRequest credentials) hillegal
  · exact absurd hrequest (by simp [requestOf])

/-- A start that needs no token sends nothing and leaves the client without one. -/
theorem eventOf_start_direct (client : Client) (exchange : Exchange σ) (wire : σ → Log) (state : σ) :
    (client.eventOf exchange wire .direct .start state).1 =
      ⟨client, .start, [], .started (.ok none), { client with token := none }⟩ := by
  simp only [eventOf, perform, start, Plan.token, List.drop_length]

/-- The request for a token and its answer. -/
theorem asks_tokenRequest (hserves : client.Serves config) (hends : config.HasEndpoints)
    (hauth : config.authUrl.IsPlain) (credentials : Credentials)
    (answer : Except String HttpResponse) (outcome : Outcome) (after : Client) :
    Event.Asks ⟨client, call, [(client.tokenRequest credentials, answer)], outcome, after⟩
      config.tokensUrl credentials (issuedBy answer) :=
  ⟨_, answer, rfl, hserves.tokensUrl, carriesCredentials_token hserves hends hauth credentials,
    settles_issuedBy answer⟩

/-- A start asks for a token only with both a user name and a password. -/
theorem belongs_start (hfaithful : exchange.Faithful wire) (state : σ) (hserves : client.Serves config)
    (hends : config.HasEndpoints) (hauth : config.authUrl.IsPlain)
    (hplan : plan = Plan.ofParts config.username config.password) :
    (client.eventOf exchange wire plan .start state).1.Belongs config := by
  cases huser : config.username with
  | none =>
      have hdirect : plan = .direct := by rw [hplan, huser]; rfl
      rw [hdirect, eventOf_start_direct]
      simp [Event.Belongs, huser]
  | some username =>
      cases hpassword : config.password with
      | none =>
          have hdirect : plan = .direct := by rw [hplan, huser, hpassword]; rfl
          rw [hdirect, eventOf_start_direct]
          simp [Event.Belongs, huser, hpassword]
      | some password =>
          have hrequest : client.requestOf plan .start =
              some (client.tokenRequest ⟨username, password⟩) := by
            rw [hplan, huser, hpassword]
            rfl
          have hexists := exists_eventOf_eq hfaithful state _ hrequest
          generalize (client.eventOf exchange wire plan .start state).1 = event at hexists ⊢
          obtain ⟨answer, rfl⟩ := hexists
          simp only [Event.Belongs, huser, hpassword]
          refine ⟨_, asks_tokenRequest hserves hends hauth _ answer _ _, rfl, ?_⟩
          rw [settle]
          cases issuedBy answer with
          | ok token => exact .inl ⟨token, rfl, rfl⟩
          | error fault => exact .inr ⟨fault, rfl, rfl⟩

/-- **One call** sends tokens and credentials where they belong. -/
theorem belongs_eventOf (hfaithful : exchange.Faithful wire) (call : Call) (state : σ)
    (hserves : client.Serves config) (hends : config.HasEndpoints) (hapi : config.apiUrl.IsPlain)
    (hauth : config.authUrl.IsPlain)
    (hplan : plan = Plan.ofParts config.username config.password) :
    (client.eventOf exchange wire plan call state).1.Belongs config := by
  cases call with
  | fetch =>
      exact attaches_eventOf hfaithful rfl hserves.aliasUrl (carriesToken_listing hserves hends hapi)
        isLegal_listingRequest_iff .fetched fun _ => rfl
  | execute request =>
      exact attaches_eventOf hfaithful rfl hserves.executionUrl
        (carriesToken_execution hserves hends hapi request) isLegal_executionRequest_iff .executed
        fun _ => rfl
  | authenticate credentials =>
      have hrequest : client.requestOf plan (.authenticate credentials) =
          some (client.tokenRequest credentials) := rfl
      have hexists := exists_eventOf_eq hfaithful state credentials hrequest
      generalize (client.eventOf exchange wire plan (.authenticate credentials) state).1 = event
        at hexists ⊢
      obtain ⟨answer, rfl⟩ := hexists
      exact ⟨_, asks_tokenRequest hserves hends hauth credentials answer _ _, rfl, rfl⟩
  | start => exact belongs_start hfaithful state hserves hends hauth hplan

/-- The client keeps its endpoints. -/
theorem serves_after (hfaithful : exchange.Faithful wire) (plan : Plan) (call : Call) (state : σ)
    (hserves : client.Serves config) :
    (client.eventOf exchange wire plan call state).1.after.Serves config := by
  have hsettle (answer : Except String HttpResponse) :
      (client.settle answer call).2.Serves config := by
    cases call with
    | fetch => exact hserves
    | execute request => exact hserves
    | authenticate credentials => exact hserves
    | start =>
        rw [settle]
        cases issuedBy answer with
        | ok token => exact ⟨hserves.aliasUrl, hserves.executionUrl, hserves.tokensUrl⟩
        | error fault => exact hserves
  rcases eventOf_cases hfaithful client plan call state with
    ⟨_, answer, -, -, hevent⟩ | ⟨_, reason, -, -, hevent⟩ | ⟨-, -, hevent⟩
  · rw [hevent]
    exact hsettle answer
  · rw [hevent]
    exact hsettle _
  · rw [hevent]
    exact ⟨hserves.aliasUrl, hserves.executionUrl, hserves.tokensUrl⟩

/-- **All calls** of a client send tokens and credentials where they belong. The induction is on the
calls; the client keeps its endpoints. -/
theorem belongs_events (hfaithful : exchange.Faithful wire) (calls : List Call) (state : σ)
    (hserves : client.Serves config) (hends : config.HasEndpoints) (hapi : config.apiUrl.IsPlain)
    (hauth : config.authUrl.IsPlain) :
    ∀ event ∈ events exchange wire (Plan.ofParts config.username config.password) client calls
      state, event.Belongs config := by
  induction calls generalizing client state with
  | nil => exact fun event hevent => absurd hevent List.not_mem_nil
  | cons call calls ih =>
      exact List.forall_mem_cons.mpr
        ⟨belongs_eventOf hfaithful call state hserves hends hapi hauth rfl,
          ih _ (serves_after hfaithful _ call state hserves)⟩

/-- **Secrets belong.** A client of a configuration whose URLs name no user sends its token with every
listing and every execution and with nothing else, and a user name and a password only where tokens
are given out, whatever it is called for and whatever is answered. It installs a token only at a start
with a user name and a password, and only from a success whose body tells the token: as the string
member `token` of an object, or as the one item of an array (`TokenAnswer.Tells`). -/
theorem secrets_belong {env : Environment} (hread : Config.read env = .ok config)
    (hapi : config.apiUrl.IsPlain) (hauth : config.authUrl.IsPlain)
    (hfaithful : exchange.Faithful wire) (token : Option Token) (calls : List Call) (state : σ) :
    ∀ event ∈ events exchange wire (Plan.ofParts config.username config.password)
      { ofConfig config with token } calls state, event.Belongs config :=
  belongs_events hfaithful calls state ⟨rfl, rfl, rfl⟩ (Config.hasEndpoints_of_read hread) hapi hauth

/-- An environment that gives a user name and a password. -/
def botEnv : Environment
  | "ST2_AUTH_USERNAME" => some "bot"
  | "ST2_AUTH_PASSWORD" => some "secret"
  | _ => none

/-- The own machine, at a port. -/
def localUrl (port : Nat) : Net.Url where
  scheme := ['h', 't', 't', 'p']
  authority := some { host := .domain Net.Url.localName, port := some port }
  path := .segments [[]]

/-- The configuration of that environment. -/
def botConfig : Config where
  apiUrl := localUrl 9101
  authUrl := localUrl 9100
  aliasPath := Config.defaultAliasPath
  executionPath := Config.defaultExecutionPath
  channel := Config.defaultName
  refreshSeconds := 120
  timeoutSeconds := 30
  username := some "bot"
  password := some "secret"
  botName := Config.defaultName
  address := .any
  port := 8080

/-- The URL of the example names no user. -/
theorem isPlain_localUrl (port : Nat) : (localUrl port).IsPlain := by
  intro authority h
  obtain rfl := Option.some.inj h
  rfl

/-- The URLs of that configuration name no user. -/
theorem read_botEnv : Config.read botEnv = .ok botConfig ∧ botConfig.apiUrl.IsPlain ∧
    botConfig.authUrl.IsPlain :=
  ⟨by decide +kernel, isPlain_localUrl 9101, isPlain_localUrl 9100⟩

/-- An exchange with a server that answers every request in the same way. Its state is all that has
gone out. -/
def answering (response : HttpResponse) : Exchange Log := fun request log =>
  if request.IsLegal then (.ok response, log ++ [(request, .ok response)])
  else (.error "failed to parse header value", log)

/-- An exchange that always answers the same sends what may be sent. -/
theorem faithful_answering (response : HttpResponse) : (answering response).Faithful id where
  sends request log h := by simp only [answering, if_pos h, id]
  withholds request log h := by
    rw [answering, if_neg h]
    exact ⟨rfl, _, rfl⟩

/-- An answer that gives out a token. -/
def created : HttpResponse := ⟨201, Text.Utf8.encode "\x7b\"token\":\"abc\"\x7d"⟩

/-- A client that obtains a token and lists the aliases with it: its first request carries no token, and
its second one carries the token that was given out. -/
theorem secrets_belong_bot :
    Config.read botEnv = .ok botConfig ∧ botConfig.apiUrl.IsPlain ∧ botConfig.authUrl.IsPlain ∧
      (answering created).Faithful id ∧
      (∀ event ∈ events (answering created) id (Plan.ofParts (some "bot") (some "secret"))
        { ofConfig botConfig with token := none } [.start, .fetch] [], event.Belongs botConfig) ∧
      (events (answering created) id (Plan.ofParts (some "bot") (some "secret"))
        { ofConfig botConfig with token := none } [.start, .fetch] []).map (fun event =>
          event.sent.map fun entry => valuesIn entry.1.headers "X-Auth-Token") =
            [[[]], [["abc"]]] := by
  obtain ⟨hread, hapi, hauth⟩ := read_botEnv
  have hfaithful := faithful_answering created
  have hcarried : (events (answering created) id (Plan.ofParts (some "bot") (some "secret"))
      { ofConfig botConfig with token := none } [.start, .fetch] []).map (fun event =>
        event.sent.map fun entry => valuesIn entry.1.headers "X-Auth-Token") =
          [[[]], [["abc"]]] := by decide +kernel
  exact ⟨hread, hapi, hauth, hfaithful,
    secrets_belong hread hapi hauth hfaithful none [.start, .fetch] [], hcarried⟩

/-- A success whose body is an array of one string. -/
def createdArray : HttpResponse := ⟨201, Text.Utf8.encode "[\"abc\"]"⟩

/-- **A token from an array.** A start installs the string of an array as its token, although no object
with a member `token` was answered: the body is a JSON text, and not one of an object. -/
theorem start_array_installs :
    Config.read botEnv = .ok botConfig ∧ botConfig.apiUrl.IsPlain ∧ botConfig.authUrl.IsPlain ∧
      (answering createdArray).Faithful id ∧
      ((ofConfig botConfig).eventOf (answering createdArray) id
          (Plan.ofParts (some "bot") (some "secret")) .start []).1.after.token = some ⟨"abc"⟩ ∧
      (∀ entry ∈ ((ofConfig botConfig).eventOf (answering createdArray) id
          (Plan.ofParts (some "bot") (some "secret")) .start []).1.sent,
        entry.2 = .ok createdArray) ∧
      Json.Value.parse createdArray.text = .ok (.array [.string "abc"]) := by
  have hfits : Json.Fits Json.Value.maxLevels (.array [.string "abc"]) :=
    List.forall_mem_singleton.mpr trivial
  have hwritten : (Json.Value.array [.string "abc"]).text = createdArray.text := by decide +kernel
  obtain ⟨hread, hapi, hauth⟩ := read_botEnv
  exact ⟨hread, hapi, hauth, faithful_answering createdArray, by decide +kernel, by decide +kernel,
    hwritten ▸ Json.Value.parse_text hfits⟩

end Client

end Switchboard.Service
