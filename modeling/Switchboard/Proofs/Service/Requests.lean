import Switchboard.Proofs.Config.Endpoints
import Switchboard.Proofs.Text.Base64
import Switchboard.Service.Client

/-!
# What requests carry

A request carries a token or credentials in its headers, and it would carry credentials in its URL as
well: the HTTP client turns the user of a URL into a header. That the URLs of requests hold no user
follows from the URLs of the configuration, which are read again with a path behind them.

What a header `Authorization` must hold is said by `Text.Base64.IsBase64`, which tells a base64 text by
its bits, and not by the encoder that the client calls.

## Main results

* `Client.isLegal_listingRequest_iff`, `Client.isLegal_executionRequest_iff`: the token alone decides
  whether a request may be sent.
* `Client.carriesToken_listing`, `Client.carriesToken_execution`: what goes with the token.
* `Client.carriesCredentials_token`: what goes with a user name and a password.
-/

namespace Switchboard.Service

/-! ### Legal headers -/

/-- Texts that may be the value of a header: they hold no control characters but tabs. A character
beyond ASCII is allowed, since none of its bytes is a control character. -/
def IsHeaderText (s : String) : Prop :=
  ∀ c ∈ s.toList, 0x20 ≤ c.toNat ∧ c.toNat ≠ 0x7F ∨ c.toNat = 0x09

instance (s : String) : Decidable (IsHeaderText s) :=
  List.decidableBAll (fun c : Char => 0x20 ≤ c.toNat ∧ c.toNat ≠ 0x7F ∨ c.toNat = 0x09) s.toList

/-- The headers of the request have values that headers may have. -/
def HttpRequest.IsLegal (request : HttpRequest) : Prop :=
  ∀ header ∈ request.headers, IsHeaderText header.value

instance (request : HttpRequest) : Decidable request.IsLegal :=
  inferInstanceAs (Decidable (∀ header ∈ request.headers, IsHeaderText header.value))

/-- Header texts one behind the other are one. -/
theorem isHeaderText_append {s t : String} (hs : IsHeaderText s) (ht : IsHeaderText t) :
    IsHeaderText (s ++ t) := by
  intro c hc
  rw [String.toList_append, List.mem_append] at hc
  exact hc.elim (hs c) (ht c)

namespace Client

/-- A user name and a password make a legal header, whatever their characters are: what stands in it is
base64. -/
theorem isHeaderText_basicHeader (credentials : Credentials) :
    IsHeaderText (basicHeader credentials).value := by
  have hsigns : Text.Base64.alphabet.all fun c => 0x20 ≤ c.toNat ∧ c.toNat ≠ 0x7F := by decide
  refine isHeaderText_append (by decide) fun c hc => ?_
  rw [String.toList_ofList] at hc
  rcases (Text.Base64.isBase64_encode _).mem c hc with hc | rfl
  · exact .inl (of_decide_eq_true (List.all_eq_true.mp hsigns c hc))
  · decide

/-- The type of a body in JSON may stand in a header. -/
theorem isHeaderText_jsonHeader : IsHeaderText jsonHeader.value := by decide

/-- Requests for tokens may be sent. -/
theorem isLegal_tokenRequest (client : Client) (credentials : Credentials) :
    (client.tokenRequest credentials).IsLegal := by
  intro header hheader
  simp only [tokenRequest, List.mem_cons, List.not_mem_nil, or_false] at hheader
  rcases hheader with rfl | rfl
  · exact isHeaderText_basicHeader credentials
  · exact isHeaderText_jsonHeader

/-- The token alone decides whether its header is legal. -/
theorem isHeaderText_tokenHeaders_iff {client : Client} :
    (∀ header ∈ client.tokenHeaders, IsHeaderText header.value) ↔
      ∀ token ∈ client.token, IsHeaderText token.value := by
  unfold tokenHeaders
  cases client.token with
  | none => simp
  | some token => simp

/-- A listing may be asked for unless the token is illegal. -/
theorem isLegal_listingRequest_iff {client : Client} :
    client.listingRequest.IsLegal ↔ ∀ token ∈ client.token, IsHeaderText token.value :=
  isHeaderText_tokenHeaders_iff

/-- An execution may be asked for unless the token is illegal, whatever is to be executed. -/
theorem isLegal_executionRequest_iff {client : Client} {request : Alias.Request} :
    (client.executionRequest request).IsLegal ↔
      ∀ token ∈ client.token, IsHeaderText token.value := by
  simp only [HttpRequest.IsLegal, executionRequest, List.forall_mem_append,
    List.forall_mem_singleton, isHeaderText_jsonHeader, and_true]
  exact isHeaderText_tokenHeaders_iff

end Client

end Switchboard.Service

/-! ### Requests -/

namespace Switchboard.Service

open Net (Url)

/-- Names of headers are compared without regard to the case of their letters. -/
def sameName (name other : String) : Bool :=
  name.toList.map Char.toLower = other.toList.map Char.toLower

/-- The values of the headers with a name. -/
def valuesIn (headers : List Header) (name : String) : List String :=
  (headers.filter fun header => sameName header.name name).map Header.value

/-- The values of a header come from both parts. -/
theorem valuesIn_append (headers headers' : List Header) (name : String) :
    valuesIn (headers ++ headers') name = valuesIn headers name ++ valuesIn headers' name := by
  rw [valuesIn, List.filter_append, List.map_append]
  rfl

namespace HttpRequest

/-- The URL of the request names no user, if it is one that is fetched at all. A user in it would be
sent in a header `Authorization` beside the headers of the request. -/
def NamesNoUser (request : HttpRequest) : Prop :=
  ∀ url, Url.parse request.url = .ok url → url.scheme ∈ Url.webSchemes → url.IsPlain

/-- The request carries a token, if there is one, and no credentials. -/
structure CarriesToken (request : HttpRequest) (token : Option Token) : Prop where
  token : valuesIn request.headers "X-Auth-Token" = token.toList.map Token.value
  noCredentials : valuesIn request.headers "Authorization" = []
  noUser : request.NamesNoUser

/-- The request carries a user name and a password, and no token. -/
structure CarriesCredentials (request : HttpRequest) (credentials : Credentials) : Prop where
  credentials : ∃ text, valuesIn request.headers "Authorization" = ["Basic " ++ text] ∧
    Text.Base64.IsBase64
      (Text.Utf8.encode (credentials.username ++ ":" ++ credentials.password)) text.toList
  noToken : valuesIn request.headers "X-Auth-Token" = []
  noUser : request.NamesNoUser

/-- **An endpoint** at a URL without a user names none. -/
theorem namesNoUser_of_join {request : HttpRequest} {base : Url} {path : String}
    (hurl : request.url = base.join path) (hread : base.IsRead) (hplain : base.IsPlain)
    (hpath : path.toList.head? = some '/') : request.NamesNoUser := by
  intro url hparse hweb
  rw [hurl] at hparse
  exact Url.isPlain_of_parse_join hread hplain hpath hparse hweb

end HttpRequest

namespace Client

/-- The client sends its requests to the endpoints of a configuration. -/
structure Serves (client : Client) (config : Config) : Prop where
  aliasUrl : client.aliasUrl = config.aliasUrl
  executionUrl : client.executionUrl = config.executionUrl
  tokensUrl : client.tokensUrl = config.tokensUrl

variable {client : Client} {config : Config}

/-- The headers of a token: the token, if there is one, and no credentials. -/
theorem valuesIn_tokenHeaders (client : Client) :
    valuesIn client.tokenHeaders "X-Auth-Token" = client.token.toList.map Token.value ∧
      valuesIn client.tokenHeaders "Authorization" = [] := by
  have hsame : sameName "X-Auth-Token" "X-Auth-Token" ∧ ¬ sameName "X-Auth-Token" "Authorization" := by
    decide
  unfold tokenHeaders
  cases client.token with
  | none => exact ⟨rfl, rfl⟩
  | some token => simp [valuesIn, hsame]

/-- The header of a body holds neither. -/
theorem valuesIn_jsonHeader :
    valuesIn [jsonHeader] "X-Auth-Token" = [] ∧ valuesIn [jsonHeader] "Authorization" = [] := by
  decide

/-- The header of credentials holds these and no token. -/
theorem valuesIn_basicHeader (credentials : Credentials) :
    valuesIn [basicHeader credentials] "X-Auth-Token" = [] ∧
      valuesIn [basicHeader credentials] "Authorization" = [(basicHeader credentials).value] := by
  have hsame : ¬ sameName "Authorization" "X-Auth-Token" ∧ sameName "Authorization" "Authorization" := by
    decide
  simp [valuesIn, basicHeader, hsame]

/-- **Listings** are asked for with the token. -/
theorem carriesToken_listing (hserves : client.Serves config) (hends : config.HasEndpoints)
    (hplain : config.apiUrl.IsPlain) : client.listingRequest.CarriesToken client.token where
  token := client.valuesIn_tokenHeaders.1
  noCredentials := client.valuesIn_tokenHeaders.2
  noUser := HttpRequest.namesNoUser_of_join hserves.aliasUrl hends.apiUrl hplain hends.aliasPath

/-- **Executions** are asked for with the token. -/
theorem carriesToken_execution (hserves : client.Serves config) (hends : config.HasEndpoints)
    (hplain : config.apiUrl.IsPlain) (request : Alias.Request) :
    (client.executionRequest request).CarriesToken client.token where
  token := by
    rw [executionRequest, valuesIn_append, valuesIn_jsonHeader.1, List.append_nil]
    exact client.valuesIn_tokenHeaders.1
  noCredentials := by
    rw [executionRequest, valuesIn_append, valuesIn_jsonHeader.2, List.append_nil]
    exact client.valuesIn_tokenHeaders.2
  noUser := HttpRequest.namesNoUser_of_join hserves.executionUrl hends.apiUrl hplain hends.executionPath

/-- **Tokens** are asked for with a user name and a password. -/
theorem carriesCredentials_token (hserves : client.Serves config) (hends : config.HasEndpoints)
    (hplain : config.authUrl.IsPlain) (credentials : Credentials) :
    (client.tokenRequest credentials).CarriesCredentials credentials where
  credentials := by
    have hvalues : valuesIn (client.tokenRequest credentials).headers "Authorization" =
        [(basicHeader credentials).value] := by
      change valuesIn ([basicHeader credentials] ++ [jsonHeader]) "Authorization" = _
      rw [valuesIn_append, (valuesIn_basicHeader credentials).2, valuesIn_jsonHeader.2,
        List.append_nil]
    refine ⟨_, hvalues, ?_⟩
    rw [String.toList_ofList]
    exact Text.Base64.isBase64_encode _
  noToken := by
    change valuesIn ([basicHeader credentials] ++ [jsonHeader]) "X-Auth-Token" = _
    rw [valuesIn_append, (valuesIn_basicHeader credentials).1, valuesIn_jsonHeader.1]
    rfl
  noUser := HttpRequest.namesNoUser_of_join hserves.tokensUrl hends.authUrl hplain rfl

end Client

end Switchboard.Service
