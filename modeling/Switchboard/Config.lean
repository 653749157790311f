import Switchboard.Net.Url.Parse
import Switchboard.Text.Blank
import Switchboard.Text.Quoted
import Switchboard.Text.Whole

/-!
# Configuration

The configuration is read from named variables. A variable counts as unset when it is missing, blank,
or `null` apart from white space around it, and every variable has a default. The variables are checked
in a fixed order, and the first invalid one is the fault.
-/

namespace Switchboard

/-- The values of variables. -/
abbrev Environment := String → Option String

/-- The configuration of a relay. -/
structure Config where
  /-- The automation service. -/
  apiUrl : Net.Url
  /-- The service that gives out tokens. -/
  authUrl : Net.Url
  aliasPath : String
  executionPath : String
  /-- The channel on which results are to be reported. -/
  channel : String
  refreshSeconds : Nat
  timeoutSeconds : Nat
  username : Option String
  password : Option String
  botName : String
  /-- Where notifications are accepted. -/
  address : Net.Address
  port : Nat
  deriving DecidableEq, Repr

namespace Config

/-- Why a configuration is invalid. -/
inductive Fault
  | invalidUrl (name : String) (fault : Net.Url.Fault)
  | invalidNumber (name value : String)
  | invalidAddress (value : String)
  /-- No place for tokens can be derived from the URL of the automation service. -/
  | noAuthUrl (apiUrl : Net.Url)
  deriving DecidableEq, Repr

/-- The fault in words. -/
def Fault.message : Fault → String
  | invalidUrl name fault => name ++ " is not a valid URL: " ++ fault.message
  | invalidNumber name value =>
    name ++ " must be a positive whole number, got " ++ Text.Quoted.quote value
  | invalidAddress value => "BIND_ADDRESS is not an IP address: " ++ Text.Quoted.quote value
  | noAuthUrl apiUrl => "cannot derive the auth URL from " ++ apiUrl.text

/-! ### Defaults -/

/-- The automation service on the own machine. -/
def defaultApiUrl : String := "http://localhost:9101"

/-- The port at which tokens are given out. -/
def authPort : Nat := 9100

/-- The name of the bot and of the channel. -/
def defaultName : String := "hubot"

/-- The path of the alias listing. -/
def defaultAliasPath : String := "/exp/actionalias"

/-- The path to which requests are posted. -/
def defaultExecutionPath : String := "/exp/aliasexecution"

/-- The time between refreshes. -/
def defaultRefreshSeconds : Nat := 120

/-- The time after which an exchange is given up. -/
def defaultTimeoutSeconds : Nat := 30

/-- The port at which notifications are accepted. -/
def defaultPort : Nat := 8080

/-! ### Reading -/

/-- Whether a value sets its variable. -/
def isSet (value : String) : Bool :=
  let trimmed := Text.trim value
  !trimmed.isEmpty && trimmed != "null"

/-- The value of a variable that is set. -/
def lookUp (env : Environment) (name : String) : Option String := (env name).filter isSet

/-- Reads the URL in a variable. -/
def url (name value : String) : Except Fault Net.Url :=
  (Net.Url.parse (Text.trim value)).mapError (.invalidUrl name)

/-- The URL of the service for tokens: the one that is configured, or the automation service at
another port. -/
def authUrlOf (env : Environment) (apiUrl : Net.Url) : Except Fault Net.Url :=
  match lookUp env "ST2_AUTH_URL" with
  | some value => url "ST2_AUTH_URL" value
  | none =>
    match apiUrl.atPort? authPort with
    | some authUrl => .ok authUrl
    | none => .error (.noAuthUrl apiUrl)

/-- The address at which notifications are accepted. -/
def addressOf (env : Environment) : Except Fault Net.Address :=
  match lookUp env "BIND_ADDRESS" with
  | none => .ok .any
  | some value =>
    match Net.Address.parse? (Text.Blank.trim value.toList) with
    | some address => .ok address
    | none => .error (.invalidAddress value)

/-- The port at which notifications are accepted. -/
def portOf (env : Environment) : Except Fault Nat :=
  match lookUp env "PORT" with
  | none => .ok defaultPort
  | some value =>
    match Text.Whole.parse? 65535 (Text.Blank.trim value.toList) with
    | some port => .ok port
    | none => .error (.invalidNumber "PORT" value)

/-- A number of seconds, at least one. -/
def seconds (env : Environment) (name : String) (default : Nat) : Except Fault Nat :=
  match lookUp env name with
  | none => .ok default
  | some value =>
    match Text.Whole.parse? (Nat.pow 2 64 - 1) (Text.Blank.trim value.toList) with
    | some 0 | none => .error (.invalidNumber name value)
    | some n => .ok n

/-- A path, with a slash at its beginning. -/
def path (env : Environment) (name default : String) : String :=
  let value := (lookUp env name).getD default
  if value.toList.head? = some '/' then value else "/" ++ value

/-- Reads a configuration. -/
def read (env : Environment) : Except Fault Config := do
  let apiUrl ← url "ST2_API" ((lookUp env "ST2_API").getD defaultApiUrl)
  let authUrl ← authUrlOf env apiUrl
  let address ← addressOf env
  let port ← portOf env
  let refreshSeconds ← seconds env "ST2_COMMANDS_RELOAD_INTERVAL" defaultRefreshSeconds
  let timeoutSeconds ← seconds env "ST2_HTTP_TIMEOUT" defaultTimeoutSeconds
  return {
    apiUrl, authUrl, address, port, refreshSeconds, timeoutSeconds
    aliasPath := path env "ST2_ALIAS_PATH" defaultAliasPath
    executionPath := path env "ST2_EXECUTION_PATH" defaultExecutionPath
    channel := (lookUp env "ST2_CHANNEL").getD defaultName
    username := lookUp env "ST2_AUTH_USERNAME"
    password := lookUp env "ST2_AUTH_PASSWORD"
    botName := (lookUp env "HUBOT_NAME").getD defaultName }

/-! ### Endpoints -/

/-- Where the aliases are listed. -/
def aliasUrl (config : Config) : String := config.apiUrl.join config.aliasPath

/-- Where requests are posted. -/
def executionUrl (config : Config) : String := config.apiUrl.join config.executionPath

/-- Where tokens are given out. -/
def tokensUrl (config : Config) : String := config.authUrl.join "/tokens"

/-- Where notifications are accepted. -/
def listenText (config : Config) : String :=
  String.ofList (config.address.textWithPort config.port)

end Config

end Switchboard
