import Switchboard.Alias.Refresh
import Switchboard.Chat.Shell
import Switchboard.Chat.Stream
import Switchboard.Service.Client

/-!
# The relay at a terminal

A run reads its configuration, obtains a token if the configuration asks for one, fetches the commands
once, and then chats over its input until that ends. A run that cannot be configured, or whose input is
no text, fails; a run that obtains no token fails with a status of its own.
-/

namespace Switchboard.Console

/-- How a run ends. -/
inductive Exit
  | done
  | misconfigured (fault : Config.Fault)
  | unauthenticated (fault : Service.AuthFault)
  | unreadable (reason : String)

/-- The status with which a run ends. -/
def Exit.status : Exit → Nat
  | done => 0
  | misconfigured _ | unreadable _ => 1
  | unauthenticated _ => 2

/-- Why a run failed, in words. -/
def Exit.message? : Exit → Option String
  | done => none
  | misconfigured fault => some ("invalid configuration: " ++ fault.message)
  | unauthenticated fault => some ("authentication failed: " ++ fault.message)
  | unreadable reason => some ("chat input failed: " ++ reason)

/-- What a run acts on. -/
structure World (σ : Type) where
  /-- The network. -/
  net : σ
  /-- The terminal. -/
  output : Chat.Stream := ⟨none, false, []⟩
  /-- How many requests were executed. -/
  executed : Nat := 0

/-- Requests go to the automation service and messages to the terminal; the acknowledgements take
turns. -/
def ports {σ : Type} (client : Service.Client) (exchange : Service.Exchange σ) :
    Chat.Ports (World σ) where
  execute request world :=
    let (answer, net) := client.execute exchange request world.net
    (answer, { world with net, executed := world.executed + 1 })
  send message world :=
    let (result, output) := world.output.send message
    (result, { world with output })
  choice world := Alias.Acknowledgement.around world.executed

/-- The user at the terminal. -/
def user (env : Environment) : String :=
  ((env "USER").filter fun name => !Text.isBlankText name).getD Chat.Shell.room

/-- Chats over the input. -/
def chat {σ : Type} (env : Environment) (config : Config) (client : Service.Client)
    (exchange : Service.Exchange σ) (input : List UInt8) (net : σ) : Exit × World σ :=
  let (fetched, net) := client.fetch exchange net
  let commands := (Alias.Registry.initial.take fetched).current
  let bot : Chat.Bot := ⟨config.botName, config.channel⟩
  match Chat.Shell.run bot (ports client exchange) commands (user env) input { net } with
  | (.ok (), world) => (.done, world)
  | (.error reason, world) => (.unreadable reason, world)

/-- A run. -/
def run {σ : Type} (env : Environment) (exchange : Service.Exchange σ) (input : List UInt8)
    (net : σ) : Exit × World σ :=
  match Config.read env with
  | .error fault => (.misconfigured fault, { net })
  | .ok config =>
    let plan := Service.Plan.ofParts config.username config.password
    match (Service.Client.ofConfig config).start exchange plan net with
    | (.error fault, _, net) => (.unauthenticated fault, { net })
    | (.ok _, client, net) => chat env config client exchange input net

/-- The variables that a run looks up. -/
def variableNames : List String :=
  ["ST2_API", "ST2_AUTH_URL", "ST2_ALIAS_PATH", "ST2_EXECUTION_PATH", "ST2_CHANNEL",
    "ST2_COMMANDS_RELOAD_INTERVAL", "ST2_HTTP_TIMEOUT", "ST2_AUTH_USERNAME", "ST2_AUTH_PASSWORD",
    "HUBOT_NAME", "BIND_ADDRESS", "PORT", "USER"]

end Switchboard.Console
