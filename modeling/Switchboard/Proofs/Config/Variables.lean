import Mathlib.Tactic
import Switchboard.Config
import Switchboard.Proofs.Results

/-!
# Variables of a configuration

A configuration is read if every variable is (`Config.ReadFrom`), and each of its parts comes from
variables of its own. So a part can be given a value by setting one variable, and a setting of the name
of the bot is never refused.

## Main results

* `Config.read_eq_ok_iff`: what reading a configuration takes.
* `Config.exists_read_iff_isSet`: which names a bot can be given.
-/

namespace Switchboard.Config

variable {env : Environment} {config : Config}

/-- What is read from an environment, part by part. -/
structure ReadFrom (config : Config) (env : Environment) : Prop where
  apiUrl : url "ST2_API" ((lookUp env "ST2_API").getD defaultApiUrl) = .ok config.apiUrl
  authUrl : authUrlOf env config.apiUrl = .ok config.authUrl
  address : addressOf env = .ok config.address
  port : portOf env = .ok config.port
  refreshSeconds : seconds env "ST2_COMMANDS_RELOAD_INTERVAL" defaultRefreshSeconds =
    .ok config.refreshSeconds
  timeoutSeconds : seconds env "ST2_HTTP_TIMEOUT" defaultTimeoutSeconds = .ok config.timeoutSeconds
  aliasPath : config.aliasPath = path env "ST2_ALIAS_PATH" defaultAliasPath
  executionPath : config.executionPath = path env "ST2_EXECUTION_PATH" defaultExecutionPath
  channel : config.channel = (lookUp env "ST2_CHANNEL").getD defaultName
  username : config.username = lookUp env "ST2_AUTH_USERNAME"
  password : config.password = lookUp env "ST2_AUTH_PASSWORD"
  botName : config.botName = (lookUp env "HUBOT_NAME").getD defaultName

/-- **Reading** a configuration takes that every part is read. -/
theorem read_eq_ok_iff : read env = .ok config ↔ config.ReadFrom env := by
  constructor
  · intro h
    obtain ⟨apiUrl, hapi, h⟩ := exists_of_bind_eq_ok h
    obtain ⟨authUrl, hauth, h⟩ := exists_of_bind_eq_ok h
    obtain ⟨address, haddress, h⟩ := exists_of_bind_eq_ok h
    obtain ⟨port, hport, h⟩ := exists_of_bind_eq_ok h
    obtain ⟨refreshSeconds, hrefresh, h⟩ := exists_of_bind_eq_ok h
    obtain ⟨timeoutSeconds, htimeout, h⟩ := exists_of_bind_eq_ok h
    obtain rfl := Except.ok.inj h
    exact ⟨hapi, hauth, haddress, hport, hrefresh, htimeout, rfl, rfl, rfl, rfl, rfl, rfl⟩
  · intro h
    simp only [read, h.apiUrl, h.authUrl, h.address, h.port, h.refreshSeconds, h.timeoutSeconds,
      bind, Except.bind, ← h.aliasPath, ← h.executionPath, ← h.channel, ← h.username, ← h.password,
      ← h.botName]
    rfl

/-- The configuration of an environment that says nothing. -/
def unset : Config where
  apiUrl := ⟨['h', 't', 't', 'p'], some { host := .domain Net.Url.localName, port := some 9101 },
    .segments [[]], none, none⟩
  authUrl := ⟨['h', 't', 't', 'p'], some { host := .domain Net.Url.localName, port := some 9100 },
    .segments [[]], none, none⟩
  aliasPath := defaultAliasPath
  executionPath := defaultExecutionPath
  channel := defaultName
  refreshSeconds := defaultRefreshSeconds
  timeoutSeconds := defaultTimeoutSeconds
  username := none
  password := none
  botName := defaultName
  address := .any
  port := defaultPort

/-- The own machine, which is where the automation service is by default. -/
theorem url_defaultApiUrl : url "ST2_API" defaultApiUrl = .ok unset.apiUrl := by decide +kernel

/-- An environment that says at most where the automation service is and what the bot is called. -/
theorem read_of_lookUp_eq_none {apiUrl authUrl : Net.Url}
    (hapi : url "ST2_API" ((lookUp env "ST2_API").getD defaultApiUrl) = .ok apiUrl)
    (hauth : apiUrl.atPort? authPort = some authUrl)
    (hother : ∀ name ∉ ["ST2_API", "HUBOT_NAME"], lookUp env name = none) :
    read env = .ok { unset with
      apiUrl, authUrl, botName := (lookUp env "HUBOT_NAME").getD defaultName } :=
  read_eq_ok_iff.mpr
    { apiUrl := hapi
      authUrl := by simp only [authUrlOf, hother "ST2_AUTH_URL" (by decide), hauth]
      address := by rw [addressOf, hother _ (by decide)]; rfl
      port := by rw [portOf, hother _ (by decide)]; rfl
      refreshSeconds := by rw [seconds, hother _ (by decide)]; rfl
      timeoutSeconds := by rw [seconds, hother _ (by decide)]; rfl
      aliasPath := by rw [path, hother "ST2_ALIAS_PATH" (by decide)]; rfl
      executionPath := by rw [path, hother "ST2_EXECUTION_PATH" (by decide)]; rfl
      channel := by rw [hother "ST2_CHANNEL" (by decide)]; rfl
      username := (hother _ (by decide)).symm
      password := (hother _ (by decide)).symm
      botName := rfl }

/-- An environment that says one thing. -/
def only (name value : String) : Environment := fun other => if other = name then some value else none

/-- Where one variable is set, no other one is. -/
theorem lookUp_only_of_ne {name other : String} (value : String) (hne : other ≠ name) :
    lookUp (only name value) other = none := by
  rw [lookUp, only, if_neg hne, Option.filter_none]

/-- The one that is set has its value. -/
theorem lookUp_only {value : String} (name : String) (hset : isSet value) :
    lookUp (only name value) name = some value := by
  rw [lookUp, only, if_pos rfl, Option.filter_some, if_pos hset]

/-! ### The name of the bot -/

/-- An environment that says nothing but the name of the bot. -/
def namedEnv (bot : String) : Environment := fun name =>
  if name = "HUBOT_NAME" then some bot else none

/-- Where only the name of the bot is set, everything else is a default. -/
theorem read_namedEnv {bot : String} (hbot : isSet bot) :
    read (namedEnv bot) = .ok { unset with botName := bot } := by
  have hauth : unset.apiUrl.atPort? authPort = some unset.authUrl := by decide
  have hread : read (only "HUBOT_NAME" bot) = .ok { unset with
      botName := (lookUp (only "HUBOT_NAME" bot) "HUBOT_NAME").getD defaultName } :=
    read_of_lookUp_eq_none (by rw [lookUp_only_of_ne bot (by decide)]; exact url_defaultApiUrl) hauth
      fun name hname => lookUp_only_of_ne bot fun heq => hname (by simp [heq])
  rwa [lookUp_only _ hbot] at hread

/-- **The name of a bot** is any value that counts as set. -/
theorem exists_read_iff_isSet {bot : String} :
    (∃ env config, read env = .ok config ∧ config.botName = bot) ↔ isSet bot := by
  constructor
  · rintro ⟨env, config, hread, rfl⟩
    rw [(read_eq_ok_iff.mp hread).botName]
    cases hname : lookUp env "HUBOT_NAME" with
    | none => decide
    | some name => exact (Option.filter_eq_some_iff.mp hname).2
  · intro hbot
    exact ⟨_, _, read_namedEnv hbot, rfl⟩

end Switchboard.Config
