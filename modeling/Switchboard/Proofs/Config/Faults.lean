import Switchboard.Proofs.Config.Endpoints
import Switchboard.Proofs.Text.Digits
import Switchboard.Proofs.Text.Pieces

/-!
# Faults of a configuration

A configuration is refused only for a variable that is set. Each of the checks is stated by itself,
as what a value fails to be (`Offends`), and says nothing about the other variables. Only the place
where tokens are given out depends on two of them: if it is not configured, the automation service has
to be at a host that takes a port.

The checks have an order, and reading fails with the fault of the first one that fails
(`IsFirstFault`). A configuration that is read has passed all of them.

## Main results

* `isFirstFault_of_read`, `not_offends_of_read`: what comes of reading, in terms of the checks.
* `read_fails_at_first_fault`: which environments are refused, and with which fault.
-/

namespace Switchboard.Config

open Net (Url)

variable {env : Environment} {config : Config} {apiUrl : Url} {name value : String} {fault : Fault}

/-- A value that sets a variable is neither blank nor `null` without the white space around it. -/
def Counts (value : String) : Prop := ¬ Text.isBlankText value ∧ Text.trim value ≠ "null"

instance (value : String) : Decidable (Counts value) :=
  inferInstanceAs (Decidable (¬ Text.isBlankText value ∧ Text.trim value ≠ "null"))

/-- A variable is set to a value. -/
def IsSetTo (env : Environment) (name value : String) : Prop := env name = some value ∧ Counts value

/-- A variable is not set. -/
def IsUnset (env : Environment) (name : String) : Prop := ∀ value, ¬ IsSetTo env name value

/-- The variables that are set. -/
def onlySet (env : Environment) : Environment := fun name =>
  (env name).filter fun value => Counts value

/-- A value writes a number between two bounds, perhaps with white space around it. -/
def IsNumberIn (least greatest : Nat) (value : String) : Prop :=
  ∃ n, least ≤ n ∧ n ≤ greatest ∧ Text.Whole.Writes (Text.Blank.trim value.toList) n

/-- What is at a host, and is no file, takes a port. -/
def TakesPort (url : Url) : Prop :=
  url.scheme ≠ Net.Scheme.file ∧
    ∃ authority, url.authority = some authority ∧ authority.host ≠ Net.Host.none

/-- The URL of the automation service: the one that is configured, or the one on the own machine. -/
def IsApiUrl (env : Environment) (url : Url) : Prop :=
  (∃ value, IsSetTo env "ST2_API" value ∧ Url.parse (Text.trim value) = .ok url) ∨
    IsUnset env "ST2_API" ∧ Url.parse defaultApiUrl = .ok url

/-- What is checked, one after the other. -/
inductive Check
  | apiUrl
  | authUrl
  | address
  | port
  | refreshSeconds
  | timeoutSeconds
  deriving DecidableEq, Repr

/-- The place of a check among all checks. -/
def Check.place : Check → Nat
  | .apiUrl => 0
  | .authUrl => 1
  | .address => 2
  | .port => 3
  | .refreshSeconds => 4
  | .timeoutSeconds => 5

/-- A check fails with a fault. What other checks say does not matter. -/
inductive Offends (env : Environment) : Check → Fault → Prop
  | apiUrl {value : String} {reason : Url.Fault} (hset : IsSetTo env "ST2_API" value)
      (hurl : Url.parse (Text.trim value) = .error reason) :
      Offends env .apiUrl (.invalidUrl "ST2_API" reason)
  | authUrl {value : String} {reason : Url.Fault} (hset : IsSetTo env "ST2_AUTH_URL" value)
      (hurl : Url.parse (Text.trim value) = .error reason) :
      Offends env .authUrl (.invalidUrl "ST2_AUTH_URL" reason)
  | noAuthUrl {apiUrl : Url} (hunset : IsUnset env "ST2_AUTH_URL") (hapi : IsApiUrl env apiUrl)
      (hport : ¬ TakesPort apiUrl) : Offends env .authUrl (.noAuthUrl apiUrl)
  | address {value : String} (hset : IsSetTo env "BIND_ADDRESS" value)
      (haddress : Net.Address.parse? (Text.Blank.trim value.toList) = none) :
      Offends env .address (.invalidAddress value)
  | port {value : String} (hset : IsSetTo env "PORT" value)
      (hnumber : ¬ IsNumberIn 0 (2 ^ 16 - 1) value) : Offends env .port (.invalidNumber "PORT" value)
  | refreshSeconds {value : String} (hset : IsSetTo env "ST2_COMMANDS_RELOAD_INTERVAL" value)
      (hnumber : ¬ IsNumberIn 1 (2 ^ 64 - 1) value) :
      Offends env .refreshSeconds (.invalidNumber "ST2_COMMANDS_RELOAD_INTERVAL" value)
  | timeoutSeconds {value : String} (hset : IsSetTo env "ST2_HTTP_TIMEOUT" value)
      (hnumber : ¬ IsNumberIn 1 (2 ^ 64 - 1) value) :
      Offends env .timeoutSeconds (.invalidNumber "ST2_HTTP_TIMEOUT" value)

/-- All checks before the given place pass. -/
def PassesBefore (env : Environment) (place : Nat) : Prop :=
  ∀ check : Check, check.place < place → ∀ fault, ¬ Offends env check fault

/-- **The first fault**: a check fails with it, and all checks before pass. -/
def IsFirstFault (env : Environment) (fault : Fault) : Prop :=
  ∃ check, Offends env check fault ∧ PassesBefore env check.place

/-! ### Variables that are set -/

/-- A value counts as set if it is not blank. -/
theorem isSet_iff : isSet value ↔ Counts value := by
  have hblank : (Text.trim value).isEmpty = Text.isBlankText value := by
    rw [Bool.eq_iff_iff, String.isEmpty_iff, Text.trim, String.ofList_eq_empty_iff,
      Text.Blank.trim_eq_nil_iff, Text.isBlankText, List.all_eq_true]
  rw [isSet, Bool.and_eq_true, Bool.not_eq_true', bne_iff_ne, hblank, Counts, Bool.not_eq_true]

/-- Which value a variable has. -/
theorem lookUp_eq_some_iff : lookUp env name = some value ↔ IsSetTo env name value := by
  rw [lookUp, Option.filter_eq_some_iff, isSet_iff]
  rfl

/-- Which variables have none. -/
theorem lookUp_eq_none_iff : lookUp env name = none ↔ IsUnset env name := by
  simp only [Option.eq_none_iff_forall_ne_some, ne_eq, lookUp_eq_some_iff, IsUnset]

/-- Variables that are set to blanks may be dropped. -/
theorem lookUp_onlySet (env : Environment) : lookUp (onlySet env) = lookUp env := by
  funext name
  refine Option.ext fun value => ?_
  rw [lookUp_eq_some_iff, lookUp_eq_some_iff, IsSetTo, onlySet, Option.filter_eq_some_iff,
    decide_eq_true_eq]
  exact ⟨fun h => h.1, fun h => ⟨h, h.2⟩⟩

/-- A configuration is read from the variables that are set. -/
theorem read_congr {env env' : Environment} (h : lookUp env = lookUp env') :
    read env = read env' := by
  simp only [read, authUrlOf, addressOf, portOf, seconds, path, h]

/-! ### Single checks -/

/-- When the value of a variable is taken as a URL. -/
theorem url_eq_ok_iff {url' : Url} :
    url name value = .ok url' ↔ Url.parse (Text.trim value) = .ok url' := by
  unfold url
  cases Url.parse (Text.trim value) <;> simp [Except.mapError]

/-- When it is refused, and with which fault. -/
theorem url_eq_error_iff :
    url name value = .error fault ↔
      ∃ reason, Url.parse (Text.trim value) = .error reason ∧ .invalidUrl name reason = fault := by
  unfold url
  cases Url.parse (Text.trim value) <;> simp [Except.mapError]

/-- The default has no white space around it. -/
theorem trim_defaultApiUrl : Text.trim defaultApiUrl = defaultApiUrl := by decide

/-- The URL that is read for the automation service. -/
theorem isApiUrl_iff :
    IsApiUrl env apiUrl ↔
      url "ST2_API" ((lookUp env "ST2_API").getD defaultApiUrl) = .ok apiUrl := by
  rw [url_eq_ok_iff]
  constructor
  · rintro (⟨value, hset, hurl⟩ | ⟨hunset, hurl⟩)
    · rwa [lookUp_eq_some_iff.mpr hset, Option.getD_some]
    · rwa [lookUp_eq_none_iff.mpr hunset, Option.getD_none, trim_defaultApiUrl]
  · intro h
    cases hlook : lookUp env "ST2_API" with
    | some value =>
        rw [hlook, Option.getD_some] at h
        exact .inl ⟨value, lookUp_eq_some_iff.mp hlook, h⟩
    | none =>
        rw [hlook, Option.getD_none, trim_defaultApiUrl] at h
        exact .inr ⟨lookUp_eq_none_iff.mp hlook, h⟩

/-- The check of the URL of the automation service is the one that reading makes. -/
theorem offends_apiUrl_iff :
    Offends env .apiUrl fault ↔
      url "ST2_API" ((lookUp env "ST2_API").getD defaultApiUrl) = .error fault := by
  constructor
  · rintro ⟨hset, hurl⟩
    rw [lookUp_eq_some_iff.mpr hset, Option.getD_some, url_eq_error_iff]
    exact ⟨_, hurl, rfl⟩
  · intro h
    cases hlook : lookUp env "ST2_API" with
    | some value =>
        rw [hlook, Option.getD_some, url_eq_error_iff] at h
        obtain ⟨reason, hurl, rfl⟩ := h
        exact .apiUrl (lookUp_eq_some_iff.mp hlook) hurl
    | none =>
        rw [hlook, Option.getD_none, url_defaultApiUrl] at h
        exact nomatch h

/-- Which URLs take no port. -/
theorem atPort?_eq_none_iff {url : Url} (port : Nat) :
    url.atPort? port = none ↔ ¬ TakesPort url := by
  unfold TakesPort Url.atPort?
  cases url.authority with
  | none => simp
  | some authority => by_cases hhost : authority.host = Net.Host.none <;> simp [hhost, guard]

/-- Why there is no URL of tokens: it is set to no URL, or it is not set and the other one takes no
port. -/
theorem authUrlOf_eq_error_iff :
    authUrlOf env apiUrl = .error fault ↔
      (∃ value reason, IsSetTo env "ST2_AUTH_URL" value ∧
        Url.parse (Text.trim value) = .error reason ∧ .invalidUrl "ST2_AUTH_URL" reason = fault) ∨
      IsUnset env "ST2_AUTH_URL" ∧ ¬ TakesPort apiUrl ∧ .noAuthUrl apiUrl = fault := by
  simp only [← lookUp_eq_some_iff, ← lookUp_eq_none_iff, ← atPort?_eq_none_iff authPort]
  unfold authUrlOf
  cases lookUp env "ST2_AUTH_URL" with
  | some value => simp [url_eq_error_iff]
  | none => cases apiUrl.atPort? authPort <;> simp

/-- Why there is no address to listen at. -/
theorem addressOf_eq_error_iff :
    addressOf env = .error fault ↔
      ∃ value, IsSetTo env "BIND_ADDRESS" value ∧
        Net.Address.parse? (Text.Blank.trim value.toList) = none ∧
          .invalidAddress value = fault := by
  simp only [← lookUp_eq_some_iff]
  unfold addressOf
  cases lookUp env "BIND_ADDRESS" with
  | none => simp
  | some value =>
      simp only [Option.some.injEq, exists_eq_left']
      cases Net.Address.parse? (Text.Blank.trim value.toList) <;> simp

/-- A text that is no number in a range is none at all, or one that is too small. -/
theorem not_isNumberIn_iff {least greatest : Nat} :
    ¬ IsNumberIn least greatest value ↔
      ∀ n, Text.Whole.parse? greatest (Text.Blank.trim value.toList) = some n → n < least := by
  simp only [IsNumberIn, not_exists, not_and, Text.Whole.parse?_eq_some_iff, and_imp]
  refine forall_congr' fun n => ⟨fun h hwrites hle => ?_, fun h hleast hle hwrites => ?_⟩
  · exact Nat.lt_of_not_le fun hleast => h hleast hle hwrites
  · exact Nat.not_lt.mpr hleast (h hwrites hle)

/-- Why there is no port. -/
theorem portOf_eq_error_iff :
    portOf env = .error fault ↔
      ∃ value, IsSetTo env "PORT" value ∧ ¬ IsNumberIn 0 65535 value ∧
        .invalidNumber "PORT" value = fault := by
  simp only [← lookUp_eq_some_iff, not_isNumberIn_iff]
  unfold portOf
  cases lookUp env "PORT" with
  | none => simp
  | some value =>
      simp only [Option.some.injEq, exists_eq_left']
      cases Text.Whole.parse? 65535 (Text.Blank.trim value.toList) <;> simp

/-- Why a number of seconds is refused. -/
theorem seconds_eq_error_iff {default : Nat} :
    seconds env name default = .error fault ↔
      ∃ value, IsSetTo env name value ∧ ¬ IsNumberIn 1 (2 ^ 64 - 1) value ∧
        .invalidNumber name value = fault := by
  simp only [← lookUp_eq_some_iff, not_isNumberIn_iff]
  unfold seconds
  cases lookUp env name with
  | none => simp
  | some value =>
      simp only [Option.some.injEq, exists_eq_left', Nat.pow_eq]
      rcases Text.Whole.parse? (2 ^ 64 - 1) (Text.Blank.trim value.toList) with _ | _ | n <;> simp

/-- Numbers of seconds are positive. -/
theorem one_le_of_seconds {default n : Nat} (hdefault : 1 ≤ default)
    (h : seconds env name default = .ok n) : 1 ≤ n := by
  unfold seconds at h
  split at h
  · exact Except.ok.inj h ▸ hdefault
  · split at h
    · exact nomatch h
    · exact nomatch h
    · next hzero _ => exact Except.ok.inj h ▸ Nat.one_le_iff_ne_zero.mpr fun heq => hzero heq

/-! ### The parts of a configuration -/

/-- The check of the URL of tokens is the one that reading makes, once the first URL is known. -/
theorem offends_authUrl_iff (hapi : IsApiUrl env apiUrl) :
    Offends env .authUrl fault ↔ authUrlOf env apiUrl = .error fault := by
  rw [authUrlOf_eq_error_iff]
  constructor
  · intro h
    cases h with
    | authUrl hset hurl => exact .inl ⟨_, _, hset, hurl, rfl⟩
    | noAuthUrl hunset hapi' hport =>
        rw [isApiUrl_iff] at hapi hapi'
        obtain rfl := Except.ok.inj (hapi.symm.trans hapi')
        exact .inr ⟨hunset, hport, rfl⟩
  · rintro (⟨value, reason, hset, hurl, rfl⟩ | ⟨hunset, hport, rfl⟩)
    · exact .authUrl hset hurl
    · exact .noAuthUrl hunset hapi hport

/-- The check of the address is the one that reading makes. -/
theorem offends_address_iff : Offends env .address fault ↔ addressOf env = .error fault := by
  rw [addressOf_eq_error_iff]
  constructor
  · intro h
    cases h with
    | address hset haddress => exact ⟨_, hset, haddress, rfl⟩
  · rintro ⟨value, hset, haddress, rfl⟩
    exact .address hset haddress

/-- The check of the port is the one that reading makes. -/
theorem offends_port_iff : Offends env .port fault ↔ portOf env = .error fault := by
  rw [portOf_eq_error_iff]
  constructor
  · intro h
    cases h with
    | port hset hnumber => exact ⟨_, hset, hnumber, rfl⟩
  · rintro ⟨value, hset, hnumber, rfl⟩
    exact .port hset hnumber

/-- The check of the interval between refreshes is the one that reading makes. -/
theorem offends_refreshSeconds_iff :
    Offends env .refreshSeconds fault ↔
      seconds env "ST2_COMMANDS_RELOAD_INTERVAL" defaultRefreshSeconds = .error fault := by
  rw [seconds_eq_error_iff]
  constructor
  · intro h
    cases h with
    | refreshSeconds hset hnumber => exact ⟨_, hset, hnumber, rfl⟩
  · rintro ⟨value, hset, hnumber, rfl⟩
    exact .refreshSeconds hset hnumber

/-- The check of the time that a request may take is the one that reading makes. -/
theorem offends_timeoutSeconds_iff :
    Offends env .timeoutSeconds fault ↔
      seconds env "ST2_HTTP_TIMEOUT" defaultTimeoutSeconds = .error fault := by
  rw [seconds_eq_error_iff]
  constructor
  · intro h
    cases h with
    | timeoutSeconds hset hnumber => exact ⟨_, hset, hnumber, rfl⟩
  · rintro ⟨value, hset, hnumber, rfl⟩
    exact .timeoutSeconds hset hnumber

/-! ### Order -/

/-- No two checks are made at the same place. -/
theorem Check.place_injective : Function.Injective Check.place := by
  intro check check' h
  cases check <;> cases check' <;> first | rfl | exact nomatch h

/-- **One check.** Reading fails with the fault of the check, or the check passes and what is left to be
read fails. -/
theorem PassesBefore.step {α : Type} {part : Except Fault α} {rest : α → Except Fault Config}
    (check : Check) (h : PassesBefore env check.place)
    (hcheck : ∀ fault, Offends env check fault ↔ part = .error fault)
    (hread : (part >>= rest) = .error fault) :
    IsFirstFault env fault ∨
      ∃ a, part = .ok a ∧ PassesBefore env (check.place + 1) ∧ rest a = .error fault := by
  rcases eq_error_of_bind_eq_error hread with hpart | ⟨a, hpart, hrest⟩
  · exact .inl ⟨check, (hcheck fault).mpr hpart, h⟩
  · refine .inr ⟨a, hpart, fun earlier hlt other => ?_, hrest⟩
    rcases Nat.lt_succ_iff_lt_or_eq.mp hlt with hlt | heq
    · exact h earlier hlt other
    · rw [Check.place_injective heq, hcheck, hpart]
      exact nofun

/-- **Reading fails** with the first fault. -/
theorem isFirstFault_of_read (h : read env = .error fault) : IsFirstFault env fault := by
  have hpass : PassesBefore env 0 := fun _ hlt => absurd hlt (Nat.not_lt_zero _)
  rcases hpass.step .apiUrl (fun _ => offends_apiUrl_iff) h with h | ⟨apiUrl, hapi, hpass, h⟩
  · exact h
  rcases hpass.step .authUrl (fun _ => offends_authUrl_iff (isApiUrl_iff.mpr hapi)) h with
    h | ⟨authUrl, -, hpass, h⟩
  · exact h
  rcases hpass.step .address (fun _ => offends_address_iff) h with h | ⟨address, -, hpass, h⟩
  · exact h
  rcases hpass.step .port (fun _ => offends_port_iff) h with h | ⟨port, -, hpass, h⟩
  · exact h
  rcases hpass.step .refreshSeconds (fun _ => offends_refreshSeconds_iff) h with
    h | ⟨refreshSeconds, -, hpass, h⟩
  · exact h
  rcases hpass.step .timeoutSeconds (fun _ => offends_timeoutSeconds_iff) h with
    h | ⟨timeoutSeconds, -, -, h⟩
  · exact h
  · exact nomatch h

/-- A configuration that is read passes all checks. -/
theorem not_offends_of_read (h : read env = .ok config) (check : Check) (fault : Fault) :
    ¬ Offends env check fault := by
  have hread := read_eq_ok_iff.mp h
  cases check with
  | apiUrl => simp [offends_apiUrl_iff, hread.apiUrl]
  | authUrl => simp [offends_authUrl_iff (isApiUrl_iff.mpr hread.apiUrl), hread.authUrl]
  | address => simp [offends_address_iff, hread.address]
  | port => simp [offends_port_iff, hread.port]
  | refreshSeconds => simp [offends_refreshSeconds_iff, hread.refreshSeconds]
  | timeoutSeconds => simp [offends_timeoutSeconds_iff, hread.timeoutSeconds]

/-- A check that is come to fails if its part is not read. When the check of another URL is come to, that
of the automation service has passed, and it is known which one it is. -/
theorem PassesBefore.exists_part {check : Check} (h : PassesBefore env check.place) :
    ∃ (α : Type) (part : Except Fault α),
      ∀ fault, Offends env check fault ↔ part = .error fault := by
  cases check with
  | apiUrl => exact ⟨_, _, fun _ => offends_apiUrl_iff⟩
  | authUrl =>
      cases hurl : url "ST2_API" ((lookUp env "ST2_API").getD defaultApiUrl) with
      | error fault => exact absurd (offends_apiUrl_iff.mpr hurl) (h .apiUrl (by decide) fault)
      | ok apiUrl => exact ⟨_, _, fun _ => offends_authUrl_iff (isApiUrl_iff.mpr hurl)⟩
  | address => exact ⟨_, _, fun _ => offends_address_iff⟩
  | port => exact ⟨_, _, fun _ => offends_port_iff⟩
  | refreshSeconds => exact ⟨_, _, fun _ => offends_refreshSeconds_iff⟩
  | timeoutSeconds => exact ⟨_, _, fun _ => offends_timeoutSeconds_iff⟩

/-- There is one first fault. -/
theorem IsFirstFault.unique {fault' : Fault} (h : IsFirstFault env fault)
    (h' : IsFirstFault env fault') : fault = fault' := by
  obtain ⟨check, hfault, hpass⟩ := h
  obtain ⟨check', hfault', hpass'⟩ := h'
  rcases Nat.lt_trichotomy check.place check'.place with hlt | heq | hlt
  · exact absurd hfault (hpass' check hlt fault)
  · obtain rfl := Check.place_injective heq
    obtain ⟨α, part, hpart⟩ := hpass.exists_part
    exact Except.error.inj (((hpart fault).mp hfault).symm.trans ((hpart fault').mp hfault'))
  · exact absurd hfault' (hpass check' hlt fault')

/-- The first fault is the one that is reported. -/
theorem read_of_isFirstFault (h : IsFirstFault env fault) : read env = .error fault := by
  cases hread : read env with
  | error fault' => rw [h.unique (isFirstFault_of_read hread)]
  | ok config =>
      obtain ⟨check, hfault, -⟩ := h
      exact absurd hfault (not_offends_of_read hread check fault)

/-- **Reading fails** exactly if a check does. -/
theorem exists_read_eq_error_iff :
    (∃ fault, read env = .error fault) ↔ ∃ check fault, Offends env check fault := by
  constructor
  · rintro ⟨fault, hread⟩
    obtain ⟨check, hfault, -⟩ := isFirstFault_of_read hread
    exact ⟨check, fault, hfault⟩
  · rintro ⟨check, fault, hfault⟩
    cases hread : read env with
    | error fault' => exact ⟨fault', rfl⟩
    | ok config => exact absurd hfault (not_offends_of_read hread check fault)

/-! ### What is read -/

/-- What is known of the durations and the paths of a configuration. -/
structure HasBounds (config : Config) : Prop where
  refreshSeconds : 1 ≤ config.refreshSeconds
  timeoutSeconds : 1 ≤ config.timeoutSeconds
  aliasPath : config.aliasPath.toList.head? = some '/'
  executionPath : config.executionPath.toList.head? = some '/'

/-- **A configuration** that is read keeps the bounds of its numbers. -/
theorem hasBounds_of_read (h : read env = .ok config) : config.HasBounds := by
  have hread := read_eq_ok_iff.mp h
  have hends := hasEndpoints_of_read h
  exact ⟨one_le_of_seconds (by decide) hread.refreshSeconds,
    one_le_of_seconds (by decide) hread.timeoutSeconds, hends.aliasPath, hends.executionPath⟩

/-- **A configuration is refused** exactly for a variable that is set and fails its check, with the
fault of the first check that fails. Variables that are not set do not matter, and a configuration that
is not refused keeps its bounds. -/
theorem read_fails_at_first_fault (env : Environment) :
    read (onlySet env) = read env ∧
      (∀ fault, read env = .error fault ↔ IsFirstFault env fault) ∧
      ((∃ fault, read env = .error fault) ↔ ∃ check fault, Offends env check fault) ∧
      ∀ config, read env = .ok config → config.HasBounds :=
  ⟨read_congr (lookUp_onlySet env), fun _ => ⟨isFirstFault_of_read, read_of_isFirstFault⟩,
    exists_read_eq_error_iff, fun _ => hasBounds_of_read⟩

/-- An environment that says what a table says. -/
def tableEnv (table : List (String × String)) : Environment := fun name => table.lookup name

/-- A port that is too large comes before a time that is too short, and a blank time is not set. The name
of a host may be beyond ASCII, but a label that looks as if it were written for such a name must be
written for one. -/
theorem read_fails_at_port :
    IsFirstFault (tableEnv [("ST2_HTTP_TIMEOUT", "0"), ("PORT", " 70000 ")])
        (.invalidNumber "PORT" " 70000 ") ∧
      (∃ config, read (tableEnv [("ST2_HTTP_TIMEOUT", " "), ("PORT", " +70 ")]) = .ok config ∧
        config.port = 70 ∧ config.HasBounds) ∧
      (∃ config, read (tableEnv [("ST2_API", "http://bücher.example:9101")]) = .ok config ∧
        config.HasBounds) ∧
      IsFirstFault (tableEnv [("ST2_API", "http://xn--/")]) (.invalidUrl "ST2_API" .notDomain) := by
  refine ⟨((read_fails_at_first_fault _).2.1 _).mp (by decide +kernel),
    ⟨{ unset with port := 70 }, ?_⟩, ?_, ((read_fails_at_first_fault _).2.1 _).mp (by decide +kernel)⟩
  · have hread : read (tableEnv [("ST2_HTTP_TIMEOUT", " "), ("PORT", " +70 ")]) =
        .ok { unset with port := 70 } := by decide +kernel
    exact ⟨hread, rfl, (read_fails_at_first_fault _).2.2.2 _ hread⟩
  · have hsome : (read (tableEnv [("ST2_API", "http://bücher.example:9101")])).toOption.isSome := by
      decide +kernel
    obtain ⟨config, hconfig⟩ := Option.isSome_iff_exists.mp hsome
    have hread := toOption_eq_some_iff.mp hconfig
    exact ⟨config, hread, (read_fails_at_first_fault _).2.2.2 _ hread⟩

end Switchboard.Config
