import Switchboard.Proofs.Config.Variables
import Switchboard.Proofs.Net.Joins

/-!
# Endpoints of a configuration

The endpoints are named by a path put behind the URL of the automation service or of the service for
tokens. They are at the same host and port as that URL and have the same user, and their path goes on
with the path that is put behind, if the URL has neither a query nor a fragment
(`endpoints_extend`). A query or a fragment takes the path in, so that the endpoint is the URL
itself.

## Main results

* `hasEndpoints_of_read`: what is known of the URLs and the paths of a configuration.
* `endpoints_extend`: where the endpoints are.
-/

namespace Switchboard.Config

open Net (Url)

variable {env : Environment} {config : Config} {apiUrl authUrl : Url}

/-! ### Paths -/

/-- A path with a slash at its beginning, which is added if it is missing. -/
def rooted (path : List Char) : List Char := if path.head? = some '/' then path else '/' :: path

/-- A path variable gives a path from the root. -/
theorem toList_path (env : Environment) (name default : String) :
    (path env name default).toList = rooted ((lookUp env name).getD default).toList := by
  unfold path rooted
  simp only
  split_ifs
  · rfl
  · rw [String.toList_append]
    rfl

/-- A rooted path begins with a slash. -/
theorem head?_rooted (path : List Char) : (rooted path).head? = some '/' := by
  unfold rooted
  split_ifs with hslash
  · exact hslash
  · rfl

/-- The slash in front may stand in a path. -/
theorem isPathChar_of_mem_rooted {path : List Char} (h : ∀ c ∈ path, Url.isPathChar c) :
    ∀ c ∈ rooted path, Url.isPathChar c := by
  unfold rooted
  split_ifs
  · exact h
  · exact List.forall_mem_cons.mpr ⟨by decide, h⟩

/-- So every configured path begins with one. -/
theorem head?_path (env : Environment) (name default : String) :
    (path env name default).toList.head? = some '/' := by
  rw [toList_path, head?_rooted]

/-! ### URLs -/

/-- The URL of the service for tokens is configured, or derived. -/
theorem authUrlOf_eq_ok (h : authUrlOf env apiUrl = .ok authUrl) :
    (∃ name value, url name value = .ok authUrl) ∨ apiUrl.atPort? authPort = some authUrl := by
  unfold authUrlOf at h
  split at h
  · exact .inl ⟨_, _, h⟩
  · split at h
    · next hport => exact .inr (Except.ok.inj h ▸ hport)
    · exact absurd h (by simp)

/-- A URL that is configured was read. -/
theorem isRead_of_url {name value : String} {read : Url} (h : url name value = .ok read) :
    read.IsRead :=
  Url.isRead_of_parse (eq_ok_of_mapError_eq_ok h)

/-- The URL of tokens was read, or it is derived from one that was. -/
theorem isRead_of_authUrlOf (hapi : apiUrl.IsRead) (h : authUrlOf env apiUrl = .ok authUrl) :
    authUrl.IsRead := by
  rcases authUrlOf_eq_ok h with ⟨name, value, hurl⟩ | hport
  · exact isRead_of_url hurl
  · exact Url.isRead_of_atPort? hapi hport

/-- What is known of the URLs and the paths of a configuration. -/
structure HasEndpoints (config : Config) : Prop where
  apiUrl : config.apiUrl.IsRead
  authUrl : config.authUrl.IsRead
  aliasPath : config.aliasPath.toList.head? = some '/'
  executionPath : config.executionPath.toList.head? = some '/'

/-- **A configuration** that is read has its endpoints. -/
theorem hasEndpoints_of_read (h : read env = .ok config) : config.HasEndpoints := by
  have hread := read_eq_ok_iff.mp h
  have hapi := isRead_of_url hread.apiUrl
  exact ⟨hapi, isRead_of_authUrlOf hapi hread.authUrl, hread.aliasPath ▸ head?_path env _ _,
    hread.executionPath ▸ head?_path env _ _⟩

/-- A URL of the web that is configured is in its normal form. -/
theorem isNormal_of_url {name value : String} {read : Url} (h : url name value = .ok read)
    (hweb : read.scheme ∈ Url.webSchemes) : read.IsNormal :=
  Url.isNormal_of_parse (eq_ok_of_mapError_eq_ok h) hweb

/-- The URL of tokens is in its normal form, if the one that it is derived from is. -/
theorem isNormal_of_authUrlOf (hapi : apiUrl.IsNormal) (h : authUrlOf env apiUrl = .ok authUrl)
    (hweb : authUrl.scheme ∈ Url.webSchemes) : authUrl.IsNormal := by
  rcases authUrlOf_eq_ok h with ⟨name, value, hurl⟩ | hport
  · exact isNormal_of_url hurl hweb
  · exact Url.isNormal_of_atPort? hapi hport (by decide)

/-! ### A service at a path and a query -/

/-- A service that is reached at a path and a query. -/
def apiAt (path : List (List Char)) (query : Option (List Char)) : Url where
  scheme := "https".toList
  authority := some { host := .domain "st2.example.com".toList }
  path := .segments path
  query := query

/-- The configuration that is read when only the automation service is said. -/
def configAt (path : List (List Char)) (query : Option (List Char)) : Config where
  __ := unset
  apiUrl := apiAt path query
  authUrl :=
    { scheme := "https".toList
      authority := some { host := .domain "st2.example.com".toList, port := some authPort }
      path := .segments [[]] }

/-- The example is in its normal form, whatever its path and its query. -/
theorem isNormal_apiAt {path : List (List Char)} {query : Option (List Char)} (hne : path ≠ [])
    (hpath : ∀ segment ∈ path, Url.IsSegment segment)
    (hquery : ∀ text ∈ query, ∀ c ∈ text, Net.Percent.isKept (Net.Percent.inQuery true) c) :
    (apiAt path query).IsNormal where
  scheme := (by decide : "https".toList ∈ Url.webSchemes)
  authority := by
    refine ⟨_, rfl, List.forall_mem_nil _, List.forall_mem_nil _, ?_, ?_, nofun⟩
    · exact ⟨by decide, List.all_eq_true.mp (by decide), by decide⟩
    · exact ⟨by decide, List.all_eq_true.mp (by decide)⟩
  path := ⟨path, hne, rfl, hpath⟩
  query := hquery
  fragment := nofun

/-- The configuration of the example is read from its text. -/
theorem read_configAt {path : List (List Char)} {query : Option (List Char)} {value : String}
    (h : (apiAt path query).IsNormal) (hset : isSet value)
    (hvalue : Text.trim value = (apiAt path query).text) :
    read (only "ST2_API" value) = .ok (configAt path query) := by
  have hapi : url "ST2_API" value = .ok (apiAt path query) := by
    rw [url, hvalue, Url.parse_text h]
    rfl
  have hauth : (apiAt path query).atPort? authPort = some (configAt path query).authUrl := by
    rfl
  have hread : read (only "ST2_API" value) = .ok { configAt path query with
      botName := (lookUp (only "ST2_API" value) "HUBOT_NAME").getD defaultName } :=
    read_of_lookUp_eq_none (by rw [lookUp_only _ hset]; exact hapi) hauth
      fun name hname => lookUp_only_of_ne value fun heq => hname (by simp [heq])
  rwa [lookUp_only_of_ne value (by decide)] at hread

/-- The segment of the example may stand in a path. -/
theorem isSegment_api : Url.IsSegment "api".toList :=
  ⟨List.all_eq_true.mp (by decide), by decide, by decide⟩

/-! ### Endpoints -/

/-- A configured path is put behind a base. -/
theorem exists_extends_path {base : Url} (h : base.IsNormal) {name default : String}
    (hchars : ∀ c ∈ ((lookUp env name).getD default).toList, Url.isPathChar c) :
    ∃ url, Url.parse (base.join (path env name default)) = .ok url ∧
      Url.Extends base (rooted ((lookUp env name).getD default).toList) url := by
  have hpath : ∀ c ∈ (path env name default).toList, Url.isPathChar c := by
    rw [toList_path]
    exact isPathChar_of_mem_rooted hchars
  have hextends := Url.exists_extends h hpath (head?_path env name default)
  rwa [toList_path] at hextends

/-- **Endpoints** are at the host of the URL they are derived from, and its path goes on with theirs
if it has neither a query nor a fragment. -/
theorem endpoints_extend (h : read env = .ok config)
    (hapi : config.apiUrl.scheme ∈ Url.webSchemes)
    (hauth : config.authUrl.scheme ∈ Url.webSchemes)
    (halias : ∀ c ∈ ((lookUp env "ST2_ALIAS_PATH").getD defaultAliasPath).toList, Url.isPathChar c)
    (hexecution : ∀ c ∈ ((lookUp env "ST2_EXECUTION_PATH").getD defaultExecutionPath).toList,
      Url.isPathChar c) :
    (∃ url, Url.parse config.aliasUrl = .ok url ∧ Url.Extends config.apiUrl
      (rooted ((lookUp env "ST2_ALIAS_PATH").getD defaultAliasPath).toList) url) ∧
    (∃ url, Url.parse config.executionUrl = .ok url ∧ Url.Extends config.apiUrl
      (rooted ((lookUp env "ST2_EXECUTION_PATH").getD defaultExecutionPath).toList) url) ∧
    ∃ url, Url.parse config.tokensUrl = .ok url ∧
      Url.Extends config.authUrl "/tokens".toList url := by
  have hread := read_eq_ok_iff.mp h
  have hbase := isNormal_of_url hread.apiUrl hapi
  refine ⟨?_, ?_, ?_⟩
  · rw [aliasUrl, hread.aliasPath]
    exact exists_extends_path hbase halias
  · rw [executionUrl, hread.executionPath]
    exact exists_extends_path hbase hexecution
  · exact Url.exists_extends (isNormal_of_authUrlOf hbase hread.authUrl hauth)
      (List.all_eq_true.mp (by decide)) (by decide)

/-- The path of the base comes first, and the slash at its end is dropped. -/
theorem endpoints_extend_api :
    read (only "ST2_API" "https://st2.example.com/api/") = .ok (configAt ["api".toList, []] none) ∧
      ∃ url, Url.parse (configAt ["api".toList, []] none).aliasUrl = .ok url ∧
        url.path.text = "/api/exp/actionalias".toList := by
  have hread : read (only "ST2_API" "https://st2.example.com/api/") =
      .ok (configAt ["api".toList, []] none) :=
    read_configAt (isNormal_apiAt (by decide) (List.forall_mem_cons.mpr ⟨isSegment_api,
      List.forall_mem_singleton.mpr Url.isSegment_nil⟩) nofun) (by decide) (by decide)
  have hlookUp (name : String) (hname : name ≠ "ST2_API") :
      lookUp (only "ST2_API" "https://st2.example.com/api/") name = none :=
    lookUp_only_of_ne _ hname
  obtain ⟨⟨url, hparse, hextends⟩, -⟩ := endpoints_extend hread (by decide) (by decide)
    (by rw [hlookUp _ (by decide)]; exact List.all_eq_true.mp (by decide))
    (by rw [hlookUp _ (by decide)]; exact List.all_eq_true.mp (by decide))
  refine ⟨hread, url, hparse, hextends.pathText.trans ?_⟩
  rw [hlookUp _ (by decide)]
  decide

/-- Where a query stands, it takes the path in: the endpoint is the URL itself. -/
theorem endpoint_within_query :
    read (only "ST2_API" "https://st2.example.com/api?tenant=a") =
        .ok (configAt ["api".toList] (some "tenant=a".toList)) ∧
      Url.parse (configAt ["api".toList] (some "tenant=a".toList)).aliasUrl =
        .ok (apiAt ["api".toList] (some "tenant=a/exp/actionalias".toList)) ∧
      (apiAt ["api".toList] (some "tenant=a/exp/actionalias".toList)).path.text ≠
        Url.trimSlashes (apiAt ["api".toList] (some "tenant=a".toList)).path.text ++
          "/exp/actionalias".toList := by
  have hnormal : (apiAt ["api".toList] (some "tenant=a".toList)).IsNormal :=
    isNormal_apiAt (by decide) (List.forall_mem_singleton.mpr isSegment_api)
      (by rintro _ ⟨⟩; exact List.all_eq_true.mp (by decide))
  refine ⟨read_configAt hnormal (by decide) (by decide), ?_, by decide⟩
  exact Url.parse_join hnormal (List.all_eq_true.mp (by decide)) (by decide)

end Switchboard.Config
