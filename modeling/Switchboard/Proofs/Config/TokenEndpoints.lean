import Switchboard.Proofs.Config.Endpoints

/-!
# The place where tokens are given out

Unless it is configured, the place for tokens is derived from the URL of the automation service: the
port is replaced, and the path, the query and the fragment are dropped. So nothing but the scheme, the
user and the host of that URL matters (`Url.atPort?_elsewhere`). What is derived ends with the slash of
its path, which is dropped again before a path is put behind.

## Main results

* `Net.Url.join_atPort?`: a path behind a URL at another port, as it is written.
* `tokensUrl_of_read`: where tokens are given out.
-/

namespace Switchboard.Net.Url

variable {url derived : Url} {port : Nat}

/-- A URL with another port, path, query and fragment. -/
def elsewhere (url : Url) (port : Option Nat) (path : Path) (query fragment : Option (List Char)) :
    Url :=
  { url with
    authority := url.authority.map fun authority => { authority with port }
    path, query, fragment }

/-- What a URL is at another port depends on its scheme, its user and its host. -/
theorem atPort?_elsewhere (url : Url) (known : Option Nat) (path : Path)
    (query fragment : Option (List Char)) (port : Nat) :
    (url.elsewhere known path query fragment).atPort? port = url.atPort? port := by
  unfold atPort? elsewhere
  cases url.authority <;> rfl

/-- **A path behind a URL at another port** is written behind the scheme, the user, the host and the
port. All that was left of the path of the URL is a slash, and it is dropped. -/
theorem join_atPort? {path : String} (h : url.IsNormal) (hport : url.atPort? port = some derived)
    (hrange : port ≤ 65535) (hkept : Scheme.normalPort url.scheme port = some port)
    (hhead : path.toList.head? = some '/') :
    ∃ authority, url.authority = some authority ∧ authority.IsNormal url.scheme ∧
      derived.join path = String.ofList (url.scheme ++ "://".toList ++ authority.userInfo ++
        authority.host.text ++ ':' :: Nat.toDigits 10 port ++ path.toList) := by
  have hderived := isNormal_of_atPort? h hport hrange
  have hextends := extends_extend hderived hhead
  obtain ⟨authority, hauthority, hnormal⟩ := h.authority
  obtain ⟨known, hknown, heq⟩ := atPort?_eq_some hport
  obtain rfl := Option.some.inj (hauthority.symm.trans hknown)
  have hplace : derived.authority = some { authority with port := some port } := by rw [heq, hkept]
  have hpath : derived.path.text = ['/'] := by
    rw [heq, rootPath, if_pos (isSpecial_of_mem_webSchemes h.scheme).1]
    rfl
  have hquery : derived.query = none := by rw [heq]
  have hfragment : derived.fragment = none := by rw [heq]
  have hbehind : (derived.extend path.toList).path.text = path.toList := by
    rw [hextends.pathText, if_pos ⟨hquery, hfragment⟩, hpath]
    rfl
  refine ⟨authority, hauthority, hnormal, String.toList_injective ?_⟩
  rw [toList_join hderived hhead, chars_eq (hextends.authority.trans hplace), hbehind,
    hextends.query, hextends.fragment, hextends.scheme, hquery, hfragment, heq,
    String.toList_ofList]
  simp [marked, Authority.text, Authority.userInfo]

end Switchboard.Net.Url

namespace Switchboard.Config

open Net (Url)

variable {env env' : Environment} {config config' : Config}

/-- If the place for tokens is not configured, it is derived. -/
theorem atPort?_of_read (h : read env = .ok config) (hunset : lookUp env "ST2_AUTH_URL" = none) :
    config.apiUrl.atPort? authPort = some config.authUrl := by
  have hauth := (read_eq_ok_iff.mp h).authUrl
  unfold authUrlOf at hauth
  rw [hunset] at hauth
  cases hport : config.apiUrl.atPort? authPort with
  | none =>
      rw [hport] at hauth
      exact nomatch hauth
  | some authUrl =>
      rw [hport] at hauth
      exact congrArg some (Except.ok.inj hauth)

/-- The port for tokens is written in any URL of the web. -/
theorem normalPort_authPort {scheme : List Char} (hweb : scheme ∈ Url.webSchemes) :
    Net.Scheme.normalPort scheme authPort = some authPort := by
  rw [Url.webSchemes, List.mem_cons, List.mem_singleton] at hweb
  rcases hweb with rfl | rfl <;> decide

/-- Where tokens are given out does not depend on the port, the path, the query and the fragment of the
automation service. -/
theorem tokensUrl_eq_of_elsewhere (h : read env = .ok config)
    (hunset : lookUp env "ST2_AUTH_URL" = none) (h' : read env' = .ok config')
    (hunset' : lookUp env' "ST2_AUTH_URL" = none) {port : Option Nat} {path : Net.Path}
    {query fragment : Option (List Char)}
    (helsewhere : config'.apiUrl = config.apiUrl.elsewhere port path query fragment) :
    config'.tokensUrl = config.tokensUrl := by
  have hport := atPort?_of_read h' hunset'
  rw [helsewhere, Url.atPort?_elsewhere, atPort?_of_read h hunset] at hport
  rw [tokensUrl, tokensUrl, Option.some.inj hport]

/-- **Tokens** are given out at the host of the automation service, which is written in its normal form,
and to the same user. -/
theorem tokensUrl_of_read (h : read env = .ok config) (hunset : lookUp env "ST2_AUTH_URL" = none)
    (hweb : config.apiUrl.scheme ∈ Url.webSchemes) :
    (∃ authority, config.apiUrl.authority = some authority ∧
      Net.Host.parse authority.host.text = .ok authority.host ∧
      config.tokensUrl = String.ofList (config.apiUrl.scheme ++ "://".toList ++ authority.userInfo ++
        authority.host.text ++ ":9100/tokens".toList)) ∧
    ∀ env' config' port path query fragment, read env' = .ok config' →
      lookUp env' "ST2_AUTH_URL" = none →
      config'.apiUrl = config.apiUrl.elsewhere port path query fragment →
      config'.tokensUrl = config.tokensUrl := by
  refine ⟨?_, fun _ _ _ _ _ _ h' hunset' => tokensUrl_eq_of_elsewhere h hunset h' hunset'⟩
  have hnormal := isNormal_of_url (read_eq_ok_iff.mp h).apiUrl hweb
  have hhead : "/tokens".toList.head? = some '/' := by decide
  obtain ⟨authority, hauthority, hknown, hjoin⟩ := Url.join_atPort? hnormal
    (atPort?_of_read h hunset) (by decide) (normalPort_authPort hweb) hhead
  refine ⟨authority, hauthority, Net.Host.parse_text hknown.host, hjoin.trans ?_⟩
  rw [List.append_assoc]
  rfl

/-- The configuration of a user at a host whose name is beyond ASCII. -/
def umlautAt (port : Option Nat) (path : List (List Char)) (query fragment : Option (List Char)) :
    Config where
  __ := unset
  apiUrl :=
    { scheme := "https".toList
      authority := some
        { username := "bot".toList, password := "pw".toList
          host := .domain "xn--bcher-kva.example".toList, port }
      path := .segments path
      query, fragment }
  authUrl :=
    { scheme := "https".toList
      authority := some
        { username := "bot".toList, password := "pw".toList
          host := .domain "xn--bcher-kva.example".toList, port := some authPort }
      path := .segments [[]] }

/-- The name is written in its normal form, which is ASCII, and what is written behind it is dropped. -/
theorem tokensUrl_umlaut :
    ∃ config config',
      read (only "ST2_API" "HTTPS://bot:pw@BÜCHER.example:8443/a/./b/?c#d") = .ok config ∧
      read (only "ST2_API" "https://bot:pw@xn--bcher-kva.example") = .ok config' ∧
      config.tokensUrl = "https://bot:pw@xn--bcher-kva.example:9100/tokens" ∧
      config'.tokensUrl = config.tokensUrl := by
  have hread : read (only "ST2_API" "HTTPS://bot:pw@BÜCHER.example:8443/a/./b/?c#d") =
      .ok (umlautAt (some 8443) [['a'], ['b'], []] (some ['c']) (some ['d'])) := by
    decide +kernel
  have hread' : read (only "ST2_API" "https://bot:pw@xn--bcher-kva.example") =
      .ok (umlautAt none [[]] none none) := by
    decide +kernel
  have hunset (value : String) : lookUp (only "ST2_API" value) "ST2_AUTH_URL" = none :=
    lookUp_only_of_ne value (by decide)
  obtain ⟨⟨authority, hauthority, -, htokens⟩, hsame⟩ :=
    tokensUrl_of_read hread (hunset _) (by decide)
  obtain rfl := Option.some.inj hauthority
  exact ⟨_, _, hread, hread', htokens.trans (by decide), hsame _ _ _ _ _ _ hread' (hunset _) rfl⟩

end Switchboard.Config
