import Switchboard.Net.Host

/-!
# URLs

A URL has a scheme, an optional authority with a host, a path, and an optional query and fragment.
All parts are kept encoded, as they are written. The schemes `http`, `https`, `ws`, `wss`, `ftp` and
`file` are special: their paths have at least one segment, and all but the last have a default port,
which is never written.

A path is a list of segments, or text without segments when no slash follows the scheme.
-/

namespace Switchboard.Net

/-- Who and where. -/
structure Authority where
  username : List Char := []
  password : List Char := []
  host : Host
  port : Option Nat := none
  deriving DecidableEq, Repr

/-- Paths. -/
inductive Path
  /-- Text behind the scheme that has no segments. -/
  | rootless (text : List Char)
  | segments (list : List (List Char))
  deriving DecidableEq, Repr

/-- URLs. -/
structure Url where
  scheme : List Char
  authority : Option Authority
  path : Path
  query : Option (List Char) := none
  fragment : Option (List Char) := none
  deriving DecidableEq, Repr

/-! ### Schemes -/

namespace Scheme

/-- The scheme of files. -/
def file : List Char := ['f', 'i', 'l', 'e']

/-- The special schemes with their default ports. -/
def special : List (List Char × Option Nat) :=
  [(['h', 't', 't', 'p'], some 80), (['h', 't', 't', 'p', 's'], some 443),
    (['w', 's'], some 80), (['w', 's', 's'], some 443), (['f', 't', 'p'], some 21), (file, none)]

/-- Whether a scheme is special. -/
def isSpecial (scheme : List Char) : Bool := special.any fun entry => entry.1 == scheme

/-- The default port of a scheme. -/
def defaultPort (scheme : List Char) : Option Nat :=
  (special.find? fun entry => entry.1 == scheme).bind Prod.snd

/-- A port as it is kept: the default port of the scheme is left out. -/
def normalPort (scheme : List Char) (port : Nat) : Option Nat :=
  if defaultPort scheme = some port then none else some port

end Scheme

/-! ### Text -/

/-- The user name and the password, with the sign behind them. -/
def Authority.userInfo (authority : Authority) : List Char :=
  if authority.username.isEmpty && authority.password.isEmpty then []
  else if authority.password.isEmpty then authority.username ++ ['@']
  else authority.username ++ ':' :: authority.password ++ ['@']

/-- An authority as it is written behind the double slash. -/
def Authority.text (authority : Authority) : List Char :=
  authority.userInfo ++ authority.host.text ++
    match authority.port with
    | some port => ':' :: Nat.toDigits 10 port
    | none => []

/-- A path as it is written. -/
def Path.text : Path → List Char
  | rootless text => text
  | segments list => list.flatMap fun segment => '/' :: segment

namespace Url

/-- What keeps a path that begins with two slashes from being read as an authority. -/
def guardText (url : Url) : List Char :=
  match url.authority, url.path with
  | none, .segments ([] :: _ :: _) => ['/', '.']
  | _, _ => []

/-- The characters of a URL. -/
def chars (url : Url) : List Char :=
  url.scheme ++ ':' ::
    ((match url.authority with
      | some authority => '/' :: '/' :: authority.text
      | none => []) ++
    url.guardText ++ url.path.text ++
    (match url.query with
      | some query => '?' :: query
      | none => []) ++
    (match url.fragment with
      | some fragment => '#' :: fragment
      | none => []))

/-- A URL as it is written. -/
def text (url : Url) : String := String.ofList url.chars

/-- The path without segments: special schemes keep a slash. -/
def rootPath (scheme : List Char) : Path :=
  .segments (if Scheme.isSpecial scheme then [[]] else [])

/-- The same host and user at another port, without path, query and fragment; nothing for a URL that
names no host. -/
def atPort? (url : Url) (port : Nat) : Option Url := do
  let authority ← url.authority
  guard (authority.host ≠ Host.none && url.scheme ≠ Scheme.file)
  return {
    scheme := url.scheme
    authority := some { authority with port := Scheme.normalPort url.scheme port }
    path := rootPath url.scheme }

/-- A path put behind a URL, whose own slashes at the end are dropped. -/
def join (base : Url) (path : String) : String :=
  String.ofList ((base.chars.reverse.dropWhile (· = '/')).reverse ++ path.toList)

end Url

end Switchboard.Net
