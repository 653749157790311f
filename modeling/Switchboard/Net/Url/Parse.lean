import Switchboard.Net.Url

/-!
# Reading URLs

Reading is forgiving: control characters and spaces around the text and line ends and tabs in it are
dropped, a special scheme takes any number of slashes and backslashes before its host, and whatever a
part may not hold is encoded. Dot segments are resolved. There is no base, so that a text without a
scheme is refused.

Fragment and query are cut off first, as their marks occur in no other part. What then stands before
the first slash behind the host is split at the last at sign into user and host, and the host ends at
the first colon outside brackets.
-/

namespace Switchboard.Net.Url

/-- Why a text is no URL. -/
inductive Fault
  | noScheme
  | emptyHost
  | notDomain
  | badCharacter
  | badIpv4
  | badIpv6
  | badPort
  deriving DecidableEq, Repr

/-- The fault in words. -/
def Fault.message : Fault → String
  | noScheme => "relative URL without a base"
  | emptyHost => "empty host"
  | notDomain => "invalid international domain name"
  | badCharacter => "invalid domain character"
  | badIpv4 => "invalid IPv4 address"
  | badIpv6 => "invalid IPv6 address"
  | badPort => "invalid port number"

/-- The fault of a host as one of its URL. -/
def Fault.ofHost : Host.Fault → Fault
  | .empty => emptyHost
  | .notDomain => notDomain
  | .badCharacter => badCharacter
  | .badIpv4 => badIpv4
  | .badIpv6 => badIpv6

/-! ### The parts of a text -/

/-- Control characters and spaces, which are dropped at both ends. -/
def isPadding (c : Char) : Bool := c.toNat ≤ 0x20

/-- The text that counts. -/
def clean (cs : List Char) : List Char :=
  let trimmed := ((cs.dropWhile isPadding).reverse.dropWhile isPadding).reverse
  trimmed.filter fun c => c ≠ '\t' && c ≠ '\n' && c ≠ '\r'

/-- Cuts off what is behind the first occurrence of a mark. -/
def cut (mark : Char) (cs : List Char) : List Char × Option (List Char) :=
  match Text.Split.once [mark] cs with
  | some (front, back) => (front, some back)
  | none => (cs, none)

/-- Characters of schemes behind the first letter. -/
def isSchemeChar (c : Char) : Bool := c.isAlphanum || c = '+' || c = '-' || c = '.'

/-- The scheme, and what is behind its colon. -/
def scheme? (cs : List Char) : Option (List Char × List Char) := do
  let (scheme, rest) ← Text.Split.once [':'] cs
  guard ((scheme.head?.map Char.isAlpha).getD false && scheme.all isSchemeChar)
  return (scheme.map Char.toLower, rest)

/-- Whether a character separates segments. -/
def isSlash (special : Bool) (c : Char) : Bool := c = '/' || (special && c = '\\')

/-! ### Paths -/

/-- Segments that stand for their own directory. -/
def isSingleDot (segment : List Char) : Bool :=
  segment.map Char.toLower ∈ [['.'], ['%', '2', 'e']]

/-- Segments that stand for the directory above. -/
def isDoubleDot (segment : List Char) : Bool :=
  segment.map Char.toLower ∈
    [['.', '.'], ['%', '2', 'e', '.'], ['.', '%', '2', 'e'], ['%', '2', 'e', '%', '2', 'e']]

/-- Segments that name a drive: a letter and a colon, or a bar in place of the colon. -/
def isDrive : List Char → Bool
  | [c, d] => c.isAlpha && (d = ':' || d = '|')
  | _ => false

/-- Removes the last segment, but no drive. -/
def shorten (path : List (List Char)) : List (List Char) :=
  if (path.getLast?.map isDrive).getD false then path else path.dropLast

/-- A segment as it is kept. A drive at the beginning of a file path has a colon. -/
def segment (isFile : Bool) (path : List (List Char)) (text : List Char) : List Char :=
  if isFile && path.isEmpty && isDrive text then text.take 1 ++ [':'] else text

/-- Appends segments to a path, resolving dot segments. -/
def resolve (isFile : Bool) : (path texts : List (List Char)) → List (List Char)
  | path, [] => path
  | path, text :: rest =>
    if isDoubleDot text then
      if rest.isEmpty then shorten path ++ [[]] else resolve isFile (shorten path) rest
    else if isSingleDot text then
      if rest.isEmpty then path ++ [[]] else resolve isFile path rest
    else resolve isFile (path ++ [segment isFile path text]) rest

/-- The segments of a path, from behind its first slash. -/
def segmentsOf (scheme : List Char) (cs : List Char) : List (List Char) :=
  let special := Scheme.isSpecial scheme
  let texts := Text.Split.all '/' (cs.map fun c => if isSlash special c then '/' else c)
  resolve (scheme = Scheme.file) [] (texts.map (Percent.encode Percent.inPath))

/-- The path behind an authority. -/
def pathOf (scheme : List Char) (cs : List Char) : Path :=
  let special := Scheme.isSpecial scheme
  match cs with
  | [] => rootPath scheme
  | c :: rest =>
    .segments (if isSlash special c then segmentsOf scheme rest else segmentsOf scheme (c :: rest))

/-! ### Authorities -/

/-- Splits at the last at sign. -/
def splitUser (cs : List Char) : Option (List Char × List Char) :=
  (Text.Split.once ['@'] cs.reverse).map fun (back, front) => (front.reverse, back.reverse)

/-- The user name and the password that a text gives. -/
def userOf (cs : List Char) : List Char × List Char :=
  let (name, password) := cut ':' cs
  (Percent.encode Percent.inUserInfo name,
    Percent.encode Percent.inUserInfo (password.getD []))

/-- Splits at the first colon outside brackets; the colon stays with the port. -/
def splitPort : (inBrackets : Bool) → List Char → List Char × List Char
  | _, [] => ([], [])
  | inBrackets, c :: rest =>
    if c = ':' && !inBrackets then ([], c :: rest)
    else
      let (host, port) := splitPort (c = '[' || (inBrackets && c ≠ ']')) rest
      (c :: host, port)

/-- The port that a text gives behind a colon, and what is left of it from a backslash on. -/
def portOf (scheme : List Char) (cs : List Char) : Except Fault (Option Nat × List Char) :=
  let digits := cs.takeWhile Char.isDigit
  let left := cs.dropWhile Char.isDigit
  if !left.isEmpty && left.head? ≠ some '\\' then .error .badPort
  else if digits.isEmpty then .ok (none, left)
  else if 65535 < Text.Whole.decimal digits then .error .badPort
  else .ok (Scheme.normalPort scheme (Text.Whole.decimal digits), left)

/-- The host that a text gives. Only schemes that are not special may do without. -/
def hostOf (scheme : List Char) (cs : List Char) (hasPort : Bool) : Except Fault Host := do
  let special := Scheme.isSpecial scheme
  if cs.isEmpty && (special || hasPort) then .error .emptyHost
  else if special then (Host.parse cs).mapError Fault.ofHost
  else (Host.parseVerbatim cs).mapError Fault.ofHost

/-- The authority that a text gives, and what is left of the text; `more` tells whether anything
stands behind the text. -/
def authorityOf (scheme : List Char) (cs : List Char) (more : Bool) :
    Except Fault (Authority × List Char) := do
  let (user, place) := (splitUser cs).getD ([], cs)
  if user.isEmpty && (splitUser cs).isSome && place.isEmpty && more then .error .emptyHost
  else
    let (username, password) := userOf user
    let (name, port) := splitPort false place
    let host ← hostOf scheme name (!port.isEmpty)
    let (port, left) ← match port with
      | [] => Except.ok (none, [])
      | _ :: digits => portOf scheme digits
    let authority : Authority := { username, password, host, port }
    if host = Host.none && !authority.userInfo.isEmpty then .error .emptyHost
    else return (authority, left)

/-- The authority and the path behind a double slash. -/
def behindSlashes (scheme : List Char) (cs : List Char) (marks : Bool) :
    Except Fault (Authority × Path) := do
  let isEnd := isSlash (Scheme.isSpecial scheme)
  let path := cs.dropWhile fun c => !isEnd c
  let (authority, left) ←
    authorityOf scheme (cs.takeWhile fun c => !isEnd c) (!path.isEmpty || marks)
  return (authority, pathOf scheme (left ++ path))

/-! ### Files -/

/-- The path of a file: empty segments at its beginning are dropped. -/
def filePath (segments : List (List Char)) : Path :=
  let rec dropEmpty : List (List Char) → List (List Char)
    | [] :: segment :: rest => dropEmpty (segment :: rest)
    | segments => segments
  .segments (dropEmpty segments)

/-- The name of the own machine, which a file URL leaves out. -/
def localName : List Char := "localhost".toList

/-- The authority and the path of a file. A host before a drive is dropped. -/
def fileOf (cs : List Char) : Except Fault (Authority × Path) := do
  let isEnd := isSlash true
  let segments := segmentsOf Scheme.file
  match cs with
  | a :: b :: rest =>
    if isEnd a && isEnd b then
      let name := rest.takeWhile fun c => !isEnd c
      if isDrive name then return ({ host := Host.none }, filePath (segments rest))
      else
        let found ← if name.isEmpty then .ok Host.none else (Host.parse name).mapError Fault.ofHost
        let path := segments ((rest.dropWhile fun c => !isEnd c).drop 1)
        let dropped := found = .domain localName || (path.head?.map isDrive).getD false
        return ({ host := if dropped then Host.none else found }, filePath path)
    else if isEnd a then return ({ host := Host.none }, filePath (segments (b :: rest)))
    else return ({ host := Host.none }, filePath (segments cs))
  | [a] =>
    return ({ host := Host.none }, filePath (segments (if isEnd a then [] else [a])))
  | [] => return ({ host := Host.none }, filePath (segments []))

/-! ### URLs -/

/-- The authority and the path behind a scheme. -/
def behindScheme (scheme : List Char) (cs : List Char) (marks : Bool) :
    Except Fault (Option Authority × Path) := do
  if scheme = Scheme.file then
    let (authority, path) ← fileOf cs
    return (some authority, path)
  else if Scheme.isSpecial scheme then
    let (authority, path) ← behindSlashes scheme (cs.dropWhile (isSlash true)) marks
    return (some authority, path)
  else
    match cs with
    | '/' :: '/' :: rest =>
      let (authority, path) ← behindSlashes scheme rest marks
      return (some authority, path)
    | '/' :: rest => return (none, .segments (segmentsOf scheme rest))
    | _ => return (none, .rootless (Percent.encode Percent.isControl cs))

/-- Reads a URL. -/
def parseChars (cs : List Char) : Except Fault Url := do
  let (front, fragment) := cut '#' (clean cs)
  let (front, query) := cut '?' front
  match scheme? front with
  | none => .error .noScheme
  | some (scheme, rest) =>
    let (authority, path) ← behindScheme scheme rest (query.isSome || fragment.isSome)
    return {
      scheme, authority, path
      query := query.map (Percent.encode (Percent.inQuery (Scheme.isSpecial scheme)))
      fragment := fragment.map (Percent.encode Percent.inFragment) }

/-- Reads a URL. -/
def parse (s : String) : Except Fault Url := parseChars s.toList

end Switchboard.Net.Url
