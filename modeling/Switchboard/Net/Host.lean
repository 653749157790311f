import Switchboard.Net.Address
import Switchboard.Net.Idna
import Switchboard.Net.Percent

/-!
# Hosts in URLs

A host is a name or an address. In the special schemes a name is decoded, brought to its form in
ASCII (`Idna.toAscii?`) and held to the characters of domain names, and one that ends in a number must
be an address of version 4, whose parts may be written in base eight, ten or sixteen and may be fewer
than four. In other schemes a name stays as it is. An address of version 6 stands in brackets.
-/

namespace Switchboard.Net

/-- Hosts. -/
inductive Host
  | domain (name : List Char)
  | ipv4 (address : Ipv4)
  | ipv6 (address : Ipv6)
  deriving DecidableEq, Repr

namespace Host

/-- Why a text is no host. -/
inductive Fault
  | empty
  | notDomain
  | badCharacter
  | badIpv4
  | badIpv6
  deriving DecidableEq, Repr

/-- The host without a name. -/
def none : Host := domain []

/-- A host as it is written. -/
def text : Host → List Char
  | domain name => name
  | ipv4 address => address.text
  | ipv6 address => '[' :: address.text ++ [']']

/-! ### Addresses of version 4 -/

/-- The number that a part of an address writes. -/
def number? (cs : List Char) : Option Nat :=
  match cs with
  | [] => .none
  | '0' :: 'x' :: digits | '0' :: 'X' :: digits => Text.Hex.numberIn 16 digits
  | '0' :: d :: digits => Text.Hex.numberIn 8 (d :: digits)
  | _ => Text.Hex.numberIn 10 cs

/-- The parts between points; an empty part at the end does not count. -/
def parts (name : List Char) : List (List Char) :=
  let all := Text.Split.all '.' name
  if 1 < all.length ∧ all.getLast? = some [] then all.dropLast else all

/-- Whether a name ends in a number. -/
def endsInNumber (name : List Char) : Bool :=
  match (parts name).getLast? with
  | .none | some [] => false
  | some last => last.all Char.isDigit || (number? last).isSome

/-- The address of some numbers: the last one fills all the bytes that the others leave. -/
def ofNumbers (numbers : List Nat) : Except Fault Host :=
  let front := numbers.dropLast
  let last := numbers.getLastD 0
  if 4 < numbers.length ∨ front.any (255 < ·) ∨ Nat.pow 256 (4 - front.length) ≤ last then .error .badIpv4
  else
    let high := front.foldl (fun n b => 256 * n + b) 0
    .ok (.ipv4 ⟨.ofNat (high * Nat.pow 256 (4 - front.length) + last)⟩)

/-- The address that a name ending in a number is. -/
def ipv4Of (name : List Char) : Except Fault Host :=
  match (parts name).mapM number? with
  | some numbers => ofNumbers numbers
  | .none => .error .badIpv4

/-! ### Reading -/

/-- Characters that no domain name holds. -/
def isForbidden (c : Char) : Bool :=
  Percent.isControl c ||
    c ∈ [' ', '#', '/', ':', '<', '>', '?', '@', '[', '\\', ']', '^', '|', '%']

/-- The address in brackets, from behind the opening one. -/
def bracketed (cs : List Char) : Except Fault Host :=
  match cs.reverse with
  | ']' :: inner =>
    match Ipv6.parse? inner.reverse with
    | some address => .ok (.ipv6 address)
    | .none => .error .badIpv6
  | _ => .error .badIpv6

/-- The domain name that a text stands for. -/
def domain? (cs : List Char) : Option (List Char) := do
  let text ← Text.Utf8.decodeChars (Percent.decode (Text.Utf8.encodeChars cs))
  let name ← Idna.toAscii? text
  guard !name.any isForbidden
  return name

/-- Reads the host of a special scheme. -/
def parse (cs : List Char) : Except Fault Host :=
  match cs with
  | '[' :: rest => bracketed rest
  | _ =>
    match domain? cs with
    | .none => .error .notDomain
    | some [] => .error .empty
    | some name => if endsInNumber name then ipv4Of name else .ok (.domain name)

/-- Characters that no host holds. -/
def isForbiddenAnywhere (c : Char) : Bool :=
  c ∈ ['\x00', '\t', '\n', '\r', ' ', '#', '/', ':', '<', '>', '?', '@', '[', '\\', ']', '^', '|']

/-- Reads the host of a scheme that is not special. -/
def parseVerbatim (cs : List Char) : Except Fault Host :=
  match cs with
  | '[' :: rest => bracketed rest
  | _ =>
    if cs.any isForbiddenAnywhere then .error .badCharacter
    else .ok (.domain (Percent.encode Percent.isControl cs))

end Host

end Switchboard.Net
