import Switchboard.Unicode.Property

/-!
# Quoted texts in messages

A message quotes a value between double quotes, so that its ends and its invisible characters can
be seen: quotes, backslashes and line ends are escaped by a backslash, and any other character that
is not printable, or that would attach itself to the one before it, by its code point.
-/

namespace Switchboard.Text.Quoted

/-- The digits of a number in base sixteen. -/
def hexDigits (n : Nat) : List Char := Nat.toDigits 16 n

/-- One character between quotes. -/
def escape (c : Char) : List Char :=
  match c with
  | '\x00' => ['\\', '0']
  | '\t' => ['\\', 't']
  | '\n' => ['\\', 'n']
  | '\r' => ['\\', 'r']
  | '"' => ['\\', '"']
  | '\\' => ['\\', '\\']
  | _ =>
    if c.toNat < 0x7F && 0x20 ≤ c.toNat then [c]
    else if Unicode.Property.isPrintable c && !Unicode.Property.isGraphemeExtend c then [c]
    else ['\\', 'u', '\x7b'] ++ hexDigits c.toNat ++ ['\x7d']

/-- A text between quotes. -/
def quote (s : String) : String :=
  String.ofList ('"' :: s.toList.flatMap escape ++ ['"'])

end Switchboard.Text.Quoted
