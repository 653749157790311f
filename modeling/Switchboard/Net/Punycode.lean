/-!
# Names beyond ASCII in letters, digits and hyphens

A label that is not all ASCII is written as its ASCII characters and, behind a hyphen, a row of digits
of base thirty-six. The digits write numbers, and each number tells which character comes in next and
at which index: it counts how many steps a cursor goes on, which walks through all places of the text
for one character, then through all of them for the next character, and so on. Characters come in by
ascending code, and those of one code from left to right.

Numbers are written with the lowest digit first. How many digits a number has is told by a threshold
at each place, and the thresholds follow a bias that adapts to the numbers written so far.
-/

namespace Switchboard.Net.Punycode

/-! ### Digits -/

/-- The digit for a number below thirty-six. -/
def digit (n : Nat) : Char := if n < 26 then Char.ofNat (0x61 + n) else Char.ofNat (0x30 + (n - 26))

/-- The number of a digit, whose case does not count. -/
def value? (c : Char) : Option Nat :=
  let n := c.toNat
  if 0x61 ≤ n ∧ n ≤ 0x7A then some (n - 0x61)
  else if 0x41 ≤ n ∧ n ≤ 0x5A then some (n - 0x41)
  else if 0x30 ≤ n ∧ n ≤ 0x39 then some (n - 0x30 + 26)
  else none

/-! ### Bias -/

/-- The base of digits, and the distance between places. -/
def base : Nat := 36

/-- The threshold at a place: a digit below it is the last one of its number. -/
def threshold (bias place : Nat) : Nat :=
  if place ≤ bias then 1 else if bias + 26 ≤ place then 26 else place - bias

/-- Thresholds lie between the least number and the base. -/
theorem threshold_bounds (bias place : Nat) : 0 < threshold bias place ∧ threshold bias place ≤ 26 := by
  unfold threshold
  split
  · decide
  · split <;> omega

/-- Divides until little is left, and counts the places. -/
def settle (delta places : Nat) : Nat :=
  if h : 455 < delta then settle (delta / 35) (places + base)
  else places + base * delta / (delta + 38)
termination_by delta
decreasing_by exact Nat.div_lt_self (Nat.zero_lt_of_lt h) (by decide)

/-- What the digits of the next number depend on. -/
structure Pace where
  bias : Nat := 72
  /-- How many characters the text has so far. -/
  count : Nat
  /-- Whether no number was written yet. -/
  first : Bool := true

/-- The pace behind a number. -/
def Pace.next (pace : Pace) (delta : Nat) : Pace :=
  let delta := if pace.first then delta / 700 else delta / 2
  ⟨settle (delta + delta / (pace.count + 1)) 0, pace.count + 1, false⟩

/-! ### Numbers -/

/-- Writes a number from a place on. -/
def writeNumber (bias place n : Nat) : List Char :=
  let least := threshold bias place
  if n < least then [digit n]
  else
    digit (least + (n - least) % (base - least)) ::
      writeNumber bias (place + base) ((n - least) / (base - least))
termination_by n
decreasing_by
  next hmore =>
    have hpos := (threshold_bounds bias place).1
    have hle : threshold bias place ≤ n := Nat.le_of_not_lt hmore
    exact Nat.lt_of_le_of_lt (Nat.div_le_self _ _) (Nat.sub_lt (Nat.lt_of_lt_of_le hpos hle) hpos)

/-- Writes numbers one after the other. -/
def writeNumbers (pace : Pace) : List Nat → List Char
  | [] => []
  | delta :: rest => writeNumber pace.bias base delta ++ writeNumbers (pace.next delta) rest

/-- Reads numbers, the first of them from a place on, where a digit has the given weight and the digits
before make up `sum`. -/
def readNumbers (pace : Pace) (place weight sum : Nat) : List Char → Option (List Nat)
  | [] => if place = base then some [] else none
  | c :: rest => do
    let n ← value? c
    let least := threshold pace.bias place
    let sum := sum + n * weight
    if n < least then return sum :: (← readNumbers (pace.next sum) base 1 0 rest)
    else readNumbers pace (place + base) (weight * (base - least)) sum rest

/-! ### The cursor -/

/-- The first code beyond ASCII. -/
def firstCode : Nat := 0x80

/-- How far the cursor goes from one character to the next. It stands at an index of a text of `count`
characters, for the characters of a code; each character comes in with its code and its index. -/
def steps (code index count : Nat) : List (Nat × Nat) → List Nat
  | [] => []
  | (code', index') :: rest =>
    ((code' - code) * (count + 1) + index' - index) :: steps code' (index' + 1) (count + 1) rest

/-- Lets the cursor go, and puts in a character wherever it stops. -/
def follow (code index : Nat) (text : List Char) : List Nat → Option (List Char)
  | [] => some text
  | delta :: rest =>
    let code' := code + (index + delta) / (text.length + 1)
    let index' := (index + delta) % (text.length + 1)
    if code'.isValidChar then
      follow code' (index' + 1) (text.insertIdx index' (Char.ofNat code')) rest
    else none

/-! ### Labels -/

/-- Whether a character is ASCII. -/
def isBasic (c : Char) : Bool := c.toNat < firstCode

/-- Puts a code into an ascending list, unless it is there already. -/
def insertCode (n : Nat) : List Nat → List Nat
  | [] => [n]
  | m :: rest =>
    if n < m then n :: m :: rest else if n = m then m :: rest else m :: insertCode n rest

/-- The codes beyond ASCII in a label, in ascending order. -/
def codes (label : List Char) : List Nat :=
  ((label.filter fun c => !isBasic c).map Char.toNat).foldr insertCode []

/-- The indices of the characters with a code, counted from `index` on. -/
def indicesOf (n index : Nat) : List Char → List Nat
  | [] => []
  | c :: rest =>
    if c.toNat = n then index :: indicesOf n (index + 1) rest else indicesOf n (index + 1) rest

/-- The characters of a label that come in, each with its index among the characters of no higher
code. -/
def entries (label : List Char) : List (Nat × Nat) :=
  (codes label).flatMap fun n =>
    (indicesOf n 0 (label.filter fun c => c.toNat ≤ n)).map fun index => (n, index)

/-- Writes a label. -/
def encode (label : List Char) : List Char :=
  let basic := label.filter isBasic
  let digits := writeNumbers { count := basic.length } (steps firstCode 0 basic.length (entries label))
  if basic.isEmpty then digits else basic ++ '-' :: digits

/-- The ASCII characters before the last hyphen, and the digits behind it. Where nothing stands before
the hyphen, it is none that parts them. -/
def parts (cs : List Char) : List Char × List Char :=
  match cs.reverse.dropWhile (· ≠ '-') with
  | _ :: c :: front => ((c :: front).reverse, (cs.reverse.takeWhile (· ≠ '-')).reverse)
  | _ => ([], cs)

/-- Reads a label. -/
def decode? (cs : List Char) : Option (List Char) := do
  let (basic, digits) := parts cs
  guard (basic.all isBasic)
  follow firstCode 0 basic (← readNumbers { count := basic.length } base 1 0 digits)

end Switchboard.Net.Punycode
