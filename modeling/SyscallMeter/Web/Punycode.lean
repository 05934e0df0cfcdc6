/-! Labels of host names in ASCII: the characters beyond ASCII are left out and described behind a
hyphen, each by its distance from the one before in the order of values and positions. -/
namespace SyscallMeter.Web.Punycode

/-- The digit of a number below 36. -/
def digit (n : Nat) : Char := if n < 26 then Char.ofNat (97 + n) else Char.ofNat (22 + n)

def digitValue? (c : Char) : Option Nat :=
  if 'a' ≤ c ∧ c ≤ 'z' then some (c.toNat - 97)
  else if 'A' ≤ c ∧ c ≤ 'Z' then some (c.toNat - 65)
  else if '0' ≤ c ∧ c ≤ '9' then some (c.toNat - 22)
  else none

/-- Digits below the threshold of their place end a number. -/
def threshold (place bias : Nat) : Nat :=
  if place ≤ bias then 1 else if bias + 26 ≤ place then 26 else place - bias

theorem threshold_pos (place bias : Nat) : 0 < threshold place bias := by
  grind [threshold]

/-- Divides by 35 until the distance is small, and counts places for that. -/
def shrink (distance place : Nat) : Nat × Nat :=
  if 455 < distance then shrink (distance / 35) (place + 36) else (distance, place)
termination_by distance
decreasing_by exact Nat.div_lt_self (by omega) (by omega)

/-- The bias after a distance, when `count` characters are placed. -/
def adapt (distance count : Nat) (first : Bool) : Nat :=
  let damped := if first then distance / 700 else distance / 2
  let (small, place) := shrink (damped + damped / count) 0
  place + 36 * small / (small + 38)

/-- A distance as digits, from a place on. -/
def encodeNumber (bias place n : Nat) : List Char :=
  let t := threshold place bias
  if n < t then [digit n]
  else digit (t + (n - t) % (36 - t)) :: encodeNumber bias (place + 36) ((n - t) / (36 - t))
termination_by n
decreasing_by
  have := threshold_pos place bias
  exact Nat.lt_of_le_of_lt (Nat.div_le_self _ _) (by omega)

/-- How far encoding or decoding has come. -/
structure Progress where
  /-- Characters that are placed. -/
  count : Nat
  bias : Nat
  distance : Nat

/-- Passes one character of the label while those of one value are placed. -/
def encodeAt (basic value : Nat) (state : List Char × Progress) (c : Char) :
    List Char × Progress :=
  let (out, p) := state
  if c.toNat < value then (out, { p with distance := p.distance + 1 })
  else if c.toNat = value then
    (out ++ encodeNumber p.bias 36 p.distance,
      ⟨p.count + 1, adapt p.distance (p.count + 1) (p.count == basic), 0⟩)
  else (out, p)

/-- Places the characters of each value in turn; `from_` is the least value not yet done. -/
def encodeValues (label : List Char) (basic from_ : Nat) (state : List Char × Progress) :
    List Nat → List Char
  | [] => state.1
  | value :: rest =>
    let (out, p) := state
    let p := { p with distance := p.distance + (value - from_) * (p.count + 1) }
    let (out, p) := label.foldl (encodeAt basic value) (out, p)
    encodeValues label basic (value + 1) (out, { p with distance := p.distance + 1 }) rest

def encode (label : List Char) : List Char :=
  let basic := label.filter fun c => c.toNat < 0x80
  let values := ((label.map Char.toNat).filter (0x80 ≤ ·)).mergeSort.eraseReps
  let hyphen := if basic.isEmpty then [] else ['-']
  encodeValues label basic.length 0x80 (basic ++ hyphen, ⟨basic.length, 72, 0⟩) values

/-- A distance from digits: the number, and the digits behind it. -/
def decodeNumber? (bias place weight n : Nat) : List Char → Option (Nat × List Char)
  | [] => none
  | c :: rest => do
    let d ← digitValue? c
    let n := n + d * weight
    let t := threshold place bias
    if d < t then return (n, rest)
    else decodeNumber? bias (place + 36) (weight * (36 - t)) n rest

/-- Inserts the described characters; each takes a digit at least. -/
def decodeFrom? (first : Bool) (out : List Char) (bias position value : Nat) :
    (fuel : Nat) → List Char → Option (List Char)
  | _, [] => some out
  | 0, _ => none
  | fuel + 1, digits => do
    let (distance, rest) ← decodeNumber? bias 36 1 0 digits
    let count := out.length + 1
    let position := position + distance
    let value := value + position / count
    let place := position % count
    if h : value.isValidChar then
      let out := out.take place ++ [Char.ofNatAux value h] ++ out.drop place
      decodeFrom? false out (adapt distance count first) (place + 1) value fuel rest
    else none

/-- The text before and after the last hyphen; without one, all is behind it. -/
def splitAtHyphen (s : List Char) : List Char × List Char :=
  let back := s.reverse
  let tail := back.takeWhile (· ≠ '-')
  ((back.drop (tail.length + 1)).reverse, tail.reverse)

def decode? (s : List Char) : Option (List Char) :=
  let (basic, digits) := splitAtHyphen s
  decodeFrom? true basic 72 0 0x80 digits.length digits

end SyscallMeter.Web.Punycode
