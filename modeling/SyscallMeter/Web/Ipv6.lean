import SyscallMeter.Web.Ipv4

/-! Internet addresses of eight 16-bit pieces. -/
namespace SyscallMeter.Web.Ipv6

/-- A piece of one to four hexadecimal digits. -/
def piece? (s : List Char) : Option Nat :=
  if 1 ≤ s.length ∧ s.length ≤ 4 then Ipv4.digits? 16 s else none

/-- A decimal number below 256 without leading zeros. -/
def byte? (s : List Char) : Option Nat := do
  if s.isEmpty ∨ (s.length > 1 ∧ s.head? = some '0') then none
  let n ← Ipv4.digits? 10 s
  if n ≤ 255 then some n else none

/-- The last two pieces may be written as four bytes. -/
def tail? (s : List Char) : Option (List Nat) := do
  match ← (Text.splitOn '.' s).mapM byte? with
  | [a, b, c, d] => return [a * 256 + b, c * 256 + d]
  | _ => none

/-- Pieces with colons between them. -/
def pieces? : List (List Char) → Option (List Nat)
  | [] => some []
  | [last] => if last.contains '.' then tail? last else (piece? last).map fun n => [n]
  | s :: rest => do return (← piece? s) :: (← pieces? rest)

/-- The text before and after the first two colons in a row. -/
def splitAtGap? : List Char → Option (List Char × List Char)
  | ':' :: ':' :: rest => some ([], rest)
  | c :: rest => (splitAtGap? rest).map fun parts => (c :: parts.1, parts.2)
  | [] => none

def sidePieces? (s : List Char) : Option (List Nat) :=
  if s.isEmpty then some [] else pieces? (Text.splitOn ':' s)

/-- Eight pieces, or fewer with one gap of zeros. Before a gap no bytes are allowed. -/
def parse? (s : List Char) : Option (List Nat) := do
  match splitAtGap? s with
  | none =>
    let ps ← pieces? (Text.splitOn ':' s)
    if ps.length = 8 then some ps else none
  | some (before, after) =>
    if before.contains '.' then none
    let front ← sidePieces? before
    let back ← sidePieces? after
    if front.length + back.length ≤ 7 then
      some (front ++ List.replicate (8 - front.length - back.length) 0 ++ back)
    else none

/-- Number of zeros at the start. -/
def leadingZeros : List Nat → Nat
  | 0 :: rest => leadingZeros rest + 1
  | _ => 0

/-- Start and length of the first longest run of zeros, counting positions from `i`. -/
def longestZeros (i : Nat) : List Nat → Nat × Nat
  | [] => (i, 0)
  | n :: rest =>
    let here := leadingZeros (n :: rest)
    let later := longestZeros (i + 1) rest
    if later.2 > here then later else (i, here)

def joinPieces (ps : List Nat) : List Char :=
  ((ps.map (Nat.toDigits 16)).intersperse [':']).flatten

/-- The first longest run of at least two zeros is left out. -/
def text (ps : List Nat) : List Char :=
  let (start, length) := longestZeros 0 ps
  if length < 2 then joinPieces ps
  else joinPieces (ps.take start) ++ [':', ':'] ++ joinPieces (ps.drop (start + length))

end SyscallMeter.Web.Ipv6
