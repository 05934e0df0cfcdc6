import SyscallMeter.Number.Binary64
import SyscallMeter.Text.Digit

/-! Reading JSON from front to back. The first problem in the text decides the error: the text
ends too early, it is no JSON, or it is JSON of another type than is wanted.

There are three ways to read a value: as a value of a wanted type, as any value, and as a value
that is skipped. Skipping is the most lenient: it allows any depth of nesting, and escapes and
numbers that stand for nothing. -/
namespace SyscallMeter.Json

inductive ReadError
  /-- JSON so far, but not what was wanted. -/
  | mismatch
  /-- Not JSON. -/
  | malformed
  /-- Only the start of a JSON text. -/
  | truncated
  deriving DecidableEq, Repr

/-- A step of reading: it takes the text that is left. -/
abbrev Reading := StateT (List Char) (Except ReadError)

def fail {α : Type} (e : ReadError) : Reading α := throw e

def isSpace (c : Char) : Bool := c == ' ' || c == '\n' || c == '\t' || c == '\r'

/-- The next character that is no white space. -/
def peek : Reading (Option Char) := do
  modify (List.dropWhile isSpace)
  return (← get).head?

def advance : Reading Unit := modify List.tail

/-- The rest of a word such as `null`. -/
def keyword : List Char → Reading Unit
  | [] => pure ()
  | expected :: more => do
    match (← get).head? with
    | none => fail .truncated
    | some c =>
      if c = expected then do
        advance
        keyword more
      else fail .malformed

/-! ### Strings -/

/-- Four hexadecimal digits. If fewer than four bytes are left, the text ends too early. -/
def hexEscape (text : List Char) : Except ReadError (Nat × List Char) :=
  match text with
  | a :: b :: c :: d :: rest =>
    match [a, b, c, d].mapM Text.hexValue? with
    | some digits => .ok (digits.foldl (fun n digit => 16 * n + digit) 0, rest)
    | none => .error .malformed
  | short => if 4 ≤ (String.ofList short).utf8ByteSize then .error .malformed else .error .truncated

def isLeadingSurrogate (n : Nat) : Bool := 0xD800 ≤ n && n ≤ 0xDBFF

def isTrailingSurrogate (n : Nat) : Bool := 0xDC00 ≤ n && n ≤ 0xDFFF

/-- The second half of a character that is written as two surrogates. -/
def trailingSurrogate (text : List Char) : Except ReadError (Nat × List Char) :=
  match text with
  | [] => .error .truncated
  | ['\\'] => .error .truncated
  | '\\' :: 'u' :: rest => do
    let (n, rest) ← hexEscape rest
    if isTrailingSurrogate n then .ok (n, rest) else .error .malformed
  | _ => .error .malformed

/-- The character of an escape, after its backslash. -/
def unescape (text : List Char) : Except ReadError (Char × List Char) :=
  match text with
  | [] => .error .truncated
  | '"' :: rest => .ok ('"', rest)
  | '\\' :: rest => .ok ('\\', rest)
  | '/' :: rest => .ok ('/', rest)
  | 'b' :: rest => .ok ('\x08', rest)
  | 'f' :: rest => .ok ('\x0c', rest)
  | 'n' :: rest => .ok ('\n', rest)
  | 'r' :: rest => .ok ('\r', rest)
  | 't' :: rest => .ok ('\t', rest)
  | 'u' :: rest => do
    let (n, rest) ← hexEscape rest
    if isTrailingSurrogate n then .error .malformed
    else if isLeadingSurrogate n then do
      let (m, rest) ← trailingSurrogate rest
      .ok (Char.ofNat ((n - 0xD800) * 0x400 + (m - 0xDC00) + 0x10000), rest)
    else .ok (Char.ofNat n, rest)
  | _ => .error .malformed

/-- Checks an escape that is skipped. -/
def skipEscape (text : List Char) : Except ReadError (Char × List Char) :=
  match text with
  | 'u' :: rest => do
    let (_, rest) ← hexEscape rest
    .ok (' ', rest)
  | other => unescape other

/-- The characters up to the closing quote. Each step takes a character, so the length of the
text is fuel enough. -/
def stringFrom (escape : List Char → Except ReadError (Char × List Char)) :
    (fuel : Nat) → List Char → Except ReadError (List Char × List Char)
  | 0, _ => .error .truncated
  | _ + 1, [] => .error .truncated
  | fuel + 1, c :: rest =>
    if c = '"' then .ok ([], rest)
    else if c = '\\' then do
      let (c, rest) ← escape rest
      let (more, rest) ← stringFrom escape fuel rest
      .ok (c :: more, rest)
    else if c.toNat < 0x20 then .error .malformed
    else do
      let (more, rest) ← stringFrom escape fuel rest
      .ok (c :: more, rest)

/-- A string from its opening quote on. -/
def stringWith (escape : List Char → Except ReadError (Char × List Char)) : Reading String := do
  advance
  let text ← get
  let (s, rest) ← (stringFrom escape (text.length + 1) text : Except _ _)
  set rest
  return String.ofList s

def string : Reading String := stringWith unescape

def skipString : Reading Unit := discard (stringWith skipEscape)

/-! ### Numbers -/

/-- A number as it was written: a natural number of 64 bits, or any other. -/
inductive Numeral
  | natural (n : Nat)
  | real (x : Binary64)

/-- Reads digits into a number as long as it fits 64 bits, and counts the digits that are left. -/
def accumulate (n : Nat) : List Nat → Nat × Nat
  | [] => (n, 0)
  | d :: ds => if n * 10 + d < UInt64.size then accumulate (n * 10 + d) ds else (n, ds.length + 1)

/-- Divides by a power of ten, in steps that are powers themselves. -/
def scaleDown (x : Magnitude) (k : Nat) : Magnitude :=
  if k ≤ 308 then x.div (Magnitude.ofNat (Nat.pow 10 k))
  else if x.isZero then x
  else scaleDown (x.div (Magnitude.ofNat (Nat.pow 10 308))) (k - 308)
termination_by k

/-- `n * 10 ^ exponent`, if that is finite. `n` and the power of ten are rounded on their own. -/
def scale? (n : Nat) (exponent : Int) : Option Magnitude :=
  let x := Magnitude.ofNat n
  if exponent < 0 then some (scaleDown x exponent.natAbs)
  else if exponent ≤ 308 then
    let y := x.mul (Magnitude.ofNat (Nat.pow 10 exponent.toNat))
    if y.isFinite then some y else none
  else if x.isZero then some x
  else none

/-- One digit at least. -/
def someDigits : Reading (List Nat) := do
  let (ds, rest) := Text.spanDigits (← get)
  if ds.isEmpty then
    if rest.isEmpty then fail .truncated else fail .malformed
  else do
    set rest
    return ds

/-- The exponent after its mark. -/
def exponentPart : Reading Int := do
  let sign := (← get).head?
  if sign = some '+' ∨ sign = some '-' then advance
  let ds ← someDigits
  let n : Nat := ds.foldl (fun n d => 10 * n + d) 0
  return if sign = some '-' then -n else n

def isExponentMark (c : Option Char) : Bool := c == some 'e' || c == some 'E'

/-- The integer digits. A zero stands alone. -/
def integerPart : Reading (List Nat) := do
  let ds ← someDigits
  match ds with
  | 0 :: _ :: _ => fail .malformed
  | ds => return ds

/-- Whether a minus sign stands in front. -/
def signPart : Reading Bool := do
  if (← get).head? = some '-' then do
    advance
    return true
  else return false

/-- The digits with those of a fraction, the power of ten for them, and whether there was neither a
fraction nor a digit too many. -/
def fractionPart (n dropped : Nat) : Reading (Nat × Int × Bool) := do
  if (← get).head? = some '.' then do
    advance
    let fraction ← someDigits
    let (m, unread) := accumulate n fraction
    return (m, (dropped : Int) - (fraction.length - unread : Nat), false)
  else return (n, dropped, dropped == 0)

/-- The power of ten with that of an exponent, and whether the number is still a plain one. -/
def scientificPart (exponent : Int) (plain : Bool) : Reading (Int × Bool) := do
  if isExponentMark (← get).head? then do
    advance
    return (exponent + (← exponentPart), false)
  else return (exponent, plain)

/-- What the parts come to. -/
def numeral (negative : Bool) (digits : Nat) (exponent : Int) (plain : Bool) : Reading Numeral :=
  if plain && ! negative then return .natural digits
  else match scale? digits exponent with
    | some x => return .real ⟨negative, x⟩
    | none => fail .malformed

/-- A number, part by part. -/
def number : Reading Numeral := do
  let negative ← signPart
  let (n, dropped) := accumulate 0 (← integerPart)
  let (digits, exponent, plain) ← fractionPart n dropped
  let (exponent, plain) ← scientificPart exponent plain
  numeral negative digits exponent plain

/-- Digits that are skipped: without one, the text is no JSON even where it ends. -/
def skipDigits : Reading Unit := do
  let (ds, rest) := Text.spanDigits (← get)
  if ds.isEmpty then fail .malformed else set rest

def skipNumber : Reading Unit := do
  if (← get).head? = some '-' then advance
  let (ds, rest) := Text.spanDigits (← get)
  match ds with
  | [] => fail .malformed
  | 0 :: _ :: _ => fail .malformed
  | _ => set rest
  if (← get).head? = some '.' then
    advance
    skipDigits
  if isExponentMark (← get).head? then
    advance
    if (← get).head? = some '+' ∨ (← get).head? = some '-' then advance
    skipDigits

/-! ### Arrays and objects -/

/-- The elements of an array up to its closing bracket. Each takes a character. -/
def elementsFrom {α : Type} (element : Reading α) :
    (fuel : Nat) → (first : Bool) → Reading (List α)
  | 0, _ => fail .truncated
  | fuel + 1, first => do
    match ← peek with
    | none => fail .truncated
    | some ']' => do
      advance
      return []
    | some c => do
      unless first do
        unless c = ',' do fail .malformed
        advance
        match ← peek with
        | none => fail .truncated
        | some ']' => fail .malformed
        | some _ => pure ()
      let a ← element
      return a :: (← elementsFrom element fuel false)

/-- The elements of an array after its opening bracket. -/
def elements {α : Type} (element : Reading α) : Reading (List α) := do
  elementsFrom element ((← get).length + 1) true

/-- The members of an object up to its closing brace. `member` goes on after a key, before the
colon. -/
def membersFrom {κ σ : Type} (key : Reading κ) (member : κ → σ → Reading σ) :
    (fuel : Nat) → (first : Bool) → σ → Reading σ
  | 0, _, _ => fail .truncated
  | fuel + 1, first, state => do
    match ← peek with
    | none => fail .truncated
    | some '\x7d' => do
      advance
      return state
    | some c => do
      unless first do
        unless c = ',' do fail .malformed
        advance
      match ← peek with
      | none => fail .truncated
      | some '"' => pure ()
      | some _ => fail .malformed
      let k ← key
      membersFrom key member fuel false (← member k state)

/-- The members of an object after its opening brace. -/
def members {κ σ : Type} (key : Reading κ) (member : κ → σ → Reading σ) (initial : σ) :
    Reading σ := do
  membersFrom key member ((← get).length + 1) true initial

def colon : Reading Unit := do
  match ← peek with
  | none => fail .truncated
  | some ':' => advance
  | some _ => fail .malformed

/-! ### Values -/

/-- The rest of a word for no value, truth or falsehood, if the letter starts one. -/
def keywordRest? : Char → Option (List Char)
  | 'n' => some ['u', 'l', 'l']
  | 't' => some ['r', 'u', 'e']
  | 'f' => some ['a', 'l', 's', 'e']
  | _ => none

def startsNumber (c : Char) : Bool := c == '-' || c.isDigit

/-- A value that is not of the wanted type. A text, a number or a word is read before that counts,
an array or object is not. -/
def wrongType {α : Type} : Reading α := do
  match ← peek with
  | none => fail .truncated
  | some c =>
    if c = '[' ∨ c = '\x7b' then fail .mismatch
    else if c = '"' then do
      discard string
      fail .mismatch
    else if startsNumber c then do
      discard number
      fail .mismatch
    else match keywordRest? c with
      | some rest => do
        advance
        keyword rest
        fail .mismatch
      | none => fail .malformed

/-- A text. -/
def expectString : Reading String := do
  if (← peek) = some '"' then string else wrongType

/-- A number of any kind. -/
def expectNumber : Reading Numeral := do
  match ← peek with
  | some c => if startsNumber c then number else wrongType
  | none => fail .truncated

/-- A natural number below a bound. -/
def expectNatural (bound : Nat) : Reading Nat := do
  match ← expectNumber with
  | .natural n => if n < bound then return n else fail .mismatch
  | .real _ => fail .mismatch

def expectReal : Reading Binary64 := do
  match ← expectNumber with
  | .natural n => return ⟨false, Magnitude.ofNat n⟩
  | .real x => return x

def expectArray {α : Type} (element : Reading α) : Reading (List α) := do
  if (← peek) = some '[' then do
    advance
    elements element
  else wrongType

def expectObject {σ : Type} (member : String → σ → Reading σ) (initial : σ) : Reading σ := do
  if (← peek) = some '\x7b' then do
    advance
    members string member initial
  else wrongType

/-- A scalar, or what `nested` reads from an opening bracket or brace on. Of a value only this is
kept: the natural number that it is, if any. -/
def scalarOr (nested : Char → Reading Unit) : Reading (Option Nat) := do
  match ← peek with
  | none => fail .truncated
  | some c =>
    if c = '[' ∨ c = '\x7b' then do
      nested c
      return none
    else if c = '"' then do
      discard string
      return none
    else if startsNumber c then
      match ← number with
      | .natural n => return some n
      | .real _ => return none
    else match keywordRest? c with
      | some rest => do
        advance
        keyword rest
        return none
      | none => fail .malformed

/-- Any value with at most `depth` arrays and objects inside each other. -/
def value : (depth : Nat) → Reading (Option Nat)
  | 0 => scalarOr fun _ => fail .malformed
  | depth + 1 => scalarOr fun c => do
    advance
    if c = '[' then discard (elements (value depth))
    else members string (fun _ _ => do
      colon
      discard (value depth)) ()

/-- Passes a value. Each level of nesting takes a character. -/
def skipFrom : (fuel : Nat) → Reading Unit
  | 0 => fail .truncated
  | fuel + 1 => do
    match ← peek with
    | none => fail .truncated
    | some c =>
      if c = '[' then do
        advance
        discard (elements (skipFrom fuel))
      else if c = '\x7b' then do
        advance
        members skipString (fun _ _ => do
          colon
          skipFrom fuel) ()
      else if c = '"' then skipString
      else if startsNumber c then skipNumber
      else match keywordRest? c with
        | some rest => do
          advance
          keyword rest
        | none => fail .malformed

def skip : Reading Unit := do skipFrom ((← get).length + 1)

/-- Reads a whole text: after the value there is only white space. -/
def readAll {α : Type} (r : Reading α) (text : String) : Except ReadError α := do
  let (a, rest) ← r.run text.toList
  if (rest.dropWhile isSpace).isEmpty then .ok a else .error .malformed

end SyscallMeter.Json
