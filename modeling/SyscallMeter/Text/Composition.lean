import SyscallMeter.Text.Composition.Table

/-! Composed text: a character and the marks behind it are written as one character where there is
one, and the marks that remain stand in the order of their classes. -/
namespace SyscallMeter.Text

/-- The class of a mark, by which marks are ordered; other characters have class zero. -/
def combiningClass (c : Char) : Nat := (combiningClasses.get? c).getD 0

/-- The syllables of the Korean script are composed by arithmetic: 19 leading parts, 21 vowels and
27 trailing parts, of which a syllable needs none. -/
def firstSyllable : Nat := 0xAC00

def syllableParts? (c : Char) : Option (Char × Char) :=
  let n := c.toNat - firstSyllable
  if c.toNat < firstSyllable ∨ 19 * 21 * 28 ≤ n then none
  else if n % 28 = 0 then
    some (Char.ofNat (0x1100 + n / (21 * 28)), Char.ofNat (0x1161 + n / 28 % 21))
  else some (Char.ofNat (c.toNat - n % 28), Char.ofNat (0x11A7 + n % 28))

/-- The syllable of a leading part and a vowel, or of a syllable and a trailing part. -/
def syllable? (a b : Char) : Option Char :=
  let lead := a.toNat - 0x1100
  let vowel := b.toNat - 0x1161
  let open_ := a.toNat - firstSyllable
  let trail := b.toNat - 0x11A7
  if 0x1100 ≤ a.toNat ∧ lead < 19 ∧ 0x1161 ≤ b.toNat ∧ vowel < 21 then
    some (Char.ofNat (firstSyllable + (lead * 21 + vowel) * 28))
  else if firstSyllable ≤ a.toNat ∧ open_ < 19 * 21 * 28 ∧ open_ % 28 = 0 ∧
      0x11A8 ≤ b.toNat ∧ trail < 28 then
    some (Char.ofNat (a.toNat + trail))
  else none

/-- The two characters that a character is composed of. -/
def parts? (c : Char) : Option (Char × Char) := (composites.get? c).or (syllableParts? c)

/-- The character that two characters compose. -/
def composed? (a b : Char) : Option Char :=
  match Array.find? (fun run => run.value = (a, b)) composites with
  | some run => some (Char.ofNat run.first)
  | none => syllable? a b

/-- A character taken apart, `depth` times at most. -/
def takenApart : (depth : Nat) → Char → List Char
  | 0, c => [c]
  | depth + 1, c =>
    match parts? c with
    | some (a, b) => takenApart depth a ++ [b]
    | none => [c]

/-- Adds a character to a text whose last character comes first. A mark passes the marks of higher
classes. -/
def placeMark (c : Char) : List Char → List Char
  | [] => [c]
  | m :: rest =>
    if 0 < combiningClass c ∧ combiningClass c < combiningClass m then m :: placeMark c rest
    else c :: m :: rest

/-- The text with marks in order and every character taken apart; no character has more than four
parts. -/
def decomposed (s : List Char) : List Char :=
  ((s.flatMap (takenApart 3)).foldl (fun back c => placeMark c back) []).reverse

/-- A text that is being composed, last characters first. -/
structure Composing where
  done : List Char
  /-- The character that the next ones may join. -/
  base : Option Char
  /-- What stands behind the base and did not join it. -/
  marks : List Char

namespace Composing

def back (s : Composing) : List Char := s.marks ++ s.base.toList ++ s.done

/-- Whether a character reaches the base past the marks that did not join. -/
def reaches (s : Composing) (c : Char) : Bool :=
  match s.marks with
  | [] => true
  | m :: _ => combiningClass m < combiningClass c

def push (s : Composing) (c : Char) : Composing :=
  match s.base.bind fun a => if s.reaches c then composed? a c else none with
  | some whole => { s with base := some whole }
  | none =>
    if combiningClass c = 0 then ⟨s.back, some c, []⟩ else { s with marks := c :: s.marks }

end Composing

/-- The composed form of a text. -/
def composed (s : List Char) : List Char :=
  ((decomposed s).foldl Composing.push ⟨[], none, []⟩).back.reverse

end SyscallMeter.Text
