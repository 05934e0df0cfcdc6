import SyscallMeter.Text.Digit

/-! Properties of characters as tables: runs of characters that share a value, in order. Tables are
written as hexadecimal numbers between blanks, each run by its distance from the one before. -/
namespace SyscallMeter.Text

/-- Characters from `first` up to before `stop`, and what they share. -/
structure CharRun (α : Type) where
  first : Nat
  stop : Nat
  value : α

abbrev CharTable (α : Type) := Array (CharRun α)

namespace CharTable

variable {α : Type}

/-- The run that holds a character, sought from `low` up to before `high` by halving. -/
def findFrom? (table : CharTable α) (n low high : Nat) : Option (CharRun α) :=
  if low < high then
    let middle := (low + high) / 2
    match table[middle]? with
    | none => none
    | some run =>
      if n < run.first then findFrom? table n low middle
      else if run.stop ≤ n then findFrom? table n (middle + 1) high
      else some run
  else none
termination_by high - low

def find? (table : CharTable α) (c : Char) : Option (CharRun α) :=
  findFrom? table c.toNat 0 table.size

def get? (table : CharTable α) (c : Char) : Option α := (table.find? c).map (·.value)

def contains (table : CharTable α) (c : Char) : Bool := (table.find? c).isSome

end CharTable

/-- The hexadecimal numbers of a text, the last one first; `current` is the one being read. -/
def readNumbers (back : List Nat) (current : Option Nat) : List Char → List Nat
  | [] => current.toList ++ back
  | c :: rest =>
    match hexValue? c with
    | some d => readNumbers back (some (current.getD 0 * 16 + d)) rest
    | none => readNumbers (current.toList ++ back) none rest

def numbers (text : String) : List Nat := (readNumbers [] none text.toList).reverse

/-- Runs without a value, each as its distance and its length. -/
def rangesFrom (last : Nat) : List Nat → List (CharRun Unit)
  | distance :: length :: rest =>
    let first := last + distance
    ⟨first, first + length, ()⟩ :: rangesFrom (first + length) rest
  | _ => []

def CharTable.ranges (text : String) : CharTable Unit := (rangesFrom 0 (numbers text)).toArray

/-- Runs with a number, each as its distance, its length and the number. -/
def classesFrom (last : Nat) : List Nat → List (CharRun Nat)
  | distance :: length :: value :: rest =>
    let first := last + distance
    ⟨first, first + length, value⟩ :: classesFrom (first + length) rest
  | _ => []

def CharTable.classes (text : String) : CharTable Nat := (classesFrom 0 (numbers text)).toArray

end SyscallMeter.Text
