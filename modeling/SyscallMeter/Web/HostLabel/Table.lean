import SyscallMeter.Text.Composition

/-! Marks, the joining of letters and the direction of writing. -/
namespace SyscallMeter.Web.HostLabel
open Text

/-- Marks, with or without a class. -/
def marks : CharTable Unit := .ranges
  "300 70 113 7 107 2D 1 1 1 2 1 2 1 1 48 B 30 15 10 1 65 7 2 6 2 2 1 4 23 1 1E 1B 5B B 3A 9 9 
    1 18 4 1 9 1 3 1 5 2B 3 3C 8 2A 18 1 21 36 3 1 12 1 7 A 2 1D 3 38 1 1 7 2 2 2 3 9 1 A 2 1A 
    1 2 3 38 1 1 5 4 2 2 3 3 1 1E 2 3 1 B 3 38 1 1 8 1 3 1 3 14 2 16 6 1 3 38 1 1 7 2 2 2 3 7 3 
    A 2 1E 1 3B 5 3 3 1 4 9 1 28 5 37 1 1 7 1 3 1 4 7 2 B 2 1D 3 38 1 1 7 1 3 1 4 7 2 B 2 F 1 C 
    4 37 2 1 7 1 3 1 4 9 1 A 2 1D 3 46 1 4 6 1 1 1 8 12 2 3D 1 2 7 C 8 62 1 2 9 B 7 49 2 1B 1 1 
    1 1 1 4 2 31 14 1 2 5 B 1 24 9 1 64 14 17 4 4 3 1 3 2 7 3 4 D C 1 1 A 4 2BF 3 3B2 4 1C 3 1D 
    2 1E 2 40 20 9 1 2D 3 1 1 75 2 22 1 76 C 4 C DB 5 39 A 1 1D 2 1 30 1F 31 5 2F 11 26 9 C 3 
    1E D 38 E 30 14 98 3 1 15 4 1 6 1 2 3 C6 40 2D0 21 BFE 3 8D 1 60 20 22A 6 69 2 75D4 4 1 A 
    20 2 50 2 110 1 3 1 4 1 17 5 4 1 53 2 32 12 1A 12 D 1 26 8 19 D 2C 4 2F E 24 1 43 E C 1 8 2 
    2D 3 32 1 1 3 2 2 5 2 1 1 29 5 5 2 EC 8 1 2 4F30 1 2E1 10 10 10 3CD 1 E2 1 95 5 686 3 1 2 5 
    4 28 3 4 1 A5 2 23D 4 183 2 50 3 46 B 31 4 7A 3 35 F 29 1 2 2 A 4 2D B 7 1 3D 3 24 E 10 2 
    2C 1 C 3 30 E 8 4 1 2 5C C 6 1 2 1 9D C 15 4 37 2 1 7 2 2 2 3 9 1 A 2 2 7 3 5 C0 12 17 1 51 
    14 EB 7 2 9 1B 2 52 11 6A D 65 F 100 F F5 6 1 2 2 4 1 1 1 2 8D 7 2 7 3 1 1C A 28 7 1 4 8 1 
    9 B 2E 10 195 8 1 8 52 16 1 E 7A 6 3 1 1 2 1 7 1 1 42 5 1 2 1 5 15B 4 9 2 1 1 30 7 3 5 14FD 
    1 6 F 369A 5 3B 7 418 1 1 37 7 4 51 1 B 2 4CAB 2 1261 2E 2 17 21E 5 3 6 8 8 2 7 1E 4 94 3 
    7BB 37 4 32 8 1 E 1 16 5 1 F 550 7 1 11 2 7 1 2 1 5 64 1 A0 7 177 1 3D 4 1FC 4 3E0 7 6D 7 
    C17B5 F0"

/-- On which sides a letter is joined to the next one. -/
inductive Joining
  /-- Joins nothing and is passed. -/
  | transparent
  | left
  | right
  | both
  deriving DecidableEq, Repr

def Joining.ofNumber : Nat → Joining
  | 1 => transparent
  | 2 => left
  | 3 => right
  | _ => both

/-- The letters that are joined. -/
def joinings : CharTable Joining := (CharTable.classes
    "AD 1 1 252 70 1 113 7 1 107 2D 1 1 1 1 1 2 1 1 2 1 1 1 1 48 B 1 1 1 1 3 1 4 1 4 3 0 1 4 0 1 
    3 0 1 4 0 1 3 0 5 4 0 4 3 0 D 4 1 7 4 0 1 3 0 2 4 0 15 1 E 2 4 0 1 1 0 3 3 1 3 3 0 10 4 0 
    12 3 0 26 4 0 1 3 0 2 4 0 9 3 0 1 4 0 1 3 0 1 4 0 1 3 0 2 4 0 2 3 1 1 3 0 7 1 2 6 1 2 2 1 1 
    4 1 0 2 3 A 3 4 2 1 4 F 1 1 0 1 3 0 1 1 0 3 4 0 5 3 0 4 4 0 1 3 0 9 4 0 1 3 0 1 4 0 1 3 0 1 
    4 0 1 3 0 2 4 0 1 3 0 1B 1 2 1 3 0 B 4 0 3 3 0 F 4 0 2 3 0 4 4 0 1 3 0 1 4 0 2 3 0 3 4 0 2 
    3 0 6 4 26 B 1 19 21 4 0 9 1 9 1 1 18 4 1 1 9 1 1 3 1 1 5 1 12 1 3 0 5 4 0 2 3 0 1 4 0 1 3 
    0 A 4 0 1 3 0 1 4 0 3 3 0 3 1 4 1 4 1 4 4 1 1 3 0 1 4 0 2 3 5 13 3 3 1 4 2 5 4 0 1 3 9 8 1 
    0 A 4 0 3 3 1 1 3 0 2 4 0 2 3 0 6 4 0 1 3 0 F 4 1 18 1 1 20 1 37 1 1 1 1 1 4 8 1 4 1 1 3 7 
    1 A 2 1 1D 1 1 3A 1 1 4 4 1 8 1 1 14 2 1 1A 1 1 2 2 1 39 1 1 4 2 1 4 2 1 2 3 1 3 1 1 1E 2 1 
    3 1 1 B 2 1 39 1 1 4 5 1 1 2 1 4 1 1 14 2 1 16 6 1 1 1 1 3A 1 1 2 1 1 1 4 1 8 1 1 7 2 1 B 2 
    1 1E 1 1 3D 1 1 C 1 1 32 1 1 3 1 1 37 1 1 1 3 1 5 3 1 1 4 1 7 2 1 B 2 1 1D 1 1 3A 1 1 2 1 1 
    6 1 1 5 2 1 14 2 1 1C 2 1 39 2 1 4 4 1 8 1 1 14 2 1 1D 1 1 48 1 1 7 3 1 1 1 1 5A 1 1 2 7 1 
    C 8 1 62 1 1 2 9 1 B 7 1 49 2 1 1B 1 1 1 1 1 1 1 1 37 E 1 1 5 1 1 2 1 5 B 1 1 24 1 9 1 1 66 
    4 1 1 6 1 1 2 1 2 2 1 19 2 1 4 3 1 10 4 1 D 1 1 2 2 1 6 1 1 F 1 1 2BF 3 1 3B2 3 1 1D 2 1 1E 
    2 1 1E 2 1 40 2 1 1 7 1 8 1 1 2 B 1 9 1 1 29 1 4 3 3 1 1 1 1 10 59 4 C 2 1 0 22 4 0 1 1 0 1 
    4 75 3 1 4 2 1 9 1 1 6 3 1 DB 2 1 2 1 1 3A 1 1 1 7 1 1 1 1 1 1 1 2 8 1 6 A 1 2 1 1 30 1F 1 
    31 4 1 30 1 1 1 5 1 1 1 1 5 1 1 28 9 1 C 2 1 20 4 1 2 2 1 1 3 1 38 1 1 1 2 1 3 1 1 1 3 1 3A 
    8 1 2 2 1 98 3 1 1 D 1 1 7 1 4 1 1 6 1 1 3 2 1 C6 40 1 20B 1 1 2 2 1 1A 5 1 31 5 1 5 6 1 60 
    21 1 BFE 3 1 8D 1 1 60 20 1 22A 4 1 6B 2 1 75D4 4 1 1 A 1 20 2 1 50 2 1 110 1 1 3 1 1 4 1 1 
    19 2 1 5 1 1 13 32 4 0 1 2 51 2 1 1A 12 1 D 1 1 26 8 1 19 B 1 2E 3 1 30 1 1 2 4 1 2 2 1 27 
    1 1 43 6 1 2 2 1 2 2 1 C 1 1 8 1 1 2F 1 1 33 1 1 1 3 1 2 2 1 5 2 1 1 1 1 2A 2 1 8 1 1 EE 1 
    1 2 1 1 4 1 1 4F30 1 1 2E1 10 1 10 10 1 CF 1 1 F9 3 1 201 1 1 E2 1 1 95 5 1 686 3 1 1 2 1 5 
    4 1 28 3 1 4 1 1 80 5 4 0 1 3 1 1 3 1 2 3 2 1 2 0 5 3 0 4 4 0 1 2 0 5 4 0 1 3 0 3 4 0 1 3 2 
    1 3 0 2 1 4 4 4 0 1 3 90 1 4 0 1 3 0 1 4 0 3 3 0 3 4 0 1 3 0 2 4 0 1 3 0 1 4 0 2 3 0 1 4 0 
    1 3 17 4 3 0 2 4 151 1 2 0 21 4 0 1 3 0 1 4 0 4 1 183 2 1 50 3 1 30 3 4 0 1 3 0 11 4 1 B 1 
    0 3 4 0 1 3 1B 4 4 0 2 3 0 C 4 0 4 1 2A 1 4 1 2 4 0 3 3 1 1 4 0 2 3 0 2 4 0 1 3 0 2 4 1 1 4 
    0 2 3 0 1 4 4 1 3 0 1 4 0 1 2 35 1 1 36 F 1 29 1 1 2 2 1 A 3 1 31 4 1 2 2 1 7 1 1 3D 3 1 24 
    5 1 1 8 1 3E 1 1 C 2 1 34 9 1 A 4 1 2 1 1 5F 3 1 2 1 1 1 2 1 6 1 1 2 1 1 9D 1 1 3 8 1 15 2 
    1 39 2 1 3 1 1 25 7 1 3 5 1 C3 8 1 2 3 1 1 1 1 17 1 1 54 6 1 1 1 1 4 2 1 1 2 1 EE 4 1 6 2 1 
    1 2 1 1B 2 1 55 8 1 2 1 1 1 2 1 6A 1 1 1 1 1 2 6 1 1 1 1 65 3 1 2 4 1 1 5 1 103 9 1 1 2 1 
    100 2 1 1 1 1 4 1 1 90 4 1 2 2 1 4 1 1 20 A 1 28 6 1 2 4 1 8 1 1 9 6 1 2 3 1 2E D 1 1 2 1 
    196 7 1 1 6 1 1 1 1 52 16 1 2 7 1 1 2 1 1 2 1 7A 6 1 3 1 1 1 2 1 1 7 1 1 1 1 48 2 1 3 1 1 1 
    1 1 15B 2 1 B 2 1 34 5 1 5 1 1 1 1 1 14ED 11 1 6 F 1 369A 5 1 3B 7 1 418 1 1 3F 4 1 51 1 1 
    4CB8 2 1 1 4 1 125C 2E 1 2 17 1 220 3 1 9 10 1 2 7 1 1E 4 1 94 3 1 7BB 37 1 4 32 1 8 1 1 E 
    1 1 16 5 1 1 F 1 550 7 1 1 11 1 2 7 1 1 2 1 1 5 1 64 1 1 A0 7 1 177 1 1 3D 4 1 1FC 4 1 3E0 
    7 1 29 44 4 0 8 1 C16B5 1 1 1E 60 1 80 F0 1").map
    fun run => ⟨run.first, run.stop, .ofNumber run.value⟩

/-- How a character takes part in the direction of writing. -/
inductive Direction
  | left
  | right
  | arabic
  | arabicNumber
  | europeanNumber
  | europeanSign
  | commonSign
  | europeanTerminator
  | neutral
  | boundary
  | mark
  | other
  deriving DecidableEq, Repr

def Direction.ofNumber : Nat → Direction
  | 1 => right
  | 2 => arabic
  | 3 => arabicNumber
  | 4 => europeanNumber
  | 5 => europeanSign
  | 6 => commonSign
  | 7 => europeanTerminator
  | 8 => neutral
  | 9 => boundary
  | 10 => mark
  | _ => other

/-- The characters that are not written from the left. -/
def directions : CharTable Direction := (CharTable.classes
    "0 9 9 0 5 B 0 E 9 0 5 B 0 2 8 0 3 7 0 5 8 0 1 5 0 1 6 0 1 5 0 2 6 0 A 4 0 1 6 0 6 8 1A 6 8 
    1A 4 8 0 6 9 0 1 B 0 1A 9 0 1 6 0 1 8 0 4 7 0 4 8 1 2 8 0 1 9 0 2 8 0 2 7 0 2 4 0 1 8 1 3 8 
    0 1 4 1 5 8 17 1 8 1F 1 8 1C1 2 8 7 E 8 2 E 8 5 9 8 1 11 8 0 70 A 4 2 8 8 1 8 5 2 8 1 1 8 
    6E 1 8 8C 7 A 100 1 8 2 2 8 0 1 7 0 1 1 0 2D A 0 1 1 0 1 A 0 1 1 0 2 A 0 1 1 0 2 A 0 1 1 0 
    1 A 0 38 1 0 6 3 0 2 8 0 1 2 0 2 7 0 1 2 0 1 6 0 1 2 0 2 8 0 B A 0 30 2 0 15 A 0 A 3 0 1 7 
    0 2 3 0 3 2 0 1 A 0 65 2 0 7 A 0 1 3 0 1 8 0 6 A 0 2 2 0 2 A 0 1 8 0 4 A 0 2 2 0 A 4 0 17 2 
    0 1 A 0 1E 2 0 1B A 0 5B 2 0 B A 0 F 2 0 2B 1 0 9 A 0 2 1 0 4 8 0 3 1 0 1 A 0 18 1 0 4 A 0 
    1 1 0 9 A 0 1 1 0 3 A 0 1 1 0 5 A 0 2B 1 0 3 A 0 4 1 0 30 2 0 2 3 0 6 2 0 8 A 0 2A 2 0 18 A 
    0 1 3 0 20 A 37 1 A 1 1 A 4 8 A 4 1 A 3 7 A A 2 A 1D 1 A 3A 1 A 4 4 A 8 1 A 14 2 A E 2 7 7 
    1 7 2 1 A 2 2 A 39 1 A 4 2 A 4 2 A 2 3 A 3 1 A 1E 2 A 3 1 A B 2 A 39 1 A 4 5 A 1 2 A 4 1 A 
    14 2 A D 1 7 8 6 A 1 1 A 3A 1 A 2 1 A 1 4 A 8 1 A 7 2 A B 2 A 1E 1 A 3D 1 A C 1 A 25 6 8 0 
    1 7 0 1 8 5 1 A 3 1 A 37 1 A 1 3 A 5 3 A 1 4 A 7 2 A B 2 A 14 7 8 2 1 A 3A 1 A F 2 A 14 2 A 
    1C 2 A 39 2 A 4 4 A 8 1 A 14 2 A 1D 1 A 48 1 A 7 3 A 1 1 A 5A 1 A 2 7 A 4 1 7 7 8 A 62 1 A 
    2 9 A B 7 A 49 2 A 1B 1 A 1 1 A 1 1 A 0 4 8 33 E A 1 5 A 1 2 A 5 B A 1 24 A 9 1 A 66 4 A 1 
    6 A 1 2 A 2 2 A 19 2 A 4 3 A 10 4 A D 1 A 2 2 A 6 1 A F 1 A 2BF 3 A 30 A 8 66 1 8 27F 1 B 
    1A 2 8 75 3 A 1D 2 A 1E 2 A 1E 2 A 40 2 A 1 7 A 8 1 A 2 B A 7 1 7 1 1 A 12 A 8 6 B 8 0 3 A 
    0 1 9 0 1 A 75 2 A 22 1 A 76 3 A 4 2 A 9 1 A 6 3 A 4 1 8 3 2 8 98 22 8 17 2 A 2 1 A 3A 1 A 
    1 7 A 1 1 A 1 1 A 2 8 A 6 A A 2 1 A 30 1F A 31 4 A 30 1 A 1 5 A 1 1 A 5 1 A 28 9 A C 2 A 20 
    4 A 2 2 A 1 3 A 38 1 A 1 2 A 3 1 A 1 3 A 3A 8 A 2 2 A 98 3 A 1 D A 1 7 A 4 1 A 6 1 A 3 2 A 
    C6 40 A 1BD 1 8 1 3 8 B 3 8 D 3 8 D 3 8 D 2 8 1 B B 0 3 9 1 1 1 0 18 8 0 7 B 0 1 6 0 5 7 0 
    F 8 0 1 6 0 1A 8 0 1 B 0 6 9 0 4 B 0 6 9 0 1 4 3 6 4 0 2 5 0 3 8 1 A 4 0 2 5 0 3 8 11 30 7 
    0 21 A F 2 8 1 4 8 1 2 8 A 1 8 1 3 8 5 6 8 1 1 8 1 1 8 1 1 8 4 1 7 B 2 8 4 5 8 5 4 8 2 10 8 
    29 3 8 4 82 8 0 1 5 0 1 7 0 122 8 45 1A 8 1 91 8 19 B 8 15 28 8 0 14 4 4E 1C2 8 1 153 8 100 
    274 8 2 20 8 1 69 8 E5 6 8 4 3 A 7 7 8 7F 1 A 60 20 A 0 5E 8 22 1A 8 1 59 8 C D6 8 1A C 8 4 
    1 B 0 4 8 3 19 8 9 4 A 2 1 8 5 2 8 5 3 8 59 2 A 0 2 8 3 1 8 5A 1 8 C4 24 8 39 2 8 31 10 8 
    1C 3 8 32 F 8 C 4 8 A7 4 8 63 2 8 1F 1 8 19C0 40 8 5690 37 8 146 3 8 5F 4 A 0 1 8 0 A A 0 2 
    8 1E 2 A 50 2 A E 22 8 66 1 8 79 1 A 3 1 A 4 1 A 19 2 A 1 4 8 0 1 A B 2 7 3A 4 8 4C 2 A 1A 
    12 A D 1 A 26 8 A 19 B A 2E 3 A 30 1 A 2 4 A 2 2 A 27 1 A 43 6 A 2 2 A 2 2 A C 1 A 8 1 A 2F 
    1 A 33 1 A 1 3 A 2 2 A 5 2 A 1 1 A 2A 2 A 8 1 A 73 2 8 79 1 A 2 1 A 4 1 A 4F2F 1 1 0 1 A 0 
    A 1 0 1 5 0 26 1 0 1EE 2 0 12 8 0 7F 2 0 1 8 0 20 9 0 D 2 0 3 8 0 10 A 0 A 8 6 10 A 0 20 8 
    0 1 6 0 1 8 0 1 6 1 1 8 0 1 6 0 9 8 0 1 7 0 2 8 0 2 5 0 3 8 1 1 8 0 2 7 0 1 8 4 8F 2 0 1 9 
    1 2 8 0 3 7 0 5 8 0 1 5 0 1 6 0 1 5 0 2 6 0 A 4 0 1 6 0 6 8 1A 6 8 1A B 8 7A 2 7 0 3 8 0 2 
    7 1 7 8 1 9 9 0 5 8 0 2 9 101 1 8 3E 4D 8 3 D 8 3 1 8 5C 1 A E2 1 A 0 1B 4 7A 5 A 485 11F 1 
    0 1 8 0 E1 1 0 3 A 0 1 1 0 2 A 0 5 1 0 4 A 0 28 1 0 3 A 0 4 1 0 1 A 0 A5 1 0 2 A 0 52 1 0 7 
    8 0 1C0 1 0 24 2 0 4 A 0 8 2 0 A 3 0 6 2 0 120 1 0 1F 3 0 2C 1 0 2 A 0 13 1 0 3D 2 0 3 A 0 
    30 1 0 16 2 0 B A 0 1F 2 0 12 1 0 4 A 0 7A 1 1 1 A 36 F A B 14 8 A 1 A 2 2 A A 3 A 31 4 A 2 
    2 A 7 1 A 3D 3 A 24 5 A 1 8 A 3E 1 A C 2 A 34 9 A A 4 A 2 1 A 5F 3 A 2 1 A 1 2 A 6 1 A 2 1 
    A 9D 1 A 3 8 A 15 2 A 39 2 A 3 1 A 25 7 A 3 5 A C3 8 A 2 3 A 1 1 A 17 1 A 54 6 A 1 1 A 4 2 
    A 1 2 A EE 4 A 6 2 A 1 2 A 1B 2 A 55 8 A 2 1 A 1 2 A 1F D 8 3E 1 A 1 1 A 2 6 A 1 1 A 65 3 A 
    2 4 A 1 5 A 103 9 A 1 2 A 100 2 A 1 1 A 4 1 A 90 4 A 2 2 A 4 1 A 20 6 A 2 2 A 28 6 A 2 4 A 
    8 1 A 9 6 A 2 3 A 2E D A 1 2 A 196 7 A 1 6 A 54 16 A 2 7 A 1 2 A 1 2 A 7A 6 A 3 1 A 1 2 A 1 
    7 A 1 1 A 48 2 A 3 1 A 1 1 A 15B 2 A B 2 A 34 5 A 5 1 A 1 1 A 92 8 8 0 4 7 0 11 8 144E 1 A 
    6 F A 369A 5 A 3B 7 A 418 1 A 3F 4 A 4F 1 8 1 1 A 4CB8 2 A 1 4 9 125C 2E A 2 17 A 220 3 A 9 
    8 9 0 8 A 2 7 A 1E 4 A 3B 2 8 15 42 8 0 3 A 0 1 8 BA 57 8 384 1 8 39 1 8 39 1 8 39 1 8 39 1 
    8 A 32 4 200 37 A 4 32 A 8 1 A E 1 A 16 5 A 1 F A 550 7 A 1 11 A 2 7 A 1 2 A 1 5 A 64 1 A 
    A0 7 A 177 1 A 3D 4 A F 1 7 1EC 4 A 310 D0 1 0 7 A 0 6D 1 0 7 A 0 325 1 0 50 2 0 40 1 0 50 
    2 0 B0 1 0 F0 2 0 2 8 0 E 2 0 100 1 0 2C 8 4 64 8 C F 8 2 F 8 1 F 8 1 25 8 A B 4 0 5 8 1F 1 
    8 3A 6 8 3D 1 8 B2 6 8 9A 3D8 8 4 11 8 3 D 8 3 77 8 4 5F 8 6 C 8 4 1 8 F C 8 4 38 8 8 A 8 6 
    28 8 8 1E 8 2 2 8 4E 154 8 C E 8 2 D 8 3 9 8 7 2E 8 1 7 8 8 E 8 4 9 8 7 9 8 7 93 8 1 37 8 
    25 A 4 404 2 9 FFFE 2 9 FFFE 2 9 FFFE 2 9 FFFE 2 9 FFFE 2 9 FFFE 2 9 FFFE 2 9 FFFE 2 9 FFFE 
    2 9 FFFE 2 9 FFFE 2 9 FFFE 102 9 0 F0 A 0 E10 9 EFFE 2 9 FFFE 2 9 FFFE 2 9").map
    fun run => ⟨run.first, run.stop, .ofNumber run.value⟩

end SyscallMeter.Web.HostLabel
