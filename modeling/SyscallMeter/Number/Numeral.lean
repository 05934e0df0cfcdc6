import SyscallMeter.Text.Digit

/-! Reading whole numbers in decimal. A plus sign may stand in front. -/
namespace SyscallMeter

namespace Numeral

/-- One digit at least, and nothing else. -/
def digits? (s : List Char) : Option Nat :=
  match Text.spanDigits s with
  | ([], _) => none
  | (_, _ :: _) => none
  | (ds, []) => some (ds.foldl (fun n d => 10 * n + d) 0)

/-- A natural number below a bound. -/
def natural? (bound : Nat) (s : List Char) : Option Nat :=
  (digits? (if s.head? = some '+' then s.tail else s)).filter (· < bound)

/-- An integer from `-bound` up to before `bound`. -/
def integer? (bound : Nat) (s : List Char) : Option Int :=
  match s with
  | '-' :: rest => ((digits? rest).filter (· ≤ bound)).map fun n => -(n : Int)
  | s => (natural? bound s).map fun n => (n : Int)

end Numeral

end SyscallMeter
