import SyscallMeter.Text.Blank
import SyscallMeter.Text.Search

/-! Labels that a user gives to a run, written `key:value`. -/
namespace SyscallMeter

structure Label where
  key : String
  value : String
  deriving DecidableEq, Repr

namespace Label

/-- Key and value are trimmed, and neither may be blank. The value may hold colons. -/
def parse? (text : String) : Option Label := do
  let (key, value) ← Text.splitFirst? ':' text.toList
  let key := Text.trim key
  let value := Text.trim value
  if key.isEmpty ∨ value.isEmpty then none else some ⟨String.ofList key, String.ofList value⟩

end Label

end SyscallMeter
