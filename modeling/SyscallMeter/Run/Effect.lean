import SyscallMeter.Gateway
import SyscallMeter.Kernel.Refusals
import SyscallMeter.Machine.Files

/-! What a run does that others can see. -/
namespace SyscallMeter

/-- How much a notice matters. -/
inductive NoticeLevel
  | info
  | warn
  | error
  deriving DecidableEq, Repr

inductive Effect
  /-- A line on the standard output. -/
  | print (line : String)
  /-- Text on the error output. -/
  | tell (text : String)
  | notice (level : NoticeLevel) (text : String)
  | request (r : Kernel.LoaderRequest)
  /-- A report file. -/
  | save (place : FilePlace) (text : String)
  | push (p : Push) (answer : GatewayAnswer)

namespace Effect

/-- Whether an effect outlasts the run: a report file or a push. -/
def isLasting : Effect → Bool
  | save _ _ => true
  | push _ _ => true
  | _ => false

/-- All that is printed. -/
def output (effects : List Effect) : String :=
  String.join (effects.map fun
    | print line => line ++ "\n"
    | _ => "")

/-- All that is told on the error output. -/
def errorOutput (effects : List Effect) : String :=
  String.join (effects.map fun
    | tell text => text
    | _ => "")

end Effect

end SyscallMeter
