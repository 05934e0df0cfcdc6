import SyscallMeter.Handler
import SyscallMeter.Kernel.Probe
import SyscallMeter.Kernel.Refusals
import SyscallMeter.Run.Effect

/-! Short texts for what a probe, its handler or a run asks of its surroundings. An exclamation mark
stands behind what was not granted. -/
namespace SyscallMeter

def grantMark (granted : Bool) : String := if granted then "" else "!"

def Access.text : Access → String
  | .argument slot _ => s!"arg:{slot}"
  | .memory address length readable => s!"read:{address.toNat}+{length}{grantMark readable}"

def Step.text : Step → String
  | .reserve op granted => s!"reserve:{op.name}{grantMark granted}"
  | .access a => a.text
  | .write record => s!"write:{record.hex}"
  | .commit => "commit"
  | .discard => "discard"

def NoticeLevel.name : NoticeLevel → String
  | info => "INFO"
  | warn => "WARN"
  | error => "ERROR"

namespace Kernel

def Request.text : Request → String
  | .argument offset granted => s!"ctx:{offset}{grantMark granted}"
  | .memory address length granted => s!"read:{address.toNat}+{length}{grantMark granted}"
  | .reserve length granted => s!"reserve:{length}{grantMark granted}"
  | .submit record => s!"submit:{record.hex}"
  | .discard => "discard"
  | .totals slot granted => s!"counter:{slot}{grantMark granted}"
  | .stat slot granted => s!"stat:{slot}{grantMark granted}"

def LoaderRequest.text : LoaderRequest → String
  | .setGlobal name bytes => s!"global {name}={bytes.hex} true"
  | .setSize map size => s!"max_entries {map}={size.toNat}"
  | .verifierLog => "verifier_log VERBOSE|STATS"
  | .loadObject path => s!"load {path}"
  | .loadProgram name => s!"program {name}"
  | .attach program tracepoint => s!"attach {program} syscalls/{tracepoint}"
  | .startLogger => "logger"

end Kernel

end SyscallMeter
