import SyscallMeter.KeyMap
import SyscallMeter.Number.Numeral
import SyscallMeter.Text.Quoted
import SyscallMeter.Web.Address
import SyscallMeter.Web.Base64

/-! The address under which a gateway keeps the metrics of a run: one group per set of labels. -/
namespace SyscallMeter

inductive GatewayError
  | invalidAddress (gateway : String) (reason : Web.AddressError)
  | invalidLabel (key : String)
  deriving DecidableEq, Repr

def GatewayError.message : GatewayError → String
  | invalidAddress gateway reason => s!"Invalid push gateway URL {gateway}: {reason.message}"
  | invalidLabel key =>
    s!"Label {Text.quoted key} cannot be pushed: not a Prometheus label name, or reserved"

namespace Gateway

/-- A letter or underscore, then letters, digits and underscores, but not two underscores first. -/
def isLabelName (name : List Char) : Bool :=
  match name with
  | [] => false
  | first :: rest =>
    (first.isAlpha || first == '_') && rest.all (fun c => c.isAlphanum || c == '_')
      && ! ("__".toList).isPrefixOf name

/-- Labels that the pushed metrics have already. -/
def isReserved (name : String) : Bool := name == "job" || name == "kind"

/-- The two segments of a label. A value that is empty or holds a slash is encoded. -/
def labelSegments (key value : String) : List String :=
  if value.toList.contains '/' ∨ value.isEmpty then
    [key ++ "@base64", String.ofList (Web.base64 value.toUTF8.toList)]
  else [key, value]

/-- The segments behind the gateway's own path. -/
def groupSegments (labels : KeyMap String) : List String :=
  ["metrics", "job", "iotap"] ++ labels.entries.flatMap fun e => labelSegments e.1 e.2

def groupAddress (gateway : String) (labels : KeyMap String) :
    Except GatewayError Web.Address :=
  match Web.Address.parse gateway with
  | .error reason => .error (.invalidAddress gateway reason)
  | .ok address =>
    match labels.keys.find? fun key => ! isLabelName key.toList || isReserved key with
    | some key => .error (.invalidLabel key)
    | none => .ok ((groupSegments labels).foldl Web.Address.push address.popIfEmpty)

end Gateway

/-- Metrics on their way to a gateway, where they replace those of their group. -/
structure Push where
  address : Web.Address
  body : String

namespace Push

def requestLine (p : Push) : String := s!"PUT {String.ofList p.address.target} HTTP/1.1"

/-- The text format of metrics and its version. -/
def contentType : String := "text/plain; version=0.0.4"

end Push

inductive GatewayAnswer
  /-- Nobody answers there. -/
  | unreachable
  | status (code : Nat) (reason : String)
  deriving DecidableEq, Repr

namespace GatewayAnswer

/-- The answer with a status line, or with the part of it behind the version. -/
def ofStatusLine (line : List Char) : GatewayAnswer :=
  let line := if "HTTP/".toList.isPrefixOf line then (line.dropWhile (· ≠ ' ')).drop 1 else line
  let code := line.takeWhile (· ≠ ' ')
  .status ((Numeral.natural? 1000 code).getD 0) (String.ofList (line.drop (code.length + 1)))

/-- What went wrong with a push. Answers that are no errors are taken for success. -/
def error? (p : Push) : GatewayAnswer → Option String
  | unreachable => some s!"error sending request for url ({p.address.publicText})"
  | status code reason =>
    if 400 ≤ code ∧ code < 500 then
      some s!"HTTP status client error ({code} {reason}) for url ({p.address.publicText})"
    else if 500 ≤ code ∧ code < 600 then
      some s!"HTTP status server error ({code} {reason}) for url ({p.address.publicText})"
    else none

end GatewayAnswer

end SyscallMeter
