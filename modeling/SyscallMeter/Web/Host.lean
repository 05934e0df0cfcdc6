import SyscallMeter.Web.HostLabel
import SyscallMeter.Web.HostMapping
import SyscallMeter.Web.Ipv6
import SyscallMeter.Web.Percent
import SyscallMeter.Web.Punycode

/-! Hosts in addresses: names, which are brought into lower-case ASCII, and internet addresses,
which are brought into their shortest form. -/
namespace SyscallMeter.Web

/-- What is wrong with an address. -/
inductive AddressError
  | noScheme
  | emptyHost
  | invalidPort
  | invalidName
  | invalidIpv4
  | invalidIpv6
  | invalidHostCharacter
  /-- An address, but not one of the web. -/
  | otherScheme
  deriving DecidableEq, Repr

def AddressError.message : AddressError → String
  | noScheme => "relative URL without a base"
  | emptyHost => "empty host"
  | invalidPort => "invalid port number"
  | invalidName => "invalid international domain name"
  | invalidIpv4 => "invalid IPv4 address"
  | invalidIpv6 => "invalid IPv6 address"
  | invalidHostCharacter => "invalid domain character"
  | otherScheme => "expected an http or https URL"

namespace Host

/-- ASCII characters that no name holds. -/
def forbiddenInName (c : Char) : Bool := isControl c || " %#/:<>?@[\\]^|".toList.contains c

/-- Characters that no host of an address outside the web holds. -/
def forbiddenInOther (c : Char) : Bool :=
  c == '\x00' || "\t\n\r #/:<>?@[\\]^|".toList.contains c

def isAscii (s : List Char) : Bool := s.all fun c => c.toNat < 0x80

/-- One part of a name. -/
structure Label where
  /-- As it is read. -/
  shown : List Char
  /-- As it is written, in ASCII. -/
  written : List Char

def asciiMark : List Char := "xn--".toList

/-- A part that is given in ASCII. It has to stand for one that is not, and that is in the form
that is compared. -/
def Label.ofAscii? (label rest : List Char) : Option Label := do
  let shown ← Punycode.decode? rest
  if isAscii label ∧ ¬ isAscii shown ∧ Punycode.encode shown = rest ∧ mapHost? shown = some shown ∧
      ¬ asciiMark.isPrefixOf shown then some ⟨shown, label⟩ else none

def Label.ofText? (label : List Char) : Option Label :=
  if asciiMark.isPrefixOf label then Label.ofAscii? label (label.drop asciiMark.length)
  else some ⟨label, if isAscii label then label else asciiMark ++ Punycode.encode label⟩

/-- A name in lower-case ASCII. -/
def asciiName? (name : List Char) : Option (List Char) := do
  let mapped ← mapHost? name
  let labels ← (Text.splitOn '.' mapped).mapM Label.ofText?
  let rightward := labels.any fun label => HostLabel.isRightward label.shown
  let ascii := ((labels.map (·.written)).intersperse ['.']).flatten
  if labels.all (fun label => HostLabel.isValid rightward label.shown) ∧
      ¬ ascii.any forbiddenInName then some ascii else none

def bracketed (host : List Char) : Except AddressError (List Char) :=
  match host.getLast?, Ipv6.parse? ((host.drop 1).dropLast) with
  | some ']', some pieces => .ok ('[' :: Ipv6.text pieces ++ [']'])
  | _, _ => .error .invalidIpv6

/-- A host of the web in its written form. -/
def parse (host : List Char) : Except AddressError (List Char) :=
  if host.head? = some '[' then bracketed host
  else
    match (decodeUtf8? (percentDecode host)).bind asciiName? with
    | none => .error .invalidName
    | some name =>
      if name.isEmpty then .error .emptyHost
      else if Ipv4.isMeant name then
        match Ipv4.parse? name with
        | some address => .ok (Ipv4.text address)
        | none => .error .invalidIpv4
      else .ok name

/-- A host outside the web. Only its form is checked. -/
def check (host : List Char) : Except AddressError Unit :=
  if host.head? = some '[' then (bracketed host).map fun _ => ()
  else if host.any forbiddenInOther then .error .invalidHostCharacter
  else .ok ()

end Host

end SyscallMeter.Web
