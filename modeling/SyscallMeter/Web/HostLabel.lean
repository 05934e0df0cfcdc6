import SyscallMeter.Web.HostLabel.Table

/-! Which labels a host name may have: none starts with a mark, joiners stand only where they join,
and the direction of writing is the same throughout. -/
namespace SyscallMeter.Web.HostLabel

def startsWithMark (label : List Char) : Bool := label.head?.any marks.contains

/-- Whether the next character that shows joins on the wanted side; characters that do not show
are passed. -/
def meetsJoining (wanted : Joining) : List Char → Bool
  | [] => false
  | c :: rest =>
    match joinings.get? c with
    | none => false
    | some joining =>
      joining = wanted ∨ joining = .both ∨ joining = .transparent ∧ meetsJoining wanted rest

def nonJoiner : Char := Char.ofNat 0x200C

def joiner : Char := Char.ofNat 0x200D

/-- Whether a joiner may stand between `before`, last character first, and `behind`. -/
def mayJoin (c : Char) (before behind : List Char) : Bool :=
  match before with
  | [] => false
  | previous :: _ =>
    Text.combiningClass previous = 9 ∨
      c = nonJoiner ∧ meetsJoining .left before ∧ meetsJoining .right behind

def joinersFit (before : List Char) : List Char → Bool
  | [] => true
  | c :: rest =>
    ((c ≠ nonJoiner ∧ c ≠ joiner) ∨ mayJoin c before rest) && joinersFit (c :: before) rest

def direction (c : Char) : Direction := (directions.get? c).getD .left

/-- Whether a name has a character that is written from the right. -/
def isRightward (name : List Char) : Bool :=
  name.any fun c => direction c ∈ [.right, .arabic, .arabicNumber]

/-- What stands in labels of both directions. -/
def common : List Direction :=
  [.europeanNumber, .europeanSign, .commonSign, .europeanTerminator, .neutral, .boundary, .mark]

/-- Labels beside others that are written from the right keep to the direction of their first
character. Marks at the end do not count. -/
def keepsDirection (label : List Char) : Bool :=
  match label.map direction with
  | [] => true
  | first :: rest =>
    let shown := rest.reverse.dropWhile (· = .mark)
    match first with
    | .left =>
      shown.head?.all (· ∈ [.left, .europeanNumber]) && shown.all (· ∈ .left :: common)
    | .right | .arabic =>
      shown.head?.all (· ∈ [.right, .arabic, .europeanNumber, .arabicNumber]) &&
        shown.all (· ∈ [.right, .arabic, .arabicNumber] ++ common) &&
        !(shown.contains .europeanNumber && shown.contains .arabicNumber)
    | _ => false

/-- Whether a label may stand in a name; `rightward` says whether the name has characters that are
written from the right. -/
def isValid (rightward : Bool) (label : List Char) : Bool :=
  !startsWithMark label && joinersFit [] label && (!rightward || keepsDirection label)

end SyscallMeter.Web.HostLabel
