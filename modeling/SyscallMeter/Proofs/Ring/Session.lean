import SyscallMeter.Proofs.Ring.Block

/-! A ring in use. Producers reserve windows and write and end them in any order, any number of
windows being open at once, and one consumer takes records in between. -/
namespace SyscallMeter

/-- One use of a ring. A window is named by its number in the order of the reservations. -/
inductive RingAction
  | reserve (length : Nat)
  | write (window : Nat) (bytes : Octets)
  | finish (window : Nat) (ending : Ending)
  | next
  deriving DecidableEq, Repr

/-- What a use tells. -/
inductive RingAnswer
  | reserved (granted : Bool)
  | done
  | taken (record : Option Octets)
  deriving DecidableEq, Repr

/-- The record that the consumer was given. -/
def RingAnswer.record? : RingAnswer → Option Octets
  | taken record => record
  | _ => none

/-- A window is ended once. -/
def Reservation.finish (v : Reservation) (e : Ending) : Reservation :=
  { v with ending := v.ending.or (some e) }

/-- A ring and the windows that it has handed out, in their order. -/
structure RingSession (c : RingCapacity) where
  ring : Ring c
  reservations : List Reservation

namespace RingSession

variable {c : RingCapacity}

def fresh (c : RingCapacity) : RingSession c := ⟨Ring.empty c, []⟩

/-- The window of a number, as long as it is open: an ended window can not be used again. -/
def window? (s : RingSession c) (number : Nat) : Option RingWindow :=
  match s.reservations[number]? with
  | some ⟨w, none⟩ => some w
  | _ => none

def step (s : RingSession c) : RingAction → RingAnswer × RingSession c
  | .reserve length =>
    match s.ring.reserve? length with
    | none => (.reserved false, s)
    | some (w, ring) => (.reserved true, ⟨ring, s.reservations ++ [⟨w, none⟩]⟩)
  | .write number bytes =>
    match s.window? number with
    | none => (.done, s)
    | some w => (.done, { s with ring := s.ring.write w bytes })
  | .finish number e =>
    match s.window? number with
    | none => (.done, s)
    | some w => (.done, ⟨e.apply s.ring w, s.reservations.modify number (·.finish e)⟩)
  | .next => (.taken s.ring.next.1, { s with ring := s.ring.next.2 })

/-- The answers of a run and the session after it. -/
def run (s : RingSession c) : List RingAction → List RingAnswer × RingSession c
  | [] => ([], s)
  | action :: rest =>
    let (answer, s) := s.step action
    let (answers, s) := s.run rest
    (answer :: answers, s)

/-- The session after a run on an empty ring. -/
def after (c : RingCapacity) (actions : List RingAction) : RingSession c :=
  ((fresh c).run actions).2

end RingSession

end SyscallMeter
