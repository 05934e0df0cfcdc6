import SyscallMeter.Json.Reader
import SyscallMeter.Report

/-! Reading reports from JSON. A report is an object whose members may come in any order, once
each, with any others between them, or an array of the members' values in the order in which they
are written. -/
namespace SyscallMeter.Report
open Json

/-- What the value of a member is. -/
inductive MemberType
  | word
  | count
  | text
  | real
  | texts
  | rows
  | counts

inductive MemberValue
  | number (n : Nat)
  | text (s : String)
  | real (x : Binary64)
  | texts (m : KeyMap String)
  | rows (rows : List Row)
  | counts (m : Option (KeyMap Nat))

/-- The members of a report in the order in which they are written. -/
def schema : List (String × MemberType) := [
  ("pid", .word),
  ("transport", .text),
  ("fault_policy", .text),
  ("batch_policy", .text),
  ("ring_bytes", .word),
  ("duration_secs", .real),
  ("exit_reason", .text),
  ("labels", .texts),
  ("total_events", .count),
  ("total_bytes", .count),
  ("malformed_records", .count),
  ("kinds", .rows),
  ("probe_stats", .counts)]

/-- Levels of nesting that are left inside a row: the row is the third of 127. -/
def rowDepth : Nat := 124

/-- A row as far as it is read. Members other than name and tag are kept until the row ends. -/
structure PartialRow where
  name : Option String
  tag : Option Nat
  others : List (String × Option Nat)

namespace PartialRow

def member (key : String) (r : PartialRow) : Reading PartialRow := do
  if key = "kind" then
    if r.name.isSome then fail .mismatch
    colon
    return { r with name := some (← expectString) }
  else if key = "tag" then
    if r.tag.isSome then fail .mismatch
    colon
    return { r with tag := some (← expectNatural UInt16.size) }
  else
    colon
    return { r with others := (key, ← value rowDepth) :: r.others }

/-- The total of one name. It is there once, and a natural number of 64 bits. -/
def total? (r : PartialRow) (key : String) : Option Nat :=
  match r.others.filter fun other => other.1 == key with
  | [(_, some n)] => some n
  | _ => none

def finish? (r : PartialRow) : Option Row := do
  return ⟨← r.name, UInt16.ofNat (← r.tag), ⟨← r.total? "calls", ← r.total? "bytes"⟩⟩

end PartialRow

def readRow : Reading Row := do
  let r ← expectObject PartialRow.member ⟨none, none, []⟩
  match r.finish? with
  | some row => return row
  | none => fail .mismatch

/-- An object as a map. Of two members with one key the later one counts. -/
def readMap {α : Type} (element : Reading α) : Reading (KeyMap α) :=
  expectObject (fun key m => do
    colon
    return m.insert key (← element)) KeyMap.empty

def readMember : MemberType → Reading MemberValue
  | .word => .number <$> expectNatural UInt32.size
  | .count => .number <$> expectNatural UInt64.size
  | .text => .text <$> expectString
  | .real => .real <$> expectReal
  | .texts => .texts <$> readMap expectString
  | .rows => .rows <$> expectArray readRow
  | .counts => do
    if (← peek) = some 'n' then do
      advance
      keyword ['u', 'l', 'l']
      return .counts none
    else return .counts (some (← readMap (expectNatural UInt64.size)))

abbrev Members := List (String × MemberValue)

/-- Reads one member of a report. Members that are not in the schema are skipped. -/
def member (key : String) (ms : Members) : Reading Members := do
  match schema.lookup key with
  | some type => do
    if (ms.lookup key).isSome then fail .mismatch
    colon
    return (key, ← readMember type) :: ms
  | none => do
    colon
    skip
    return ms

/-- The values of all members in order, after the opening bracket. -/
def readTuple (first : Bool) : List (String × MemberType) → Reading Members
  | [] => do
    match ← peek with
    | none => fail .truncated
    | some ']' => do
      advance
      return []
    | some _ => fail .malformed
  | (key, type) :: rest => do
    match ← peek with
    | none => fail .truncated
    | some ']' => fail .mismatch
    | some c => do
      unless first do
        unless c = ',' do fail .malformed
        advance
        match ← peek with
        | none => fail .truncated
        | some ']' => fail .malformed
        | some _ => pure ()
      let v ← readMember type
      return (key, v) :: (← readTuple false rest)

namespace Members

def number? (ms : Members) (key : String) : Option Nat :=
  match ms.lookup key with
  | some (.number n) => some n
  | _ => none

def text? (ms : Members) (key : String) : Option String :=
  match ms.lookup key with
  | some (.text s) => some s
  | _ => none

def real? (ms : Members) (key : String) : Option Binary64 :=
  match ms.lookup key with
  | some (.real x) => some x
  | _ => none

def texts? (ms : Members) (key : String) : Option (KeyMap String) :=
  match ms.lookup key with
  | some (.texts m) => some m
  | _ => none

def rows? (ms : Members) (key : String) : Option (List Row) :=
  match ms.lookup key with
  | some (.rows rows) => some rows
  | _ => none

def counts (ms : Members) (key : String) : Option (KeyMap Nat) :=
  match ms.lookup key with
  | some (.counts m) => m
  | _ => none

/-- Only the probe counts may be missing. -/
def report? (ms : Members) : Option Report := do
  return {
    pid := UInt32.ofNat (← ms.number? "pid")
    transport := ← ms.text? "transport"
    faultPolicy := ← ms.text? "fault_policy"
    batchPolicy := ← ms.text? "batch_policy"
    ringBytes := UInt32.ofNat (← ms.number? "ring_bytes")
    duration := ← ms.real? "duration_secs"
    exitReason := ← ms.text? "exit_reason"
    labels := ← ms.texts? "labels"
    totalEvents := ← ms.number? "total_events"
    totalBytes := ← ms.number? "total_bytes"
    malformed := ← ms.number? "malformed_records"
    rows := ← ms.rows? "kinds"
    probeCounts := ms.counts "probe_stats" }

end Members

def readMembers : Reading Members := do
  if (← peek) = some '[' then do
    advance
    readTuple true schema
  else expectObject member []

def read : Reading Report := do
  match (← readMembers).report? with
  | some r => return r
  | none => fail .mismatch

def ofJson? (text : String) : Except ReadError Report := readAll read text

end SyscallMeter.Report
