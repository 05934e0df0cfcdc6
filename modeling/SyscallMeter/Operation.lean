/-! The twelve measured system calls and what a probe has to know about each: its wire tag, its
tracepoint, and which of its arguments name the bytes to be moved. -/
namespace SyscallMeter

inductive Operation
  | write | read | writev | readv
  | recv | recvfrom | recvmsg | recvmmsg
  | send | sendto | sendmsg | sendmmsg
  deriving DecidableEq, Repr

/-- Where the length of a call is found. Each field is an argument slot. -/
inductive LengthSource
  | scalar (length : Nat)
  | vectored (array count : Nat)
  | message (header : Nat)
  | batch (headers count : Nat)
  deriving DecidableEq, Repr

namespace Operation

/-- Every operation, in the order of the tags. -/
def all : List Operation :=
  [write, read, writev, readv, recv, recvfrom, recvmsg, recvmmsg, send, sendto, sendmsg, sendmmsg]

/-- The number of operations, and so of the rows of every table that has one per operation. -/
abbrev number : Nat := 12

/-- Tag 0 belongs to no operation, so a zeroed record is never an event. -/
def tag : Operation → UInt16
  | write => 1
  | read => 2
  | writev => 3
  | readv => 4
  | recv => 5
  | recvfrom => 6
  | recvmsg => 7
  | recvmmsg => 8
  | send => 9
  | sendto => 10
  | sendmsg => 11
  | sendmmsg => 12

def ofTag? (tag : UInt16) : Option Operation :=
  all.find? fun op => op.tag == tag

/-- The row of an operation in a table with one row per operation. -/
def index : Operation → Fin number
  | write => 0
  | read => 1
  | writev => 2
  | readv => 3
  | recv => 4
  | recvfrom => 5
  | recvmsg => 6
  | recvmmsg => 7
  | send => 8
  | sendto => 9
  | sendmsg => 10
  | sendmmsg => 11

/-- The system call, as the kernel spells it. -/
def syscall : Operation → String
  | write => "write"
  | read => "read"
  | writev => "writev"
  | readv => "readv"
  | recv => "recv"
  | recvfrom => "recvfrom"
  | recvmsg => "recvmsg"
  | recvmmsg => "recvmmsg"
  | send => "send"
  | sendto => "sendto"
  | sendmsg => "sendmsg"
  | sendmmsg => "sendmmsg"

/-- The name under which totals are shown. -/
def name : Operation → String
  | write => "WRITE"
  | read => "READ"
  | writev => "WRITEV"
  | readv => "READV"
  | recv => "RECV"
  | recvfrom => "RECVFROM"
  | recvmsg => "RECVMSG"
  | recvmmsg => "RECVMMSG"
  | send => "SEND"
  | sendto => "SENDTO"
  | sendmsg => "SENDMSG"
  | sendmmsg => "SENDMMSG"

def ofName? (name : String) : Option Operation := all.find? fun op => op.name == name

/-- Tracepoint below the category `syscalls`. -/
def tracepoint (op : Operation) : String := "sys_enter_" ++ op.syscall

/-- Probe program in the probe object. -/
def program (op : Operation) : String := "tap_" ++ op.syscall

def ofProgram? (program : String) : Option Operation := all.find? fun op => op.program == program

/-- Some architectures have no `recv` and `send` of their own: there the C library goes through
`recvfrom` and `sendto`, and the tracepoints are missing. -/
def portable : Operation → Bool
  | recv | send => false
  | _ => true

def lengthSource : Operation → LengthSource
  | write | read | recv | recvfrom | send | sendto => .scalar 2
  | writev | readv => .vectored 1 2
  | recvmsg | sendmsg => .message 1
  | recvmmsg | sendmmsg => .batch 1 2

theorem mem_all (op : Operation) : op ∈ all := by
  cases op <;> decide

theorem nodup_all : all.Nodup := by decide

theorem optional_iff (op : Operation) : op.portable = false ↔ op = recv ∨ op = send := by
  cases op <;> decide

theorem index_eq_tag (op : Operation) : op.index.val + 1 = op.tag.toNat := by
  cases op <;> rfl

theorem tags_sorted : all.Pairwise fun op op' => op.tag < op'.tag := by decide

@[simp] theorem ofTag?_tag (op : Operation) : ofTag? op.tag = some op := by
  cases op <;> rfl

@[simp] theorem ofProgram?_program (op : Operation) : ofProgram? op.program = some op := by
  cases op <;> decide

end Operation

/-- A tracepoint record starts with its common fields and the number of the call. -/
def argumentsOffset : Nat := 16

/-- Offset of an argument in a tracepoint record: each takes eight bytes. -/
def argumentOffset (slot : Nat) : Nat := argumentsOffset + slot * 8

end SyscallMeter
