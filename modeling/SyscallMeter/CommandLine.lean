/-! Command lines in the usual form: `--name value`, `--name=value`, `-n value`, `-nvalue`,
`-n=value`, short switches run together, and `--` before what is never a switch.

A value that is a word of its own counts when the next switch or operand is recognised, or at the
end. So a switch that is not known, a value given to a switch that takes none, and an operand too
many come before a bad value that is still waiting. -/
namespace SyscallMeter.CommandLine

/-- Why a command line is not carried out. -/
inductive UsageError
  /-- It asks for help. -/
  | help
  /-- It names no command where one is needed. -/
  | noCommand
  | unknownArgument
  /-- A switch is given twice. -/
  | repeated
  /-- A value for a switch that takes none. -/
  | unexpectedValue
  /-- No value, or none of the choices. -/
  | invalidValue
  /-- A value that cannot be read. -/
  | unreadableValue
  deriving DecidableEq, Repr

/-- Help was asked for; all else is wrong usage. -/
def UsageError.exitCode : UsageError → Nat
  | help => 0
  | _ => 2

/-- A switch for settings `σ`. The operand of a command is one too, without names of its own. -/
structure Switch (σ : Type) where
  long : String
  short : Option Char
  takesValue : Bool
  repeatable : Bool
  apply : String → σ → Except UsageError σ

/-- Which operands a command takes. -/
inductive Operands (σ : Type)
  | none
  | one (operand : Switch σ)
  /-- Any number, but only behind `--`. -/
  | behindEscape (operand : Switch σ)

structure Grammar (σ : Type) where
  switches : List (Switch σ)
  operands : Operands σ

/-- How far a command line is read. -/
structure Progress (σ : Type) where
  settings : σ
  /-- Names of the switches given so far. -/
  given : List String
  /-- A switch that waits for its value, or for its value to count. -/
  pending : Option (Switch σ × Option String)
  /-- Whether the operand was given. -/
  hasOperand : Bool

variable {σ : Type}

/-- Counts a switch with its value. -/
def Progress.apply (p : Progress σ) (s : Switch σ) (value : String) :
    Except UsageError (Progress σ) :=
  if s.long ∈ p.given ∧ ¬ s.repeatable then .error .repeated
  else do return { p with settings := ← s.apply value p.settings, given := s.long :: p.given }

/-- Counts the switch that waits, if there is one. -/
def Progress.settle (p : Progress σ) : Except UsageError (Progress σ) :=
  match p.pending with
  | none => .ok p
  | some (_, none) => .error .invalidValue
  | some (s, some value) => ({ p with pending := none }).apply s value

/-- Asks for help. -/
def helpSwitch : Switch σ := ⟨"help", some 'h', false, true, fun _ _ => .error .help⟩

def Grammar.allSwitches (g : Grammar σ) : List (Switch σ) := helpSwitch :: g.switches

/-- A switch whose value is in the same word, or that takes none. -/
def attach (p : Progress σ) (s : Switch σ) (value : String) : Except UsageError (Progress σ) := do
  (← p.settle).apply s value

/-- A switch whose value is the next word. -/
def await (p : Progress σ) (s : Switch σ) : Except UsageError (Progress σ) := do
  return { ← p.settle with pending := some (s, none) }

/-- A word behind two hyphens. -/
def readLong (g : Grammar σ) (p : Progress σ) (word : List Char) :
    Except UsageError (Progress σ) :=
  let name := word.takeWhile (· ≠ '=')
  let value := if name.length < word.length then some (word.drop (name.length + 1)) else none
  match g.allSwitches.find? fun s => s.long.toList == name, value with
  | none, _ => .error .unknownArgument
  | some s, some value =>
    if s.takesValue then attach p s (String.ofList value) else .error .unexpectedValue
  | some s, none => if s.takesValue then await p s else attach p s ""

/-- Letters behind one hyphen, up to the first whose switch takes a value. -/
def readShort (g : Grammar σ) (p : Progress σ) : List Char → Except UsageError (Progress σ)
  | [] => .ok p
  | letter :: rest =>
    match g.allSwitches.find? fun s => s.short == some letter with
    | none => .error .unknownArgument
    | some s =>
      if s.takesValue then
        match rest with
        | [] => await p s
        | '=' :: value => attach p s (String.ofList value)
        | value => attach p s (String.ofList value)
      else do readShort g (← attach p s "") rest

def readOperand (g : Grammar σ) (escaped : Bool) (p : Progress σ) (word : String) :
    Except UsageError (Progress σ) :=
  match g.operands with
  | .none => .error .unknownArgument
  | .one operand =>
    if p.hasOperand then .error .unknownArgument
    else do return { ← p.settle with pending := some (operand, some word), hasOperand := true }
  | .behindEscape operand =>
    if escaped then do return { ← p.settle with pending := some (operand, some word) }
    else .error .unknownArgument

/-- One word before any `--`. A lone hyphen is a value or an operand. -/
def readWord (g : Grammar σ) (p : Progress σ) (word : String) :
    Except UsageError (Progress σ) :=
  match word.toList with
  | '-' :: '-' :: rest => readLong g p rest
  | '-' :: letter :: rest => readShort g p (letter :: rest)
  | _ =>
    match p.pending with
    | some (s, none) => .ok { p with pending := some (s, some word) }
    | _ => readOperand g false p word

def readWords (g : Grammar σ) (escaped : Bool) (p : Progress σ) :
    List String → Except UsageError (Progress σ)
  | [] => p.settle
  | word :: rest =>
    if escaped then do readWords g true (← readOperand g true p word) rest
    else if word = "--" then readWords g true p rest
    else do readWords g false (← readWord g p word) rest

/-- What a command line makes of the settings. -/
def parse (g : Grammar σ) (initial : σ) (words : List String) : Except UsageError (Progress σ) :=
  readWords g false ⟨initial, [], none, false⟩ words

/-! ### Reading values -/

/-- One of a few names. -/
def choice {α : Type} (choices : List (String × α)) (word : String) : Except UsageError α :=
  match choices.lookup word with
  | some a => .ok a
  | none => .error .invalidValue

/-- The path of a file is not empty. -/
def filePath (word : String) : Except UsageError String :=
  if word.isEmpty then .error .invalidValue else .ok word

/-- What a reader makes of a word. -/
def readable {α : Type} (read? : String → Option α) (word : String) : Except UsageError α :=
  match read? word with
  | some a => .ok a
  | none => .error .unreadableValue

end SyscallMeter.CommandLine
