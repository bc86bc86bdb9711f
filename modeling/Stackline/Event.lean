import Stackline.Instruction
import Stackline.RunError

/-!
# Events

What a run lets an observer know, step by step: for each event its level, the component that it
comes from, a message, and named details.
-/

namespace Stackline

open Text

/-- How important an event is, the most important level first. -/
inductive Level where
  /-- The run cannot even be taken down in order. -/
  | error
  /-- The run is taken down. -/
  | warn
  /-- Ordinary news. -/
  | info
  /-- News of the parts of a run. -/
  | debug
  /-- News of every step. -/
  | trace
deriving DecidableEq, Repr, Inhabited

namespace Level

/-- The levels in order, the most important one first. -/
def all : List Level :=
  [error, warn, info, debug, trace]

/-- The place of a level in that order, from one. -/
def rank : Level → Nat
  | error => 1
  | warn => 2
  | info => 3
  | debug => 4
  | trace => 5

/-- The name of a level. -/
def name : Level → String
  | error => "ERROR"
  | warn => "WARN"
  | info => "INFO"
  | debug => "DEBUG"
  | trace => "TRACE"

end Level

/-- The value of a detail. -/
inductive Detail where
  /-- A count or the number of a line. -/
  | number (n : Nat)
  /-- The number of a line, where there may be none. -/
  | optionalNumber (n : Option Nat)
  /-- A text that is shown as it is. -/
  | text (content : String)
  /-- A text that is shown in quotes. -/
  | quoted (content : String)
deriving DecidableEq, Repr

/-- Something that happened. -/
inductive Event where
  /-- An instruction is about to be executed. -/
  | executing (instruction : Instruction)
  /-- The run is about to be taken down. -/
  | halting (cause : RunError)
  /-- The stack could not grow. -/
  | allocationFailed
  /-- The source let go of its input after that many lines. -/
  | sourceClosed (lines : Nat)
  /-- The last of that many lines was executed. -/
  | endOfProgram (lines : Nat)
  /-- The run is about to end well, with that many values on the stack. -/
  | runFinished (remaining : Nat)
  /-- A file was opened. -/
  | fileOpened (path : String)
  /-- A file could not be opened. -/
  | openFailed (path : String) (reason : String)
  /-- The run of a file ended early. -/
  | runFailed (path : String) (line : Option Nat)
deriving DecidableEq, Repr

namespace Event

/-- How important an event is. -/
def level : Event → Level
  | executing _ => .trace
  | halting _ => .warn
  | allocationFailed => .error
  | sourceClosed _ => .debug
  | endOfProgram _ => .debug
  | runFinished _ => .debug
  | fileOpened _ => .debug
  | openFailed _ _ => .debug
  | runFailed _ _ => .debug

/-- The component that an event comes from. -/
def target : Event → String
  | executing _ => "monty_vm::execute"
  | halting _ => "monty_vm::machine"
  | allocationFailed => "monty_vm::machine"
  | sourceClosed _ => "monty_assembler::source"
  | endOfProgram _ => "monty_vm"
  | runFinished _ => "monty_vm::machine"
  | fileOpened _ => "monty_assembler::source"
  | openFailed _ _ => "monty_assembler::source"
  | runFailed _ _ => "monty::commands"

/-- What an event says. -/
def message : Event → String
  | executing _ => "execute"
  | halting _ => "halting run"
  | allocationFailed => "stack allocation failed"
  | sourceClosed _ => "closed program source"
  | endOfProgram _ => "end of program"
  | runFinished _ => "run finished"
  | fileOpened _ => "opened program"
  | openFailed _ _ => "open failed"
  | runFailed _ _ => "run failed"

/-- The details of an event, by name. -/
def details : Event → List (String × Detail)
  | executing instruction =>
    [("line", .number instruction.line), ("instr", .text instruction.text)]
  | halting cause => [("err", .text cause.message)]
  | allocationFailed => []
  | sourceClosed lines => [("lines", .number lines)]
  | endOfProgram lines => [("lines", .number lines)]
  | runFinished remaining => [("remaining", .number remaining)]
  | fileOpened path => [("path", .text path)]
  | openFailed path reason => [("path", .text path), ("error", .text reason)]
  | runFailed path line => [("path", .quoted path), ("line", .optionalNumber line)]

/-- The names of all that an event tells: of its message, and of its details. -/
def detailNames (event : Event) : List String :=
  "message" :: event.details.map (·.1)

end Event

end Stackline
