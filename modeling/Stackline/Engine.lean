import Stackline.Event
import Stackline.Instruction.Effect
import Stackline.Sink

/-!
# The engine

An engine executes instructions one at a time. The first error halts it: the sink is flushed, the
stack is released, and a cleanup that was registered is called, in this order; if memory has run
out, nothing but the halting is done. A halted engine refuses every further instruction.
-/

namespace Stackline

/-- What a cleanup could see when it was called. -/
structure Sighting where
  /-- How many values were on the stack. -/
  depth : Nat
  /-- How often the sink had been flushed. -/
  flushes : Nat
deriving DecidableEq, Repr

/-- A cleanup for the end of a run that goes wrong. -/
structure Cleanup where
  /-- Whether a cleanup is registered that has not been called yet. -/
  pending : Bool
  /-- What was seen in each call so far, the latest call first. -/
  calls : List Sighting := []
deriving DecidableEq, Repr

/-- Calls the cleanup that is registered, if one is. -/
def Cleanup.call (cleanup : Cleanup) (sighting : Sighting) : Cleanup :=
  if cleanup.pending then { pending := false, calls := sighting :: cleanup.calls } else cleanup

/-- The state of a run. -/
structure Engine where
  /-- The operands. -/
  stack : Stack
  /-- Where output goes. -/
  sink : Sink
  /-- What is to be done when the run goes wrong. -/
  cleanup : Cleanup
  /-- The line of the latest instruction that was executed, or zero before the first one. -/
  line : Nat
  /-- Whether an error has ended the run. -/
  halted : Bool
deriving DecidableEq, Repr

/-- The answer of an engine to a call. -/
structure Reply where
  /-- Whether the call succeeded. -/
  result : Except RunError Unit
  /-- The bytes that the sink took. -/
  output : List UInt8
  /-- What happened meanwhile. -/
  events : List Event
  /-- The engine behind the call. -/
  engine : Engine

/-- The error that a refused instruction raises at its line. -/
def Refusal.at (refusal : Refusal) (line : Nat) : RunError :=
  match refusal with
  | .fault cause => .fault (cause.at line)
  | .outOfMemory => .outOfMemory

namespace Engine

/-- An engine at the start of a run, with or without a cleanup. -/
def start (sink : Sink) (withCleanup : Bool := true) : Engine :=
  { stack := .empty, sink, cleanup := { pending := withCleanup }, line := 0, halted := false }

/-- Ends a run because of an error. -/
def halt (engine : Engine) (cause : RunError) : Engine × List Event :=
  if cause = .outOfMemory then ({ engine with halted := true }, [.allocationFailed])
  else
    -- Whether the flush succeeds does not matter here: the cause of the halt is reported.
    let sink := engine.sink.flush.2
    let stack := Stack.empty
    let cleanup := engine.cleanup.call { depth := stack.size, flushes := sink.flushes }
    ({ engine with stack, sink, cleanup, halted := true }, [.halting cause])

/-- The answer of a halted engine to whatever is on a line. -/
def refuse (engine : Engine) (line : Nat) : Reply :=
  { result := .error (.halted line), output := [], events := [], engine }

/-- Does what an instruction asks for, and prints what it prints. An error is not acted upon yet. -/
def perform (engine : Engine) (i : Instruction) (memory : Memory) : Reply :=
  let { stack, sink, cleanup, line, halted } := engine
  match i.effect memory stack with
  | { stack, printed := .error refusal } =>
    { result := .error (refusal.at i.line), output := [], events := [],
      engine := { stack, sink, cleanup, line, halted } }
  | { stack, printed := .ok bytes } =>
    let (receipt, sink) := sink.write bytes
    { result := match receipt.error with
        | none => .ok ()
        | some reason => .error (.output line reason)
      output := receipt.accepted
      events := []
      engine := { stack, sink, cleanup, line, halted } }

/-- Executes an instruction. -/
def execute (engine : Engine) (i : Instruction) (memory : Memory := .granted) : Reply :=
  if engine.halted then engine.refuse i.line
  else
    let reply := { engine with line := i.line }.perform i memory
    match reply.result with
    | .ok () => { reply with events := [.executing i] }
    | .error cause =>
      let (engine, events) := reply.engine.halt cause
      { reply with events := .executing i :: events, engine }

/-- Executes the instruction on a line of text, if there is one. -/
def executeLine (engine : Engine) (content : String) (line : Nat) (memory : Memory := .granted) :
    Reply :=
  if engine.halted then engine.refuse line
  else match Instruction.ofLine content line with
    | .ok none => { result := .ok (), output := [], events := [], engine }
    | .ok (some i) => engine.execute i memory
    | .error cause =>
      let (engine, events) := engine.halt (.fault cause)
      { result := .error (.fault cause), output := [], events, engine }

/-- Ends a run that went well: the stack is released and the sink is flushed. -/
def finish (engine : Engine) : Reply :=
  let (failure, sink) := engine.sink.flush
  { result := match failure with
      | none => .ok ()
      | some reason => .error (.output engine.line reason)
    output := []
    events := [.runFinished engine.stack.size]
    engine := { engine with stack := .empty, sink } }

/-- A halted engine executes nothing. -/
theorem execute_of_halted {engine : Engine} (h : engine.halted = true) (i : Instruction)
    (memory : Memory) : engine.execute i memory = engine.refuse i.line := by
  simp [execute, h]

/-- A halted engine reads no line. -/
theorem executeLine_of_halted {engine : Engine} (h : engine.halted = true) (content : String)
    (line : Nat) (memory : Memory) :
    engine.executeLine content line memory = engine.refuse line := by
  simp [executeLine, h]

@[simp]
theorem engine_refuse (engine : Engine) (line : Nat) : (engine.refuse line).engine = engine := rfl

end Engine

end Stackline
