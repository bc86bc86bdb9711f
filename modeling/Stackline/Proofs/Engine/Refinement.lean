import Stackline.Engine.Call
import Stackline.Proofs.Engine.Execution
import Stackline.Proofs.Instruction.Table
import Stackline.Program

/-!
# Engines carry out the table

A reference interpreter runs instructions on a list of numbers by the table, and an engine whose
sink takes everything cannot be told from it.

* `Table.run state program` — what can be seen of the instructions of a program, one after the
  other, when the reference interpreter executes them.
* `Engine.Shows engine state` — the engine and the interpreter are in the same state.
* `Engine.Shows.execute` — an instruction is answered alike in the same state, and leads to the same
  state.
* `Engine.observations_eq_run` — every program is answered as the reference interpreter answers it.
-/

namespace Stackline

/-! ## The reference interpreter -/

/-- What can be seen of a call to an engine. -/
structure Observation where
  /-- Whether the call succeeded. -/
  result : Except RunError Unit
  /-- The bytes that were printed. -/
  output : List UInt8
  /-- The numbers on the stack behind the call, from the top downward. -/
  numbers : List Int
deriving DecidableEq

namespace Table

/-- An instruction of a program: what can be seen of it, and the state behind it. The state is the
list of numbers from the top downward, or nothing once there has been a fault. -/
def step (state : Option (List Int)) (i : Instruction) : Observation × Option (List Int) :=
  match state with
  | none => ({ result := .error (.halted i.line), output := [], numbers := [] }, none)
  | some values =>
    match outcome i values with
    | .ok (values, output) => ({ result := .ok (), output, numbers := values }, some values)
    | .error cause =>
      ({ result := .error (.fault (cause.at i.line)), output := [], numbers := [] }, none)

/-- The instructions of a program, one after the other. -/
def run (state : Option (List Int)) : Program → List Observation
  | [] => []
  | i :: rest => (step state i).1 :: run (step state i).2 rest

theorem step_of_ok {values behind : List Int} {i : Instruction} {output : List UInt8}
    (h : outcome i values = .ok (behind, output)) :
    step (some values) i = ({ result := .ok (), output, numbers := behind }, some behind) := by
  rw [step, h]

theorem step_of_error {values : List Int} {i : Instruction} {cause : Fault}
    (h : outcome i values = .error cause) :
    step (some values) i =
      ({ result := .error (.fault (cause.at i.line)), output := [], numbers := [] }, none) := by
  rw [step, h]

end Table

/-! ## Engines -/

/-- What can be seen of an answer. -/
def Reply.observation (reply : Reply) : Observation :=
  { result := reply.result, output := reply.output, numbers := reply.engine.stack.numbers }

namespace Engine

/-- An engine whose sink takes everything is in a state of the reference interpreter. -/
inductive Shows : Engine → Option (List Int) → Prop where
  /-- The run is going on. -/
  | running {engine : Engine} : engine.sink.room = none → engine.halted = false →
      Shows engine (some engine.stack.numbers)
  /-- There has been a fault. -/
  | halted {engine : Engine} : engine.sink.room = none → engine.halted = true →
      engine.stack = .empty → Shows engine none

theorem shows_start {sink : Sink} (h : sink.room = none) (hooked : Bool) :
    (start sink hooked).Shows (some []) :=
  .running h rfl

theorem Shows.execute_of_ok {engine : Engine} {i : Instruction} {behind : List Int}
    {output : List UInt8} (hroom : engine.sink.room = none) (hrunning : engine.halted = false)
    (h : Table.outcome i engine.stack.numbers = .ok (behind, output)) :
    (engine.execute i).observation = { result := .ok (), output, numbers := behind } ∧
      (engine.execute i).engine.Shows (some behind) := by
  obtain ⟨hprinted, hnumbers⟩ := Instruction.effect_of_outcome_eq_ok h
  -- The sink takes all that the row of the table has.
  have hwrite := Sink.write_of_unlimited hroom output
  have hexecute := execute_of_done hrunning hprinted (by rw [hwrite])
  rw [hexecute, ← hnumbers]
  refine ⟨rfl, .running ?_ hrunning⟩
  rw [proceed, hwrite]
  exact hroom

theorem Shows.execute_of_error {engine : Engine} {i : Instruction} {cause : Fault}
    (hroom : engine.sink.room = none) (hrunning : engine.halted = false)
    (h : Table.outcome i engine.stack.numbers = .error cause) :
    (engine.execute i).observation =
        { result := .error (.fault (cause.at i.line)), output := [], numbers := [] } ∧
      (engine.execute i).engine.Shows none := by
  rw [execute_of_undone hrunning (Instruction.printed_of_outcome_eq_error h)]
  exact ⟨rfl, .halted hroom rfl rfl⟩

/-- An instruction is answered as the reference interpreter answers it in the same state, and leads
to the same state. -/
theorem Shows.execute {engine : Engine} {state : Option (List Int)} (h : engine.Shows state)
    (i : Instruction) :
    (engine.execute i).observation = (Table.step state i).1 ∧
      (engine.execute i).engine.Shows (Table.step state i).2 := by
  cases h with
  | running hroom hrunning =>
    cases hrow : Table.outcome i engine.stack.numbers with
    | ok row =>
      rw [Table.step_of_ok hrow]
      exact execute_of_ok hroom hrunning hrow
    | error cause =>
      rw [Table.step_of_error hrow]
      exact execute_of_error hroom hrunning hrow
  | halted hroom hhalted hstack =>
    rw [execute_of_halted hhalted]
    refine ⟨?_, .halted hroom hhalted hstack⟩
    rw [Reply.observation, refuse, hstack]
    rfl

/-- A program is answered as the reference interpreter answers it from the same state on. -/
theorem Shows.answers {engine : Engine} {state : Option (List Int)} (h : engine.Shows state)
    (program : Program) :
    (engine.answers (program.map (.instruction · .granted))).map Reply.observation =
      Table.run state program := by
  -- The state is the invariant: each instruction leads from one to the next on both sides.
  induction program generalizing engine state with
  | nil => rfl
  | cons i rest ih =>
    obtain ⟨hfirst, hshows⟩ := h.execute i
    rw [List.map_cons, Engine.answers, List.map_cons, Table.run, ← ih hshows, ← hfirst]
    rfl

/-- The numbers behind the calls of a run are values of the machine. -/
theorem inRange_of_mem_answers {engine : Engine} {calls : List Call} {o : Observation}
    (ho : o ∈ (engine.answers calls).map Reply.observation) {z : Int} (hz : z ∈ o.numbers) :
    Text.Numeral.InRange z := by
  obtain ⟨reply, -, rfl⟩ := List.mem_map.1 ho
  exact Stack.inRange_of_mem_numbers hz

/-- Whatever the instructions are, their operands and their lines, a fresh engine whose sink takes
everything answers them one after the other as the reference interpreter does: with the same
results, the same bytes, and the same numbers on the stack behind each of them. These numbers are
values of the machine throughout. -/
theorem observations_eq_run {sink : Sink} (h : sink.room = none) (hooked : Bool)
    (program : Program) :
    ((start sink hooked).answers (program.map (.instruction · .granted))).map Reply.observation =
        Table.run (some []) program ∧
      ∀ o ∈ Table.run (some []) program, ∀ z ∈ o.numbers, Text.Numeral.InRange z := by
  have hrun := (shows_start h hooked).answers program
  refine ⟨hrun, ?_⟩
  intro o ho z hz
  rw [← hrun] at ho
  exact inRange_of_mem_answers ho hz

/-- A quotient that wraps around is printed, an addition finds too few numbers, and the instruction
behind it is refused. -/
theorem observations_eq_run_overflow :
    let program : Program :=
      [.push (-0x80000000) 1, .push (-1) 2, { opcode := .div, operand := none, line := 3 },
        { opcode := .pint, operand := none, line := 4 },
        { opcode := .add, operand := none, line := 6 },
        { opcode := .nop, operand := some 7, line := 2 }]
    ((start {} false).answers (program.map (.instruction · .granted))).map Reply.observation =
        [{ result := .ok (), output := [], numbers := [-0x80000000] },
          { result := .ok (), output := [], numbers := [-1, -0x80000000] },
          { result := .ok (), output := [], numbers := [-0x80000000] },
          { result := .ok (), output := Text.Utf8.encode "-2147483648\n".toList,
            numbers := [-0x80000000] },
          { result := .error (.fault ((Fault.stackTooShort .add).at 6)), output := [],
            numbers := [] },
          { result := .error (.halted 2), output := [], numbers := [] }] := by
  intro program
  rw [(observations_eq_run rfl false program).1]
  decide

end Engine

end Stackline
