import Stackline.Proofs.Engine.Frame
import Stackline.Proofs.Engine.Refinement

/-!
# How many values there are

Whether an instruction is at fault is told by how many values are on the stack, and not by what they
are, unless it divides or prints a character. The same goes for how many values there are behind it.

* `Opcode.valued` — the opcodes whose faults depend on values.
* `Depth.outcome i depth` — how many values are behind an instruction, or its fault, given how many
  there are before it.
* `Depth.run state program` — results and numbers of values, instruction by instruction.
* `Table.run_map_depth` — the reference interpreter has these results and numbers.
* `Instruction.Alike i twin` — instructions that differ in the value of their operand at most.
* `Engine.size_after` — how many values a program leaves that succeeds.
* `Engine.depths_eq_of_alike` — programs that differ in the values of their operands at most.
-/

namespace Stackline

namespace Opcode

/-- The opcodes whose faults depend on the values on the stack, and not only on their number. -/
def valued : List Opcode :=
  [div, mod, pchar]

/-- The opcodes that leave one value less on the stack: a pop, and those of two operands. -/
def consuming : List Opcode :=
  [pop, add, sub, mul, div, mod]

/-- The fault of an instruction that finds fewer values than it takes. -/
def shortage : Opcode → Fault
  | pint => .pintEmpty
  | pop => .popEmpty
  | pchar => .pcharEmpty
  | op => .stackTooShort op

/-- A push gives one value more than it takes, and the opcodes that consume give one less. -/
theorem gives_add (op : Opcode) :
    op.gives + (if op ∈ consuming then 1 else 0) = op.takes + if op = push then 1 else 0 := by
  cases op <;> rfl

end Opcode

/-! ## Counting values -/

namespace Depth

/-- How many values are behind an instruction, or its fault, given how many there are before it. -/
def outcome (i : Instruction) (depth : Nat) : Except Fault Nat :=
  if i.opcode = .push ∧ i.operand.isNone then .error .pushUsage
  else if depth < i.opcode.takes then .error i.opcode.shortage
  else .ok (depth - i.opcode.takes + i.opcode.gives)

/-- An instruction of a program: its result and the number of values behind it, and the state behind
it. The state is the number of values, or nothing once there has been a fault. -/
def step (state : Option Nat) (i : Instruction) : (Except RunError Unit × Nat) × Option Nat :=
  match state with
  | none => ((.error (.halted i.line), 0), none)
  | some depth =>
    match outcome i depth with
    | .ok behind => ((.ok (), behind), some behind)
    | .error cause => ((.error (.fault (cause.at i.line)), 0), none)

/-- The instructions of a program, one after the other. -/
def run (state : Option Nat) : Program → List (Except RunError Unit × Nat)
  | [] => []
  | i :: rest => (step state i).1 :: run (step state i).2 rest

end Depth

/-- Two instructions that differ in the value of their operand at most. If one of them has an
operand, both have. -/
structure Instruction.Alike (i twin : Instruction) : Prop where
  /-- They do the same. -/
  opcode : twin.opcode = i.opcode
  /-- They have operands alike. -/
  operand : twin.operand.isNone = i.operand.isNone
  /-- They are on the same line. -/
  line : twin.line = i.line

/-- Programs whose instructions are alike have the same opcodes. -/
theorem Instruction.Alike.forall_opcode_not_mem {program twin : Program}
    (h : List.Forall₂ Alike program twin) {opcodes : List Opcode}
    (hmem : ∀ i ∈ program, i.opcode ∉ opcodes) : ∀ i ∈ twin, i.opcode ∉ opcodes := by
  induction h with
  | nil => exact hmem
  | cons hfirst _ ih =>
    rw [List.forall_mem_cons] at hmem ⊢
    refine ⟨?_, ih hmem.2⟩
    rw [hfirst.opcode]
    exact hmem.1

/-- What an instruction comes to whose output gets in. -/
inductive Instruction.Results (i : Instruction) : Except RunError Unit → Prop where
  /-- It is done. -/
  | done : Results i (.ok ())
  /-- It is at fault, at its own line. -/
  | faulty (cause : Fault) : Results i (.error (.fault (cause.at i.line)))
  /-- It is refused, because there has been a fault. -/
  | refused : Results i (.error (.halted i.line))

namespace Depth

theorem step_congr {i twin : Instruction} (h : i.Alike twin) (state : Option Nat) :
    step state twin = step state i := by
  have houtcome : outcome twin = outcome i := by
    funext depth
    simp only [outcome, h.opcode, h.operand]
  cases state with
  | none => rw [step, step, h.line]
  | some depth => rw [step, step, houtcome, h.line]

/-- Programs whose instructions are alike count values alike. -/
theorem run_congr {program twin : Program} (h : List.Forall₂ Instruction.Alike program twin)
    (state : Option Nat) : run state twin = run state program := by
  induction h generalizing state with
  | nil => rfl
  | cons hfirst _ ih => rw [run, run, step_congr hfirst, ih]

theorem results_step (state : Option Nat) (i : Instruction) :
    i.Results (step state i).1.1 := by
  cases state with
  | none => exact .refused
  | some depth =>
    rw [step]
    cases outcome i depth with
    | ok behind => exact .done
    | error cause => exact .faulty cause

/-- Every instruction is done, at fault at its line, or refused. -/
theorem results_run (state : Option Nat) (program : Program) :
    List.Forall₂ (fun i observed => i.Results observed.1) program (run state program) := by
  induction program generalizing state with
  | nil => exact .nil
  | cons i rest ih => exact .cons (results_step state i) (ih _)

end Depth

/-! ## The table -/

namespace Table

theorem binary_map_length (op : Opcode) (result : Int → Int → Int) (values : List Int) :
    (binary op (fun second top => .ok (result second top)) values).map (·.1.length) =
      if values.length < 2 then .error (.stackTooShort op) else .ok (values.length - 2 + 1) := by
  match values with
  | [] => rfl
  | [_] => rfl
  | _ :: _ :: rest =>
    rw [if_neg (by simp)]
    rfl

/-- Instructions that do not look at values count them as the table does. -/
theorem outcome_map_length {i : Instruction} (h : i.opcode ∉ Opcode.valued) (values : List Int) :
    (outcome i values).map (·.1.length) = Depth.outcome i values.length := by
  obtain ⟨opcode, operand, line⟩ := i
  cases opcode with
  | push => cases operand <;> rfl
  | pall | pstr | nop => rfl
  | pint | pop => cases values <;> rfl
  | swap =>
    match values with
    | [] => rfl
    | [_] => rfl
    | _ :: _ :: _ => rfl
  | add | sub | mul => exact binary_map_length _ _ values
  | div | mod | pchar => simp [Opcode.valued] at h

/-- The reference interpreter has results and numbers of values that are told by counting. -/
theorem run_map_depth {program : Program} (h : ∀ i ∈ program, i.opcode ∉ Opcode.valued)
    (state : Option (List Int)) :
    (run state program).map (fun o => (o.result, o.numbers.length)) =
      Depth.run (state.map List.length) program := by
  -- The state of the one side is the number of values in that of the other.
  induction program generalizing state with
  | nil => rfl
  | cons i rest ih =>
    rw [List.forall_mem_cons] at h
    have hstep : (((step state i).1.result, (step state i).1.numbers.length),
        (step state i).2.map List.length) = Depth.step (state.map List.length) i := by
      cases state with
      | none => rfl
      | some values =>
        have hlength := outcome_map_length h.1 values
        rw [step, Option.map_some, Depth.step, ← hlength]
        cases outcome i values <;> rfl
    rw [run, List.map_cons, ih h.2, Depth.run, ← hstep]

end Table

/-! ## Engines -/

/-- What an answer comes to, if values are only counted. -/
def Reply.counted (reply : Reply) : Except RunError Unit × Nat :=
  (reply.result, reply.engine.stack.size)

theorem Stack.size_eq_length_numbers (stack : Stack) : stack.size = stack.numbers.length := by
  rw [size_eq_length, numbers, List.length_map]

namespace Engine

/-- An instruction that succeeds leaves one value more for a push, and one less for an opcode that
consumes. -/
theorem size_execute {engine : Engine} {i : Instruction}
    (h : (engine.execute i).result = .ok ()) :
    (engine.execute i).engine.stack.size + (if i.opcode ∈ Opcode.consuming then 1 else 0) =
      engine.stack.size + if i.opcode = .push then 1 else 0 := by
  obtain ⟨bytes, -, hprinted, hdone⟩ := execute_of_ok h
  have hlength := Table.length_of_outcome_eq_ok (Instruction.outcome_of_printed_eq_ok hprinted)
  have hgives := i.opcode.gives_add
  rw [hdone, Stack.size_eq_length_numbers, Stack.size_eq_length_numbers]
  show (i.effect .granted engine.stack).stack.numbers.length + _ = _
  omega

/-- Behind instructions that all succeed, there are as many values as before, and one more for every
push, and one less for every opcode that consumes. -/
theorem size_after {engine : Engine} {program : Program}
    (h : ∀ reply ∈ engine.answers (program.map (.instruction · .granted)), reply.result = .ok ()) :
    (engine.after (program.map (.instruction · .granted))).stack.size +
        program.countP (·.opcode ∈ Opcode.consuming) =
      engine.stack.size + program.countP (·.opcode = .push) := by
  induction program generalizing engine with
  | nil => rfl
  | cons i rest ih =>
    rw [List.map_cons, answers, List.forall_mem_cons] at h
    have hfirst := size_execute h.1
    have hrest := @ih (engine.execute i).engine h.2
    simp only [List.map_cons, after_cons, List.countP_cons, decide_eq_true_eq]
    change ((engine.execute i).engine.after _).stack.size + _ = _
    omega

/-- Instructions that do not look at values are answered by a fresh engine as counting tells. -/
theorem answers_map_counted {sink : Sink} (hroom : sink.room = none) (hooked : Bool)
    {program : Program} (h : ∀ i ∈ program, i.opcode ∉ Opcode.valued) :
    ((start sink hooked).answers (program.map (.instruction · .granted))).map Reply.counted =
      Depth.run (some 0) program := by
  have hcounted : Reply.counted =
      (fun o : Observation => (o.result, o.numbers.length)) ∘ Reply.observation := by
    funext reply
    rw [Reply.counted, Stack.size_eq_length_numbers]
    rfl
  rw [hcounted, ← List.map_map, (shows_start hroom hooked).answers, Table.run_map_depth h]
  rfl

/-- Two programs do the same on the same lines, and differ in the values of their operands at most.
They hold no division and print no character by its code. On fresh engines whose sinks take
everything, they have the same results and leave the same number of values behind every instruction,
which is done, or at fault at its own line, or refused behind a fault.

If all are done, the number of values at the end is that of the pushes less that of the pops and the
instructions of two operands. -/
theorem depths_eq_of_alike {program twin : Program}
    (halike : List.Forall₂ Instruction.Alike program twin)
    (hvalued : ∀ i ∈ program, i.opcode ∉ Opcode.valued) {sink sink' : Sink}
    (hroom : sink.room = none) (hroom' : sink'.room = none) (hooked hooked' : Bool) :
    let calls := fun p : Program => p.map (Call.instruction · .granted)
    let replies := (start sink hooked).answers (calls program)
    let replies' := (start sink' hooked').answers (calls twin)
    replies'.map Reply.counted = replies.map Reply.counted ∧
    List.Forall₂ (fun i reply => i.Results reply.result) program replies ∧
    ((∀ reply ∈ replies, reply.result = .ok ()) →
      ((start sink hooked).after (calls program)).stack.size +
          program.countP (·.opcode ∈ Opcode.consuming) =
        program.countP (·.opcode = .push)) := by
  intro calls replies replies'
  have hvalued' := Instruction.Alike.forall_opcode_not_mem halike hvalued
  have hcounted := answers_map_counted hroom hooked hvalued
  have hcounted' := answers_map_counted hroom' hooked' hvalued'
  refine ⟨?_, ?_, fun hok => ?_⟩
  · rw [hcounted, hcounted', Depth.run_congr halike]
  · have hresults := Depth.results_run (some 0) program
    rw [← hcounted, List.forall₂_map_right_iff] at hresults
    exact hresults
  · have hsize := size_after hok
    rw [hsize]
    exact Nat.zero_add _

/-- A sum that wraps around and one that does not, printed as numbers and as texts. The exchange
behind them finds one value on either side. -/
theorem depths_eq_of_alike_overflow :
    let program : Program :=
      [.push 0x7FFFFFFF 1, .push 1 2, { opcode := .add, operand := none, line := 3 },
        { opcode := .pint, operand := none, line := 4 },
        { opcode := .pstr, operand := none, line := 5 }]
    let twin : Program :=
      [.push 60 1, .push 5 2, { opcode := .add, operand := none, line := 3 },
        { opcode := .pint, operand := none, line := 4 },
        { opcode := .pstr, operand := none, line := 5 }]
    let failing : Program :=
      [{ opcode := .swap, operand := none, line := 9 },
        { opcode := .nop, operand := some 7, line := 6 }]
    let calls := fun p : Program => p.map (Call.instruction · .granted)
    ((start {} false).after (calls program)).stack.size + 1 = 2 ∧
    ((start {} false).answers (calls (program ++ failing))).map Reply.counted =
      [(.ok (), 1), (.ok (), 2), (.ok (), 1), (.ok (), 1), (.ok (), 1),
        (.error (.fault ((Fault.stackTooShort .swap).at 9)), 0), (.error (.halted 6), 0)] ∧
    ((start {}).answers (calls (twin ++ failing))).map Reply.counted =
      ((start {} false).answers (calls (program ++ failing))).map Reply.counted := by
  intro program twin failing calls
  have halike : ∀ i : Instruction, i.Alike i := fun _ => ⟨rfl, rfl, rfl⟩
  have hprogram : List.Forall₂ Instruction.Alike program twin :=
    .cons ⟨rfl, rfl, rfl⟩ (.cons ⟨rfl, rfl, rfl⟩ (List.forall₂_same.2 fun i _ => halike i))
  have hfailing : List.Forall₂ Instruction.Alike (program ++ failing) (twin ++ failing) :=
    List.rel_append hprogram (List.forall₂_same.2 fun i _ => halike i)
  obtain ⟨-, -, hsize⟩ := @depths_eq_of_alike _ _ hprogram (by decide) {} {} rfl rfl false true
  obtain ⟨hsame, -⟩ := @depths_eq_of_alike _ _ hfailing (by decide) {} {} rfl rfl false true
  exact ⟨hsize (by decide), by decide, hsame⟩

end Engine

end Stackline
