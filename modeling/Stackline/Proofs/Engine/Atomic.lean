import Stackline.Proofs.Engine.Execution

/-!
# Instructions that go wrong

An engine looks at all that an instruction needs before it touches the stack, and the instructions
that print do not touch it at all. So an instruction that goes wrong has left the stack alone. The
halt comes after that: it is the halt that releases the stack.

* `Engine.Fails engine i memory cause reply` — the ways in which an instruction goes wrong, as long
  as the error is not acted upon (`fails_of_error`).
* `Engine.result_execute` — the moment of which this is said is part of executing an instruction.
* `Engine.stack_kept_of_failure` — the stack, the bytes and the lines of instructions that go wrong.
-/

namespace Stackline.Engine

variable {engine : Engine} {i : Instruction} {memory : Memory} {cause : RunError}

/-- The ways in which an instruction goes wrong when an engine performs it. -/
inductive Fails (engine : Engine) (i : Instruction) (memory : Memory) : RunError → Reply → Prop where
  /-- The program is at fault. Nothing has happened. -/
  | faulty (fault : Fault) :
      Fails engine i memory (.fault (fault.at i.line))
        { result := .error (.fault (fault.at i.line)), output := [], events := [], engine }
  /-- There is no room for the value of a push. Nothing has happened. -/
  | exhausted : memory = .refused →
      Fails engine i memory .outOfMemory
        { result := .error .outOfMemory, output := [], events := [], engine }
  /-- The sink does not take all that is printed. Nothing has happened but to the sink. -/
  | unwritten (bytes : List UInt8) (reason : String) : i.opcode ∈ Opcode.printing →
      (engine.sink.write bytes).1.error = some reason →
      Fails engine i memory (.output engine.line reason)
        { result := .error (.output engine.line reason)
          output := (engine.sink.write bytes).1.accepted
          events := []
          engine := { engine with sink := (engine.sink.write bytes).2 } }

/-- An instruction that is not done fails, and nothing has happened. -/
theorem fails_of_undone {refusal : Refusal}
    (hprinted : (i.effect memory engine.stack).printed = .error refusal) :
    engine.Fails i memory (refusal.at i.line) (engine.perform i memory) := by
  rw [perform_of_error hprinted]
  cases refusal with
  | fault fault => exact .faulty fault
  | outOfMemory => exact .exhausted (Instruction.memory_of_outOfMemory hprinted)

/-- An instruction whose output does not get in fails, and it is one of those that leave the stack
as it was. -/
theorem fails_of_unwritten {bytes : List UInt8} {reason : String}
    (hprinted : (i.effect memory engine.stack).printed = .ok bytes)
    (hwrite : (engine.sink.write bytes).1.error = some reason) :
    engine.Fails i memory (.output engine.line reason) (engine.perform i memory) := by
  -- Writing nothing does not fail, so there is something to print.
  have hprinting : i.opcode ∈ Opcode.printing := by
    apply Instruction.opcode_mem_printing hprinted
    rintro rfl
    rw [Sink.write_nil] at hwrite
    exact nomatch hwrite
  have hperform := perform_of_ok hprinted
  rw [hwrite, Instruction.stack_effect_of_printing hprinting] at hperform
  rw [hperform]
  exact .unwritten bytes reason hprinting hwrite

/-- Every instruction that goes wrong does so in one of these ways. -/
theorem fails_of_error (h : (engine.perform i memory).result = .error cause) :
    engine.Fails i memory cause (engine.perform i memory) := by
  cases hprinted : (i.effect memory engine.stack).printed with
  | error refusal =>
    have hfails := fails_of_undone hprinted
    rw [perform_of_error hprinted] at h
    obtain rfl := Except.error.inj h
    exact hfails
  | ok bytes =>
    cases hwrite : (engine.sink.write bytes).1.error with
    | none =>
      rw [perform_of_ok hprinted, hwrite] at h
      exact nomatch h
    | some reason =>
      have hfails := fails_of_unwritten hprinted hwrite
      rw [perform_of_ok hprinted, hwrite] at h
      obtain rfl := Except.error.inj h
      exact hfails

/-- An instruction that prints leaves the stack as it was, whether it is done or not and whether its
output gets in or not. -/
theorem stack_perform_of_printing (h : i.opcode ∈ Opcode.printing) :
    (engine.perform i memory).engine.stack = engine.stack := by
  cases hprinted : (i.effect memory engine.stack).printed with
  | error refusal => rw [perform_of_error hprinted]
  | ok bytes =>
    rw [perform_of_ok hprinted]
    exact Instruction.stack_effect_of_printing h

/-- A running engine turns to the line of an instruction, performs it there, and hands on the result
and the bytes. -/
theorem result_execute (h : engine.halted = false) (i : Instruction) (memory : Memory) :
    (engine.execute i memory).result = ((engine.turnTo i.line).perform i memory).result ∧
      (engine.execute i memory).output = ((engine.turnTo i.line).perform i memory).output := by
  rw [execute_of_running h]
  cases hresult : ((engine.turnTo i.line).perform i memory).result with
  | ok => exact ⟨hresult, rfl⟩
  | error cause => exact ⟨rfl, rfl⟩

/-- An error names the line of its instruction, unless it is a lack of memory. -/
theorem line_of_execute_eq_error (h : (engine.execute i memory).result = .error cause) :
    cause = .outOfMemory ∨ cause.line? = some i.line := by
  have hexecutes := engine.executes i memory
  generalize engine.execute i memory = reply at h hexecutes
  cases hexecutes with
  | refused =>
    obtain rfl := Except.error.inj h
    exact .inr rfl
  | undone refusal =>
    obtain rfl := Except.error.inj h
    cases refusal with
    | fault fault => exact .inr rfl
    | outOfMemory => exact .inl rfl
  | unwritten =>
    obtain rfl := Except.error.inj h
    exact .inr rfl
  | done => exact nomatch h

/-- Whatever is on the stack and in the sink, and whatever the instruction is: if it goes wrong when
an engine performs it, the stack is as it was before. If the program is at fault or memory has run
out, nothing has been written either. There are no other errors than these and those of the sink,
which only instructions that print can meet. An instruction that prints leaves the stack as it was in
any case.

A running engine that executes an instruction first turns to its line and performs it there, and the
result and the bytes are those of that moment. So every error that it hands back names the line of
the instruction itself, but for a lack of memory, which names none. -/
theorem stack_kept_of_failure (engine : Engine) (i : Instruction) (memory : Memory) :
    let performed := engine.perform i memory
    let executed := engine.execute i memory
    (∀ cause, performed.result = .error cause →
      performed.engine.stack = engine.stack ∧
      match cause with
      | .fault fault =>
        fault.line = i.line ∧ performed.output = [] ∧ performed.engine.sink = engine.sink
      | .outOfMemory =>
        memory = .refused ∧ performed.output = [] ∧ performed.engine.sink = engine.sink
      | .output line _ => line = engine.line ∧ i.opcode ∈ Opcode.printing
      | .halted _ => False
      | .source _ => False) ∧
    (i.opcode ∈ Opcode.printing → performed.engine.stack = engine.stack) ∧
    (engine.halted = false →
      let moment := (engine.turnTo i.line).perform i memory
      executed.result = moment.result ∧ executed.output = moment.output) ∧
    ∀ cause, executed.result = .error cause →
      cause = .outOfMemory ∨ cause.line? = some i.line := by
  intro performed executed
  refine ⟨?_, stack_perform_of_printing, ?_, ?_⟩
  · intro cause hcause
    have hfails : engine.Fails i memory cause performed := fails_of_error hcause
    clear_value performed
    cases hfails with
    | faulty fault => exact ⟨rfl, rfl, rfl, rfl⟩
    | exhausted hmemory => exact ⟨rfl, hmemory, rfl, rfl⟩
    | unwritten bytes reason hprinting => exact ⟨rfl, rfl, hprinting⟩
  · intro hrunning
    exact result_execute hrunning i memory
  · intro cause hcause
    exact line_of_execute_eq_error hcause

end Stackline.Engine
