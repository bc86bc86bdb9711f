import Stackline.Engine.Call

/-!
# What executing an instruction does

An engine that is not halted does one of three things with an instruction, by what the instruction
does to the stack and by whether the sink takes what it prints.

* `execute_of_done` — the instruction is done and all that it prints gets in.
* `execute_of_unwritten` — the instruction is done, but the sink does not take all that it prints.
* `execute_of_undone` — the instruction is not done.

The last two halt the engine, so an instruction that succeeds is done (`execute_of_ok`).

* `Executes engine i memory reply`, `ExecutesLine engine content line memory reply` — the answers to
  an instruction and to a line, case by case, for proofs about all of them (`executes`,
  `executesLine`).
* `Continues before after` — what a call that succeeds does not touch (`continues_execute`,
  `continues_executeLine`).
-/

namespace Stackline

/-- A sink without a limit takes everything. -/
theorem Sink.write_of_unlimited {sink : Sink} (h : sink.room = none) (content : List UInt8) :
    sink.write content = ({ accepted := content, error := none }, sink) := by
  obtain ⟨room, writeError, flushError, flushes⟩ := sink
  subst h
  simp [write, Fits, shrink]

namespace Engine

/-- The engine when it turns to an instruction on a line. -/
def turnTo (engine : Engine) (line : Nat) : Engine :=
  { engine with line }

/-- The engine behind an instruction that was done and has printed something. -/
def proceed (engine : Engine) (i : Instruction) (memory : Memory) (bytes : List UInt8) : Engine :=
  { engine with
    stack := (i.effect memory engine.stack).stack
    sink := (engine.sink.write bytes).2
    line := i.line }

/-- The answer of an engine that an error halts. -/
def stop (engine : Engine) (cause : RunError) (output : List UInt8 := [])
    (events : List Event := []) : Reply :=
  { result := .error cause
    output
    events := events ++ (engine.halt cause).2
    engine := (engine.halt cause).1 }

variable {engine : Engine} {i : Instruction} {memory : Memory}

theorem perform_of_ok {bytes : List UInt8}
    (hprinted : (i.effect memory engine.stack).printed = .ok bytes) :
    engine.perform i memory =
      { result := match (engine.sink.write bytes).1.error with
          | none => .ok ()
          | some reason => .error (.output engine.line reason)
        output := (engine.sink.write bytes).1.accepted
        events := []
        engine := { engine with
          stack := (i.effect memory engine.stack).stack
          sink := (engine.sink.write bytes).2 } } := by
  obtain ⟨stack, sink, cleanup, line, halted⟩ := engine
  unfold perform
  dsimp only at hprinted ⊢
  generalize i.effect memory stack = effect at hprinted ⊢
  obtain ⟨behind, printed⟩ := effect
  obtain rfl : printed = .ok bytes := hprinted
  rfl

theorem perform_of_error {refusal : Refusal}
    (hprinted : (i.effect memory engine.stack).printed = .error refusal) :
    engine.perform i memory =
      { result := .error (refusal.at i.line), output := [], events := [], engine } := by
  have hstack := Instruction.stack_effect_of_error hprinted
  obtain ⟨stack, sink, cleanup, line, halted⟩ := engine
  unfold perform
  dsimp only at hprinted hstack ⊢
  generalize i.effect memory stack = effect at hprinted hstack ⊢
  obtain ⟨behind, printed⟩ := effect
  obtain rfl : printed = .error refusal := hprinted
  obtain rfl : behind = stack := hstack
  rfl

/-- A running engine performs the instruction at its line, and halts if that goes wrong. -/
theorem execute_of_running (h : engine.halted = false) :
    engine.execute i memory =
      match ((engine.turnTo i.line).perform i memory).result with
      | .ok () => { (engine.turnTo i.line).perform i memory with events := [.executing i] }
      | .error cause =>
        ((engine.turnTo i.line).perform i memory).engine.stop cause
          ((engine.turnTo i.line).perform i memory).output [.executing i] := by
  rw [execute, if_neg (by simp [h])]
  -- The engine that turns to the line is the one that is built there.
  change (match ((engine.turnTo i.line).perform i memory).result with
    | .ok () => _
    | .error cause => _) = _
  cases hresult : ((engine.turnTo i.line).perform i memory).result with
  | ok => rfl
  | error cause => simp [stop, turnTo, ← hresult]

/-- An instruction that is done and whose output gets in leaves the engine running. -/
theorem execute_of_done {bytes : List UInt8} (h : engine.halted = false)
    (hprinted : (i.effect memory engine.stack).printed = .ok bytes)
    (hwrite : (engine.sink.write bytes).1.error = none) :
    engine.execute i memory =
      { result := .ok (), output := bytes, events := [.executing i],
        engine := engine.proceed i memory bytes } := by
  have haccepted := Sink.error_write_eq_none_iff.1 hwrite
  have hperform := @perform_of_ok (engine.turnTo i.line) i memory _ hprinted
  rw [turnTo, hwrite, haccepted] at hperform
  rw [execute_of_running h, turnTo, hperform]
  rfl

/-- An instruction that is done and whose output does not get in halts the engine; part of the
output may have got in. -/
theorem execute_of_unwritten {bytes : List UInt8} {reason : String} (h : engine.halted = false)
    (hprinted : (i.effect memory engine.stack).printed = .ok bytes)
    (hwrite : (engine.sink.write bytes).1.error = some reason) :
    engine.execute i memory =
      (engine.proceed i memory bytes).stop (.output i.line reason)
        (engine.sink.write bytes).1.accepted [.executing i] := by
  have hperform := @perform_of_ok (engine.turnTo i.line) i memory _ hprinted
  rw [turnTo, hwrite] at hperform
  rw [execute_of_running h, turnTo, hperform]
  rfl

/-- An instruction that is not done halts the engine; nothing is printed. -/
theorem execute_of_undone {refusal : Refusal} (h : engine.halted = false)
    (hprinted : (i.effect memory engine.stack).printed = .error refusal) :
    engine.execute i memory =
      (engine.turnTo i.line).stop (refusal.at i.line) [] [.executing i] := by
  have hperform := @perform_of_error (engine.turnTo i.line) i memory _ hprinted
  rw [execute_of_running h, hperform]

theorem executeLine_of_error {content : String} {line : Nat} {cause : LocatedFault}
    (h : engine.halted = false) (hline : Instruction.ofLine content line = .error cause) :
    engine.executeLine content line memory = engine.stop (.fault cause) := by
  simp [executeLine, h, hline, stop]

theorem executeLine_of_some {content : String} {line : Nat} (h : engine.halted = false)
    (hline : Instruction.ofLine content line = .ok (some i)) :
    engine.executeLine content line memory = engine.execute i memory := by
  simp [executeLine, h, hline]

theorem executeLine_of_none {content : String} {line : Nat} (h : engine.halted = false)
    (hline : Instruction.ofLine content line = .ok none) :
    engine.executeLine content line memory =
      { result := .ok (), output := [], events := [], engine } := by
  simp [executeLine, h, hline]

/-! ## All answers -/

/-- The ways in which an engine answers an instruction. -/
inductive Executes (engine : Engine) (i : Instruction) (memory : Memory) : Reply → Prop where
  /-- The engine was halted before. -/
  | refused : engine.halted = true → Executes engine i memory (engine.refuse i.line)
  /-- The instruction is not done. -/
  | undone (refusal : Refusal) : engine.halted = false →
      (i.effect memory engine.stack).printed = .error refusal →
      Executes engine i memory
        ((engine.turnTo i.line).stop (refusal.at i.line) [] [.executing i])
  /-- The instruction is done, but the sink does not take all that it prints. -/
  | unwritten (bytes : List UInt8) (reason : String) : engine.halted = false →
      (i.effect memory engine.stack).printed = .ok bytes →
      (engine.sink.write bytes).1.error = some reason →
      Executes engine i memory
        ((engine.proceed i memory bytes).stop (.output i.line reason)
          (engine.sink.write bytes).1.accepted [.executing i])
  /-- The instruction is done, and all that it prints gets in. -/
  | done (bytes : List UInt8) : engine.halted = false →
      (i.effect memory engine.stack).printed = .ok bytes →
      (engine.sink.write bytes).1.error = none →
      Executes engine i memory
        { result := .ok (), output := bytes, events := [.executing i],
          engine := engine.proceed i memory bytes }

theorem executes (engine : Engine) (i : Instruction) (memory : Memory) :
    engine.Executes i memory (engine.execute i memory) := by
  cases hhalted : engine.halted with
  | true =>
    rw [execute_of_halted hhalted]
    exact .refused hhalted
  | false =>
    cases hprinted : (i.effect memory engine.stack).printed with
    | error refusal =>
      rw [execute_of_undone hhalted hprinted]
      exact .undone refusal hhalted hprinted
    | ok bytes =>
      cases hwrite : (engine.sink.write bytes).1.error with
      | some reason =>
        rw [execute_of_unwritten hhalted hprinted hwrite]
        exact .unwritten bytes reason hhalted hprinted hwrite
      | none =>
        rw [execute_of_done hhalted hprinted hwrite]
        exact .done bytes hhalted hprinted hwrite

/-- An instruction that succeeds is done, and all that it prints gets in. -/
theorem execute_of_ok (h : (engine.execute i memory).result = .ok ()) :
    ∃ bytes, engine.halted = false ∧ (i.effect memory engine.stack).printed = .ok bytes ∧
      engine.execute i memory =
        { result := .ok (), output := bytes, events := [.executing i],
          engine := engine.proceed i memory bytes } := by
  have hexecutes := engine.executes i memory
  generalize engine.execute i memory = reply at h hexecutes ⊢
  cases hexecutes with
  | refused => exact nomatch h
  | undone => exact nomatch h
  | unwritten => exact nomatch h
  | done bytes hrunning hprinted _ => exact ⟨bytes, hrunning, hprinted, rfl⟩

/-- The ways in which an engine answers a line. -/
inductive ExecutesLine (engine : Engine) (content : String) (line : Nat) (memory : Memory) :
    Reply → Prop where
  /-- The engine was halted before. -/
  | refused : engine.halted = true → ExecutesLine engine content line memory (engine.refuse line)
  /-- The line is faulty. -/
  | faulty (cause : LocatedFault) : engine.halted = false →
      Instruction.ofLine content line = .error cause →
      ExecutesLine engine content line memory (engine.stop (.fault cause))
  /-- There is no instruction on the line. -/
  | blank : engine.halted = false → Instruction.ofLine content line = .ok none →
      ExecutesLine engine content line memory
        { result := .ok (), output := [], events := [], engine }
  /-- There is an instruction on the line. -/
  | instruction (i : Instruction) : engine.halted = false →
      Instruction.ofLine content line = .ok (some i) →
      ExecutesLine engine content line memory (engine.execute i memory)

theorem executesLine (engine : Engine) (content : String) (line : Nat) (memory : Memory) :
    engine.ExecutesLine content line memory (engine.executeLine content line memory) := by
  cases hhalted : engine.halted with
  | true =>
    rw [executeLine_of_halted hhalted]
    exact .refused hhalted
  | false =>
    cases hline : Instruction.ofLine content line with
    | error cause =>
      rw [executeLine_of_error hhalted hline]
      exact .faulty cause hhalted hline
    | ok first =>
      cases first with
      | none =>
        rw [executeLine_of_none hhalted hline]
        exact .blank hhalted hline
      | some i =>
        rw [executeLine_of_some hhalted hline]
        exact .instruction i hhalted hline

/-! ## What a call leaves behind -/

/-- The engine behind a call that succeeded goes on as before: it is running, it has not flushed its
sink, and its cleanup has not been called. -/
structure Continues (before after : Engine) : Prop where
  /-- The engine is running. -/
  running : after.halted = false
  /-- Nothing was flushed. -/
  flushes : after.sink.flushes = before.sink.flushes
  /-- The cleanup is as it was. -/
  cleanup : after.cleanup = before.cleanup

theorem Continues.refl (h : engine.halted = false) : engine.Continues engine :=
  ⟨h, rfl, rfl⟩

theorem Continues.trans {first second third : Engine} (h : first.Continues second)
    (h' : second.Continues third) : first.Continues third :=
  ⟨h'.running, h'.flushes.trans h.flushes, h'.cleanup.trans h.cleanup⟩

/-- An instruction that succeeds leaves an engine that goes on. -/
theorem continues_execute (h : (engine.execute i memory).result = .ok ()) :
    engine.Continues (engine.execute i memory).engine := by
  obtain ⟨bytes, hrunning, -, hdone⟩ := execute_of_ok h
  rw [hdone]
  exact ⟨hrunning, rfl, rfl⟩

theorem continues_executeLine {content : String} {line : Nat}
    (h : (engine.executeLine content line memory).result = .ok ()) :
    engine.Continues (engine.executeLine content line memory).engine := by
  have hexecutes := engine.executesLine content line memory
  generalize engine.executeLine content line memory = reply at h hexecutes ⊢
  cases hexecutes with
  | refused => simp [refuse] at h
  | faulty => simp [stop] at h
  | blank hrunning => exact .refl hrunning
  | instruction i => exact continues_execute h

end Engine

end Stackline
