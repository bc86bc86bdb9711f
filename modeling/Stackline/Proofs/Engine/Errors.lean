import Stackline.Proofs.Engine.Disguise
import Stackline.Proofs.Program.Assembly

/-!
# Which errors there are

While there is room for the stack to grow, a running engine fails only because the program is at
fault or because output does not get in, and the error names the line where that was.

* `RunError.RaisedAt line cause` — the errors that name a line.
* `Engine.raisedAt_of_executeLine`, `Engine.raisedAt_of_executeAll` — the errors of a line and of a
  program.
* `Engine.line_executeAll` — the line that a program leaves the engine at.
-/

namespace Stackline

/-- The errors that a running engine raises at a line. -/
inductive RunError.RaisedAt (line : Nat) : RunError → Prop where
  /-- The program is at fault there. -/
  | fault (cause : Fault) : RaisedAt line (.fault (cause.at line))
  /-- Not all that the line prints gets in. -/
  | output (reason : String) : RaisedAt line (.output line reason)

theorem RunError.RaisedAt.ne_outOfMemory {line : Nat} {cause : RunError} (h : cause.RaisedAt line) :
    cause ≠ .outOfMemory := by
  rintro rfl
  exact nomatch h

theorem RunError.RaisedAt.line?_eq {line : Nat} {cause : RunError} (h : cause.RaisedAt line) :
    cause.line? = some line := by
  cases h with
  | fault => rfl
  | output => rfl

/-- With room for the stack to grow, only a fault of the program is in the way of an instruction. -/
theorem Instruction.exists_fault_of_granted {i : Instruction} {stack : Stack} {refusal : Refusal}
    (h : (i.effect .granted stack).printed = .error refusal) : ∃ cause, refusal = .fault cause := by
  cases refusal with
  | fault cause => exact ⟨cause, rfl⟩
  | outOfMemory => exact nomatch memory_of_outOfMemory h

namespace Engine

variable {engine : Engine} {cause : RunError}

/-- An instruction that fails on a running engine does so at its own line. -/
theorem raisedAt_of_execute (hrunning : engine.halted = false) {i : Instruction}
    (h : (engine.execute i).result = .error cause) : cause.RaisedAt i.line := by
  have hexecutes := engine.executes i .granted
  generalize engine.execute i = reply at h hexecutes
  cases hexecutes with
  | refused hhalted => rw [hrunning] at hhalted; exact nomatch hhalted
  | undone refusal _ hprinted =>
    obtain ⟨fault, rfl⟩ := Instruction.exists_fault_of_granted hprinted
    obtain rfl := Except.error.inj h
    exact .fault fault
  | unwritten bytes reason =>
    obtain rfl := Except.error.inj h
    exact .output reason
  | done => exact nomatch h

/-- A line that fails on a running engine does so at its own number. -/
theorem raisedAt_of_executeLine (hrunning : engine.halted = false) {content : String} {line : Nat}
    (h : (engine.executeLine content line).result = .error cause) : cause.RaisedAt line := by
  have hexecutes := engine.executesLine content line .granted
  generalize engine.executeLine content line = reply at h hexecutes
  cases hexecutes with
  | refused hhalted => rw [hrunning] at hhalted; exact nomatch hhalted
  | faulty fault _ hline =>
    obtain rfl := Except.error.inj h
    obtain rfl := Instruction.line_of_ofLine_eq_error hline
    exact .fault fault.fault
  | blank => exact nomatch h
  | instruction i _ hline =>
    rw [← Instruction.line_of_ofLine_eq_some hline]
    exact raisedAt_of_execute hrunning h

/-- A program that fails on a running engine does so at one of its lines. -/
theorem raisedAt_of_executeAll (hrunning : engine.halted = false) {program : Program}
    (h : (engine.executeAll program).result = .error cause) :
    ∃ i ∈ program, cause.RaisedAt i.line := by
  induction program generalizing engine with
  | nil => exact nomatch h
  | cons i rest ih =>
    rw [executeAll] at h
    -- The first instruction fails, or it succeeds and one of the others fails.
    rcases Reply.andThen_eq_error h with hfirst | ⟨hfirst, hrest⟩
    · exact ⟨i, List.mem_cons_self, raisedAt_of_execute hrunning hfirst⟩
    · obtain ⟨j, hmem, hraised⟩ := ih (continues_execute hfirst).running hrest
      exact ⟨j, List.mem_cons_of_mem i hmem, hraised⟩

/-- A failure to finish belongs to the latest line. -/
theorem raisedAt_finish (h : engine.finish.result = .error cause) : cause.RaisedAt engine.line := by
  rw [finish] at h
  cases hflush : engine.sink.flush.1 with
  | none => simp [hflush] at h
  | some reason =>
    obtain rfl : .output engine.line reason = cause := by simpa [hflush] using h
    exact .output reason

/-- An engine stays at the line of the last instruction that succeeded. -/
theorem line_execute {i : Instruction} (h : (engine.execute i).result = .ok ()) :
    (engine.execute i).engine.line = i.line := by
  obtain ⟨bytes, -, -, hdone⟩ := execute_of_ok h
  rw [hdone]
  rfl

/-- A program that succeeds leaves the engine at its last line. -/
theorem line_executeAll {program : Program} (h : (engine.executeAll program).result = .ok ()) :
    (engine.executeAll program).engine.line =
      (program.getLast?.map Instruction.line).getD engine.line := by
  induction program generalizing engine with
  | nil => rfl
  | cons i rest ih =>
    rw [executeAll] at h ⊢
    obtain ⟨hfirst, hrest⟩ := Reply.andThen_eq_ok h
    rw [Reply.andThen_of_ok hfirst, ih hrest, line_execute hfirst, List.getLast?_cons]
    cases rest.getLast? <;> rfl

end Engine

end Stackline
