import Stackline.Proofs.Engine.Disguise

/-!
# Engines at other lines

Two engines that agree in everything but the lines that they are at, and the same lines executed
under other numbers. In contrast to a disguise, the line of the second engine is not told by that of
the first: instructions that change nothing else may have been executed in between.

* `SourceLine.renumber number line` — the line with the other number.
* `Engine.Moved number engine twin` — the engines agree but for their lines; where a flush could
  tell, the line of the second is that of the first with the other number.
* `Reply.Moved number reply twin` — answers of such engines that agree but for the numbers.
* `Engine.Moved.executeLine`, `Engine.Moved.executeLines`, `Engine.Moved.finish` — such engines
  answer alike.
-/

namespace Stackline

/-- The line with the other number. -/
def SourceLine.renumber (number : Nat → Nat) (line : SourceLine) : SourceLine :=
  { line with number := number line.number }

/-- Two engines that agree but for their lines. A flush that fails is charged to the line of the
engine, so where one could fail, the lines correspond. -/
structure Engine.Moved (number : Nat → Nat) (engine twin : Engine) : Prop where
  /-- The engines agree but for their lines. -/
  same : twin = engine.turnTo twin.line
  /-- The lines correspond, or no flush fails. -/
  line : twin.line = number engine.line ∨ engine.sink.flushError = none

/-- Two answers that agree but for the numbers of the lines, and for what happened meanwhile. -/
structure Reply.Moved (number : Nat → Nat) (reply twin : Reply) : Prop where
  /-- The results agree but for the line that an error names. -/
  result : twin.result = reply.result.mapError (·.renumber number)
  /-- The bytes agree. -/
  output : twin.output = reply.output
  /-- The engines behind the calls agree but for their lines. -/
  engine : reply.engine.Moved number twin.engine

/-- Calls on engines that agree do so one behind the other. -/
theorem Reply.Moved.andThen {number : Nat → Nat} {reply twin : Reply} {next next' : Engine → Reply}
    (h : reply.Moved number twin)
    (hnext : reply.result = .ok () → twin.result = .ok () →
      (next reply.engine).Moved number (next' twin.engine)) :
    (reply.andThen next).Moved number (twin.andThen next') := by
  have htwin := h.result
  cases hresult : reply.result with
  | error cause =>
    rw [hresult] at htwin
    rw [andThen_of_error hresult, andThen_of_error htwin]
    exact h
  | ok =>
    rw [hresult] at htwin
    have hbehind := hnext hresult htwin
    rw [andThen_of_ok hresult, andThen_of_ok htwin]
    exact
      { result := hbehind.result
        output := by rw [h.output, hbehind.output]
        engine := hbehind.engine }

namespace Engine

variable {number : Nat → Nat} {engine twin : Engine}

/-- A running engine turns to the line of an instruction before it executes it, so it does not
matter at which line it has been. -/
theorem execute_turnTo (h : engine.halted = false) (line : Nat) (i : Instruction)
    (memory : Memory) : (engine.turnTo line).execute i memory = engine.execute i memory := by
  rw [execute_of_running h, @execute_of_running (engine.turnTo line) i memory h]
  rfl

theorem halt_turnTo (engine : Engine) (line : Nat) (cause : RunError) :
    ((engine.turnTo line).halt cause).1 = (engine.halt cause).1.turnTo line := by
  unfold halt
  split <;> rfl

@[simp]
theorem flushError_halt (engine : Engine) (cause : RunError) :
    (engine.halt cause).1.sink.flushError = engine.sink.flushError := by
  unfold halt
  split <;> rfl

@[simp]
theorem line_halt (engine : Engine) (cause : RunError) :
    (engine.halt cause).1.line = engine.line := by
  unfold halt
  split <;> rfl

namespace Moved

/-- An engine agrees with itself at every line that it can be taken to. -/
theorem turnTo {line : Nat} (h : line = number engine.line ∨ engine.sink.flushError = none) :
    engine.Moved number (engine.turnTo line) :=
  ⟨rfl, h⟩

/-- Where the one engine goes on to another line and no flush fails, the engines still agree. -/
theorem trans_turnTo (h : engine.Moved number twin) (hflush : engine.sink.flushError = none)
    (line : Nat) : engine.Moved number (twin.turnTo line) := by
  rw [h.same]
  exact .turnTo (.inr hflush)

theorem halted_eq (h : engine.Moved number twin) : twin.halted = engine.halted := by
  rw [h.same]
  rfl

theorem refuse (h : engine.Moved number twin) (line : Nat) :
    (engine.refuse line).Moved number (twin.refuse (number line)) :=
  ⟨rfl, rfl, h⟩

/-- Engines that agree are halted alike. -/
theorem stop (h : engine.Moved number twin) (cause : RunError) :
    (engine.stop cause).Moved number (twin.stop (cause.renumber number)) := by
  have hhalt : ((engine.turnTo twin.line).halt (cause.renumber number)).1 =
      (engine.halt cause).1.turnTo twin.line := by
    rw [halt_turnTo]
    by_cases hmemory : cause = .outOfMemory
    · subst hmemory
      rfl
    · simp [halt, hmemory]
  refine ⟨rfl, rfl, ?_⟩
  rw [h.same, Engine.stop, Engine.stop, hhalt]
  exact .turnTo (by simpa using h.line)

/-- Running engines that agree execute an instruction alike. -/
theorem execute (h : engine.Moved number twin) (hrunning : engine.halted = false)
    (i : Instruction) :
    (engine.execute i).Moved number (twin.execute (i.renumber number)) := by
  -- The second engine may as well be at the line that corresponds.
  have htwin : twin.execute (i.renumber number) =
      (engine.execute i).disguised number (renumber number) := by
    rw [h.same, execute_turnTo hrunning, ← (disguise_renumber number).execute]
    exact (execute_turnTo hrunning (number engine.line) (i.renumber number) .granted).symm
  rw [htwin]
  exact ⟨rfl, rfl, .turnTo (.inl rfl)⟩

/-- Engines that agree execute a line alike. -/
theorem executeLine (h : engine.Moved number twin) (content : String) (line : Nat) :
    (engine.executeLine content line).Moved number
      (twin.executeLine content (number line)) := by
  have hread := Instruction.ofLine_renumber number content line
  have hexecutes := engine.executesLine content line .granted
  generalize engine.executeLine content line = reply at hexecutes ⊢
  cases hexecutes with
  | refused hhalted =>
    rw [executeLine_of_halted (h.halted_eq.trans hhalted)]
    exact h.refuse line
  | faulty cause hrunning hline =>
    rw [hline] at hread
    rw [executeLine_of_error (h.halted_eq.trans hrunning) hread]
    exact h.stop (.fault cause)
  | blank hrunning hline =>
    rw [hline] at hread
    rw [executeLine_of_none (h.halted_eq.trans hrunning) hread]
    exact ⟨rfl, rfl, h⟩
  | instruction i hrunning hline =>
    rw [hline] at hread
    rw [executeLine_of_some (h.halted_eq.trans hrunning) hread]
    exact h.execute hrunning i

/-- Engines that agree execute lines alike. -/
theorem executeLines (h : engine.Moved number twin) (lines : List SourceLine) :
    (engine.executeLines lines).Moved number
      (twin.executeLines (lines.map (·.renumber number))) := by
  -- The engines behind each line agree again.
  induction lines generalizing engine twin with
  | nil => exact ⟨rfl, rfl, h⟩
  | cons line rest ih =>
    have hfirst := h.executeLine line.text line.number
    exact hfirst.andThen fun _ _ => ih hfirst.engine

/-- Engines that agree are finished alike: either the lines correspond that a failed flush would be
charged to, or the flush does not fail. -/
theorem finish (h : engine.Moved number twin) : engine.finish.Moved number twin.finish := by
  obtain ⟨hsame, hline⟩ := h
  generalize twin.line = line at hsame hline
  subst hsame
  have hresult : (engine.turnTo line).finish.result =
      engine.finish.result.mapError (·.renumber number) := by
    rcases hline with rfl | hflush
    · exact congrArg Reply.result (finish_renumber number engine)
    · simp only [Engine.finish, Engine.turnTo, Sink.flush, hflush]
      rfl
  exact ⟨hresult, rfl, .turnTo hline⟩

end Moved

end Engine

end Stackline
