import Stackline.Program
import Stackline.Proofs.Engine.Execution

/-!
# Calls in sequence

Calls to an engine one after the other, where the first error is the last call.

* `Reply.andThen reply next` — the call `next` behind an answered one, unless that one failed.
* `Engine.executeAll engine program` — the instructions of a program.
* `Engine.executeLines engine lines` — the lines that a source has handed out.
* `Event.ofCall event` — what can happen in such calls (`ofCall_executeAll`).
-/

namespace Stackline

namespace Reply

/-- A call behind an answered one. It is not made if that one failed. -/
def andThen (reply : Reply) (next : Engine → Reply) : Reply :=
  match reply.result with
  | .error _ => reply
  | .ok () =>
    { result := (next reply.engine).result
      output := reply.output ++ (next reply.engine).output
      events := reply.events ++ (next reply.engine).events
      engine := (next reply.engine).engine }

variable {reply : Reply} {next later : Engine → Reply}

theorem andThen_of_error {cause : RunError} (h : reply.result = .error cause) :
    reply.andThen next = reply := by
  rw [andThen, h]

theorem andThen_of_ok (h : reply.result = .ok ()) :
    reply.andThen next =
      { result := (next reply.engine).result
        output := reply.output ++ (next reply.engine).output
        events := reply.events ++ (next reply.engine).events
        engine := (next reply.engine).engine } := by
  rw [andThen, h]

/-- Two calls that agree on the engine behind a success agree behind the answer. -/
theorem andThen_congr (h : reply.result = .ok () → next reply.engine = later reply.engine) :
    reply.andThen next = reply.andThen later := by
  cases hresult : reply.result with
  | error cause => rw [andThen_of_error hresult, andThen_of_error hresult]
  | ok => rw [andThen_of_ok hresult, andThen_of_ok hresult, h hresult]

/-- A call that prints nothing adds nothing to the output. -/
theorem output_andThen (h : ∀ engine, (next engine).output = []) :
    (reply.andThen next).output = reply.output := by
  cases hresult : reply.result with
  | error cause => rw [andThen_of_error hresult]
  | ok =>
    rw [andThen_of_ok hresult, h]
    exact List.append_nil reply.output

/-- Where a call behind another one succeeds, both have succeeded. -/
theorem andThen_eq_ok (h : (reply.andThen next).result = .ok ()) :
    reply.result = .ok () ∧ (next reply.engine).result = .ok () := by
  cases hresult : reply.result with
  | error cause =>
    rw [andThen_of_error hresult, hresult] at h
    exact nomatch h
  | ok =>
    rw [andThen_of_ok hresult] at h
    exact ⟨rfl, h⟩

/-- Where a call behind another one fails, one of the two has failed. -/
theorem andThen_eq_error {cause : RunError} (h : (reply.andThen next).result = .error cause) :
    reply.result = .error cause ∨
      reply.result = .ok () ∧ (next reply.engine).result = .error cause := by
  cases hresult : reply.result with
  | error first =>
    rw [andThen_of_error hresult, hresult] at h
    exact .inl h
  | ok =>
    rw [andThen_of_ok hresult] at h
    exact .inr ⟨rfl, h⟩

/-- Of three calls it does not matter which two are taken together. -/
theorem andThen_assoc :
    (reply.andThen next).andThen later =
      reply.andThen fun engine => (next engine).andThen later := by
  -- The first error decides, wherever it is.
  cases hresult : reply.result with
  | error cause => rw [andThen_of_error hresult, andThen_of_error hresult, andThen_of_error hresult]
  | ok =>
    rw [andThen_of_ok hresult, andThen_of_ok hresult]
    cases hnext : (next reply.engine).result with
    | error cause =>
      rw [@andThen_of_error (next reply.engine) later _ hnext, andThen_of_error rfl]
      rw [hnext]
    | ok =>
      rw [@andThen_of_ok (next reply.engine) later hnext, andThen_of_ok rfl]
      simp only [List.append_assoc]

end Reply

namespace Engine

/-- The answer to no call at all. -/
def idle (engine : Engine) : Reply :=
  { result := .ok (), output := [], events := [], engine }

@[simp]
theorem idle_andThen (engine : Engine) (next : Engine → Reply) :
    engine.idle.andThen next = next engine := by
  rw [Reply.andThen_of_ok rfl]
  rfl

/-- A call that halts the engine is the last one. -/
@[simp]
theorem stop_andThen (engine : Engine) (cause : RunError) (output : List UInt8)
    (events : List Event) (next : Engine → Reply) :
    (engine.stop cause output events).andThen next = engine.stop cause output events :=
  rfl

/-! ## Programs and lines -/

/-- Executes instructions in order, up to the first error. -/
def executeAll (engine : Engine) : Program → Reply
  | [] => engine.idle
  | i :: rest => (engine.execute i).andThen (executeAll · rest)

/-- Executes lines in order, up to the first error. -/
def executeLines (engine : Engine) : List SourceLine → Reply
  | [] => engine.idle
  | line :: rest => (engine.executeLine line.text line.number).andThen (executeLines · rest)

theorem executeAll_append (engine : Engine) (program rest : Program) :
    engine.executeAll (program ++ rest) =
      (engine.executeAll program).andThen (executeAll · rest) := by
  induction program generalizing engine with
  | nil => rw [List.nil_append, executeAll, idle_andThen]
  | cons i program ih =>
    rw [List.cons_append, executeAll, executeAll, Reply.andThen_assoc]
    exact Reply.andThen_congr fun _ => ih _

theorem executeLines_append (engine : Engine) (lines rest : List SourceLine) :
    engine.executeLines (lines ++ rest) =
      (engine.executeLines lines).andThen (executeLines · rest) := by
  induction lines generalizing engine with
  | nil => rw [List.nil_append, executeLines, idle_andThen]
  | cons line lines ih =>
    rw [List.cons_append, executeLines, executeLines, Reply.andThen_assoc]
    exact Reply.andThen_congr fun _ => ih _

/-- Instructions that all succeed leave an engine that goes on. -/
theorem continues_executeAll {engine : Engine} (hrunning : engine.halted = false)
    {program : Program} (h : (engine.executeAll program).result = .ok ()) :
    engine.Continues (engine.executeAll program).engine := by
  -- Every instruction finds an engine that goes on, so the engine is arbitrary.
  induction program generalizing engine with
  | nil => exact .refl hrunning
  | cons i rest ih =>
    rw [executeAll] at h ⊢
    obtain ⟨hresult, hrest⟩ := Reply.andThen_eq_ok h
    have hfirst := continues_execute hresult
    rw [Reply.andThen_of_ok hresult]
    exact hfirst.trans (ih hfirst.running hrest)

end Engine

/-! ## What happens meanwhile -/

namespace Event

/-- Whether something happened to an engine between the start and the end of a run. -/
def ofCall : Event → Bool
  | .executing _ => true
  | .halting _ => true
  | .allocationFailed => true
  | _ => false

theorem ofCall_stop {engine : Engine} {cause : RunError} {output : List UInt8}
    {events : List Event} (h : ∀ event ∈ events, event.ofCall = true) :
    ∀ event ∈ (engine.stop cause output events).events, event.ofCall = true := by
  have hhalt : ∀ event ∈ (engine.halt cause).2, event.ofCall = true := by
    unfold Engine.halt
    split <;> simp [ofCall]
  intro event hmem
  rcases List.mem_append.1 hmem with hmem | hmem
  · exact h event hmem
  · exact hhalt event hmem

theorem ofCall_execute (engine : Engine) (i : Instruction) (memory : Memory) :
    ∀ event ∈ (engine.execute i memory).events, event.ofCall = true := by
  have hexecutes := engine.executes i memory
  generalize engine.execute i memory = reply at hexecutes ⊢
  cases hexecutes with
  | refused => simp [Engine.refuse]
  | undone => exact ofCall_stop (by simp [ofCall])
  | unwritten => exact ofCall_stop (by simp [ofCall])
  | done => simp [ofCall]

theorem ofCall_executeLine (engine : Engine) (content : String) (line : Nat) (memory : Memory) :
    ∀ event ∈ (engine.executeLine content line memory).events, event.ofCall = true := by
  have hexecutes := engine.executesLine content line memory
  generalize engine.executeLine content line memory = reply at hexecutes ⊢
  cases hexecutes with
  | refused => simp [Engine.refuse]
  | faulty => exact ofCall_stop (by simp)
  | blank => simp
  | instruction i => exact ofCall_execute engine i memory

/-- All that happens when a program is executed happens in calls. -/
theorem ofCall_executeAll (engine : Engine) (program : Program) :
    ∀ event ∈ (engine.executeAll program).events, event.ofCall = true := by
  induction program generalizing engine with
  | nil => simp [Engine.executeAll, Engine.idle]
  | cons i rest ih =>
    have hfirst := ofCall_execute engine i .granted
    rw [Engine.executeAll]
    cases hresult : (engine.execute i).result with
    | error cause =>
      rw [Reply.andThen_of_error hresult]
      exact hfirst
    | ok =>
      rw [Reply.andThen_of_ok hresult]
      intro event hmem
      rcases List.mem_append.1 hmem with hmem | hmem
      · exact hfirst event hmem
      · exact ih _ event hmem

end Event

end Stackline
