import Stackline.Proofs.Engine.Sequence
import Stackline.Proofs.Source.Lines
import Stackline.Run

/-!
# Runs and the lines of a source

A run reads a line and executes it, in turn. What comes of it is what comes of reading all the lines
first and executing them then, up to the first error.

* `Engine.conclude engine ending` — the call behind the last line: the end of the run, or the halt
  that a failed read calls for.
* `Event.ofSource event` — the news that a run has of its source, and not of its engine.
* `Outcome.Reports outcome reply` — a run comes to what its calls come to.
* `Engine.run_reports` — a run comes to what the lines of its source come to.
-/

namespace Stackline

/-- The call behind the last line of a source. -/
def Engine.conclude (engine : Engine) : Except SourceError Unit → Reply
  | .ok () => engine.finish
  | .error cause => engine.stop (.source cause)

/-- Whether something happened to the source of a run. -/
def Event.ofSource : Event → Bool
  | .sourceClosed _ => true
  | .endOfProgram _ => true
  | _ => false

/-- The news of a list that are not of the source. -/
def Event.news (events : List Event) : List Event :=
  events.filter fun event => !event.ofSource

/-- The outcome of a run is the answer to its calls, and the news of the engine are the news of
these calls. -/
structure Outcome.Reports (outcome : Outcome) (reply : Reply) : Prop where
  /-- The run went well if the calls did. -/
  result : outcome.result = reply.result
  /-- The bytes are those of the calls. -/
  output : outcome.output = reply.output
  /-- The news of the engine are those of the calls. -/
  events : Event.news outcome.events = reply.events
  /-- The engine is the one behind the calls. -/
  engine : outcome.engine = reply.engine

/-! ## News -/

namespace Event

@[simp]
theorem news_append (events rest : List Event) :
    news (events ++ rest) = news events ++ news rest := by
  simp [news]

@[simp]
theorem news_closing (before now : Source) : news (before.closing now) = [] := by
  unfold Source.closing
  split <;> rfl

/-- What happened in calls is no news of the source. -/
theorem news_of_ofCall {events : List Event} (h : ∀ event ∈ events, event.ofCall = true) :
    news events = events := by
  refine List.filter_eq_self.2 ?_
  intro event hmem
  have hcall := h event hmem
  cases event <;> simp_all [ofCall, ofSource]

end Event

/-! ## Runs -/

/-- A run that a call has just ended comes to what this call came to. -/
theorem Outcome.reports_failed {cause : RunError} {reply : Reply} (source : Source)
    (hresult : reply.result = .error cause) (hnews : Event.news reply.events = reply.events) :
    (Outcome.failed cause reply.output reply.events reply.engine source).Reports reply where
  result := hresult.symm
  output := rfl
  events := by simp [Outcome.failed, hnews]
  engine := rfl

/-- A run behind a call that succeeded comes to what the two come to. -/
theorem Outcome.Reports.behind {outcome : Outcome} {reply : Reply} {next : Engine → Reply}
    (h : outcome.Reports (next reply.engine)) (hresult : reply.result = .ok ())
    (hnews : Event.news reply.events = reply.events) :
    (outcome.behind reply.output reply.events).Reports (reply.andThen next) := by
  rw [Reply.andThen_of_ok hresult]
  exact
    { result := h.result
      output := congrArg (reply.output ++ ·) h.output
      events := by rw [Outcome.behind, Event.news_append, hnews, h.events]
      engine := h.engine }

/-- A run comes to what the lines of its source come to, and the call behind the last of them. -/
theorem Engine.run_reports {s last : Source} {lines : List SourceLine}
    {ending : Except SourceError Unit} (h : s.Yields lines ending last) (engine : Engine) :
    (engine.run s).Reports ((engine.executeLines lines).andThen (conclude · ending)) := by
  induction h generalizing engine with
  | ended hnext =>
    rw [run_of_end hnext, executeLines, idle_andThen]
    refine ⟨rfl, rfl, ?_, rfl⟩
    rw [Event.news_append, Event.news_closing]
    rfl
  | failed hnext =>
    rw [run_of_error hnext, executeLines, idle_andThen]
    exact @Outcome.reports_failed _ (engine.stop _) _ rfl
      (Event.news_of_ofCall (Event.ofCall_stop (by simp)))
  | @line s rest last line lines ending hnext _ ih =>
    have hnews :=
      Event.news_of_ofCall (Event.ofCall_executeLine engine line.text line.number .granted)
    rw [executeLines, Reply.andThen_assoc]
    -- A run stops at the first error as the calls do.
    cases hresult : (engine.executeLine line.text line.number).result with
    | error cause =>
      rw [run_of_failing_line hnext hresult, Reply.andThen_of_error hresult]
      exact Outcome.reports_failed rest hresult hnews
    | ok =>
      rw [run_of_line hnext hresult]
      exact (ih _).behind hresult hnews

end Stackline
