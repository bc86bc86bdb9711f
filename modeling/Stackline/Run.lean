import Stackline.Engine
import Stackline.Source

/-!
# Runs

A run takes a program from a source line by line and executes each line as soon as it is read. It
ends at the end of the source or at the first error, and the source is closed either way.
-/

namespace Stackline

/-- What came of a run. -/
structure Outcome where
  /-- Whether the run went well. -/
  result : Except RunError Unit
  /-- The bytes that the sink took. -/
  output : List UInt8
  /-- What happened meanwhile. -/
  events : List Event
  /-- The engine behind the run. -/
  engine : Engine
  /-- The source behind the run. -/
  source : Source

/-- The outcome of a run that printed something and let something be known before. -/
def Outcome.behind (outcome : Outcome) (output : List UInt8) (events : List Event) : Outcome :=
  { outcome with output := output ++ outcome.output, events := events ++ outcome.events }

/-- The news of a source that was open before and is closed now. -/
def Source.closing (before now : Source) : List Event :=
  if before.isClosed = false ∧ now.isClosed = true then [.sourceClosed now.count] else []

/-- The source behind a run that went wrong: it is closed if the cleanup was called. -/
def Source.afterCleanup (source : Source) (engine : Engine) : Source :=
  if engine.cleanup.calls = [] then source else source.close

/-- The outcome of a run that an error has just ended. -/
def Outcome.failed (cause : RunError) (output : List UInt8) (events : List Event)
    (engine : Engine) (source : Source) : Outcome :=
  let closed := source.afterCleanup engine
  { result := .error cause, output, events := events ++ source.closing closed, engine,
    source := closed }

/-- Runs what is left of a program. -/
def Engine.run (engine : Engine) (source : Source) : Outcome :=
  match h : source.next with
  | (.error cause, rest) =>
    let (engine, events) := engine.halt (.source cause)
    Outcome.failed (.source cause) [] events engine rest
  | (.ok none, rest) =>
    -- The source has closed itself, so its news comes before the engine's.
    let reply := engine.finish
    { result := reply.result
      output := reply.output
      events := source.closing rest ++ .endOfProgram rest.count :: reply.events
      engine := reply.engine
      source := rest }
  | (.ok (some line), rest) =>
    match engine.executeLine line.text line.number with
    | { result := .error cause, output, events, engine } =>
      Outcome.failed cause output events engine rest
    | { result := .ok (), output, events, engine } =>
      have : rest.weight < source.weight := by
        simpa [h] using Source.weight_next_lt (s := source) (by simp [h])
      (engine.run rest).behind output events
termination_by source.weight

/-- A failed read ends a run. -/
theorem Engine.run_of_error {engine : Engine} {source rest : Source} {cause : SourceError}
    (h : source.next = (.error cause, rest)) :
    engine.run source =
      Outcome.failed (.source cause) [] (engine.halt (.source cause)).2
        (engine.halt (.source cause)).1 rest := by
  rw [Engine.run]
  split <;> simp_all

/-- The end of the source ends a run. -/
theorem Engine.run_of_end {engine : Engine} {source rest : Source}
    (h : source.next = (.ok none, rest)) :
    engine.run source =
      { result := engine.finish.result
        output := engine.finish.output
        events := source.closing rest ++ .endOfProgram rest.count :: engine.finish.events
        engine := engine.finish.engine
        source := rest } := by
  rw [Engine.run]
  split <;> simp_all

/-- A line that fails ends a run. -/
theorem Engine.run_of_failing_line {engine : Engine} {source rest : Source} {line : SourceLine}
    {cause : RunError} (h : source.next = (.ok (some line), rest))
    (hfail : (engine.executeLine line.text line.number).result = .error cause) :
    engine.run source =
      Outcome.failed cause (engine.executeLine line.text line.number).output
        (engine.executeLine line.text line.number).events
        (engine.executeLine line.text line.number).engine rest := by
  rw [Engine.run]
  -- First by what the source answers, then by what the line does.
  split <;> simp_all
  split <;> simp_all

/-- A line that succeeds leaves the rest of the program to run. -/
theorem Engine.run_of_line {engine : Engine} {source rest : Source} {line : SourceLine}
    (h : source.next = (.ok (some line), rest))
    (hok : (engine.executeLine line.text line.number).result = .ok ()) :
    engine.run source =
      ((engine.executeLine line.text line.number).engine.run rest).behind
        (engine.executeLine line.text line.number).output
        (engine.executeLine line.text line.number).events := by
  rw [Engine.run]
  split <;> simp_all
  split <;> simp_all

/-- Runs a program. -/
def run (source : Source) (sink : Sink) : Outcome :=
  (Engine.start sink).run source

end Stackline
