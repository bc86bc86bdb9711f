import Stackline.Proofs.Engine.Lines
import Stackline.Proofs.Run.Lines

/-!
# The news of a run

What a run lets an observer know, from the first instruction to the closed source. The news of the
instructions come first, then those of the end, of which there are two forms: the run is taken down
and its cleanup closes the source, or the source closes at its end and the run is finished.

* `Engine.run_of_hands` — a run is at the line that its source is at, as long as lines succeed.
* `Outcome.Ends outcome sink result events count` — how a run ends.
* `run_of_failed_line` — a run in which a line fails, by what the lines come to.
* `ends_of_failed_line`, `ends_of_failed_read`, `ends_of_no_failure` — the three ways in which a run
  goes.
* `log_of_run` — the news of every run, and what becomes of its source and its sink.
-/

namespace Stackline

theorem Outcome.behind_behind (outcome : Outcome) (output output' : List UInt8)
    (events events' : List Event) :
    (outcome.behind output' events').behind output events =
      outcome.behind (output ++ output') (events ++ events') := by
  simp only [behind, List.append_assoc]

/-- Where the cleanup was called, the source is closed, and that is the last news. -/
theorem Outcome.failed_of_called {cause : RunError} {output : List UInt8} {events : List Event}
    {engine : Engine} {source : Source} (hopen : source.isClosed = false)
    (hcalled : engine.cleanup.calls ≠ []) :
    failed cause output events engine source =
      { result := .error cause, output, events := events ++ [.sourceClosed source.count], engine,
        source := source.close } := by
  simp [failed, Source.afterCleanup, hcalled, Source.closing, hopen]

namespace Engine

/-- A run that is taken down calls its cleanup. -/
theorem called_of_tornDown {sink : Sink} {engine : Engine} (h : (start sink).TornDown engine) :
    engine.cleanup.calls ≠ [] := by
  rw [h.cleanup]
  exact List.cons_ne_nil _ _

/-- A run is at the line that its source is at, as long as lines succeed. -/
theorem run_of_hands {engine : Engine} {s rest : Source} {lines : List SourceLine}
    (h : s.Hands lines rest) (hok : (engine.executeLines lines).result = .ok ()) :
    engine.run s =
      ((engine.executeLines lines).engine.run rest).behind (engine.executeLines lines).output
        (engine.executeLines lines).events := by
  -- On the lines, each of which leaves another engine to go on.
  induction h generalizing engine with
  | nothing s => rfl
  | @line s rest last line lines hnext _ ih =>
    rw [executeLines] at hok ⊢
    obtain ⟨hfirst, hrest⟩ := Reply.andThen_eq_ok hok
    rw [Reply.andThen_of_ok hfirst, run_of_line hnext hfirst, ih hrest, Outcome.behind_behind]

end Engine

/-- How a run ends. The sink is flushed once, and the source is closed when it has counted the lines
that it has handed out. -/
structure Outcome.Ends (outcome : Outcome) (sink : Sink) (result : Except RunError Unit)
    (events : List Event) (count : Nat) : Prop where
  /-- Whether the run went well. -/
  result : outcome.result = result
  /-- What happened meanwhile. -/
  events : outcome.events = events
  /-- The sink was flushed once. -/
  flushes : outcome.engine.sink.flushes = sink.flushes + 1
  /-- The source is closed. -/
  source : outcome.source = { feed := none, count }

variable {sink : Sink} {feed : Feed} {lines : List SourceLine} {ending : Except SourceError Unit}
  {last : Source}

/-- A run in which a line fails comes to what its lines come to, and has closed the source when that
has counted the lines up to the failing one. -/
theorem run_of_failed_line {cause : RunError}
    (hyields : (Source.ofFeed feed).Yields lines ending last)
    (h : ((Engine.start sink).executeLines lines).result = .error cause) :
    ∃ earlier line later, lines = earlier ++ line :: later ∧
      ((Engine.start sink).executeLines earlier).result = .ok () ∧
      (((Engine.start sink).executeLines earlier).engine.executeLine line.text line.number).result =
        .error cause ∧
      line.number = earlier.length + 1 ∧ cause.RaisedAt line.number ∧
      run (Source.ofFeed feed) sink =
        { result := .error cause
          output := ((Engine.start sink).executeLines lines).output
          events := ((Engine.start sink).executeLines lines).events ++ [.sourceClosed line.number]
          engine := ((Engine.start sink).executeLines lines).engine
          source := { feed := none, count := line.number } } := by
  obtain ⟨earlier, line, later, rfl, hearlier, hfails⟩ := Engine.exists_failing_line h
  obtain ⟨middle, rest, hhands, hnext, hrest, hnumber, hcount⟩ := hyields.exists_line rfl
  have hbefore := Engine.continues_executeLines rfl hearlier
  have htornDown := hbefore.trans_tornDown (Engine.tornDown_of_executeLine hbefore.running hfails)
  refine ⟨earlier, line, later, rfl, hearlier, hfails, ?_,
    Engine.raisedAt_of_executeLine hbefore.running hfails, ?_⟩
  · rw [hnumber]
    exact congrArg (· + 1) (Nat.zero_add _)
  · have hrun := Engine.run_of_hands hhands hearlier
    rw [Engine.run_of_failing_line hnext hfails,
      Outcome.failed_of_called hrest (Engine.called_of_tornDown htornDown), hcount,
      ← hnumber] at hrun
    rw [run, hrun, Engine.executeLines_of_failing_line hearlier hfails,
      Reply.andThen_of_ok hearlier]
    simp only [Outcome.behind, Source.close, hcount, ← hnumber, List.append_assoc]

/-- A run in which a line fails is taken down at this line. -/
theorem ends_of_failed_line {cause : RunError}
    (hyields : (Source.ofFeed feed).Yields lines ending last)
    (h : ((Engine.start sink).executeLines lines).result = .error cause) :
    ∃ n, 0 < n ∧ n ≤ lines.length ∧ cause.RaisedAt n ∧
      (run (Source.ofFeed feed) sink).Ends sink (.error cause)
        ((Program.onLines (lines.take n)).map .executing ++
          [.halting cause, .sourceClosed n]) n := by
  obtain ⟨earlier, line, later, rfl, hearlier, hfails, hnumber, hraised, hrun⟩ :=
    run_of_failed_line hyields h
  have hbefore := Engine.continues_executeLines rfl hearlier
  have htornDown := hbefore.trans_tornDown (Engine.tornDown_of_executeLine hbefore.running hfails)
  -- The source has counted the lines up to the one that fails, and no others.
  have htake : (earlier ++ line :: later).take line.number = earlier ++ [line] := by
    rw [List.append_cons, List.take_left' (by rw [hnumber, List.length_append]; rfl)]
  refine ⟨line.number, ?_, ?_, hraised, ?_⟩
  · omega
  · rw [hnumber, List.length_append, List.length_cons]
    omega
  · rw [hrun, htake, Engine.executeLines_of_failing_line hearlier hfails,
      Reply.andThen_of_ok hearlier]
    exact
      { result := rfl
        events := by
          rw [Engine.events_failing_line rfl hearlier hfails, List.append_assoc]
          rfl
        flushes := htornDown.flushes
        source := rfl }

/-- A run in which no line fails is taken down where a read fails. -/
theorem ends_of_failed_read {cause : SourceError}
    (hyields : (Source.ofFeed feed).Yields lines (.error cause) last)
    (h : ((Engine.start sink).executeLines lines).result = .ok ()) :
    (∃ reason, cause = .unread (lines.length + 1) reason) ∧
      (run (Source.ofFeed feed) sink).Ends sink (.error (.source cause))
        ((Program.onLines lines).map .executing ++
          [.halting (.source cause), .sourceClosed lines.length]) lines.length := by
  obtain ⟨middle, hhands, hopen, hcount, hmiddle⟩ := hyields.exists_ending rfl
  have hcount : middle.count = lines.length := hcount.trans (Nat.zero_add _)
  cases hmiddle with
  | failed hnext =>
    -- The line that could not be read is not counted.
    obtain ⟨hcause, hbehind, hlast⟩ := Source.next_eq_error hopen hnext
    rw [hcount] at hcause hbehind
    have hbefore := Engine.continues_executeLines rfl h
    have htornDown : (Engine.start sink).TornDown
        (((Engine.start sink).executeLines lines).engine.halt (.source cause)).1 :=
      hbefore.trans_tornDown (@Engine.tornDown_stop _ _ (.source cause) [] []
        (.refl hbefore.running) nofun)
    have hrun := Engine.run_of_hands hhands h
    rw [Engine.run_of_error hnext,
      Outcome.failed_of_called hlast (Engine.called_of_tornDown htornDown),
      Engine.events_executeLines rfl h, hbehind] at hrun
    refine ⟨hcause, ?_⟩
    rw [run, hrun]
    exact
      { result := rfl
        events := rfl
        flushes := htornDown.flushes
        source := congrArg (Source.mk none) hbehind }

/-- A run in which nothing fails is finished. -/
theorem ends_of_no_failure (hyields : (Source.ofFeed feed).Yields lines (.ok ()) last)
    (h : ((Engine.start sink).executeLines lines).result = .ok ()) :
    (run (Source.ofFeed feed) sink).Ends sink
      (match sink.flushError with
        | none => .ok ()
        | some reason =>
          .error (.output ((Engine.start sink).executeLines lines).engine.line reason))
      ((Program.onLines lines).map .executing ++
        [.sourceClosed lines.length, .endOfProgram lines.length,
          .runFinished ((Engine.start sink).executeLines lines).engine.stack.size])
      lines.length := by
  obtain ⟨middle, hhands, hopen, hcount, hmiddle⟩ := hyields.exists_ending rfl
  have hcount : middle.count = lines.length := hcount.trans (Nat.zero_add _)
  cases hmiddle with
  | ended hnext =>
    obtain rfl := Source.next_eq_none hopen hnext
    -- The source has closed itself, before the engine is finished.
    have hclosing : middle.closing middle.close = [.sourceClosed lines.length] := by
      simp [Source.closing, hopen, hcount]
    have hbefore := Engine.continues_executeLines rfl h
    have hflush : ((Engine.start sink).executeLines lines).engine.sink.flushError =
        sink.flushError := (Engine.used_executeLines (Engine.start sink) lines).flushError
    have hrun := Engine.run_of_hands hhands h
    rw [Engine.run_of_end hnext, Engine.events_executeLines rfl h, hclosing, Source.count_close,
      hcount] at hrun
    rw [run, hrun, ← hflush]
    exact
      { result := rfl
        events := rfl
        flushes := congrArg (· + 1) hbefore.flushes
        source := congrArg (Source.mk none) hcount }

/-- Whatever is delivered to a source, and whatever the sink is, the news of a run are those of the
instructions, one for each that stands on a line that was reached, the last line included, and two
or three more. The instructions stand on lines that increase.

If a line fails, the lines up to it are reached. The run is taken down because of the error that it
reports, a fault or an output error at this line, whose text is the detail of that news; then the
source is closed, which has counted the lines up to it. If a read fails instead, all the lines
before it are reached, and the run is taken down in the same way; the line that could not be read is
not counted.

If nothing fails, all lines are reached. The source closes, the program is at its end, both with the
number of all lines, and the run is finished with what is left on the stack. It reports an error
only if the sink cannot be flushed then.

In each case the source ends up closed, and the sink has been flushed once. What an observer reads
of these news comes last. -/
theorem log_of_run (feed : Feed) (sink : Sink) :
    let source := Source.ofFeed feed
    let outcome := run source sink
    (∃ lines ending last, source.Yields lines ending last ∧
      (Program.onLines lines).Pairwise (·.line < ·.line) ∧
      let executed := (Engine.start sink).executeLines lines
      match executed.result, ending with
      | .error cause, _ =>
        ∃ n, 0 < n ∧ n ≤ lines.length ∧ cause.RaisedAt n ∧
          outcome.Ends sink (.error cause)
            ((Program.onLines (lines.take n)).map .executing ++
              [.halting cause, .sourceClosed n]) n
      | .ok (), .error cause =>
        (∃ reason, cause = .unread (lines.length + 1) reason) ∧
          outcome.Ends sink (.error (.source cause))
            ((Program.onLines lines).map .executing ++
              [.halting (.source cause), .sourceClosed lines.length]) lines.length
      | .ok (), .ok () =>
        outcome.Ends sink
          (match sink.flushError with
            | none => .ok ()
            | some reason => .error (.output executed.engine.line reason))
          ((Program.onLines lines).map .executing ++
            [.sourceClosed lines.length, .endOfProgram lines.length,
              .runFinished executed.engine.stack.size]) lines.length) ∧
    ∀ (i : Instruction) (cause : RunError) (count remaining : Nat),
      [Event.executing i, .halting cause, .sourceClosed count, .endOfProgram count,
          .runFinished remaining].map (fun event => (event.message, event.details)) =
        [("execute", [("line", .number i.line), ("instr", .text i.text)]),
          ("halting run", [("err", .text cause.message)]),
          ("closed program source", [("lines", .number count)]),
          ("end of program", [("lines", .number count)]),
          ("run finished", [("remaining", .number remaining)])] := by
  intro source outcome
  obtain ⟨lines, ending, last, hyields⟩ := source.exists_yields
  have hincreasing : lines.Pairwise (·.number < ·.number) := by
    rw [← List.pairwise_map, hyields.numbers rfl]
    exact List.pairwise_lt_range'
  refine ⟨⟨lines, ending, last, hyields, Program.pairwise_onLines hincreasing, ?_⟩,
    fun _ _ _ _ => rfl⟩
  intro executed
  cases hexecuted : executed.result with
  | error cause => exact ends_of_failed_line hyields hexecuted
  | ok =>
    cases ending with
    | error cause => exact ends_of_failed_read hyields hexecuted
    | ok => exact ends_of_no_failure hyields hexecuted

end Stackline
