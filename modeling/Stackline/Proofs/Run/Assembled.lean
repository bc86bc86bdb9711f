import Stackline.Proofs.Engine.Disguise
import Stackline.Proofs.Program.Assembly
import Stackline.Proofs.Run.Lines

/-!
# Runs and assembled programs

A run reads, parses and executes one line at a time. A program can also be assembled from its whole
text first, and its instructions executed then.

* `Engine.executeLines_eq_executeAll` — lines without a fault come to what their instructions come
  to.
* `Engine.executeLines_eq_stop` — a faulty line halts the engine, unless an instruction before it
  has done so.
* `Source.ofText text` — a source over the bytes of a text.
* `run_eq_executeAll_assemble` — a run comes to what the assembled program comes to, or the
  instructions before the first faulty line and the fault.
-/

namespace Stackline

open Text

namespace Engine

/-- Lines without a fault come to what the instructions on them come to. -/
theorem executeLines_eq_executeAll {engine : Engine} (hrunning : engine.halted = false)
    {before : Nat} {texts : List (List Char)} {program : Program}
    (h : Program.ofLines before texts = .ok program) :
    engine.executeLines (SourceLine.numbered (before + 1) (texts.map trim)) =
      engine.executeAll program := by
  -- A line without an instruction leaves the engine as it is; behind an instruction the lines go on
  -- if it succeeded, and then the engine is running again.
  induction texts generalizing engine before program with
  | nil =>
    obtain rfl := Except.ok.inj h
    rfl
  | cons line rest ih =>
    cases hfirst : Instruction.ofLine (String.ofList (trim line)) (before + 1) with
    | error cause => simp [Program.ofLines_cons_of_error hfirst] at h
    | ok first =>
      rw [Program.ofLines_cons_of_ok hfirst] at h
      cases hrest : Program.ofLines (before + 1) rest with
      | error cause => simp [hrest, Except.map] at h
      | ok others =>
        rw [hrest] at h
        obtain rfl := Except.ok.inj h
        rw [List.map_cons, SourceLine.numbered_cons, executeLines]
        cases first with
        | none =>
          rw [executeLine_of_none hrunning hfirst]
          exact (idle_andThen engine _).trans (ih hrunning hrest)
        | some i =>
          rw [executeLine_of_some hrunning hfirst]
          exact Reply.andThen_congr fun hok => ih (continues_execute hok).running hrest

/-- Behind lines without a fault, a faulty line halts the engine, unless an instruction has done so
before; no line behind it is executed. -/
theorem executeLines_eq_stop {engine : Engine} (hrunning : engine.halted = false)
    {before : Nat} {earlier later : List (List Char)} {line : List Char} {program : Program}
    {fault : LocatedFault} (hearlier : Program.ofLines before earlier = .ok program)
    (hline : Instruction.ofLine (String.ofList (trim line)) (before + earlier.length + 1) =
      .error fault) :
    engine.executeLines
        (SourceLine.numbered (before + 1) ((earlier ++ line :: later).map trim)) =
      (engine.executeAll program).andThen (·.stop (.fault fault)) := by
  rw [List.map_append, List.map_cons, SourceLine.numbered_append, SourceLine.numbered_cons,
    List.length_map, executeLines_append, executeLines_eq_executeAll hrunning hearlier]
  -- Where the faulty line is reached, the engine is running and halts at once.
  apply Reply.andThen_congr
  intro hok
  have hbehind := (continues_executeAll hrunning hok).running
  rw [show before + 1 + earlier.length = before + earlier.length + 1 by omega, executeLines,
    executeLine_of_error hbehind hline, stop_andThen]

theorem flushes_stop_fault (engine : Engine) (fault : LocatedFault) :
    (engine.stop (.fault fault)).engine.sink.flushes = engine.sink.flushes + 1 :=
  rfl

/-- A program comes to the same on fresh engines with and without a cleanup. -/
theorem bare_executeAll_start (sink : Sink) (hooked hooked' : Bool) (program : Program) :
    ((start sink hooked).executeAll program).bare =
      ((start sink hooked').executeAll program).bare := by
  rw [← bare_executeAll, bare_start, ← bare_executeAll (start sink hooked'), bare_start]

end Engine

/-- A source over the bytes of a text. -/
def Source.ofText (text : String) : Source :=
  ofFeed [.bytes (Utf8.encode text.toList)]

/-- A source over a text hands out the trimmed lines of the text, and ends. -/
theorem Source.yields_ofText (text : String) :
    ∃ last, (ofText text).Yields
      (SourceLine.numbered 1 ((lines text.toList).map trim)) (.ok ()) last := by
  have hyields := yields_of_smooth (Feed.smooth_bytes (Utf8.encode text.toList))
  rwa [Feed.content, Feed.content, List.append_nil, Utf8.decode_encode] at hyields

/-- A text without a fault is run as the program that it spells is executed on a fresh engine. -/
theorem run_of_assemble_eq_ok {text : String} {program : Program}
    (h : Program.assemble text = .ok program) (sink : Sink) :
    (run (Source.ofText text) sink).Reports
      (((Engine.start sink).executeAll program).andThen Engine.finish) := by
  obtain ⟨last, hyields⟩ := Source.yields_ofText text
  have hreports := Engine.run_reports hyields (Engine.start sink)
  rwa [Engine.executeLines_eq_executeAll rfl h] at hreports

/-- A text with a fault is run as the instructions before the first faulty line are executed on a
fresh engine, which the fault halts if none of them has. -/
theorem run_of_assemble_eq_error {text : String} {fault : LocatedFault}
    (h : Program.assemble text = .error fault) (sink : Sink) :
    1 ≤ fault.line ∧ fault.line ≤ (lines text.toList).length ∧
      ∃ program, Program.ofLines 0 ((lines text.toList).take (fault.line - 1)) = .ok program ∧
        (run (Source.ofText text) sink).Reports
          (((Engine.start sink).executeAll program).andThen (·.stop (.fault fault))) := by
  obtain ⟨last, hyields⟩ := Source.yields_ofText text
  have hreports := Engine.run_reports hyields (Engine.start sink)
  obtain ⟨earlier, line, later, program, htext, hnumber, hearlier, hline⟩ :=
    Program.ofLines_eq_error h
  -- The line of the fault tells how many lines there are before it.
  rw [hnumber] at hline
  rw [htext, Engine.executeLines_eq_stop rfl hearlier hline, Reply.andThen_assoc] at hreports
  refine ⟨by omega, ?_, program, ?_, hreports⟩
  · rw [htext, hnumber, List.length_append, List.length_cons]
    omega
  · rw [htext, hnumber, show 0 + earlier.length + 1 - 1 = earlier.length by omega,
      List.take_left, hearlier]

/-- A run that is a halt behind a program is not finished. -/
theorem Outcome.Reports.runFinished_not_mem {outcome : Outcome} {engine : Engine}
    {program : Program} {cause : RunError}
    (h : outcome.Reports ((engine.executeAll program).andThen (·.stop cause))) (remaining : Nat) :
    .runFinished remaining ∉ outcome.events := by
  intro hmem
  have hnews : .runFinished remaining ∈ Event.news outcome.events :=
    List.mem_filter.2 ⟨hmem, rfl⟩
  rw [h.events] at hnews
  -- Neither the instructions nor the halt let a finished run be known.
  have hcalls := Event.ofCall_executeAll engine program
  cases hresult : (engine.executeAll program).result with
  | error cause =>
    rw [Reply.andThen_of_error hresult] at hnews
    exact nomatch hcalls _ hnews
  | ok =>
    rw [Reply.andThen_of_ok hresult] at hnews
    rcases List.mem_append.1 hnews with hnews | hnews
    · exact nomatch hcalls _ hnews
    · exact nomatch Event.ofCall_stop (by simp) _ hnews

/-- Whatever the text and the sink are, running the text line by line comes to the same as
assembling it first.

If it assembles, the run has the result and the output of the instructions, executed in order up to
the first error on a fresh engine that is finished if there is none, and it leaves the sink as they
do, flushes included.

If it has a fault, the run begins with the instructions of the lines before the faulty one. An error
of these is the error of the run. Otherwise the fault is: the output is that of the instructions,
and the sink has been flushed once. The run is not finished either way. -/
theorem run_eq_executeAll_assemble (text : String) (sink : Sink) (hooked : Bool) :
    let outcome := run (Source.ofText text) sink
    let fresh := Engine.start sink hooked
    match Program.assemble text with
    | .ok program =>
      let reply := (fresh.executeAll program).andThen Engine.finish
      outcome.result = reply.result ∧ outcome.output = reply.output ∧
        outcome.engine.sink = reply.engine.sink
    | .error fault =>
      1 ≤ fault.line ∧ fault.line ≤ (lines text.toList).length ∧
      ∃ program, Program.ofLines 0 ((lines text.toList).take (fault.line - 1)) = .ok program ∧
        let reply := fresh.executeAll program
        outcome.output = reply.output ∧
        (∀ cause, reply.result = .error cause →
          outcome.result = .error cause ∧ outcome.engine.sink = reply.engine.sink) ∧
        (reply.result = .ok () →
          outcome.result = .error (.fault fault) ∧
            outcome.engine.sink.flushes = sink.flushes + 1) ∧
        ∀ remaining, .runFinished remaining ∉ outcome.events := by
  intro outcome fresh
  cases hassemble : Program.assemble text with
  | ok program =>
    have hreports := run_of_assemble_eq_ok hassemble sink
    have hbare := Reply.bare_andThen (Engine.bare_executeAll_start sink true hooked program)
      Engine.bare_finish
    obtain ⟨hresult, houtput, -, hsink⟩ := Reply.agree_of_bare_eq hbare
    refine ⟨hreports.result.trans hresult, hreports.output.trans houtput, ?_⟩
    rw [hreports.engine, hsink]
  | error fault =>
    obtain ⟨hfirst, hlast, program, hprogram, hreports⟩ := run_of_assemble_eq_error hassemble sink
    -- The cleanup of a run and that of the fresh engine may differ, and make no difference.
    obtain ⟨hresult, houtput, -, hsink⟩ := Reply.agree_of_bare_eq
      (Engine.bare_executeAll_start sink true hooked program)
    refine ⟨hfirst, hlast, program, hprogram, ?_, ?_, ?_, hreports.runFinished_not_mem⟩
    · rw [hreports.output, Reply.output_andThen fun _ => rfl, houtput]
    · intro cause hcause
      have hcause := hresult.trans hcause
      rw [Reply.andThen_of_error hcause] at hreports
      rw [hreports.result, hreports.engine, hcause, hsink]
      exact ⟨rfl, rfl⟩
    · intro hok
      have hok := hresult.trans hok
      rw [Reply.andThen_of_ok hok] at hreports
      refine ⟨hreports.result, ?_⟩
      rw [hreports.engine, Engine.flushes_stop_fault, (Engine.continues_executeAll rfl hok).flushes]
      rfl

end Stackline
