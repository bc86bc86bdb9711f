import Stackline.Proofs.Engine.Atomic
import Stackline.Proofs.Run.Assembled
import Stackline.Proofs.Run.Followed

/-!
# Output errors of a run

Which line an output error of a run names. If output does not get in, it is the line that prints it.
If only the flush at the end fails, it is the line of the last instruction that was executed, which
need not print anything; without any instruction it is no line at all.

* `Event.executed events` — the instructions that were executed, by the news of them.
* `Program.PrintsAt executed lines n` — line `n` holds an instruction that prints, and this
  instruction was executed.
* `run_of_unwritten_line`, `run_of_no_failure` — the two ways to an output error.
* `printsAt_of_output_error` — the headline. What the line of an output error holds.
-/

namespace Stackline

/-- The instructions that were executed, in order. -/
def Event.executed (events : List Event) : Program :=
  events.filterMap fun event => match event with
    | .executing i => some i
    | _ => none

/-- Whether line `n`, counted from one, holds an instruction that prints and that was executed. -/
def Program.PrintsAt (executed : Program) (lines : List SourceLine) (n : Nat) : Prop :=
  0 < n ∧ ∃ line i, lines[n - 1]? = some line ∧ line.instruction? = some i ∧ i ∈ executed ∧
    i.opcode ∈ Opcode.printing

/-- The news of instructions tell these instructions. -/
theorem Event.executed_map_append (program : Program) {rest : List Event} (h : executed rest = []) :
    executed (program.map .executing ++ rest) = program := by
  rw [executed, List.filterMap_append, ← executed, ← executed, h, List.append_nil, executed,
    List.filterMap_map]
  exact List.filterMap_some

/-! ## Lines by their numbers -/

/-- Where lines are numbered from one, the number of a line tells its place. -/
theorem SourceLine.number_of_getElem? {lines : List SourceLine}
    (hnumbers : lines.map (·.number) = List.range' 1 lines.length) {k : Nat} {line : SourceLine}
    (h : lines[k]? = some line) : line.number = k + 1 := by
  have hnumber : (lines.map (·.number))[k]? = some line.number := by
    rw [List.getElem?_map, h, Option.map_some]
  obtain ⟨hlt, -⟩ := List.getElem?_eq_some_iff.1 h
  rw [hnumbers, List.getElem?_range' hlt] at hnumber
  have := Option.some.inj hnumber
  omega

/-- If the last instruction that was executed is on line `n`, that line is one that prints exactly
if this instruction does. -/
theorem Program.printsAt_iff {lines : List SourceLine} {executed : Program}
    (hnumbers : lines.map (·.number) = List.range' 1 lines.length)
    (hexecuted : executed ⊆ onLines lines) :
    PrintsAt executed lines ((executed.getLast?.map Instruction.line).getD 0) ↔
      ∃ i ∈ executed.getLast?, i.opcode ∈ Opcode.printing := by
  cases hlast : executed.getLast? with
  | none =>
    -- Nothing was executed, and there is no line zero.
    simp [PrintsAt]
  | some i =>
    -- The line with the number of the last instruction is the line that holds it.
    have hmem := hexecuted (List.mem_of_getLast? hlast)
    obtain ⟨line, hline, hi⟩ := List.mem_filterMap.1 hmem
    obtain ⟨k, hk⟩ := List.mem_iff_getElem?.1 hline
    have hnumber : i.line = k + 1 :=
      (SourceLine.line_of_instruction?_eq_some hi).trans (SourceLine.number_of_getElem? hnumbers hk)
    rw [Option.map_some, Option.getD_some, hnumber]
    constructor
    · rintro ⟨-, line', j, hline', hj, -, hprinting⟩
      rw [Nat.add_sub_cancel, hk] at hline'
      obtain rfl := Option.some.inj hline'
      obtain rfl := Option.some.inj (hi.symm.trans hj)
      exact ⟨i, rfl, hprinting⟩
    · rintro ⟨j, hj, hprinting⟩
      obtain rfl := Option.some.inj hj
      exact ⟨Nat.succ_pos k, line, i, hk, hi, List.mem_of_getLast? hlast, hprinting⟩

/-! ## Lines whose output does not get in -/

namespace Engine

variable {engine : Engine} {n : Nat} {reason : String}

/-- Only an instruction that prints fails for its output. -/
theorem mem_printing_of_execute {i : Instruction} {memory : Memory}
    (hrunning : engine.halted = false)
    (h : (engine.execute i memory).result = .error (.output n reason)) :
    i.opcode ∈ Opcode.printing := by
  rw [(result_execute hrunning i memory).1] at h
  have hfails := fails_of_error h
  generalize (engine.turnTo i.line).perform i memory = reply at hfails
  cases hfails with
  | unwritten _ _ hprinting => exact hprinting

/-- Only a line with an instruction that prints fails for its output. -/
theorem exists_printing_of_executeLine {line : SourceLine} (hrunning : engine.halted = false)
    (h : (engine.executeLine line.text line.number).result = .error (.output n reason)) :
    ∃ i, line.instruction? = some i ∧ i.opcode ∈ Opcode.printing := by
  have hexecutes := engine.executesLine line.text line.number .granted
  generalize engine.executeLine line.text line.number = reply at h hexecutes
  cases hexecutes with
  | refused hhalted => simp [hrunning] at hhalted
  | faulty => simp [stop] at h
  | blank => simp at h
  | instruction i _ hline =>
    exact ⟨i, by rw [SourceLine.instruction?, hline], mem_printing_of_execute hrunning h⟩

end Engine

/-! ## Runs -/

section Runs

variable {sink : Sink} {feed : Feed} {lines : List SourceLine} {last : Source} {n : Nat}
  {reason : String}

/-- A run in which the output of a line does not get in is halted there, and the instruction on that
line is the last one that was executed. -/
theorem run_of_unwritten_line {ending : Except SourceError Unit}
    (hyields : (Source.ofFeed feed).Yields lines ending last)
    (h : ((Engine.start sink).executeLines lines).result = .error (.output n reason)) :
    Event.executed (run (Source.ofFeed feed) sink).events ⊆ Program.onLines lines ∧
      (run (Source.ofFeed feed) sink).engine.halted = true ∧
      ∃ i, (Event.executed (run (Source.ofFeed feed) sink).events).getLast? = some i ∧
        i.line = n ∧ i.opcode ∈ Opcode.printing := by
  obtain ⟨earlier, line, later, rfl, hearlier, hfails, -, hraised, hrun⟩ :=
    run_of_failed_line hyields h
  have hbefore := Engine.continues_executeLines rfl hearlier
  obtain ⟨i, hi, hprinting⟩ := Engine.exists_printing_of_executeLine hbefore.running hfails
  have honLines : Program.onLines (earlier ++ [line]) = Program.onLines earlier ++ [i] := by
    rw [Program.onLines_append, Program.onLines_cons, hi]
    rfl
  have hexecuted : Event.executed (run (Source.ofFeed feed) sink).events =
      Program.onLines earlier ++ [i] := by
    -- The news of the failing line come last: its instruction, the halt and the closed source.
    rw [hrun, Engine.executeLines_of_failing_line hearlier hfails, Reply.andThen_of_ok hearlier]
    dsimp only
    rw [Engine.events_failing_line rfl hearlier hfails, honLines, List.append_assoc,
      Event.executed_map_append _ rfl]
  refine ⟨?_, ?_, i, ?_, ?_, hprinting⟩
  · rw [hexecuted, ← honLines, List.append_cons earlier line later,
      Program.onLines_append _ later]
    exact List.subset_append_left _ _
  · rw [hrun, Engine.executeLines_of_failing_line hearlier hfails, Reply.andThen_of_ok hearlier]
    exact (Engine.tornDown_of_executeLine hbefore.running hfails).halted
  · rw [hexecuted, List.getLast?_concat]
  · rw [SourceLine.line_of_instruction?_eq_some hi]
    cases hraised with
    | output => rfl

/-- A run in which nothing fails before the end has executed all instructions, and fails only with
the flush at the end, at the line of the last of them. -/
theorem run_of_no_failure (hyields : (Source.ofFeed feed).Yields lines (.ok ()) last)
    (h : ((Engine.start sink).executeLines lines).result = .ok ()) :
    Event.executed (run (Source.ofFeed feed) sink).events = Program.onLines lines ∧
      (run (Source.ofFeed feed) sink).engine.halted = false ∧
      (run (Source.ofFeed feed) sink).result = sink.flushError.elim (.ok ()) fun reason =>
        .error (.output (((Program.onLines lines).getLast?.map Instruction.line).getD 0)
          reason) := by
  have hends := ends_of_no_failure hyields h
  -- The flush is told at the line that the engine is at, which is that of the last instruction.
  have hline : ((Engine.start sink).executeLines lines).engine.line =
      ((Program.onLines lines).getLast?.map Instruction.line).getD 0 := by
    have heq := Engine.executeLines_eq_executeAll_onLines rfl h
    rw [heq] at h ⊢
    exact Engine.line_executeAll h
  refine ⟨?_, ?_, ?_⟩
  · rw [hends.events, Event.executed_map_append _ rfl]
  · rw [← Bool.not_eq_true, halted_run_iff hyields, h]
    simp
  · rw [hends.result, hline]
    cases sink.flushError <;> rfl

/-- How a run comes to an output error: the output of the last instruction that was executed did not
get in, or everything was executed and the flush at the end fails. -/
theorem last_of_output_error
    (h : (run (Source.ofFeed feed) sink).result = .error (.output n reason)) :
    let outcome := run (Source.ofFeed feed) sink
    let executed := Event.executed outcome.events
    ∃ lines ending last, (Source.ofFeed feed).Yields lines ending last ∧
      executed ⊆ Program.onLines lines ∧
      n = (executed.getLast?.map Instruction.line).getD 0 ∧
      (outcome.engine.halted = true → ∃ i ∈ executed.getLast?, i.opcode ∈ Opcode.printing) ∧
      (outcome.engine.halted = false →
        ending = .ok () ∧ sink.flushError = some reason ∧ executed = Program.onLines lines) := by
  intro outcome executed
  obtain ⟨lines, ending, last, hyields⟩ := (Source.ofFeed feed).exists_yields
  refine ⟨lines, ending, last, hyields, ?_⟩
  cases hresult : ((Engine.start sink).executeLines lines).result with
  | error cause =>
    -- The error of the run is the one of the line that has failed.
    have hcause : cause = .output n reason := by
      obtain ⟨_, _, _, -, -, -, -, -, hrun⟩ := run_of_failed_line hyields hresult
      rw [hrun] at h
      exact Except.error.inj h
    obtain ⟨hsubset, hhalted, i, hlast, hline, hprinting⟩ :=
      run_of_unwritten_line hyields (hcause ▸ hresult)
    refine ⟨hsubset, ?_, fun _ => ⟨i, hlast, hprinting⟩, fun hrunning => ?_⟩
    · rw [hlast, ← hline]
      rfl
    · exact absurd (hhalted.symm.trans hrunning) (by decide)
  | ok =>
    cases ending with
    | error cause =>
      -- A read that fails is no output error.
      obtain ⟨-, hends⟩ := ends_of_failed_read hyields hresult
      rw [hends.result] at h
      exact nomatch h
    | ok =>
      obtain ⟨hexecuted, hrunning, hfinished⟩ := run_of_no_failure hyields hresult
      have hall : executed = Program.onLines lines := hexecuted
      rw [hfinished] at h
      cases hflush : sink.flushError with
      | none => simp [hflush] at h
      | some cause =>
        obtain ⟨hn, rfl⟩ : _ = n ∧ cause = reason := by simpa [hflush] using h
        refine ⟨hall ▸ List.Subset.refl _, ?_, fun hhalted => ?_, fun _ => ⟨rfl, rfl, hall⟩⟩
        · rw [hall, hn]
        · exact absurd (hhalted.symm.trans hrunning) (by decide)

/-- An output error names the line of the last instruction that was executed, or line zero if there
was none. So that line holds an instruction that prints exactly if the last one that was executed
prints.

If the run was halted, output of that line did not get in, and the line is as it should be. If not,
the error is that of the flush at the end: the source has ended and all its instructions have been
executed, and the line may be that of any instruction, or none. -/
theorem printsAt_of_output_error
    (h : (run (Source.ofFeed feed) sink).result = .error (.output n reason)) :
    let outcome := run (Source.ofFeed feed) sink
    let executed := Event.executed outcome.events
    ∃ lines ending last, (Source.ofFeed feed).Yields lines ending last ∧
      n = (executed.getLast?.map Instruction.line).getD 0 ∧
      (executed.PrintsAt lines n ↔ ∃ i ∈ executed.getLast?, i.opcode ∈ Opcode.printing) ∧
      (outcome.engine.halted = true → executed.PrintsAt lines n) ∧
      (outcome.engine.halted = false →
        ending = .ok () ∧ sink.flushError = some reason ∧ executed = Program.onLines lines) := by
  intro outcome executed
  obtain ⟨lines, ending, last, hyields, hsubset, hn, hhalted, hrunning⟩ := last_of_output_error h
  have hiff : executed.PrintsAt lines n ↔ ∃ i ∈ executed.getLast?, i.opcode ∈ Opcode.printing := by
    rw [hn]
    exact Program.printsAt_iff (hyields.numbers rfl) hsubset
  exact ⟨lines, ending, last, hyields, hn, hiff, fun h => hiff.2 (hhalted h), hrunning⟩

/-- A sink with room for one byte. The second of three lines prints two bytes, so the run is halted
there and names that line. -/
theorem printsAt_of_output_error_full :
    let source := Source.ofText "push 1\npint\nnop\n"
    let outcome := run source { room := some 1 }
    outcome.result = .error (.output 2 "failed to write whole buffer") ∧
      outcome.engine.halted = true ∧
      ∃ lines ending last, source.Yields lines ending last ∧
        (Event.executed outcome.events).PrintsAt lines 2 := by
  intro source outcome
  obtain ⟨last, hyields⟩ := Source.yields_ofText "push 1\npint\nnop\n"
  have hresult : outcome.result = .error (.output 2 "failed to write whole buffer") := by
    refine (Engine.run_reports hyields _).result.trans ?_
    rfl
  have hhalted : outcome.engine.halted = true := (halted_run_iff hyields).2 ⟨_, by rfl⟩
  obtain ⟨lines, ending, last, hlines, -, -, hprints, -⟩ := printsAt_of_output_error hresult
  exact ⟨hresult, hhalted, lines, ending, last, hlines, hprints hhalted⟩

/-- A sink that takes everything and cannot be flushed. The second of three lines prints, and the
flush at the end fails: the run names the third line, which prints nothing. The run of an empty
program names line zero. -/
theorem output_error_of_flush :
    let source := Source.ofText "push 1\npint\nnop\n"
    let sink : Sink := { flushError := some "disk full" }
    let outcome := run source sink
    outcome.result = .error (.output 3 "disk full") ∧
      (∀ lines ending last, source.Yields lines ending last →
        ¬ (Event.executed outcome.events).PrintsAt lines 3) ∧
      (run (Source.ofText "") sink).result = .error (.output 0 "disk full") := by
  intro source sink outcome
  obtain ⟨last, hyields⟩ := Source.yields_ofText "push 1\npint\nnop\n"
  obtain ⟨hexecuted, -, hresult⟩ := @run_of_no_failure sink _ _ _ hyields (by rfl)
  have hall : Event.executed outcome.events =
      [.push 1 1, { opcode := .pint, operand := none, line := 2 },
        { opcode := .nop, operand := none, line := 3 }] := by
    refine hexecuted.trans ?_
    decide
  refine ⟨hresult, fun lines ending last hlines => ?_, ?_⟩
  · rintro ⟨-, line, i, hline, hi, hmem, hprinting⟩
    have hnumber := SourceLine.number_of_getElem? (hlines.numbers rfl) hline
    rw [← SourceLine.line_of_instruction?_eq_some hi] at hnumber
    -- Of the instructions that were executed, only the last one is on that line.
    rw [hall, List.mem_cons, List.mem_cons, List.mem_singleton] at hmem
    rcases hmem with rfl | rfl | rfl
    · exact absurd hnumber (by decide)
    · exact absurd hnumber (by decide)
    · exact absurd hprinting (by decide)
  · obtain ⟨last, hyields⟩ := Source.yields_ofText ""
    refine (Engine.run_reports hyields _).result.trans ?_
    rfl

end Runs

end Stackline
