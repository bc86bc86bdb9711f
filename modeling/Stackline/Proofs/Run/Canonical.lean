import Stackline.Proofs.Engine.Errors
import Stackline.Proofs.Program.Canonical
import Stackline.Proofs.Run.Assembled

/-!
# Runs of written programs

A text and the program that it spells, written again, are run to the same effect. Only the numbers
of the lines in errors differ.

* `Engine.raisedAt_of_finish` — the lines that the errors of a finished program name.
* `run_text` — the run of a text against the run of what it spells.
-/

namespace Stackline

namespace Engine

/-- A program that is finished fails at one of its lines, or before all of them if there are
none. -/
theorem raisedAt_of_finish {engine : Engine} (hrunning : engine.halted = false)
    {program : Program} {cause : RunError}
    (h : ((engine.executeAll program).andThen finish).result = .error cause) :
    ∃ line, cause.RaisedAt line ∧
      (program = [] ∧ line = engine.line ∨ ∃ i ∈ program, line = i.line) := by
  rcases Reply.andThen_eq_error h with hfirst | ⟨hfirst, hfinish⟩
  · obtain ⟨i, hmem, hraised⟩ := raisedAt_of_executeAll hrunning hfirst
    exact ⟨i.line, hraised, .inr ⟨i, hmem, rfl⟩⟩
  · -- What fails is the flush, which is charged to the last instruction.
    refine ⟨_, raisedAt_finish hfinish, ?_⟩
    rw [line_executeAll hfirst]
    cases hlast : program.getLast? with
    | none => exact .inl ⟨List.getLast?_eq_none_iff.1 hlast, rfl⟩
    | some i => exact .inr ⟨i, List.mem_of_getLast? hlast, rfl⟩

/-- Instructions that are renumbered are executed and finished to the same effect. -/
theorem finish_executeAll_renumber (engine : Engine) (number : Nat → Nat) (program : Program) :
    ((engine.renumber number).executeAll (program.map (·.renumber number))).andThen finish =
      ((engine.executeAll program).andThen finish).disguised number (renumber number) := by
  rw [(disguise_renumber number).executeAll]
  exact Reply.andThen_disguised (finish_renumber number)

end Engine

/-- Whatever a text is that spells a program: its instructions stand on lines that increase from
one, and a push has an operand and no other instruction does. The instructions in writing, each on a
line of its own, are read as the same instructions with their places for numbers, which count
from one.

On every sink, the text and the instructions in writing are run to the same effect: the output is
the same, the sink is left alike, flushes included, and the results agree but for the line that an
error names. That is the line of an instruction, or zero if there is none; the other run names the
place of the instruction, or zero. -/
theorem run_text {text : String} {program : Program} (h : Program.assemble text = .ok program) :
    program.Pairwise (·.line < ·.line) ∧
    (∀ i ∈ program, 0 < i.line ∧ (i.operand.isSome = true ↔ i.opcode = .push)) ∧
    Program.assemble program.text = .ok (program.numbered 1) ∧
    program.place 0 = 0 ∧
    (∀ k (hk : k < program.length), program.place program[k].line = k + 1) ∧
    ∀ sink : Sink,
      let original := run (Source.ofText text) sink
      let written := run (Source.ofText program.text) sink
      written.output = original.output ∧
      written.engine.sink = original.engine.sink ∧
      written.result = original.result.mapError (·.renumber program.place) ∧
      ∀ cause, original.result = .error cause →
        ∃ line, cause.RaisedAt line ∧
          (program = [] ∧ line = 0 ∨ ∃ i ∈ program, line = i.line) := by
  obtain ⟨hincreasing, hspelled⟩ := Program.ofLines_eq_ok h
  have hwritten := Program.assemble_text fun i hmem => (hspelled i hmem).2
  have hzero := Program.place_eq_zero fun i hmem => (hspelled i hmem).1
  refine ⟨hincreasing, fun i hmem => ⟨(hspelled i hmem).1, ?_⟩, hwritten, hzero,
    fun k hk => Program.place_getElem hincreasing hk, fun sink => ?_⟩
  · rw [(hspelled i hmem).2, Opcode.takesArgument_iff]
  intro original written
  have horiginal : original.Reports _ := run_of_assemble_eq_ok h sink
  have hreports : written.Reports _ := run_of_assemble_eq_ok hwritten sink
  -- The second run is the first one with the places for numbers, from the fresh engine on: its line
  -- is zero, and so is the place of that.
  have hstart : Engine.start sink = (Engine.start sink).renumber program.place := by
    rw [Engine.renumber, Engine.start, hzero]
  have hnumbered : program.numbered 1 = program.map (·.renumber program.place) := by
    simpa using Program.numbered_eq_map_place hincreasing 0
  rw [hnumbered, hstart, Engine.finish_executeAll_renumber] at hreports
  refine ⟨?_, ?_, ?_, fun cause hcause => ?_⟩
  · rw [hreports.output, horiginal.output]
    rfl
  · rw [hreports.engine, horiginal.engine]
    rfl
  · rw [hreports.result, horiginal.result]
    rfl
  · rw [horiginal.result] at hcause
    exact Engine.raisedAt_of_finish rfl hcause

/-- A text with a comment, a blank line, blanks of several kinds, a sign, leading zeros and too many
words. The instruction on its sixth line is on the fourth line of what is written. -/
theorem run_text_comments :
    let text := "# seven\n\n\u3000push\t+007 x\r\npall again\n pop\npop # too many"
    let program : Program := [.push 7 3, { opcode := .pall, operand := none, line := 4 },
      { opcode := .pop, operand := none, line := 5 },
      { opcode := .pop, operand := none, line := 6 }]
    Program.assemble text = .ok program ∧
    program.text = "push 7\npall\npop\npop\n" ∧
    Program.assemble "push 7\npall\npop\npop\n" = .ok (program.numbered 1) ∧
    program.place 6 = 4 ∧
    ∀ sink, (run (Source.ofText "push 7\npall\npop\npop\n") sink).result =
      (run (Source.ofText text) sink).result.mapError (·.renumber program.place) := by
  intro text program
  have hassemble : Program.assemble text = .ok program := by decide
  obtain ⟨-, -, hread, -, hplace, hrun⟩ := run_text hassemble
  have htext : program.text = "push 7\npall\npop\npop\n" := by decide
  rw [htext] at hread hrun
  exact ⟨hassemble, htext, hread, hplace 3 (by decide), fun sink => (hrun sink).2.2.1⟩

end Stackline
