import Stackline.Proofs.Engine.Sequence
import Stackline.Proofs.Instruction.Table

/-!
# Programs that print nothing

As long as nothing is printed, it does not matter what the sink takes. So the table alone tells what
becomes of the numbers on a stack, instruction by instruction.

* `Table.Leads values program behind` — by the table, the instructions of a program are done one
  after the other, print nothing, and lead from numbers to others.
* `Engine.Quiet engine behind reply` — an answer to a program that has printed nothing.
* `Engine.quiet_executeAll` — every running engine executes a program as the table leads.
* `Engine.executeAll_of_leads_of_error` — and fails where the table has led to a fault.
-/

namespace Stackline

/-! ## The table -/

/-- The instructions of a program lead from the numbers on a stack to others, and print nothing. -/
inductive Table.Leads : List Int → Program → List Int → Prop where
  /-- There is no instruction. -/
  | idle (values : List Int) : Leads values [] values
  /-- The first instruction is done, and the others lead on from there. -/
  | next {values middle behind : List Int} {i : Instruction} {rest : Program} :
      outcome i values = .ok (middle, []) → Leads middle rest behind →
      Leads values (i :: rest) behind

/-- Programs lead on from where others have led. -/
theorem Table.Leads.append {values middle behind : List Int} {program rest : Program}
    (h : Leads values program middle) (h' : Leads middle rest behind) :
    Leads values (program ++ rest) behind := by
  induction h with
  | idle => exact h'
  | next hrow _ ih => exact .next hrow (ih h')

/-! ## Engines -/

namespace Engine

/-- An answer without output: it is a success, it leaves numbers on the stack, and it leaves the sink
alone. -/
structure Quiet (engine : Engine) (behind : List Int) (reply : Reply) : Prop where
  /-- The call succeeds. -/
  result : reply.result = .ok ()
  /-- Nothing is printed. -/
  output : reply.output = []
  /-- The numbers on the stack behind the call. -/
  numbers : reply.engine.stack.numbers = behind
  /-- The sink is as it was. -/
  sink : reply.engine.sink = engine.sink
  /-- The engine can go on. -/
  running : reply.engine.halted = false

variable {engine : Engine} {middle behind : List Int}

/-- The stack that has the numbers is on the engine. -/
theorem Quiet.stack_eq {stack : Stack} {reply : Reply} (h : engine.Quiet behind reply)
    (hstack : stack.numbers = behind) : reply.engine.stack = stack :=
  Stack.numbers_injective (h.numbers.trans hstack.symm)

/-- A quiet call behind another one is quiet. -/
theorem Quiet.andThen {reply : Reply} {next : Engine → Reply} (h : engine.Quiet middle reply)
    (h' : reply.engine.Quiet behind (next reply.engine)) :
    engine.Quiet behind (reply.andThen next) := by
  rw [Reply.andThen_of_ok h.result]
  exact
    { result := h'.result
      output := by rw [h.output, h'.output, List.nil_append]
      numbers := h'.numbers
      sink := h'.sink.trans h.sink
      running := h'.running }

/-- An instruction for which the table has numbers and no bytes is done on every sink. -/
theorem quiet_execute {i : Instruction} (hrunning : engine.halted = false)
    (h : Table.outcome i engine.stack.numbers = .ok (behind, [])) :
    engine.Quiet behind (engine.execute i) := by
  obtain ⟨hprinted, hnumbers⟩ := Instruction.effect_of_outcome_eq_ok h
  have hwrite : engine.sink.write [] = ({ accepted := [], error := none }, engine.sink) :=
    engine.sink.write_nil
  rw [execute_of_done hrunning hprinted (by rw [hwrite]), proceed, hwrite]
  exact ⟨rfl, rfl, hnumbers, rfl, hrunning⟩

/-- A program is executed as the table leads, whatever the sink takes. -/
theorem quiet_executeAll {program : Program} (hrunning : engine.halted = false)
    (h : Table.Leads engine.stack.numbers program behind) :
    engine.Quiet behind (engine.executeAll program) := by
  -- Every instruction leaves an engine that has the next numbers, so the engine is arbitrary.
  generalize hvalues : engine.stack.numbers = values at h
  induction h generalizing engine with
  | idle => exact ⟨rfl, rfl, hvalues, rfl, hrunning⟩
  | next hrow _ ih =>
    rw [← hvalues] at hrow
    have hfirst := quiet_execute hrunning hrow
    rw [executeAll]
    exact hfirst.andThen (ih hfirst.running hfirst.numbers)

/-- A program that leads up to an instruction at fault fails there, and prints nothing. -/
theorem executeAll_of_leads_of_error {earlier later : Program} {i : Instruction} {cause : Fault}
    (hrunning : engine.halted = false) (h : Table.Leads engine.stack.numbers earlier middle)
    (hfault : Table.outcome i middle = .error cause) :
    (engine.executeAll (earlier ++ i :: later)).result = .error (.fault (cause.at i.line)) ∧
      (engine.executeAll (earlier ++ i :: later)).output = [] := by
  have hquiet := quiet_executeAll hrunning h
  rw [← hquiet.numbers] at hfault
  have hprinted := Instruction.printed_of_outcome_eq_error hfault
  rw [executeAll_append, Reply.andThen_of_ok hquiet.result, executeAll,
    execute_of_undone hquiet.running hprinted, stop_andThen, hquiet.output]
  exact ⟨rfl, rfl⟩

end Engine

end Stackline
