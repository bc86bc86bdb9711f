import Stackline.Proofs.Engine.Quiet
import Stackline.Proofs.Program.Canonical
import Stackline.Proofs.Run.Assembled

/-!
# Replaying a dump

`pall` dumps the stack: it prints a numeral for every value, each on a line of its own, from the top
downward. Read from the last line upward and with `push ` before each numeral, the dump is a program
that builds the same stack.

* `Stack.dump stack` — the bytes that `pall` prints; `Stack.lines_decode_dump` tells their lines.
* `Program.pushes values` — the instructions that push values one after the other;
  `Table.leads_pushes` tells where they lead.
* `Program.replay dump` — the text of such instructions, from the lines of a dump.
* `Engine.executeAll_replay` — fresh engines build the stack from which the dump came.
-/

namespace Stackline

open Text

/-! ## Dumps -/

/-- The bytes that `pall` prints. -/
def Stack.dump (stack : Stack) : List UInt8 :=
  stack.toList.flatMap numberLine

/-- The characters of a dump are the numerals with a newline behind each. -/
theorem Stack.decode_dump (stack : Stack) :
    Utf8.decode stack.dump = ended '\n' (stack.numbers.map Numeral.integer) := by
  have hencode : stack.dump = Utf8.encode (ended '\n' (stack.numbers.map Numeral.integer)) := by
    rw [dump, ended, numbers, Utf8.encode, List.flatMap_assoc, List.flatMap_map, List.flatMap_map]
    rfl
  rw [hencode, Utf8.decode_encode]

/-- A numeral holds no newline, so every line of a dump is a numeral. -/
theorem Stack.lines_decode_dump (stack : Stack) :
    lines (Utf8.decode stack.dump) = stack.numbers.map Numeral.integer := by
  rw [decode_dump, lines]
  apply pieces_ended
  intro numeral hmem
  obtain ⟨z, -, rfl⟩ := List.mem_map.1 hmem
  intro hnewline
  exact absurd (Numeral.isBlank_integer z _ hnewline) (by decide)

/-! ## Pushes -/

/-- The instructions that push values one after the other. No matter on what lines, they are written
the same. -/
def Program.pushes (values : List Int32) : Program :=
  values.map (Instruction.push · 0)

theorem Program.wellFormed_of_mem_pushes {values : List Int32} {i : Instruction}
    (h : i ∈ pushes values) : i.WellFormed := by
  obtain ⟨value, -, rfl⟩ := List.mem_map.1 h
  rfl

/-- The values come on the stack in order, the last one on top. -/
theorem Table.leads_pushes (below : List Int) (values : List Int32) (first : Nat) :
    Leads below ((Program.pushes values).numbered first)
      ((values.map Int32.toInt).reverse ++ below) := by
  induction values generalizing below first with
  | nil => exact .idle below
  | cons value rest ih =>
    rw [List.map_cons, List.reverse_cons, List.append_assoc]
    exact .next rfl (ih (value.toInt :: below) (first + 1))

/-- The lines of a dump from the last one upward, each behind a `push `. -/
def Program.replay (dump : List UInt8) : String :=
  String.join ((lines (Utf8.decode dump)).reverse.map fun line =>
    "push " ++ String.ofList line ++ "\n")

/-- To replay a dump is to push the values, the lowest one first. -/
theorem Program.replay_dump (stack : Stack) :
    replay stack.dump = (pushes stack.toList.reverse).text := by
  rw [replay, Stack.lines_decode_dump, text, pushes, Stack.numbers, ← List.map_reverse,
    ← List.map_reverse, List.map_map, List.map_map, List.map_map]
  rfl

/-- What is replayed is read as these pushes, on lines from one. -/
theorem Program.assemble_replay_dump (stack : Stack) :
    assemble (replay stack.dump) = .ok ((pushes stack.toList.reverse).numbered 1) := by
  rw [replay_dump, assemble_text fun _ => wellFormed_of_mem_pushes]

/-! ## Engines -/

namespace Engine

variable {engine : Engine}

/-- On a sink without a limit, `pall` prints the dump of the stack. -/
theorem execute_pall (hrunning : engine.halted = false) (hroom : engine.sink.room = none)
    (line : Nat) :
    let reply := engine.execute { opcode := .pall, operand := none, line }
    reply.result = .ok () ∧ reply.output = engine.stack.dump := by
  intro reply
  have hprinted : (Instruction.effect { opcode := .pall, operand := none, line } .granted
      engine.stack).printed = .ok engine.stack.dump := rfl
  have hwrite : (engine.sink.write engine.stack.dump).1.error = none := by
    rw [Sink.write_of_unlimited hroom]
  have hdone := execute_of_done hrunning hprinted hwrite
  exact ⟨congrArg Reply.result hdone, congrArg Reply.output hdone⟩

/-- A fresh engine builds a stack from its dump. -/
theorem quiet_replay (stack : Stack) (sink : Sink) (hooked : Bool) :
    (start sink hooked).Quiet stack.numbers
      ((start sink hooked).executeAll ((Program.pushes stack.toList.reverse).numbered 1)) := by
  have hleads := Table.leads_pushes [] stack.toList.reverse 1
  rw [List.map_reverse, List.reverse_reverse, List.append_nil] at hleads
  exact quiet_executeAll rfl hleads

end Engine

/-- A stack is known by its dump, for it can be built from it. -/
theorem Stack.dump_injective : Function.Injective Stack.dump := by
  intro stack stack' hdump
  have hprogram := Program.assemble_replay_dump stack
  rw [hdump, Program.assemble_replay_dump stack', Except.ok.injEq] at hprogram
  have hreplay := Engine.quiet_replay stack default true
  rw [← hprogram] at hreplay
  exact numbers_injective (hreplay.numbers.symm.trans (Engine.quiet_replay stack' _ _).numbers)

/-- Whatever stack a running engine has come to, `pall` prints on a sink without a limit what the
stack can be built from again. With its lines in reverse order and `push ` before each of them, the
output is a text that is read without a fault. Every fresh engine executes the program, or the lines
of the text one by one, without a fault and prints nothing, and its stack is the same then. If its
sink has no limit, another `pall` prints the same output.

So engines on which `pall` prints the same have the same stack. -/
theorem Engine.executeAll_replay {engine : Engine} (hrunning : engine.halted = false)
    (hroom : engine.sink.room = none) (line : Nat) :
    let pall : Instruction := { opcode := .pall, operand := none, line }
    let dump := (engine.execute pall).output
    let text := Program.replay dump
    (engine.execute pall).result = .ok () ∧
    (∃ program, Program.assemble text = .ok program ∧
      ∀ (sink : Sink) (hooked : Bool),
        let replayed := (start sink hooked).executeAll program
        replayed = (start sink hooked).executeLines
          (SourceLine.numbered 1 ((lines text.toList).map trim)) ∧
        replayed.result = .ok () ∧ replayed.output = [] ∧
        replayed.engine.halted = false ∧ replayed.engine.stack = engine.stack ∧
        (sink.room = none →
          (replayed.engine.execute pall).result = .ok () ∧
            (replayed.engine.execute pall).output = dump)) ∧
    ∀ other : Engine, other.halted = false → other.sink.room = none →
      (other.execute pall).output = dump → other.stack = engine.stack := by
  intro pall dump text
  obtain ⟨hresult, hdump⟩ : _ ∧ dump = engine.stack.dump := execute_pall hrunning hroom line
  have htext : text = Program.replay engine.stack.dump := congrArg Program.replay hdump
  clear_value text dump
  have hassemble := Program.assemble_replay_dump engine.stack
  rw [← htext] at hassemble
  refine ⟨hresult, ⟨_, hassemble, ?_⟩, ?_⟩
  · intro sink hooked replayed
    have hquiet : (start sink hooked).Quiet engine.stack.numbers replayed :=
      quiet_replay engine.stack sink hooked
    have hstack := hquiet.stack_eq rfl
    have hlines := @executeLines_eq_executeAll (start sink hooked) rfl 0 _ _ hassemble
    refine ⟨hlines.symm, hquiet.result, hquiet.output, hquiet.running, hstack, fun hunlimited => ?_⟩
    have hagain := execute_pall hquiet.running (hquiet.sink ▸ hunlimited) line
    rwa [hstack, ← hdump] at hagain
  · intro other hother hunlimited hsame
    have hprinted := (execute_pall hother hunlimited line).2
    exact Stack.dump_injective (hprinted.symm.trans (hsame.trans hdump))

/-- A dump with the lowest value, whose magnitude is no value of the machine. -/
theorem Engine.executeAll_replay_lowest :
    let engine := { start {} with stack := .ofList [7, -0x80000000] }
    let pall : Instruction := { opcode := .pall, operand := none, line := 3 }
    let text := Program.replay (engine.execute pall).output
    engine.halted = false ∧ engine.sink.room = none ∧
    text = "push -2147483648\npush 7\n" ∧
    ∃ program, Program.assemble text = .ok program ∧
      ((start {}).executeAll program).result = .ok () ∧
      ((start {}).executeAll program).engine.stack = engine.stack := by
  intro engine pall text
  have hrunning : engine.halted = false := rfl
  have hroom : engine.sink.room = none := rfl
  have htext : text = "push -2147483648\npush 7\n" := by decide
  obtain ⟨-, ⟨program, hassemble, hfresh⟩, -⟩ := executeAll_replay hrunning hroom 3
  obtain ⟨-, hresult, -, -, hstack, -⟩ := hfresh {} true
  exact ⟨hrunning, hroom, htext, program, hassemble, hresult, hstack⟩

end Stackline
