import Stackline.Proofs.Engine.Moved
import Stackline.Proofs.Instruction.Grammar

/-!
# Instructions in writing

An instruction can be executed, or it can be written and the line with it executed. Not every
instruction is one that lines can spell: a push may lack its operand, and another opcode may have one
that it has no use for. It makes no difference all the same.

* `Instruction.pruned i` — the instruction without an operand that is of no use. It does the same
  (`effect_pruned`), and it is what the written instruction is read as (`ofLine_text_eq_pruned`).
* `Reply.Agrees reply twin` — the answers agree but for the line that the engine is at, and for what
  happened meanwhile.
* `Engine.agrees_execute` — instructions on one line that do the same are executed alike.
* `Engine.executeLine_text` — instructions and the lines that they are written on.
-/

namespace Stackline

open Text

namespace Instruction

/-- The instruction without its operand, unless the opcode takes one. -/
def pruned (i : Instruction) : Instruction :=
  { i with operand := if i.opcode.takesArgument then i.operand else none }

@[simp]
theorem line_pruned (i : Instruction) : i.pruned.line = i.line := rfl

/-- Only a push looks at its operand. -/
theorem effect_pruned (i : Instruction) (memory : Memory) (stack : Stack) :
    i.pruned.effect memory stack = i.effect memory stack := by
  obtain ⟨opcode, operand, line⟩ := i
  cases opcode <;> rfl

/-- Where the opcode takes no operand, it does not matter which one there is. -/
theorem pruned_of_opcode_ne_push {i : Instruction} (h : i.opcode ≠ .push)
    (operand : Option Int32) : { i with operand }.pruned = i.pruned := by
  have htakes : i.opcode.takesArgument = false := by
    rw [← Bool.not_eq_true, Opcode.takesArgument_iff]
    exact h
  simp only [pruned, htakes, Bool.false_eq_true, if_false]

/-- A written push without an operand is faulty. -/
theorem ofLine_text_eq_pushUsage {i : Instruction} (hpush : i.opcode = .push)
    (hnone : i.operand = none) : ofLine i.text i.line = .error (Fault.pushUsage.at i.line) := by
  apply reads_iff.1
  rw [words_text, hnone]
  refine .usage i.opcode.head?_mnemonic_ne (Opcode.ofMnemonic?_ofList_eq_some_iff.2 rfl) ?_ rfl
  rw [hpush]
  rfl

/-- Every other written instruction is read without an operand that is of no use. -/
theorem ofLine_text_eq_pruned {i : Instruction} (h : i.opcode = .push → i.operand ≠ none) :
    ofLine i.text i.line = .ok (some i.pruned) := by
  have hopcode := Opcode.ofMnemonic?_ofList_eq_some_iff.2 (rfl : _ = i.opcode.mnemonic.toList)
  apply reads_iff.1
  rw [words_text]
  cases htakes : i.opcode.takesArgument with
  | false =>
    have hpruned : i.pruned = { opcode := i.opcode, operand := none, line := i.line } := by
      rw [pruned, htakes]
      rfl
    rw [hpruned]
    exact .plain _ i.opcode.head?_mnemonic_ne hopcode htakes
  | true =>
    have hpush := Opcode.takesArgument_iff.1 htakes
    obtain ⟨value, hvalue⟩ := Option.ne_none_iff_exists'.1 (h hpush)
    have hpruned : i.pruned = .push value i.line := by
      rw [pruned, htakes, hpush, hvalue]
      rfl
    rw [hpruned, hvalue]
    exact .push i.opcode.head?_mnemonic_ne hopcode htakes (Numeral.int32?_integer value)

end Instruction

/-- Two answers that agree but for the line that the engine is at, and for what happened
meanwhile. -/
structure Reply.Agrees (reply twin : Reply) : Prop where
  /-- The results agree. -/
  result : twin.result = reply.result
  /-- The bytes agree. -/
  output : twin.output = reply.output
  /-- The stacks agree. -/
  stack : twin.engine.stack = reply.engine.stack
  /-- The sinks agree, and have been flushed alike. -/
  sink : twin.engine.sink = reply.engine.sink
  /-- The cleanups agree, and have been called alike. -/
  cleanup : twin.engine.cleanup = reply.engine.cleanup
  /-- Both engines are halted, or none of them is. -/
  halted : twin.engine.halted = reply.engine.halted

namespace Reply.Agrees

variable {first second third : Reply}

theorem refl (reply : Reply) : reply.Agrees reply :=
  ⟨rfl, rfl, rfl, rfl, rfl, rfl⟩

theorem trans (h : first.Agrees second) (h' : second.Agrees third) : first.Agrees third where
  result := h'.result.trans h.result
  output := h'.output.trans h.output
  stack := h'.stack.trans h.stack
  sink := h'.sink.trans h.sink
  cleanup := h'.cleanup.trans h.cleanup
  halted := h'.halted.trans h.halted

end Reply.Agrees

namespace Engine

variable {engine : Engine} {i j : Instruction} {memory : Memory}

/-- It is of no account at which line an engine is when it halts. -/
theorem agrees_stop_turnTo (engine : Engine) (line : Nat) (cause : RunError) (output : List UInt8)
    (events events' : List Event) :
    ((engine.turnTo line).stop cause output events).Agrees (engine.stop cause output events') := by
  have hhalt := engine.halt_turnTo line cause
  rw [stop, stop, hhalt]
  exact ⟨rfl, rfl, rfl, rfl, rfl, rfl⟩

/-- Instructions on one line that do the same are executed alike. -/
theorem agrees_execute (hline : j.line = i.line)
    (heffect : j.effect memory engine.stack = i.effect memory engine.stack) :
    (engine.execute i memory).Agrees (engine.execute j memory) := by
  have hexecutes := engine.executes i memory
  generalize engine.execute i memory = reply at hexecutes ⊢
  cases hexecutes with
  | refused hhalted =>
    rw [execute_of_halted hhalted, hline]
    exact .refl _
  | undone refusal hrunning hprinted =>
    rw [← heffect] at hprinted
    rw [execute_of_undone hrunning hprinted, hline]
    exact ⟨rfl, rfl, rfl, rfl, rfl, rfl⟩
  | unwritten bytes reason hrunning hprinted hwrite =>
    rw [← heffect] at hprinted
    rw [execute_of_unwritten hrunning hprinted hwrite, proceed, proceed, heffect, hline]
    exact ⟨rfl, rfl, rfl, rfl, rfl, rfl⟩
  | done bytes hrunning hprinted hwrite =>
    rw [← heffect] at hprinted
    rw [execute_of_done hrunning hprinted hwrite, proceed, proceed, heffect, hline]
    exact ⟨rfl, rfl, rfl, rfl, rfl, rfl⟩

/-- A push without an operand is a misuse, and halts a running engine. -/
theorem execute_of_pushUsage (hrunning : engine.halted = false) (hpush : i.opcode = .push)
    (hnone : i.operand = none) :
    engine.execute i memory =
      (engine.turnTo i.line).stop (.fault (Fault.pushUsage.at i.line)) [] [.executing i] := by
  have hprinted : (i.effect memory engine.stack).printed = .error (.fault .pushUsage) := by
    rw [Instruction.effect, hpush, hnone]
    rfl
  exact execute_of_undone hrunning hprinted

theorem executeLine_text_of_pushUsage (hrunning : engine.halted = false) (hpush : i.opcode = .push)
    (hnone : i.operand = none) :
    engine.executeLine i.text i.line memory =
      engine.stop (.fault (Fault.pushUsage.at i.line)) :=
  executeLine_of_error hrunning (Instruction.ofLine_text_eq_pushUsage hpush hnone)

/-- An instruction and the line with it come to the same. -/
theorem agrees_executeLine_text (engine : Engine) (i : Instruction) (memory : Memory) :
    (engine.execute i memory).Agrees (engine.executeLine i.text i.line memory) := by
  cases hhalted : engine.halted with
  | true =>
    rw [execute_of_halted hhalted, executeLine_of_halted hhalted]
    exact .refl _
  | false =>
    by_cases husage : i.opcode = .push ∧ i.operand = none
    · -- The fault is found before the engine turns to the line, or when it has done so.
      obtain ⟨hpush, hnone⟩ := husage
      rw [execute_of_pushUsage hhalted hpush hnone,
        executeLine_text_of_pushUsage hhalted hpush hnone]
      exact agrees_stop_turnTo engine i.line _ _ _ _
    · have hspelled : i.opcode = .push → i.operand ≠ none := fun hpush hnone =>
        husage ⟨hpush, hnone⟩
      rw [executeLine_of_some hhalted (Instruction.ofLine_text_eq_pruned hspelled)]
      exact agrees_execute i.line_pruned (i.effect_pruned memory engine.stack)

/-- Another operand makes no difference, unless the instruction is a push. -/
theorem agrees_execute_operand (engine : Engine) (h : i.opcode ≠ .push) (operand : Option Int32)
    (memory : Memory) :
    (engine.execute i memory).Agrees (engine.execute { i with operand } memory) := by
  refine agrees_execute (by rfl) ?_
  rw [← Instruction.effect_pruned, Instruction.pruned_of_opcode_ne_push h,
    Instruction.effect_pruned]

/-- Whatever the engine is, halted or not, and whatever its sink and its cleanup are, any instruction
comes to the same as the line with the instruction in writing: the results and the bytes are the
same, and so are the stack, the sink with its flushes, the cleanup with its calls, and whether the
engine is halted. With and without room for the stack to grow, this holds of every opcode, with an
operand and without one, on every line.

A push without an operand is a misuse of it at its line either way, unless the engine was halted
before. An operand of another opcode is written behind the mnemonic, and makes no difference to
either way, whatever it is. -/
theorem executeLine_text (engine : Engine) (i : Instruction) (memory : Memory) :
    let direct := engine.execute i memory
    let written := engine.executeLine i.text i.line memory
    direct.Agrees written ∧
    (engine.halted = false → i.opcode = .push → i.operand = none →
      direct.result = .error (.fault (Fault.pushUsage.at i.line)) ∧
        written.result = .error (.fault (Fault.pushUsage.at i.line))) ∧
    (i.opcode ≠ .push → ∀ value,
      let idle : Instruction := { i with operand := some value }
      words idle.text.toList = [i.opcode.mnemonic.toList, Numeral.integer value.toInt] ∧
        direct.Agrees (engine.execute idle memory) ∧
        direct.Agrees (engine.executeLine idle.text i.line memory)) := by
  intro direct written
  refine ⟨agrees_executeLine_text engine i memory, ?_, ?_⟩
  · intro hrunning hpush hnone
    have hdirect := @execute_of_pushUsage engine i memory hrunning hpush hnone
    have hwritten := @executeLine_text_of_pushUsage engine i memory hrunning hpush hnone
    exact ⟨congrArg Reply.result hdirect, congrArg Reply.result hwritten⟩
  · intro hne value idle
    have hidle := agrees_execute_operand engine hne (some value) memory
    refine ⟨idle.words_text, hidle, ?_⟩
    exact hidle.trans (agrees_executeLine_text engine idle memory)

end Engine

end Stackline
