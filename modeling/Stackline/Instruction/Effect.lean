import Stackline.Instruction
import Stackline.Source.Feed
import Stackline.Stack
import Stackline.Text.Utf8

/-!
# What instructions do

The effect of one instruction on a stack: the stack behind it, and the bytes that it prints or the
reason why it is not done. Arithmetic wraps around at 32 bits; quotients are cut off toward zero.
Main statement: an instruction either moves values or prints them, or does neither (`affects`). So
one that is not done leaves the stack as it was (`stack_effect_of_error`): all that could go wrong is
looked at before the stack is touched.
-/

namespace Stackline

open Text

/-- Why an instruction is not done. -/
inductive Refusal where
  /-- The program is at fault. -/
  | fault (cause : Fault)
  /-- There is no room for another value. -/
  | outOfMemory
deriving DecidableEq, Repr

/-- What an instruction does to a stack. -/
structure Effect where
  /-- The stack behind the instruction. -/
  stack : Stack
  /-- What the instruction prints, or why it is not done. -/
  printed : Except Refusal (List UInt8)

namespace Effect

/-- The instruction is done, and prints something or nothing. -/
def done (stack : Stack) (output : List UInt8 := []) : Effect :=
  { stack, printed := .ok output }

/-- The instruction is not done because the program is at fault. -/
def faulty (stack : Stack) (cause : Fault) : Effect :=
  { stack, printed := .error (.fault cause) }

end Effect

/-- The bytes of a printed number: its numeral and a newline. -/
def numberLine (value : Int32) : List UInt8 :=
  Utf8.encode (Numeral.integer value.toInt ++ ['\n'])

/-- The byte of an ASCII character, given its code. -/
def asciiByte? (value : Int32) : Option UInt8 :=
  if 0 ≤ value ∧ value ≤ 127 then some (UInt8.ofNat value.toInt.toNat) else none

/-- The bytes of the text that values spell: ASCII characters, up to the first value that is zero or
no character. -/
def spelled (values : List Int32) : List UInt8 :=
  (values.takeWhile fun value => 0 < value ∧ value ≤ 127).map fun value =>
    UInt8.ofNat value.toInt.toNat

/-- The opcodes that print something of the stack. -/
def Opcode.printing : List Opcode :=
  [pall, pint, pchar, pstr]

namespace Instruction

/-- The effect of an arithmetic instruction: the result stands for the two top values, of which the
top one is the right operand. -/
def arithmetic (op : Opcode) (result : Int32 → Int32 → Except Fault Int32) (stack : Stack) :
    Effect :=
  match stack.top?, stack.second? with
  | some right, some left =>
    match result left right with
    | .ok value => .done (stack.pop.setTop value)
    | .error cause => .faulty stack cause
  | _, _ => .faulty stack (.stackTooShort op)

/-- The effect of a push. Room is asked for only once there is an operand. -/
def pushing (operand : Option Int32) (memory : Memory) (stack : Stack) : Effect :=
  match operand with
  | none => .faulty stack .pushUsage
  | some value =>
    match stack.tryPush value memory with
    | (true, stack) => .done stack
    | (false, stack) => { stack, printed := .error .outOfMemory }

/-- The effect of printing the top value as a character. -/
def printingChar (stack : Stack) : Effect :=
  match stack.top? with
  | none => .faulty stack .pcharEmpty
  | some value =>
    match asciiByte? value with
    | none => .faulty stack .pcharOutOfRange
    | some byte => .done stack [byte, Feed.newline]

/-- The effect of an instruction on a stack. -/
def effect (i : Instruction) (memory : Memory) (stack : Stack) : Effect :=
  match i.opcode with
  | .push => pushing i.operand memory stack
  | .pop => if stack.top?.isSome then .done stack.pop else .faulty stack .popEmpty
  | .swap =>
    if stack.second?.isSome then .done stack.swapTop else .faulty stack (.stackTooShort .swap)
  | .add => arithmetic .add (fun left right => .ok (left + right)) stack
  | .sub => arithmetic .sub (fun left right => .ok (left - right)) stack
  | .mul => arithmetic .mul (fun left right => .ok (left * right)) stack
  | .div =>
    arithmetic .div
      (fun left right => if right = 0 then .error .divisionByZero else .ok (left / right)) stack
  | .mod =>
    arithmetic .mod
      (fun left right => if right = 0 then .error .divisionByZero else .ok (left % right)) stack
  | .pall => .done stack (stack.toList.flatMap numberLine)
  | .pint =>
    match stack.top? with
    | none => .faulty stack .pintEmpty
    | some value => .done stack (numberLine value)
  | .pchar => printingChar stack
  | .pstr => .done stack (spelled stack.toList ++ [Feed.newline])
  | .nop => .done stack

/-! ## All effects -/

/-- The ways in which an instruction affects a stack. -/
inductive Affects (i : Instruction) (memory : Memory) (stack : Stack) : Effect → Prop where
  /-- The program is at fault, and the stack stays as it is. -/
  | faulty (cause : Fault) : Affects i memory stack (.faulty stack cause)
  /-- There is no room for a value that is to be pushed, and the stack stays as it is. -/
  | exhausted : i.opcode = .push → memory = .refused →
      Affects i memory stack { stack, printed := .error .outOfMemory }
  /-- Something is printed, and the stack stays as it is. -/
  | printing (bytes : List UInt8) : i.opcode ∈ Opcode.printing →
      Affects i memory stack (.done stack bytes)
  /-- Values are put on the stack or taken from it, and nothing is printed. -/
  | moving (behind : Stack) : i.opcode ∉ Opcode.printing → Affects i memory stack (.done behind)

variable {i : Instruction} {memory : Memory} {stack : Stack} {refusal : Refusal}

theorem affects_arithmetic (h : i.opcode ∉ Opcode.printing) (op : Opcode)
    (result : Int32 → Int32 → Except Fault Int32) :
    i.Affects memory stack (arithmetic op result stack) := by
  rw [arithmetic]
  split
  · split
    · exact .moving _ h
    · exact .faulty _
  · exact .faulty _

theorem affects (i : Instruction) (memory : Memory) (stack : Stack) :
    i.Affects memory stack (i.effect memory stack) := by
  obtain ⟨opcode, operand, line⟩ := i
  rw [effect]
  cases opcode with
  | push =>
    cases operand with
    | none => exact .faulty .pushUsage
    | some value =>
      cases memory with
      | granted => exact .moving _ (by simp [Opcode.printing])
      | refused => exact .exhausted rfl rfl
  | pop | swap =>
    dsimp only
    split
    · exact .moving _ (by simp [Opcode.printing])
    · exact .faulty _
  | add | sub | mul | div | mod => exact affects_arithmetic (by simp [Opcode.printing]) _ _
  | pall | pstr => exact .printing _ (by simp [Opcode.printing])
  | pint =>
    dsimp only
    split
    · exact .faulty .pintEmpty
    · exact .printing _ (by simp [Opcode.printing])
  | pchar =>
    dsimp only [printingChar]
    split
    · exact .faulty .pcharEmpty
    · split
      · exact .faulty .pcharOutOfRange
      · exact .printing _ (by simp [Opcode.printing])
  | nop => exact .moving stack (by simp [Opcode.printing])

/-- An instruction that is not done leaves the stack as it was. -/
theorem stack_effect_of_error (h : (i.effect memory stack).printed = .error refusal) :
    (i.effect memory stack).stack = stack := by
  have haffects := i.affects memory stack
  generalize i.effect memory stack = effect at h haffects ⊢
  cases haffects with
  | faulty => rfl
  | exhausted => rfl
  | printing => rfl
  | moving => exact nomatch h

/-- An instruction that prints leaves the stack as it was. -/
theorem stack_effect_of_printing (h : i.opcode ∈ Opcode.printing) :
    (i.effect memory stack).stack = stack := by
  have haffects := i.affects memory stack
  generalize i.effect memory stack = effect at haffects ⊢
  cases haffects with
  | faulty => rfl
  | exhausted => rfl
  | printing => rfl
  | moving behind hmoving => exact absurd h hmoving

/-- Only an instruction that prints has bytes for the sink. -/
theorem opcode_mem_printing {bytes : List UInt8}
    (h : (i.effect memory stack).printed = .ok bytes) (hne : bytes ≠ []) :
    i.opcode ∈ Opcode.printing := by
  have haffects := i.affects memory stack
  generalize i.effect memory stack = effect at h haffects
  cases haffects with
  | faulty => exact nomatch h
  | exhausted => exact nomatch h
  | printing bytes hprinting => exact hprinting
  | moving => exact absurd (Except.ok.inj h).symm hne

/-- Memory runs out only where it is refused. -/
theorem memory_of_outOfMemory
    (h : (i.effect memory stack).printed = .error .outOfMemory) : memory = .refused := by
  have haffects := i.affects memory stack
  generalize i.effect memory stack = effect at h haffects
  cases haffects with
  | faulty => exact nomatch h
  | exhausted _ hmemory => exact hmemory
  | printing => exact nomatch h
  | moving => exact nomatch h

end Instruction

end Stackline
