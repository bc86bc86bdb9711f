import Stackline.Fault
import Stackline.Text.Words

/-!
# Instructions

An instruction is an opcode, perhaps an operand, and the number of the line that it comes from. This
module writes instructions and reads them from lines of text. Main statements: reading what was
written gives the instruction back, if it is one that lines can spell (`ofLine_text`), and the
blanks around a line do not matter (`ofLine_trim`).
-/

namespace Stackline

open Text

/-- One instruction of a program. -/
structure Instruction where
  /-- What to do. -/
  opcode : Opcode
  /-- The value to do it with. Lines give one to a push only. -/
  operand : Option Int32
  /-- The number of the line that the instruction comes from. -/
  line : Nat
deriving DecidableEq, Repr, Inhabited

namespace Instruction

/-- The instruction that puts a value on the stack. -/
def push (value : Int32) (line : Nat) : Instruction :=
  { opcode := .push, operand := some value, line }

/-- The instruction as a line of text: the mnemonic, and the operand if there is one. -/
def text (i : Instruction) : String :=
  match i.operand with
  | none => i.opcode.mnemonic
  | some value => i.opcode.mnemonic ++ " " ++ String.ofList (Numeral.integer value.toInt)

/-- The instruction of an opcode and the words behind it. Only a push looks at them, and at the
first one only. -/
def ofOpcode (opcode : Opcode) (arguments : List (List Char)) (line : Nat) :
    Except LocatedFault Instruction :=
  if opcode.takesArgument then
    match arguments.head?.bind Numeral.int32? with
    | some value => .ok (push value line)
    | none => .error (Fault.pushUsage.at line)
  else .ok { opcode, operand := none, line }

/-- The instruction that the words of a line make. A line without words and a line whose first word
begins with a number sign make none. -/
def ofWords (line : Nat) : List (List Char) → Except LocatedFault (Option Instruction)
  | [] => .ok none
  | word :: arguments =>
    if word.head? = some '#' then .ok none
    else match Opcode.ofMnemonic? (String.ofList word) with
      | none => .error ((Fault.unknownInstruction (String.ofList word)).at line)
      | some opcode => (ofOpcode opcode arguments line).map some

/-- The instruction on a line of text, if there is one. -/
def ofLine (content : String) (line : Nat) : Except LocatedFault (Option Instruction) :=
  ofWords line (words content.toList)

/-- Whether lines can spell an instruction: a push has an operand and no other instruction does. -/
def WellFormed (i : Instruction) : Prop :=
  i.operand.isSome = i.opcode.takesArgument

/-- The blanks around a line do not matter. -/
theorem ofLine_trim (cs : List Char) (line : Nat) :
    ofLine (String.ofList (trim cs)) line = ofLine (String.ofList cs) line := by
  simp [ofLine]

/-- The words of a written instruction: the mnemonic, and the numeral of the operand. -/
theorem words_text (i : Instruction) :
    words i.text.toList =
      i.opcode.mnemonic.toList :: i.operand.toList.map fun v => Numeral.integer v.toInt := by
  obtain ⟨opcode, operand, line⟩ := i
  have hmnemonic : ∀ c ∈ opcode.mnemonic.toList, isBlank c = false := opcode.isBlank_mnemonic
  have hne : opcode.mnemonic.toList ≠ [] := opcode.mnemonic_ne_nil
  -- Neither the mnemonic nor the numeral holds a blank, so the space between them parts the words.
  cases operand with
  | none => simp [text, words_of_no_blank hmnemonic hne]
  | some value =>
    simp only [text, String.toList_append, String.toList_ofList, List.append_assoc]
    rw [show (" " : String).toList = [' '] from rfl, List.singleton_append,
      words_append_of_no_blank hmnemonic hne isBlank_space,
      words_of_no_blank (Numeral.isBlank_integer value.toInt) (Numeral.integer_ne_nil _)]
    rfl

/-- Reading what was written gives back an instruction that lines can spell. -/
theorem ofLine_text {i : Instruction} (h : i.WellFormed) : ofLine i.text i.line = .ok (some i) := by
  obtain ⟨opcode, operand, line⟩ := i
  have hhead : opcode.mnemonic.toList.head? ≠ some '#' := by cases opcode <;> decide
  rw [ofLine, words_text, ofWords, if_neg hhead, String.ofList_toList, Opcode.ofMnemonic?_mnemonic]
  cases operand with
  | none =>
    have harg : opcode.takesArgument = false := h.symm
    simp [ofOpcode, harg, Except.map]
  | some value =>
    have hpush : opcode = .push := Opcode.takesArgument_iff.1 h.symm
    subst hpush
    simp [ofOpcode, Opcode.takesArgument, Except.map, push]

end Instruction

end Stackline
