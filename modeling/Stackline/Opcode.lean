import Stackline.Text.Blank

/-!
# Opcodes

The closed table of what an instruction can ask of the machine. Every opcode has one mnemonic, and a
word names an opcode only if it is spelled exactly as in the table.
-/

namespace Stackline

/-- What an instruction asks of the machine. -/
inductive Opcode where
  /-- Put the operand on the stack. -/
  | push
  /-- Print the whole stack from the top. -/
  | pall
  /-- Print the top value. -/
  | pint
  /-- Drop the top value. -/
  | pop
  /-- Exchange the two top values. -/
  | swap
  /-- Replace the two top values by their sum. -/
  | add
  /-- Replace the two top values by the second less the first. -/
  | sub
  /-- Replace the two top values by their product. -/
  | mul
  /-- Replace the two top values by the quotient of the second by the first. -/
  | div
  /-- Replace the two top values by the remainder of the second by the first. -/
  | mod
  /-- Print the top value as a character. -/
  | pchar
  /-- Print the values from the top as a text. -/
  | pstr
  /-- Do nothing. -/
  | nop
deriving DecidableEq, Repr, Inhabited

namespace Opcode

/-- The table, in its own order. -/
def all : List Opcode :=
  [push, pall, pint, pop, swap, add, sub, mul, div, mod, pchar, pstr, nop]

/-- The word that names an opcode. -/
def mnemonic : Opcode → String
  | push => "push"
  | pall => "pall"
  | pint => "pint"
  | pop => "pop"
  | swap => "swap"
  | add => "add"
  | sub => "sub"
  | mul => "mul"
  | div => "div"
  | mod => "mod"
  | pchar => "pchar"
  | pstr => "pstr"
  | nop => "nop"

/-- The opcode that a word names. -/
def ofMnemonic? (word : String) : Option Opcode :=
  all.find? fun op => op.mnemonic == word

/-- Whether the word behind the mnemonic is an operand. -/
def takesArgument : Opcode → Bool
  | push => true
  | _ => false

/-- The table leaves no opcode out. -/
theorem mem_all (op : Opcode) : op ∈ all := by
  cases op <;> decide

/-- Every opcode is found by its mnemonic. -/
@[simp]
theorem ofMnemonic?_mnemonic (op : Opcode) : ofMnemonic? op.mnemonic = some op := by
  cases op <;> decide

/-- A word names an opcode exactly if it is that opcode's mnemonic. -/
theorem ofMnemonic?_eq_some_iff {word : String} {op : Opcode} :
    ofMnemonic? word = some op ↔ word = op.mnemonic := by
  refine ⟨fun h => ?_, fun h => by rw [h, ofMnemonic?_mnemonic]⟩
  have found := @List.find?_some _ (fun op : Opcode => op.mnemonic == word) op all h
  exact (beq_iff_eq.1 found).symm

/-- A mnemonic is one word. -/
theorem isBlank_mnemonic (op : Opcode) : ∀ c ∈ op.mnemonic.toList, Text.isBlank c = false := by
  have none_blank : (op.mnemonic.toList.all fun c => !Text.isBlank c) = true := by
    cases op <;> decide
  simpa using none_blank

theorem mnemonic_ne_nil (op : Opcode) : op.mnemonic.toList ≠ [] := by
  cases op <;> decide

theorem takesArgument_iff {op : Opcode} : op.takesArgument = true ↔ op = push := by
  cases op <;> decide

end Opcode

end Stackline
