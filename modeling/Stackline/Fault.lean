import Stackline.Opcode
import Stackline.Text.Numeral

/-!
# Faults

The ways in which a program goes wrong by itself: a line that is no instruction, or an instruction
whose precondition fails. A fault is reported with the number of the line that it belongs to.
-/

namespace Stackline

/-- What is wrong with a line or with the instruction on it. -/
inductive Fault where
  /-- A push without a numeral in range behind it. -/
  | pushUsage
  /-- The first word of a line names no opcode. -/
  | unknownInstruction (word : String)
  /-- Nothing to print as a number. -/
  | pintEmpty
  /-- Nothing to drop. -/
  | popEmpty
  /-- Fewer than two values for an instruction that works on two. -/
  | stackTooShort (op : Opcode)
  /-- The divisor on top of the stack is zero. -/
  | divisionByZero
  /-- Nothing to print as a character. -/
  | pcharEmpty
  /-- The top value is no ASCII character. -/
  | pcharOutOfRange
deriving DecidableEq, Repr, Inhabited

/-- The wording of a fault. -/
def Fault.message : Fault → String
  | pushUsage => "usage: push integer"
  | unknownInstruction word => "unknown instruction " ++ word
  | pintEmpty => "can't pint, stack empty"
  | popEmpty => "can't pop an empty stack"
  | stackTooShort op => "can't " ++ op.mnemonic ++ ", stack too short"
  | divisionByZero => "division by zero"
  | pcharEmpty => "can't pchar, stack empty"
  | pcharOutOfRange => "can't pchar, value out of range"

/-- How a diagnostic that belongs to a line begins. -/
def lineLabel (line : Nat) : String :=
  "L" ++ String.ofList (Text.Numeral.natural line) ++ ": "

/-- A fault and the line that it belongs to. -/
structure LocatedFault where
  /-- The number of the line. -/
  line : Nat
  /-- What is wrong with it. -/
  fault : Fault
deriving DecidableEq, Repr, Inhabited

/-- The diagnostic of a fault: its wording behind the number of its line. -/
def LocatedFault.message (e : LocatedFault) : String :=
  lineLabel e.line ++ e.fault.message

/-- The fault at a line. -/
def Fault.at (fault : Fault) (line : Nat) : LocatedFault :=
  { line, fault }

end Stackline
