import Stackline.Instruction
import Stackline.Text.Lines

/-!
# Programs

A program is the list of its instructions. Its text is read line by line; lines are numbered from
one, those without an instruction included, and the first faulty line ends the reading.
-/

namespace Stackline

open Text

/-- The instructions of a program, in the order of their lines. -/
abbrev Program := List Instruction

namespace Program

/-- Reads lines of which `before` come earlier in the text. -/
def ofLines (before : Nat) : List (List Char) → Except LocatedFault Program
  | [] => .ok []
  | line :: rest => do
    let first ← Instruction.ofLine (String.ofList (trim line)) (before + 1)
    let others ← ofLines (before + 1) rest
    return first.toList ++ others

/-- The program that a text spells, or its first fault. -/
def assemble (text : String) : Except LocatedFault Program :=
  ofLines 0 (lines text.toList)

end Program

end Stackline
