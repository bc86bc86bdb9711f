import Stackline.Proofs.Engine.Disguise
import Stackline.Proofs.Program.Assembly

/-!
# Texts behind one another

Where a text is put behind complete lines, each of the two is read as it is alone. The lines of the
second one are further down, and a fault in the first one keeps it from being read.

* `Program.renumberRead number result` — what lines are read as, with other numbers.
* `Program.ofLines_renumber` — lines that are further down.
* `Program.ofLines_append` — lines behind others.
* `Program.assemble_append` — texts behind one another.
-/

namespace Stackline.Program

open Text

/-- What lines are read as, with the other numbers. -/
def renumberRead (number : Nat → Nat) : Except LocatedFault Program → Except LocatedFault Program
  | .ok program => .ok (program.map (·.renumber number))
  | .error fault => .error (fault.renumber number)

/-- Lines that are further down are read as the same instructions further down, or as the same
fault. -/
theorem ofLines_renumber (count before : Nat) (texts : List (List Char)) :
    ofLines (count + before) texts = renumberRead (count + ·) (ofLines before texts) := by
  induction texts generalizing before with
  | nil => rfl
  | cons line rest ih =>
    have hline := Instruction.ofLine_renumber (count + ·) (String.ofList (trim line)) (before + 1)
    rw [← Nat.add_assoc] at hline
    cases hfirst : Instruction.ofLine (String.ofList (trim line)) (before + 1) with
    | error fault =>
      rw [hfirst] at hline
      rw [ofLines_cons_of_error hline, ofLines_cons_of_error hfirst]
      rfl
    | ok first =>
      rw [hfirst] at hline
      rw [ofLines_cons_of_ok hline, ofLines_cons_of_ok hfirst, Nat.add_assoc, ih]
      -- The first instruction, if there is one, is renumbered like those behind it.
      cases ofLines (before + 1) rest with
      | error fault => rfl
      | ok others => cases first <;> rfl

/-- Lines are read, and those behind them are read then, unless there has been a fault. -/
theorem ofLines_append (before : Nat) (texts rest : List (List Char)) :
    ofLines before (texts ++ rest) =
      (ofLines before texts).bind fun program =>
        (ofLines (before + texts.length) rest).map (program ++ ·) := by
  induction texts generalizing before with
  | nil =>
    change ofLines before rest = (ofLines before rest).map id
    cases ofLines before rest <;> rfl
  | cons line texts ih =>
    rw [List.cons_append]
    cases hfirst : Instruction.ofLine (String.ofList (trim line)) (before + 1) with
    | error fault =>
      rw [ofLines_cons_of_error hfirst, ofLines_cons_of_error hfirst]
      rfl
    | ok first =>
      rw [ofLines_cons_of_ok hfirst, ofLines_cons_of_ok hfirst, ih, List.length_cons,
        Nat.add_right_comm, Nat.add_assoc]
      cases ofLines (before + 1) texts with
      | error fault => rfl
      | ok program =>
        cases ofLines (before + (texts.length + 1)) rest with
        | error fault => rfl
        | ok others => exact congrArg Except.ok (List.append_assoc ..).symm

/-- A text that is empty or ends in a newline has one line for each newline. If it has a fault, the
text with another one behind it has the same fault. Otherwise the two together spell the
instructions of the first one and, behind them, those of the second one, or they have the fault of
the second one; the lines of the second one are further down by the number of lines of the first
one. -/
theorem assemble_append {a : String} (h : a = "" ∨ a.toList.getLast? = some '\n') (b : String) :
    let count := a.toList.count '\n'
    (endedLines a.toList).length = count ∧
    assemble (a ++ b) =
      match assemble a, assemble b with
      | .error fault, _ => .error fault
      | .ok program, .ok others => .ok (program ++ others.map (·.renumber (count + ·)))
      | .ok _, .error fault => .error (fault.renumber (count + ·)) := by
  intro count
  have hended : a.toList = [] ∨ a.toList.getLast? = some '\n' :=
    h.imp_left fun hempty => congrArg String.toList hempty
  have hcount : (lines a.toList).length = count := length_pieces_of_ended hended
  refine ⟨(length_endedLines a.toList).trans hcount, ?_⟩
  have hlines : lines (a ++ b).toList = lines a.toList ++ lines b.toList := by
    rw [String.toList_append]
    exact pieces_append_of_ended hended b.toList
  have hsecond : ofLines (0 + count) (lines b.toList) =
      renumberRead (count + ·) (assemble b) := by
    rw [Nat.zero_add]
    exact ofLines_renumber count 0 (lines b.toList)
  rw [assemble, hlines, ofLines_append, hcount, hsecond, ← assemble]
  cases assemble a with
  | error fault => rfl
  | ok program => cases assemble b <;> rfl

/-- Three lines, of which one has a carriage return, one is blank and one is a comment, with a text
behind them that has no fault, and with one that has. -/
theorem assemble_append_commented :
    let a := "push 1\r\n\n# pop\n"
    a.toList.getLast? = some '\n' ∧
    assemble (a ++ "add\n\npush -2") =
      .ok [.push 1 1, { opcode := .add, operand := none, line := 4 }, .push (-2) 6] ∧
    assemble (a ++ "nop\r\npush +") = .error (Fault.pushUsage.at 5) := by
  intro a
  have hended : a.toList.getLast? = some '\n' := by decide
  refine ⟨hended, ?_, ?_⟩
  · rw [(assemble_append (.inr hended) _).2]
    decide
  · rw [(assemble_append (.inr hended) _).2]
    decide

end Stackline.Program
