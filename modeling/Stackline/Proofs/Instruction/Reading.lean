import Stackline.Instruction
import Stackline.Source

/-!
# How lines are read

* `Instruction.Reads line words result` — the ways in which the words of a line are read, case by
  case, for proofs about all of them (`reads_iff`, and `reads_iff_ofLine_lineText` for the lines of
  a source).
* `Instruction.line_of_ofLine_eq_some`, `Instruction.line_of_ofLine_eq_error` — instructions and
  faults have the number of their line.
* `Instruction.wellFormed_of_ofLine` — lines spell well-formed instructions only.
-/

namespace Stackline.Instruction

open Text

/-- The ways in which the words of a line are read. -/
inductive Reads (line : Nat) :
    List (List Char) → Except LocatedFault (Option Instruction) → Prop where
  /-- There are no words. -/
  | blank : Reads line [] (.ok none)
  /-- The first word begins with a number sign. -/
  | comment {word : List Char} (arguments : List (List Char)) : word.head? = some '#' →
      Reads line (word :: arguments) (.ok none)
  /-- The first word names no opcode. -/
  | unknown {word : List Char} (arguments : List (List Char)) : word.head? ≠ some '#' →
      Opcode.ofMnemonic? (String.ofList word) = none →
      Reads line (word :: arguments)
        (.error ((Fault.unknownInstruction (String.ofList word)).at line))
  /-- There is no operand where there has to be one. -/
  | usage {word : List Char} {arguments : List (List Char)} {opcode : Opcode} :
      word.head? ≠ some '#' → Opcode.ofMnemonic? (String.ofList word) = some opcode →
      opcode.takesArgument = true → arguments.head?.bind Numeral.int32? = none →
      Reads line (word :: arguments) (.error (Fault.pushUsage.at line))
  /-- A push has its operand. -/
  | push {word : List Char} {arguments : List (List Char)} {opcode : Opcode} {value : Int32} :
      word.head? ≠ some '#' → Opcode.ofMnemonic? (String.ofList word) = some opcode →
      opcode.takesArgument = true → arguments.head?.bind Numeral.int32? = some value →
      Reads line (word :: arguments) (.ok (some (.push value line)))
  /-- Another instruction is its opcode, whatever is behind it. -/
  | plain {word : List Char} (arguments : List (List Char)) {opcode : Opcode} :
      word.head? ≠ some '#' → Opcode.ofMnemonic? (String.ofList word) = some opcode →
      opcode.takesArgument = false →
      Reads line (word :: arguments) (.ok (some { opcode, operand := none, line }))

variable {line : Nat} {content : String} {i : Instruction} {fault : LocatedFault}

theorem reads_ofWords (line : Nat) (words : List (List Char)) :
    Reads line words (ofWords line words) := by
  cases words with
  | nil => exact .blank
  | cons word arguments =>
    rw [ofWords]
    by_cases hcomment : word.head? = some '#'
    · rw [if_pos hcomment]
      exact .comment arguments hcomment
    rw [if_neg hcomment]
    cases hopcode : Opcode.ofMnemonic? (String.ofList word) with
    | none => exact .unknown arguments hcomment hopcode
    | some opcode =>
      simp only [ofOpcode]
      cases hargument : opcode.takesArgument with
      | false => exact .plain arguments hcomment hopcode hargument
      | true =>
        cases hvalue : arguments.head?.bind Numeral.int32? with
        | none => exact .usage hcomment hopcode hargument hvalue
        | some value => exact .push hcomment hopcode hargument hvalue

/-- The words of a line are read in exactly one way. -/
theorem reads_iff {words : List (List Char)} {result : Except LocatedFault (Option Instruction)} :
    Reads line words result ↔ ofWords line words = result := by
  refine ⟨fun h => ?_, fun h => h ▸ reads_ofWords line words⟩
  cases h with
  | blank => rfl
  | comment arguments hcomment => rw [ofWords, if_pos hcomment]
  | unknown arguments hcomment hopcode => rw [ofWords, if_neg hcomment, hopcode]
  | usage hcomment hopcode hargument hvalue =>
    simp [ofWords, hcomment, hopcode, ofOpcode, hargument, hvalue, Except.map]
  | push hcomment hopcode hargument hvalue =>
    simp [ofWords, hcomment, hopcode, ofOpcode, hargument, hvalue, Except.map]
  | plain arguments hcomment hopcode hargument =>
    simp [ofWords, hcomment, hopcode, ofOpcode, hargument, Except.map]

/-- The line of a source is read by the words of its decoded bytes. -/
theorem reads_iff_ofLine_lineText {content : List UInt8}
    {result : Except LocatedFault (Option Instruction)} :
    Reads line (words (Utf8.decode content)) result ↔
      ofLine (Source.lineText content) line = result := by
  rw [reads_iff, Source.lineText, ofLine_trim, ofLine, String.toList_ofList]

/-- The instruction on a line has the number of the line. -/
theorem line_of_ofLine_eq_some (h : ofLine content line = .ok (some i)) : i.line = line := by
  have hreads := reads_iff.2 h
  generalize words content.toList = ws at hreads
  cases hreads with
  | push => rfl
  | plain => rfl

/-- A line is faulty at its own number. -/
theorem line_of_ofLine_eq_error (h : ofLine content line = .error fault) : fault.line = line := by
  have hreads := reads_iff.2 h
  generalize words content.toList = ws at hreads
  cases hreads with
  | unknown => rfl
  | usage => rfl

/-- Lines give an operand to a push, and to no other instruction. -/
theorem wellFormed_of_ofLine (h : ofLine content line = .ok (some i)) : i.WellFormed := by
  have hreads := reads_iff.2 h
  generalize words content.toList = ws at hreads
  cases hreads with
  | push => rfl
  | plain _ _ _ hargument => exact hargument.symm

end Stackline.Instruction
