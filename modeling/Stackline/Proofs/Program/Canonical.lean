import Stackline.Proofs.Engine.Disguise
import Stackline.Proofs.Program.Assembly

/-!
# Programs in writing

A program that was read from a text can be written again, each instruction on a line of its own.
Comments, blank lines and whatever else a text may hold are gone then, and reading gives the same
instructions on other lines.

* `Program.text program` — the instructions in writing, with a newline behind each.
* `Program.numbered first program` — the instructions on consecutive lines.
* `Program.place program line` — the number of instructions up to a line. Where the lines increase,
  an instruction has its place for its number among the numbered ones (`numbered_eq_map_place`).
* `Program.ofLines_eq_ok` — the instructions that are read are spelled by lines that increase.
* `Program.assemble_text` — what was written is read with lines from one.
-/

namespace Stackline

open Text

namespace Instruction

/-- A written instruction is one line. -/
theorem newline_not_mem_text (i : Instruction) : '\n' ∉ i.text.toList := by
  -- Mnemonics and numerals hold no blanks, and what stands between them is a space.
  have hmnemonic : '\n' ∉ i.opcode.mnemonic.toList := by
    intro hmem
    exact absurd (i.opcode.isBlank_mnemonic _ hmem) (by decide)
  unfold text
  cases i.operand with
  | none => exact hmnemonic
  | some value =>
    intro hmem
    simp only [String.toList_append, String.toList_ofList, List.mem_append] at hmem
    rcases hmem with (hmem | hmem) | hmem
    · exact hmnemonic hmem
    · exact absurd hmem (by decide)
    · exact absurd (Numeral.isBlank_integer value.toInt _ hmem) (by decide)

end Instruction

namespace Program

/-! ## Lines that increase -/

/-- The instructions that are read are spelled by lines, and stand behind each other. -/
theorem ofLines_eq_ok {before : Nat} {texts : List (List Char)} {program : Program}
    (h : ofLines before texts = .ok program) :
    program.Pairwise (·.line < ·.line) ∧ ∀ i ∈ program, before < i.line ∧ i.WellFormed := by
  induction texts generalizing before program with
  | nil =>
    obtain rfl := Except.ok.inj h
    exact ⟨.nil, nofun⟩
  | cons line rest ih =>
    cases hfirst : Instruction.ofLine (String.ofList (trim line)) (before + 1) with
    | error cause => simp [ofLines_cons_of_error hfirst] at h
    | ok first =>
      rw [ofLines_cons_of_ok hfirst] at h
      cases hrest : ofLines (before + 1) rest with
      | error cause => simp [hrest, Except.map] at h
      | ok others =>
        rw [hrest] at h
        obtain rfl := Except.ok.inj h
        obtain ⟨hincreasing, hothers⟩ := ih hrest
        -- What the other lines give stands behind this line, and so behind those before it.
        have hlater : ∀ i ∈ others, before < i.line ∧ i.WellFormed := fun i hmem =>
          ⟨Nat.lt_of_succ_lt (hothers i hmem).1, (hothers i hmem).2⟩
        cases first with
        | none => exact ⟨hincreasing, hlater⟩
        | some i =>
          have hline := Instruction.line_of_ofLine_eq_some hfirst
          constructor
          · refine List.pairwise_cons.2 ⟨fun j hmem => ?_, hincreasing⟩
            rw [hline]
            exact (hothers j hmem).1
          · refine List.forall_mem_cons.2 ⟨⟨?_, Instruction.wellFormed_of_ofLine hfirst⟩, hlater⟩
            rw [hline]
            exact Nat.lt_succ_self before

/-- The instructions on consecutive lines. -/
def numbered (first : Nat) (program : Program) : Program :=
  (program.zipIdx first).map fun (i, number) => { i with line := number }

/-- How many instructions stand on lines up to the given one. -/
def place (program : Program) (line : Nat) : Nat :=
  program.countP (·.line ≤ line)

theorem place_cons (i : Instruction) (rest : Program) (line : Nat) :
    place (i :: rest) line = place rest line + if i.line ≤ line then 1 else 0 := by
  simp [place, List.countP_cons]

/-- Nothing stands on a line before the first one. -/
theorem place_eq_zero {program : Program} {line : Nat} (h : ∀ i ∈ program, line < i.line) :
    program.place line = 0 := by
  simpa [place, List.countP_eq_zero] using h

/-- Where lines increase, numbering the instructions gives each of them its place. -/
theorem numbered_eq_map_place {program : Program} (h : program.Pairwise (·.line < ·.line))
    (before : Nat) :
    program.numbered (before + 1) =
      program.map (·.renumber fun line => before + program.place line) := by
  induction program generalizing before with
  | nil => rfl
  | cons i rest ih =>
    obtain ⟨hfirst, hrest⟩ := List.pairwise_cons.1 h
    -- No later instruction stands on a line up to the first one's.
    have hplace : place (i :: rest) i.line = 1 := by
      rw [place_cons, place_eq_zero hfirst, if_pos (Nat.le_refl _)]
    rw [numbered, List.zipIdx_cons, List.map_cons, ← numbered, ih hrest, List.map_cons]
    refine List.cons_eq_cons.2 ⟨?_, List.map_congr_left fun j hmem => ?_⟩
    · rw [Instruction.renumber, hplace]
    · -- The first instruction is counted for every later one.
      rw [Instruction.renumber, Instruction.renumber, place_cons,
        if_pos (Nat.le_of_lt (hfirst j hmem)), Nat.add_right_comm, Nat.add_assoc]

/-- Where lines increase, the instruction that comes `k`-th from zero has the place `k + 1`. -/
theorem place_getElem {program : Program} (h : program.Pairwise (·.line < ·.line)) {k : Nat}
    (hk : k < program.length) : program.place program[k].line = k + 1 := by
  have hnumbered := congrArg (·[k]?) (numbered_eq_map_place h 0)
  simp [numbered, hk, Instruction.renumber] at hnumbered
  omega

/-! ## Writing and reading -/

/-- The instructions in writing, with a newline behind each. -/
def text (program : Program) : String :=
  String.join (program.map fun i => i.text ++ "\n")

/-- The lines of a written program are its written instructions. -/
theorem lines_text (program : Program) :
    lines program.text.toList = program.map (·.text.toList) := by
  have htext : program.text.toList = ended '\n' (program.map (·.text.toList)) := by
    simp [text, ended, List.flatMap_map]
  rw [htext, lines]
  apply pieces_ended
  intro line hmem
  obtain ⟨i, -, rfl⟩ := List.mem_map.1 hmem
  exact i.newline_not_mem_text

/-- Written instructions are read in order. -/
theorem ofLines_map_text {program : Program} (h : ∀ i ∈ program, i.WellFormed) (before : Nat) :
    ofLines before (program.map (·.text.toList)) = .ok (program.numbered (before + 1)) := by
  induction program generalizing before with
  | nil => rfl
  | cons i rest ih =>
    obtain ⟨hfirst, hrest⟩ := List.forall_mem_cons.1 h
    -- The number of an instruction is no part of its text.
    have hline : Instruction.ofLine (String.ofList (trim i.text.toList)) (before + 1) =
        .ok (some { i with line := before + 1 }) := by
      rw [Instruction.ofLine_trim, String.ofList_toList]
      exact @Instruction.ofLine_text { i with line := before + 1 } hfirst
    rw [List.map_cons, ofLines_cons_of_ok hline, ih hrest]
    rfl

/-- What was written is read with lines from one. -/
theorem assemble_text {program : Program} (h : ∀ i ∈ program, i.WellFormed) :
    assemble program.text = .ok (program.numbered 1) := by
  rw [assemble, lines_text, ofLines_map_text h]

end Program

end Stackline
