/-!
# Terminated pieces

A text is cut behind every newline, bytes and characters alike: each newline ends a line, and what
follows the last newline is one more line unless it is empty.
-/

namespace Stackline.Text

variable {α : Type} [DecidableEq α]

/-- The pieces that `mark` ends, without it. What follows the last mark is a piece of its own unless
it is empty. -/
def pieces (mark : α) : List α → List (List α)
  | [] => []
  | a :: rest =>
    if a = mark then [] :: pieces mark rest
    else match pieces mark rest with
      | [] => [[a]]
      | piece :: others => (a :: piece) :: others

/-- The lines of a text, without their newlines. -/
def lines (cs : List Char) : List (List Char) :=
  pieces '\n' cs

@[simp]
theorem pieces_nil (mark : α) : pieces mark [] = [] := rfl

@[simp]
theorem pieces_mark_cons (mark : α) (rest : List α) :
    pieces mark (mark :: rest) = [] :: pieces mark rest := by
  simp [pieces]

/-- A text without the mark is one piece, or none when it is empty. -/
theorem pieces_of_not_mem {mark : α} {as : List α} (h : mark ∉ as) (hne : as ≠ []) :
    pieces mark as = [as] := by
  induction as with
  | nil => exact absurd rfl hne
  | cons a rest ih =>
    have ⟨ha, hrest⟩ : mark ≠ a ∧ mark ∉ rest := by simpa using h
    by_cases hnil : rest = []
    · simp [pieces, hnil, Ne.symm ha]
    · simp [pieces, Ne.symm ha, ih hrest hnil]

/-- The first mark ends the first piece. -/
theorem pieces_append_mark {mark : α} {as : List α} (h : mark ∉ as) (rest : List α) :
    pieces mark (as ++ mark :: rest) = as :: pieces mark rest := by
  induction as with
  | nil => simp
  | cons a as ih =>
    have ⟨ha, has⟩ : mark ≠ a ∧ mark ∉ as := by simpa using h
    simp [pieces, Ne.symm ha, ih has]

/-- Pieces end at marks, so they hold none. -/
theorem not_mem_of_mem_pieces {mark : α} {as piece : List α} (h : piece ∈ pieces mark as) :
    mark ∉ piece := by
  induction as generalizing piece with
  | nil => simp at h
  | cons a rest ih =>
    by_cases ha : a = mark
    · subst ha
      rw [pieces_mark_cons, List.mem_cons] at h
      rcases h with rfl | h
      · simp
      · exact ih h
    · rw [pieces, if_neg ha] at h
      cases hp : pieces mark rest with
      | nil =>
        rw [hp] at h
        simp only [List.mem_singleton] at h
        simp [h, Ne.symm ha]
      | cons first others =>
        rw [hp] at h ih
        rcases List.mem_cons.1 h with rfl | h
        · simp [Ne.symm ha, ih (List.mem_cons_self ..)]
        · exact ih (List.mem_cons_of_mem _ h)

end Stackline.Text
