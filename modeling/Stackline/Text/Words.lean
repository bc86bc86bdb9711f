import Stackline.Text.Blank

/-!
# Words of a line

The words of a text are its maximal runs of characters that are not blank. `trim` drops the blanks
at both ends; it changes no word.
-/

namespace Stackline.Text

/-- The maximal runs of characters that are not blank, from left to right. -/
def words (cs : List Char) : List (List Char) :=
  (cs.splitOnP isBlank).filter fun word => !word.isEmpty

/-- The text without the blanks at its start. -/
def trimStart (cs : List Char) : List Char :=
  cs.dropWhile isBlank

/-- The text without the blanks at its end. -/
def trimEnd (cs : List Char) : List Char :=
  (cs.reverse.dropWhile isBlank).reverse

/-- The text without the blanks at its two ends. -/
def trim (cs : List Char) : List Char :=
  trimEnd (trimStart cs)

/-! ## Words -/

@[simp]
theorem words_nil : words [] = [] := by
  simp [words]

/-- A blank parts the words before it from the words after it. -/
theorem words_append_cons_of_blank {c : Char} (h : isBlank c = true) (as bs : List Char) :
    words (as ++ c :: bs) = words as ++ words bs := by
  simp [words, List.splitOnP_append_cons _ _ h]

/-- A blank at the start is no part of a word. -/
theorem words_cons_of_blank {c : Char} (h : isBlank c = true) (cs : List Char) :
    words (c :: cs) = words cs := by
  simpa using words_append_cons_of_blank h [] cs

/-- Characters that are not blank, with no others among them, are one word. -/
theorem words_of_no_blank {cs : List Char} (h : ∀ c ∈ cs, isBlank c = false) (hne : cs ≠ []) :
    words cs = [cs] := by
  simp [words, List.splitOnP_eq_singleton h, hne]

/-- The first word ends at the first blank. -/
theorem words_append_of_no_blank {word : List Char} (h : ∀ c ∈ word, isBlank c = false)
    (hne : word ≠ []) {c : Char} (hc : isBlank c = true) (rest : List Char) :
    words (word ++ c :: rest) = word :: words rest := by
  rw [words_append_cons_of_blank hc, words_of_no_blank h hne, List.singleton_append]

/-- Blanks alone hold no word. -/
theorem words_of_blank {cs : List Char} (h : ∀ c ∈ cs, isBlank c = true) : words cs = [] := by
  induction cs with
  | nil => exact words_nil
  | cons c cs ih =>
    rw [words_cons_of_blank (h c List.mem_cons_self)]
    exact ih fun d hd => h d (List.mem_cons_of_mem c hd)

/-! ## Trimming -/

/-- What is trimmed at the start is blank. -/
theorem exists_blank_append_trimStart (cs : List Char) :
    ∃ blanks, cs = blanks ++ trimStart cs ∧ ∀ c ∈ blanks, isBlank c = true := by
  induction cs with
  | nil => exact ⟨[], rfl, by simp⟩
  | cons c cs ih =>
    by_cases hc : isBlank c = true
    · -- A blank goes to those that are trimmed behind it.
      obtain ⟨blanks, happ, hblank⟩ := ih
      refine ⟨c :: blanks, ?_, by simpa [hc] using hblank⟩
      simpa [trimStart, hc] using happ
    · exact ⟨[], by simp [trimStart, hc], by simp⟩

/-- What is trimmed at the end is blank. -/
theorem exists_trimEnd_append_blank (cs : List Char) :
    ∃ blanks, cs = trimEnd cs ++ blanks ∧ ∀ c ∈ blanks, isBlank c = true := by
  -- The end of a text is the start of its reverse.
  obtain ⟨blanks, happ, hblank⟩ := exists_blank_append_trimStart cs.reverse
  refine ⟨blanks.reverse, ?_, fun c hc => hblank c (List.mem_reverse.1 hc)⟩
  simpa [trimEnd, trimStart] using congrArg List.reverse happ

/-- Trimming the start changes no word. -/
@[simp]
theorem words_trimStart (cs : List Char) : words (trimStart cs) = words cs := by
  induction cs with
  | nil => rfl
  | cons c cs ih =>
    by_cases hc : isBlank c = true
    · rw [words_cons_of_blank hc, ← ih]
      simp [trimStart, hc]
    · simp [trimStart, hc]

/-- Blanks at the end are no part of a word. -/
theorem words_append_blank (cs : List Char) {blanks : List Char}
    (h : ∀ c ∈ blanks, isBlank c = true) : words (cs ++ blanks) = words cs := by
  cases blanks with
  | nil => rw [List.append_nil]
  | cons c rest =>
    rw [words_append_cons_of_blank (h c List.mem_cons_self),
      words_of_blank fun d hd => h d (List.mem_cons_of_mem c hd), List.append_nil]

/-- Trimming changes no word. -/
@[simp]
theorem words_trim (cs : List Char) : words (trim cs) = words cs := by
  obtain ⟨blanks, happ, hblank⟩ := exists_trimEnd_append_blank (trimStart cs)
  rw [trim, ← words_append_blank _ hblank, ← happ, words_trimStart]

end Stackline.Text
