import Mathlib.Data.List.Induction
import Stackline.Text.Numeral
import Stackline.Text.Words

/-!
# Grammars for words and numerals

What words and numerals are, said of the characters of a text alone and not of how a text is read.

* `MaximalRuns cs runs` — the maximal runs of characters that are not blank. They are the words of
  a text (`maximalRuns_iff`). The first one begins where the blanks at the start end
  (`exists_head?_words_iff`).
* `Numeral.Digits cs n` — ASCII digits and the natural number that they denote in decimal
  (`Numeral.digits_iff`).
* `Numeral.Denotes cs z` — an optional sign and digits, and the integer that they denote
  (`Numeral.denotes_iff`). The value of a numeral is this integer, if that is in range
  (`Numeral.int32?_eq_some_iff`, `Numeral.int32?_eq_none_iff`).
-/

namespace Stackline.Text

/-! ## Words -/

/-- The maximal runs of characters that are not blank, from left to right. -/
inductive MaximalRuns : List Char → List (List Char) → Prop where
  /-- Blanks alone hold no run. -/
  | blank {blanks : List Char} : (∀ c ∈ blanks, isBlank c = true) → MaximalRuns blanks []
  /-- A run goes from behind blanks, or from the start, to the next blank, or to the end. -/
  | run {blanks run rest : List Char} {others : List (List Char)} :
      (∀ c ∈ blanks, isBlank c = true) → run ≠ [] → (∀ c ∈ run, isBlank c = false) →
      (∀ c ∈ rest.head?, isBlank c = true) → MaximalRuns rest others →
      MaximalRuns (blanks ++ run ++ rest) (run :: others)

/-- Blanks at the start are no part of a word. -/
theorem words_blank_append {blanks : List Char} (h : ∀ c ∈ blanks, isBlank c = true)
    (cs : List Char) : words (blanks ++ cs) = words cs := by
  induction blanks with
  | nil => rfl
  | cons c blanks ih =>
    rw [List.forall_mem_cons] at h
    rw [List.cons_append, words_cons_of_blank h.1, ih h.2]

/-- A run up to a blank, or up to the end, is the first word. -/
theorem words_run_append {run rest : List Char} (hne : run ≠ [])
    (hrun : ∀ c ∈ run, isBlank c = false) (hrest : ∀ c ∈ rest.head?, isBlank c = true) :
    words (run ++ rest) = run :: words rest := by
  cases rest with
  | nil => rw [List.append_nil, words_of_no_blank hrun hne, words_nil]
  | cons c rest =>
    have hc : isBlank c = true := hrest c rfl
    rw [words_append_of_no_blank hrun hne hc, words_cons_of_blank hc]

/-- A text begins with a run, which may be empty, up to the first blank or up to the end. -/
theorem exists_run_append (cs : List Char) :
    ∃ run rest, cs = run ++ rest ∧ (∀ c ∈ run, isBlank c = false) ∧
      ∀ c ∈ rest.head?, isBlank c = true := by
  refine ⟨cs.takeWhile (!isBlank ·), cs.dropWhile (!isBlank ·),
    List.takeWhile_append_dropWhile.symm, fun c hc => ?_, fun c hc => ?_⟩
  · have hall : ((cs.takeWhile (!isBlank ·)).all (!isBlank ·)) = true := List.all_takeWhile
    simpa using List.all_eq_true.1 hall c hc
  · have hhead := List.head?_dropWhile_not (!isBlank ·) cs
    rw [Option.mem_def.1 hc] at hhead
    simpa using hhead

theorem isBlank_of_head?_trimStart {cs : List Char} {c : Char}
    (h : (trimStart cs).head? = some c) : isBlank c = false := by
  rw [trimStart] at h
  simpa [h] using List.head?_dropWhile_not isBlank cs

/-- The words of a text are maximal runs. -/
theorem maximalRuns_words (cs : List Char) : MaximalRuns cs (words cs) := by
  -- On the length of the text: what is behind the first run is shorter.
  induction hlength : cs.length using Nat.strongRecOn generalizing cs with
  | _ n ih =>
    obtain ⟨blanks, happ, hblanks⟩ := exists_blank_append_trimStart cs
    obtain ⟨run, rest, hsplit, hrun, hrest⟩ := exists_run_append (trimStart cs)
    rw [hsplit, ← List.append_assoc] at happ
    by_cases hne : run = []
    · -- What is left behind the blanks begins with no blank, so nothing is left.
      have hnil : rest = [] := by
        cases rest with
        | nil => rfl
        | cons c rest =>
          have hc := hrest c rfl
          rw [isBlank_of_head?_trimStart (by rw [hsplit, hne]; rfl)] at hc
          exact nomatch hc
      rw [happ, hne, hnil, List.append_nil, List.append_nil, words_of_blank hblanks]
      exact .blank hblanks
    · have hlt : rest.length < n := by
        have hpos := List.length_pos_iff.2 hne
        rw [← hlength, happ, List.length_append, List.length_append]
        omega
      have hruns := ih rest.length hlt rest rfl
      rw [happ, List.append_assoc, words_blank_append hblanks, words_run_append hne hrun hrest,
        ← List.append_assoc]
      exact .run hblanks hne hrun hrest hruns

theorem maximalRuns_iff {cs : List Char} {runs : List (List Char)} :
    MaximalRuns cs runs ↔ words cs = runs := by
  refine ⟨fun h => ?_, fun h => h ▸ maximalRuns_words cs⟩
  induction h with
  | blank hblanks => exact words_of_blank hblanks
  | run hblanks hne hrun hrest _ ih =>
    rw [List.append_assoc, words_blank_append hblanks, words_run_append hne hrun hrest, ih]

theorem words_eq_nil_iff {cs : List Char} : words cs = [] ↔ ∀ c ∈ cs, isBlank c = true := by
  refine ⟨fun h => ?_, words_of_blank⟩
  have hruns := maximalRuns_iff.2 h
  cases hruns with
  | blank hblanks => exact hblanks

/-- The first word begins with the first character that is not blank. -/
theorem exists_head?_words_iff {cs : List Char} {c : Char} (hc : isBlank c = false) :
    (∃ word, (words cs).head? = some word ∧ word.head? = some c) ↔
      ∃ blanks rest, (∀ b ∈ blanks, isBlank b = true) ∧ cs = blanks ++ c :: rest := by
  constructor
  · rintro ⟨word, hword, hhead⟩
    obtain ⟨others, hwords⟩ := List.head?_eq_some_iff.1 hword
    obtain ⟨later, rfl⟩ := List.head?_eq_some_iff.1 hhead
    have hruns := maximalRuns_iff.2 hwords
    cases hruns with
    | @run blanks _ rest _ hblanks =>
      exact ⟨blanks, later ++ rest, hblanks, by simp⟩
  · rintro ⟨blanks, rest, hblanks, rfl⟩
    obtain ⟨run, later, hsplit, hrun, hlater⟩ := exists_run_append (c :: rest)
    rw [words_blank_append hblanks, hsplit]
    cases run with
    | nil =>
      -- The run is not empty, for the character is not the blank behind it.
      obtain rfl : c :: rest = later := hsplit
      rw [hlater c rfl] at hc
      exact nomatch hc
    | cons first run =>
      obtain rfl : c = first := (List.cons.inj hsplit).1
      rw [words_run_append (List.cons_ne_nil c run) hrun hlater]
      exact ⟨c :: run, rfl, rfl⟩

namespace Numeral

/-- ASCII digits, one at least, and the natural number that they denote in decimal. -/
inductive Digits : List Char → Nat → Prop where
  /-- A digit denotes its value. -/
  | digit {d : Nat} : d < 10 → Digits [Nat.digitChar d] d
  /-- A digit behind others is worth a tenth of the one before it. -/
  | behind {cs : List Char} {n d : Nat} : Digits cs n → d < 10 →
      Digits (cs ++ [Nat.digitChar d]) (10 * n + d)

/-- An optional sign and digits, and the integer that they denote. -/
inductive Denotes : List Char → Int → Prop where
  /-- There is no sign. -/
  | plain {cs : List Char} {n : Nat} : Digits cs n → Denotes cs n
  /-- A plus sign changes nothing. -/
  | plus {cs : List Char} {n : Nat} : Digits cs n → Denotes ('+' :: cs) n
  /-- A minus sign changes the sign. -/
  | minus {cs : List Char} {n : Nat} : Digits cs n → Denotes ('-' :: cs) (-n)

/-- A digit is the character of its value. -/
theorem exists_digitChar_of_isDigit {c : Char} (h : c.isDigit = true) :
    ∃ d < 10, c = Nat.digitChar d := by
  rw [Char.isDigit, Bool.and_eq_true, decide_eq_true_eq, decide_eq_true_eq, ge_iff_le,
    UInt32.le_iff_toNat_le, UInt32.le_iff_toNat_le] at h
  change 48 ≤ c.toNat ∧ c.toNat ≤ 57 at h
  refine ⟨c.toNat - 48, by omega, ?_⟩
  apply Char.toNat_inj.1
  rw [Nat.toNat_digitChar_of_lt_ten (by omega)]
  omega

theorem ofDigitChars_append_digitChar (cs : List Char) {d : Nat} (h : d < 10) :
    Nat.ofDigitChars 10 (cs ++ [Nat.digitChar d]) 0 = 10 * Nat.ofDigitChars 10 cs 0 + d := by
  rw [Nat.ofDigitChars_append, Nat.ofDigitChars_cons, Nat.ofDigitChars_nil,
    Nat.toNat_digitChar_of_lt_ten h]
  simp

theorem natural?_eq_some_iff {cs : List Char} {n : Nat} :
    natural? cs = some n ↔
      cs ≠ [] ∧ (∀ c ∈ cs, c.isDigit = true) ∧ Nat.ofDigitChars 10 cs 0 = n := by
  rw [natural?, Option.ite_none_right_eq_some, List.all_eq_true, Option.some.injEq, and_assoc]

/-- Digits denote the number that is read from them. -/
theorem digits_iff {cs : List Char} {n : Nat} : Digits cs n ↔ natural? cs = some n := by
  rw [natural?_eq_some_iff]
  refine ⟨fun h => ?_, fun ⟨hne, hdigits, hvalue⟩ => ?_⟩
  · induction h with
    | @digit d hd =>
      have hvalue := ofDigitChars_append_digitChar [] hd
      exact ⟨by simp, by simp [hd], by simpa using hvalue⟩
    | behind _ hd ih =>
      obtain ⟨-, hdigits, hvalue⟩ := ih
      refine ⟨by simp, ?_, ?_⟩
      · exact List.forall_mem_append.2 ⟨hdigits, by simp [hd]⟩
      · rw [ofDigitChars_append_digitChar _ hd, hvalue]
  · -- The last digit is behind the others, if there are others.
    induction cs using List.reverseRecOn generalizing n with
    | nil => exact absurd rfl hne
    | append_singleton cs c ih =>
      rw [List.forall_mem_append] at hdigits
      obtain ⟨d, hd, rfl⟩ := exists_digitChar_of_isDigit (hdigits.2 c (by simp))
      rw [ofDigitChars_append_digitChar _ hd] at hvalue
      by_cases hnil : cs = []
      · subst hnil
        obtain rfl : d = n := by simpa using hvalue
        exact .digit hd
      · rw [← hvalue]
        exact .behind (ih ⟨hnil, hdigits.1, rfl⟩ hnil hdigits.1 rfl) hd

/-- Digits begin with no sign. -/
theorem Digits.not_isSign {c : Char} {cs : List Char} {n : Nat} (h : Digits (c :: cs) n) :
    c ≠ '+' ∧ c ≠ '-' := by
  obtain ⟨-, hdigits, -⟩ := natural?_eq_some_iff.1 (digits_iff.1 h)
  have hdigit := hdigits c List.mem_cons_self
  refine ⟨?_, ?_⟩
  · rintro rfl
    exact absurd hdigit (by decide)
  · rintro rfl
    exact absurd hdigit (by decide)

/-- A sign and digits denote the number that is read from them. -/
theorem denotes_iff {cs : List Char} {z : Int} : Denotes cs z ↔ integer? cs = some z := by
  refine ⟨fun h => ?_, fun h => ?_⟩
  · cases h with
    | plain hdigits =>
      have hplus : ∀ ds, cs ≠ '+' :: ds := by
        rintro ds rfl
        exact hdigits.not_isSign.1 rfl
      have hminus : ∀ ds, cs ≠ '-' :: ds := by
        rintro ds rfl
        exact hdigits.not_isSign.2 rfl
      rw [integer?.eq_3 _ hplus hminus, digits_iff.1 hdigits]
      rfl
    | plus hdigits =>
      rw [integer?, digits_iff.1 hdigits]
      rfl
    | minus hdigits =>
      rw [integer?, digits_iff.1 hdigits]
      rfl
  · unfold integer? at h
    split at h
    · obtain ⟨n, hn, rfl⟩ := Option.map_eq_some_iff.1 h
      exact .plus (digits_iff.2 hn)
    · obtain ⟨n, hn, rfl⟩ := Option.map_eq_some_iff.1 h
      exact .minus (digits_iff.2 hn)
    · obtain ⟨n, hn, rfl⟩ := Option.map_eq_some_iff.1 h
      exact .plain (digits_iff.2 hn)

theorem toInt_ofInt {z : Int} (h : InRange z) : (Int32.ofInt z).toInt = z :=
  Int32.toInt_ofInt_of_le h.1 (Int.lt_add_one_iff.2 h.2)

/-- The value of a numeral is the integer that it denotes. -/
theorem int32?_eq_some_iff {cs : List Char} {value : Int32} :
    int32? cs = some value ↔ Denotes cs value.toInt := by
  rw [int32?, Option.bind_eq_some_iff, denotes_iff]
  refine ⟨?_, fun h => ⟨value.toInt, h, ?_⟩⟩
  · rintro ⟨z, hz, hvalue⟩
    obtain ⟨hrange, heq⟩ := Option.ite_none_right_eq_some.1 hvalue
    obtain rfl := Option.some.inj heq
    rw [hz, toInt_ofInt hrange]
  · rw [if_pos (inRange_toInt value), Int32.ofInt_toInt]

/-- There is no value if the numeral denotes no integer in range. -/
theorem int32?_eq_none_iff {cs : List Char} :
    int32? cs = none ↔ ∀ z, Denotes cs z → ¬ InRange z := by
  simp only [int32?, Option.bind_eq_none_iff, denotes_iff, ite_eq_right_iff, reduceCtorEq,
    imp_false]

end Numeral

end Stackline.Text
