import Stackline.Proofs.Instruction.Reading
import Stackline.Proofs.Text.Grammar

/-!
# The grammar of lines

Which lines make nothing, which make an instruction and which are faulty, said of the maximal runs
of a line (`Text.MaximalRuns`) and of numerals and what they denote (`Text.Numeral.Denotes`).

* `Instruction.Grammar line words result` — when a line makes what, one field for each kind of
  result.
* `Instruction.ofWords_congr` — the second word matters behind `push` only, and no word behind it
  does.
* `Instruction.ofLine_grammar` — the headline. Lines are read by this grammar; words that do not
  matter, and blanks, change nothing.
-/

namespace Stackline

open Text

namespace Opcode

variable {word : List Char} {opcode : Opcode}

/-- A word names an opcode exactly if it has the letters of that opcode's mnemonic. -/
theorem ofMnemonic?_ofList_eq_some_iff :
    ofMnemonic? (String.ofList word) = some opcode ↔ word = opcode.mnemonic.toList := by
  rw [ofMnemonic?_eq_some_iff, ← String.toList_inj, String.toList_ofList]

/-- Only `push` names an opcode that takes an argument. -/
theorem eq_push_of_takesArgument (h : ofMnemonic? (String.ofList word) = some opcode)
    (htakes : opcode.takesArgument = true) : word = "push".toList := by
  rw [takesArgument_iff] at htakes
  rw [htakes, ofMnemonic?_ofList_eq_some_iff] at h
  exact h

theorem ofMnemonic?_ofList_eq_none_iff :
    ofMnemonic? (String.ofList word) = none ↔ ∀ opcode : Opcode, word ≠ opcode.mnemonic.toList := by
  simp only [Option.eq_none_iff_forall_ne_some, ne_eq, ofMnemonic?_ofList_eq_some_iff]

/-- No mnemonic is a comment. -/
theorem head?_mnemonic_ne (opcode : Opcode) : opcode.mnemonic.toList.head? ≠ some '#' := by
  cases opcode <;> decide

end Opcode

namespace Instruction

/-- When a line makes what, by its words. -/
structure Grammar (line : Nat) (words : List (List Char))
    (result : Except LocatedFault (Option Instruction)) : Prop where
  /-- A line makes nothing if it has no words, or if the first begins with a number sign. -/
  nothing : result = .ok none ↔ ∀ word ∈ words.head?, word.head? = some '#'
  /-- A line pushes a value if it begins with `push` and a numeral that denotes the value. -/
  push : ∀ value : Int32, result = .ok (some (.push value line)) ↔
    ∃ numeral rest, words = "push".toList :: numeral :: rest ∧
      Numeral.Denotes numeral value.toInt
  /-- A line misuses `push` if there is no numeral behind it, or if that denotes no 32-bit
  value. -/
  usage : result = .error (Fault.pushUsage.at line) ↔
    ∃ arguments, words = "push".toList :: arguments ∧
      ∀ numeral ∈ arguments.head?, ∀ z, Numeral.Denotes numeral z →
        ¬ (-0x80000000 ≤ z ∧ z ≤ 0x7FFFFFFF)
  /-- A line makes another instruction if its first word is the mnemonic. -/
  plain : ∀ opcode : Opcode, result = .ok (some { opcode, operand := none, line }) ↔
    opcode ≠ .push ∧ words.head? = some opcode.mnemonic.toList
  /-- A line is unknown if its first word is no comment and no mnemonic. -/
  unknown : ∀ word : String, result = .error ((Fault.unknownInstruction word).at line) ↔
    words.head? = some word.toList ∧ word.toList.head? ≠ some '#' ∧
      ∀ opcode : Opcode, word ≠ opcode.mnemonic
  /-- There is no other result. -/
  exhaustive : result = .ok none ∨ (∃ value, result = .ok (some (.push value line))) ∨
    result = .error (Fault.pushUsage.at line) ∨
    (∃ opcode : Opcode, result = .ok (some { opcode, operand := none, line })) ∨
    ∃ word, result = .error ((Fault.unknownInstruction word).at line)

variable {line : Nat} {ws ws' : List (List Char)}

/-! ## The results, one by one -/

theorem reads_nothing_iff :
    Reads line ws (.ok none) ↔ ∀ word ∈ ws.head?, word.head? = some '#' := by
  refine ⟨fun h => ?_, fun h => ?_⟩
  · cases h with
    | blank => simp
    | comment arguments hcomment => simpa using hcomment
  · cases ws with
    | nil => exact .blank
    | cons word arguments => exact .comment arguments (h word rfl)

theorem reads_push_iff {value : Int32} :
    Reads line ws (.ok (some (.push value line))) ↔
      ∃ numeral rest, ws = "push".toList :: numeral :: rest ∧
        Numeral.Denotes numeral value.toInt := by
  refine ⟨fun h => ?_, ?_⟩
  · -- An instruction without an operand is no push of a value.
    generalize hi : Instruction.push value line = i at h
    cases h with
    | plain => exact nomatch congrArg operand hi
    | @push word arguments opcode value' _ hopcode htakes hvalue =>
      obtain rfl : value = value' := Option.some.inj (congrArg operand hi)
      obtain ⟨numeral, hnumeral, hvalue⟩ := Option.bind_eq_some_iff.1 hvalue
      obtain ⟨rest, rfl⟩ := List.head?_eq_some_iff.1 hnumeral
      rw [Opcode.eq_push_of_takesArgument hopcode htakes]
      exact ⟨numeral, rest, rfl, Numeral.int32?_eq_some_iff.1 hvalue⟩
  · rintro ⟨numeral, rest, rfl, hdenotes⟩
    refine .push (Opcode.head?_mnemonic_ne .push) (Opcode.ofMnemonic?_mnemonic .push) rfl ?_
    exact Numeral.int32?_eq_some_iff.2 hdenotes

theorem reads_usage_iff :
    Reads line ws (.error (Fault.pushUsage.at line)) ↔
      ∃ arguments, ws = "push".toList :: arguments ∧
        ∀ numeral ∈ arguments.head?, ∀ z, Numeral.Denotes numeral z →
          ¬ (-0x80000000 ≤ z ∧ z ≤ 0x7FFFFFFF) := by
  have hnone : ∀ arguments : List (List Char), arguments.head?.bind Numeral.int32? = none ↔
      ∀ numeral ∈ arguments.head?, ∀ z, Numeral.Denotes numeral z → ¬ Numeral.InRange z := by
    intro arguments
    simp only [Option.bind_eq_none_iff, Numeral.int32?_eq_none_iff, Option.mem_def]
  refine ⟨fun h => ?_, ?_⟩
  · cases h with
    | @usage word arguments opcode _ hopcode htakes hvalue =>
      rw [Opcode.eq_push_of_takesArgument hopcode htakes]
      exact ⟨arguments, rfl, (hnone arguments).1 hvalue⟩
  · rintro ⟨arguments, rfl, hdenotes⟩
    refine .usage (Opcode.head?_mnemonic_ne .push) (Opcode.ofMnemonic?_mnemonic .push) rfl ?_
    exact (hnone arguments).2 hdenotes

theorem reads_plain_iff {opcode : Opcode} :
    Reads line ws (.ok (some { opcode, operand := none, line })) ↔
      opcode ≠ .push ∧ ws.head? = some opcode.mnemonic.toList := by
  refine ⟨fun h => ?_, ?_⟩
  · -- Nor is a push of a value an instruction without an operand.
    generalize hi : ({ opcode, operand := none, line } : Instruction) = i at h
    cases h with
    | push => exact nomatch congrArg operand hi
    | @plain word arguments opcode' _ hopcode htakes =>
      obtain rfl : opcode = opcode' := congrArg Instruction.opcode hi
      refine ⟨?_, ?_⟩
      · rintro rfl
        exact nomatch htakes
      · rw [Opcode.ofMnemonic?_ofList_eq_some_iff.1 hopcode]
        rfl
  · rintro ⟨hne, hhead⟩
    obtain ⟨arguments, rfl⟩ := List.head?_eq_some_iff.1 hhead
    refine .plain arguments opcode.head?_mnemonic_ne
      (Opcode.ofMnemonic?_ofList_eq_some_iff.2 rfl) ?_
    rw [← Bool.not_eq_true, Opcode.takesArgument_iff]
    exact hne

theorem reads_unknown_iff {word : String} :
    Reads line ws (.error ((Fault.unknownInstruction word).at line)) ↔
      ws.head? = some word.toList ∧ word.toList.head? ≠ some '#' ∧
        ∀ opcode : Opcode, word ≠ opcode.mnemonic := by
  refine ⟨fun h => ?_, ?_⟩
  · generalize hfault : Fault.unknownInstruction word = fault at h
    cases h with
    | usage => exact nomatch hfault
    | @unknown first arguments hcomment hopcode =>
      obtain rfl := Fault.unknownInstruction.inj hfault
      rw [String.toList_ofList]
      refine ⟨rfl, hcomment, fun opcode heq => ?_⟩
      rw [heq, Opcode.ofMnemonic?_mnemonic] at hopcode
      exact nomatch hopcode
  · rintro ⟨hhead, hcomment, hopcode⟩
    obtain ⟨arguments, rfl⟩ := List.head?_eq_some_iff.1 hhead
    have hnone : Opcode.ofMnemonic? (String.ofList word.toList) = none := by
      rw [Opcode.ofMnemonic?_ofList_eq_none_iff]
      intro opcode heq
      exact hopcode opcode (String.toList_inj.1 heq)
    have hreads := @Reads.unknown line _ arguments hcomment hnone
    rwa [String.ofList_toList] at hreads

/-! ## The grammar -/

/-- Words are read by the grammar. -/
theorem grammar_ofWords (line : Nat) (words : List (List Char)) :
    Grammar line words (ofWords line words) where
  nothing := by rw [← reads_iff, reads_nothing_iff]
  push value := by rw [← reads_iff, reads_push_iff]
  usage := by rw [← reads_iff, reads_usage_iff]
  plain opcode := by rw [← reads_iff, reads_plain_iff]
  unknown word := by rw [← reads_iff, reads_unknown_iff]
  exhaustive := by
    have hreads := reads_ofWords line words
    generalize ofWords line words = result at hreads
    cases hreads with
    | blank => exact .inl rfl
    | comment => exact .inl rfl
    | push => exact .inr (.inl ⟨_, rfl⟩)
    | usage => exact .inr (.inr (.inl rfl))
    | plain => exact .inr (.inr (.inr (.inl ⟨_, rfl⟩)))
    | unknown => exact .inr (.inr (.inr (.inr ⟨_, rfl⟩)))

/-- The second word matters behind `push` only, and no word behind it does. -/
theorem ofWords_congr (hfirst : ws.head? = ws'.head?)
    (hsecond : ws.head? = some "push".toList → ws[1]? = ws'[1]?) :
    ofWords line ws = ofWords line ws' := by
  cases ws with
  | nil => rw [List.head?_eq_none_iff.1 hfirst.symm]
  | cons word arguments =>
    obtain ⟨arguments', rfl⟩ := List.head?_eq_some_iff.1 hfirst.symm
    -- By what the first word, which is the same on both sides, asks of the others.
    rw [ofWords, ofWords]
    cases hopcode : Opcode.ofMnemonic? (String.ofList word) with
    | none => rfl
    | some opcode =>
      cases htakes : opcode.takesArgument with
      | false => simp only [ofOpcode, htakes, Bool.false_eq_true, if_false]
      | true =>
        have hpush := Opcode.eq_push_of_takesArgument hopcode htakes
        have hargument : arguments.head? = arguments'.head? := by
          simpa [List.head?_eq_getElem?] using hsecond (congrArg some hpush)
        simp only [ofOpcode, hargument]

/-- Lines are read by a grammar over their maximal runs. Words behind those that it speaks of, and
blanks, change nothing. -/
theorem ofLine_grammar (content : String) (line : Nat) :
    ∃ ws, (∀ runs, MaximalRuns content.toList runs ↔ runs = ws) ∧
      Grammar line ws (ofLine content line) ∧
      (∀ content' ws', MaximalRuns content'.toList ws' → ws'.head? = ws.head? →
        (ws.head? = some "push".toList → ws'[1]? = ws[1]?) →
        ofLine content' line = ofLine content line) ∧
      ofLine (String.ofList (trim content.toList)) line = ofLine content line := by
  refine ⟨words content.toList, fun runs => ?_, grammar_ofWords line _, ?_, ?_⟩
  · rw [maximalRuns_iff, eq_comm]
  · intro content' ws' hruns hfirst hsecond
    rw [← maximalRuns_iff.1 hruns] at hfirst hsecond
    exact ofWords_congr hfirst fun hpush => hsecond (hfirst ▸ hpush)
  · rw [ofLine_trim, String.ofList_toList]

/-- A sign, leading zeros, further words and blanks beyond ASCII. -/
example : ofLine "\u3000push\u00A0+0007 8\u0085" 2 = .ok (some (.push 7 2)) := by decide

/-- What looks like a blank and is none, and capitals, are parts of a word. -/
example : ofLine "Pop\u200B" 2 = .error ((Fault.unknownInstruction "Pop\u200B").at 2) := by decide

end Instruction

end Stackline
