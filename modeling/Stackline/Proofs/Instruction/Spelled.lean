import Stackline.Proofs.Instruction.Grammar
import Stackline.Proofs.Source.Automaton
import Stackline.Proofs.Text.Spelling

/-!
# Instructions spelled by bytes

Which bytes of a line make an instruction. Only bytes that spell it do: nothing of what lenient
decoding replaces becomes a part of a mnemonic, of a numeral, or of the blanks around them.

* `Utf8.FirstWord content word rest` — the bytes begin with blanks and a word in UTF-8, and `rest`
  is behind that word. This is what the first word of the decoded text says of the bytes
  (`words_decode_eq_cons_iff`).
* `Instruction.Spelled i content` — the bytes of a line spell an instruction.
* `Source.ofLine_lineText_iff_spelled` — the headline. A line of a source makes an instruction
  exactly if its bytes spell that instruction.
-/

namespace Stackline

namespace Text.Utf8

/-- Whether a word ends before these bytes: there are none, or a blank comes first. -/
def EndsWord (rest : List UInt8) : Prop :=
  rest = [] ∨ ∃ c later, isBlank c = true ∧ rest = String.utf8EncodeChar c ++ later

/-- Whether bytes begin with blanks and a word, and with which bytes they go on behind it. -/
def FirstWord (content : List UInt8) (word : List Char) (rest : List UInt8) : Prop :=
  ∃ blanks, (∀ c ∈ blanks, isBlank c = true) ∧
    content = encode blanks ++ encode word ++ rest ∧ EndsWord rest

/-- Whether a text is a word of which nothing has been replaced. -/
structure Legible (word : List Char) : Prop where
  /-- There is a character. -/
  ne_nil : word ≠ []
  /-- No blank parts it. -/
  not_blank : ∀ c ∈ word, isBlank c = false
  /-- No character stands for bytes that spell none. -/
  not_replaced : replacement ∉ word

/-- Nothing that is replaced becomes a blank. -/
theorem ne_replacement_of_isBlank {c : Char} (h : isBlank c = true) : c ≠ replacement := by
  rintro rfl
  exact absurd h (by decide)

theorem replacement_not_mem_of_isBlank {blanks : List Char} (h : ∀ c ∈ blanks, isBlank c = true) :
    replacement ∉ blanks :=
  fun hmem => ne_replacement_of_isBlank (h _ hmem) rfl

/-- A word ends before bytes exactly if it ends before the text that they spell. -/
theorem endsWord_iff {rest : List UInt8} :
    EndsWord rest ↔ ∀ c ∈ (decode rest).head?, isBlank c = true := by
  constructor
  · rintro (rfl | ⟨c, later, hblank, rfl⟩)
    · simp
    · rw [decode_utf8EncodeChar_append]
      simpa using hblank
  · intro h
    cases htext : decode rest with
    | nil => exact .inl (decode_eq_nil_iff.1 htext)
    | cons c ds =>
      have hblank : isBlank c = true := h c (by rw [htext]; rfl)
      have hne : replacement ∉ [c] := replacement_not_mem_of_isBlank (by simpa using hblank)
      obtain ⟨later, hbytes, -⟩ := @exists_append_of_decode _ [c] ds htext hne
      exact .inr ⟨c, later, hblank, by simpa using hbytes⟩

/-- The first word of a decoded text, if nothing of it was replaced, is spelled by the first bytes
that are not blank, and the other words by the bytes behind it. -/
theorem words_decode_eq_cons_iff {content : List UInt8} {word : List Char}
    {others : List (List Char)} (hlegible : Legible word) :
    words (decode content) = word :: others ↔
      ∃ rest, FirstWord content word rest ∧ words (decode rest) = others := by
  constructor
  · intro h
    have hruns := maximalRuns_iff.2 h
    generalize htext : decode content = text at hruns
    cases hruns with
    | @run blanks _ rest _ hblanks _ _ hrest hothers =>
      -- Nothing of the blanks and the word was replaced, so the first bytes spell them.
      have hne : replacement ∉ blanks ++ word := by
        rw [List.mem_append, not_or]
        exact ⟨replacement_not_mem_of_isBlank hblanks, hlegible.not_replaced⟩
      obtain ⟨later, hbytes, hlater⟩ := exists_append_of_decode htext hne
      rw [encode_append] at hbytes
      rw [← hlater] at hrest hothers
      exact ⟨later, ⟨blanks, hblanks, hbytes, endsWord_iff.2 hrest⟩, maximalRuns_iff.1 hothers⟩
  · rintro ⟨rest, ⟨blanks, hblanks, rfl, hends⟩, rfl⟩
    rw [← encode_append, decode_encode_append, List.append_assoc, words_blank_append hblanks,
      words_run_append hlegible.ne_nil hlegible.not_blank (endsWord_iff.1 hends)]

/-- There are blanks between a word and the next one. -/
theorem FirstWord.exists_between {rest later : List UInt8} {word : List Char}
    (h : FirstWord rest word later) (hends : EndsWord rest) (hlegible : Legible word) :
    ∃ between, between ≠ [] ∧ (∀ c ∈ between, isBlank c = true) ∧
      rest = encode between ++ encode word ++ later ∧ EndsWord later := by
  obtain ⟨between, hbetween, rfl, hlater⟩ := h
  refine ⟨between, ?_, hbetween, rfl, hlater⟩
  rintro rfl
  -- Without blanks, the first character behind the first word is one of the second word.
  obtain ⟨c, cs, rfl⟩ := List.exists_cons_of_ne_nil hlegible.ne_nil
  rw [endsWord_iff, encode_nil, List.nil_append, decode_encode_append] at hends
  have hblank : isBlank c = true := hends c rfl
  rw [hlegible.not_blank c List.mem_cons_self] at hblank
  exact nomatch hblank

end Text.Utf8

open Text Utf8

/-! ## Mnemonics and numerals -/

theorem Opcode.legible_mnemonic (opcode : Opcode) : Legible opcode.mnemonic.toList where
  ne_nil := opcode.mnemonic_ne_nil
  not_blank := opcode.isBlank_mnemonic
  not_replaced := by cases opcode <;> decide

namespace Text.Numeral

theorem Digits.legible {cs : List Char} {n : Nat} (h : Digits cs n) : Legible cs := by
  obtain ⟨hne, hdigits, -⟩ := natural?_eq_some_iff.1 (digits_iff.1 h)
  exact ⟨hne, fun c hc => isBlank_of_isDigit (hdigits c hc),
    fun hmem => absurd (hdigits _ hmem) (by decide)⟩

theorem Denotes.legible {cs : List Char} {z : Int} (h : Denotes cs z) : Legible cs := by
  have hsign : ∀ {sign : Char} {ds : List Char}, isBlank sign = false → replacement ≠ sign →
      Legible ds → Legible (sign :: ds) := by
    intro sign ds hblank hne hds
    refine ⟨List.cons_ne_nil _ _, List.forall_mem_cons.2 ⟨hblank, hds.not_blank⟩, ?_⟩
    rw [List.mem_cons, not_or]
    exact ⟨hne, hds.not_replaced⟩
  cases h with
  | plain hdigits => exact hdigits.legible
  | plus hdigits => exact hsign (by decide) (by decide) hdigits.legible
  | minus hdigits => exact hsign (by decide) (by decide) hdigits.legible

end Text.Numeral

/-! ## Instructions -/

namespace Instruction

/-- The bytes of a line spell an instruction. What comes behind it, from the next blank on, may be
anything. -/
inductive Spelled : Instruction → List UInt8 → Prop where
  /-- Blanks, if any, and the mnemonic. -/
  | plain {blanks : List Char} {opcode : Opcode} {line : Nat} {rest : List UInt8} :
      (∀ c ∈ blanks, isBlank c = true) → opcode ≠ .push → EndsWord rest →
      Spelled { opcode, operand := none, line }
        (encode blanks ++ encode opcode.mnemonic.toList ++ rest)
  /-- Blanks, if any, the mnemonic of a push, one blank at least, and a numeral that denotes the
  operand. -/
  | push {blanks between numeral : List Char} {value : Int32} {line : Nat} {rest : List UInt8} :
      (∀ c ∈ blanks, isBlank c = true) → between ≠ [] → (∀ c ∈ between, isBlank c = true) →
      Numeral.Denotes numeral value.toInt → EndsWord rest →
      Spelled (.push value line) (encode blanks ++ encode "push".toList ++
        (encode between ++ encode numeral ++ rest))

variable {content : List UInt8} {number : Nat} {i : Instruction}

/-- Only bytes that spell an instruction make it. -/
theorem spelled_of_reads (h : Reads number (words (decode content)) (.ok (some i))) :
    i.Spelled content := by
  have hcases := reads_iff.1 h ▸ (grammar_ofWords number (words (decode content))).exhaustive
  obtain hnone | ⟨value, hpush⟩ | husage | ⟨opcode, hplain⟩ | ⟨word, hunknown⟩ := hcases
  · simp at hnone
  · -- The numeral is the first word of the bytes that are behind the mnemonic.
    obtain rfl : i = .push value number := by simpa using hpush
    obtain ⟨numeral, others, hwords, hdenotes⟩ := reads_push_iff.1 h
    obtain ⟨rest, ⟨blanks, hblanks, rfl, hends⟩, hrest⟩ :=
      (words_decode_eq_cons_iff (Opcode.legible_mnemonic .push)).1 hwords
    obtain ⟨later, hfirst, -⟩ := (words_decode_eq_cons_iff hdenotes.legible).1 hrest
    obtain ⟨between, hne, hbetween, rfl, hlater⟩ := hfirst.exists_between hends hdenotes.legible
    exact .push hblanks hne hbetween hdenotes hlater
  · simp at husage
  · obtain rfl : i = { opcode, operand := none, line := number } := by simpa using hplain
    obtain ⟨hne, hhead⟩ := reads_plain_iff.1 h
    obtain ⟨others, hwords⟩ := List.head?_eq_some_iff.1 hhead
    obtain ⟨rest, ⟨blanks, hblanks, rfl, hends⟩, -⟩ :=
      (words_decode_eq_cons_iff opcode.legible_mnemonic).1 hwords
    exact .plain hblanks hne hends
  · simp at hunknown

/-- Bytes that spell an instruction make it. -/
theorem Spelled.reads (h : i.Spelled content) :
    Reads i.line (words (decode content)) (.ok (some i)) := by
  cases h with
  | @plain blanks opcode line rest hblanks hne hends =>
    have hwords := (words_decode_eq_cons_iff opcode.legible_mnemonic).2
      ⟨rest, ⟨blanks, hblanks, rfl, hends⟩, rfl⟩
    refine reads_plain_iff.2 ⟨hne, ?_⟩
    rw [hwords, List.head?_cons]
  | @push blanks between numeral value line rest hblanks hne hbetween hdenotes hends =>
    -- The mnemonic ends at the blanks before the numeral.
    have hnumeral := (words_decode_eq_cons_iff hdenotes.legible).2
      ⟨rest, ⟨between, hbetween, rfl, hends⟩, rfl⟩
    have hmnemonic : EndsWord (encode between ++ encode numeral ++ rest) := by
      obtain ⟨c, cs, rfl⟩ := List.exists_cons_of_ne_nil hne
      refine .inr ⟨c, encode cs ++ encode numeral ++ rest, hbetween c List.mem_cons_self, ?_⟩
      rw [encode_cons, List.append_assoc, List.append_assoc, List.append_assoc]
    have hwords := (words_decode_eq_cons_iff (Opcode.legible_mnemonic .push)).2
      ⟨_, ⟨blanks, hblanks, rfl, hmnemonic⟩, hnumeral⟩
    exact reads_push_iff.2 ⟨numeral, _, hwords, hdenotes⟩

end Instruction

namespace Source

/-- A line makes an instruction exactly if its bytes, with or without the newline behind them, spell
that instruction, and the instruction has the number of the line. So it is with every line that a
source reads. -/
theorem ofLine_lineText_iff_spelled (content : List UInt8) (i : Instruction) :
    (∀ number, Instruction.ofLine (lineText content) number = .ok (some i) ↔
      i.line = number ∧ i.Spelled content) ∧
    ∀ (s : Source) (feed rest : Feed), s.feed = some feed → feed.readLine = (.line content, rest) →
      ∃ line, s.next = (.ok (some line), { feed := some rest, count := s.count + 1 }) ∧
        (Instruction.ofLine line.text line.number = .ok (some i) ↔
          i.line = s.count + 1 ∧ i.Spelled content) := by
  have hspelled : ∀ number, Instruction.ofLine (lineText content) number = .ok (some i) ↔
      i.line = number ∧ i.Spelled content := by
    intro number
    constructor
    · intro h
      exact ⟨Instruction.line_of_ofLine_eq_some h,
        Instruction.spelled_of_reads (Instruction.reads_iff_ofLine_lineText.2 h)⟩
    · rintro ⟨rfl, h⟩
      exact Instruction.reads_iff_ofLine_lineText.1 h.reads
  refine ⟨hspelled, fun s feed rest hfeed hread => ?_⟩
  refine ⟨{ number := s.count + 1, text := lineText content }, ?_, hspelled _⟩
  rw [next_of_feed hfeed, ← Feed.readLine, hread]

/-- A form of the no-break space that is too long is no blank, so it is a part of the word. -/
example : Instruction.ofLine (lineText [0x70, 0x6F, 0x70, 0xC0, 0xA0]) 1 =
    .error ((Fault.unknownInstruction "pop\uFFFD\uFFFD").at 1) := by decide

end Source

end Stackline
