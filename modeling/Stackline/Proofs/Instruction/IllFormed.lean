import Stackline.Proofs.Instruction.Spelled
import Stackline.Proofs.Source.Lines

/-!
# Lines of ill-formed bytes

What becomes of lines whose bytes are no UTF-8. Such a line is an unknown instruction in most cases,
but not in all: what is replaced may stand where it does not matter, in a comment or behind a
mnemonic.

* `Instruction.Commented content` — the bytes begin with blanks and a number sign.
* `Instruction.Verdict content number result` — what a line comes to, by its first bytes that are
  not blank.
* `Source.verdict_of_illFormed` — the headline. Lines of ill-formed bytes come to this, and in
  particular they are unknown instructions exactly if they begin with no comment and no mnemonic.
-/

namespace Stackline

open Text Utf8

namespace Instruction

/-- The bytes of a line begin with a comment. -/
def Commented (content : List UInt8) : Prop :=
  ∃ blanks later, (∀ c ∈ blanks, isBlank c = true) ∧
    content = encode blanks ++ encode ['#'] ++ later

/-- What a line that is not blank comes to, by the bytes that it begins with. -/
structure Verdict (content : List UInt8) (number : Nat)
    (result : Except LocatedFault (Option Instruction)) : Prop where
  /-- It makes nothing if it begins with a comment. -/
  comment : result = .ok none ↔ Commented content
  /-- It makes an instruction, or misuses `push`, if it begins with a mnemonic. -/
  known : (∃ i, result = .ok (some i)) ∨ result = .error (Fault.pushUsage.at number) ↔
    ∃ (opcode : Opcode) (rest : List UInt8), FirstWord content opcode.mnemonic.toList rest
  /-- It is an unknown instruction if it begins with neither. -/
  unknown : (∃ word, result = .error ((Fault.unknownInstruction word).at number)) ↔
    ¬ Commented content ∧
      ¬ ∃ (opcode : Opcode) (rest : List UInt8), FirstWord content opcode.mnemonic.toList rest
  /-- So it is, and it is named, if something of its first word was replaced and that is no
  comment. -/
  replaced : ∀ word ∈ (words (decode content)).head?, replacement ∈ word → word.head? ≠ some '#' →
    result = .error ((Fault.unknownInstruction (String.ofList word)).at number)

variable {content : List UInt8} {number : Nat}

/-- A comment among the decoded characters is one among the bytes. -/
theorem commented_iff :
    Commented content ↔
      ∃ word, (words (decode content)).head? = some word ∧ word.head? = some '#' := by
  rw [exists_head?_words_iff (by decide : isBlank '#' = false)]
  constructor
  · rintro ⟨blanks, later, hblanks, rfl⟩
    refine ⟨blanks, decode later, hblanks, ?_⟩
    rw [← encode_append, decode_encode_append, List.append_assoc, List.singleton_append]
  · rintro ⟨blanks, rest, hblanks, htext⟩
    have hne : replacement ∉ blanks ++ ['#'] := by
      rw [List.mem_append, not_or]
      exact ⟨replacement_not_mem_of_isBlank hblanks, by decide⟩
    obtain ⟨later, hbytes, -⟩ :=
      exists_append_of_decode (htext.trans (List.append_cons blanks '#' rest)) hne
    rw [encode_append] at hbytes
    exact ⟨blanks, later, hblanks, hbytes⟩

/-- A mnemonic as the first word of the decoded characters is the first word of the bytes. -/
theorem exists_firstWord_iff :
    (∃ (opcode : Opcode) (rest : List UInt8), FirstWord content opcode.mnemonic.toList rest) ↔
      ∃ opcode : Opcode, (words (decode content)).head? = some opcode.mnemonic.toList := by
  refine exists_congr fun opcode => ?_
  rw [List.head?_eq_some_iff]
  simp [words_decode_eq_cons_iff opcode.legible_mnemonic]

/-- Ill-formed bytes hold a word: nothing that is replaced becomes a blank. -/
theorem exists_words_of_illFormed (h : IllFormed content) :
    ∃ word others, words (decode content) = word :: others := by
  refine List.exists_cons_of_ne_nil fun hnil => ?_
  exact ne_replacement_of_isBlank (words_eq_nil_iff.1 hnil _ h.replacement_mem_decode) rfl

/-- A line whose first word names an opcode makes an instruction, or misuses `push`. -/
theorem Verdict.of_known {result : Except LocatedFault (Option Instruction)} {opcode : Opcode}
    {others : List (List Char)}
    (hwords : words (decode content) = opcode.mnemonic.toList :: others)
    (h : (∃ i, result = .ok (some i)) ∨ result = .error (Fault.pushUsage.at number)) :
    Verdict content number result := by
  have hcomment : ¬ Commented content := by
    rw [commented_iff, hwords]
    simpa using opcode.head?_mnemonic_ne
  have hknown : ∃ (opcode : Opcode) (rest : List UInt8),
      FirstWord content opcode.mnemonic.toList rest := by
    rw [exists_firstWord_iff, hwords]
    exact ⟨opcode, rfl⟩
  refine ⟨iff_of_false ?_ hcomment, iff_of_true h hknown, ?_, fun word hword hreplaced => ?_⟩
  · rintro rfl
    simp at h
  · refine iff_of_false ?_ fun hnone => hnone.2 hknown
    rintro ⟨word, rfl⟩
    simp [Fault.at] at h
  · -- Nothing of a mnemonic was replaced.
    obtain rfl : opcode.mnemonic.toList = word := by simpa [hwords] using hword
    exact absurd hreplaced opcode.legible_mnemonic.not_replaced

/-- A line of ill-formed bytes comes to what its first bytes that are not blank say. -/
theorem verdict_of_reads {result : Except LocatedFault (Option Instruction)} (h : IllFormed content)
    (hreads : Reads number (words (decode content)) result) : Verdict content number result := by
  obtain ⟨first, others, hwords⟩ := exists_words_of_illFormed h
  have hcomment : Commented content ↔ first.head? = some '#' := by
    rw [commented_iff, hwords]
    simp
  have hknown : (∃ (opcode : Opcode) (rest : List UInt8),
      FirstWord content opcode.mnemonic.toList rest) ↔
        ∃ opcode : Opcode, first = opcode.mnemonic.toList := by
    rw [exists_firstWord_iff, hwords]
    simp
  have hfirst : ∀ word ∈ (words (decode content)).head?, word = first := by
    intro word hword
    simpa [hwords, eq_comm] using hword
  rw [hwords] at hreads
  cases hreads with
  | comment _ hmark =>
    have hnone : ¬ ∃ opcode : Opcode, first = opcode.mnemonic.toList := by
      rintro ⟨opcode, rfl⟩
      exact opcode.head?_mnemonic_ne hmark
    refine ⟨iff_of_true rfl (hcomment.2 hmark), iff_of_false ?_ (hknown.not.2 hnone),
      iff_of_false ?_ fun hneither => hneither.1 (hcomment.2 hmark), fun word hword _ hne => ?_⟩
    · simp
    · simp
    · exact absurd (hfirst word hword ▸ hmark) hne
  | unknown _ hmark hopcode =>
    have hnone : ¬ ∃ opcode : Opcode, first = opcode.mnemonic.toList := by
      rw [not_exists]
      exact Opcode.ofMnemonic?_ofList_eq_none_iff.1 hopcode
    refine ⟨iff_of_false ?_ (hcomment.not.2 hmark), iff_of_false ?_ (hknown.not.2 hnone),
      iff_of_true ⟨_, rfl⟩ ⟨hcomment.not.2 hmark, hknown.not.2 hnone⟩, fun word hword _ _ => ?_⟩
    · simp
    · simp [Fault.at]
    · rw [hfirst word hword]
  | usage _ hopcode =>
    rw [Opcode.ofMnemonic?_ofList_eq_some_iff] at hopcode
    exact .of_known (hopcode ▸ hwords) (.inr rfl)
  | push _ hopcode =>
    rw [Opcode.ofMnemonic?_ofList_eq_some_iff] at hopcode
    exact .of_known (hopcode ▸ hwords) (.inl ⟨_, rfl⟩)
  | plain _ _ hopcode =>
    rw [Opcode.ofMnemonic?_ofList_eq_some_iff] at hopcode
    exact .of_known (hopcode ▸ hwords) (.inl ⟨_, rfl⟩)

end Instruction

namespace Source

/-- However a program is delivered, as long as no read fails: its lines are handed out in order, and
a line of ill-formed bytes comes to nothing exactly if it begins with a comment, to an instruction
or a misuse of `push` exactly if it begins with a mnemonic, and to an unknown instruction exactly if
it begins with neither. -/
theorem verdict_of_illFormed {feed : Feed} (h : feed.Smooth) :
    ∃ handed : List SourceLine,
      (ofFeed feed).drain.map (·.1) =
          handed.map (fun line => .ok (some line)) ++ [.ok none] ∧
        handed.length = (pieces Feed.newline feed.content).length ∧
        ∀ k content, (pieces Feed.newline feed.content)[k]? = some content → IllFormed content →
          ∃ line, handed[k]? = some line ∧ line.number = k + 1 ∧
            Instruction.Verdict content line.number
              (Instruction.ofLine line.text line.number) := by
  obtain ⟨last, hyields⟩ := yields_of_symbols (Feed.symbols_of_smooth h)
  refine ⟨_, drain_of_yields hyields, SourceLine.length_decoded _ _,
    fun k content hcontent hill => ?_⟩
  refine ⟨{ number := 1 + k, text := lineText content }, ?_, Nat.add_comm 1 k, ?_⟩
  · rw [SourceLine.getElem?_decoded, hcontent, Option.map_some]
  · exact Instruction.verdict_of_reads hill (Instruction.reads_iff_ofLine_lineText.2 rfl)

/-- A word in two deliveries, with a byte in it that begins no character: it is unknown. -/
theorem verdict_of_illFormed_broken :
    let feed : Feed := [.bytes [0x6E, 0x6F, 0x70, 0x0A, 0x70, 0xFF], .interruption, .bytes [0x6F]]
    feed.Smooth ∧ (pieces Feed.newline feed.content)[1]? = some [0x70, 0xFF, 0x6F] ∧
      IllFormed [0x70, 0xFF, 0x6F] ∧
      ∃ handed : List SourceLine,
        (ofFeed feed).drain.map (·.1) =
            handed.map (fun line => .ok (some line)) ++ [.ok none] ∧
          ∃ line, handed[1]? = some line ∧
            Instruction.ofLine line.text line.number =
              .error ((Fault.unknownInstruction "p\uFFFDo").at 2) := by
  intro feed
  have hsmooth : feed.Smooth := by simp [feed, Feed.Smooth]
  have hcontent : (pieces Feed.newline feed.content)[1]? = some [0x70, 0xFF, 0x6F] := by decide
  have hill : IllFormed [0x70, 0xFF, 0x6F] := by decide
  obtain ⟨handed, hdrain, -, hlines⟩ := verdict_of_illFormed hsmooth
  obtain ⟨line, hline, hnumber, hverdict⟩ := hlines 1 _ hcontent hill
  refine ⟨hsmooth, hcontent, hill, handed, hdrain, line, hline, ?_⟩
  rw [hverdict.replaced ['p', replacement, 'o'] (by decide) (by decide) (by decide), hnumber]
  rfl

/-- Three lines of ill-formed bytes, of which none is an unknown instruction: the first one is a
comment, the second one pushes a value, and the third one misuses `push`. -/
theorem known_of_illFormed :
    let contents : List (List UInt8) :=
      [[0x23, 0xFF], [0x70, 0x75, 0x73, 0x68, 0x20, 0x37, 0x20, 0xC3],
        [0x70, 0x75, 0x73, 0x68, 0x20, 0xFF]]
    let feed : Feed := [.bytes (ended Feed.newline contents)]
    feed.Smooth ∧ pieces Feed.newline feed.content = contents ∧
      (∀ content ∈ contents, IllFormed content) ∧
      ∃ handed : List SourceLine,
        (ofFeed feed).drain.map (·.1) =
            handed.map (fun line => .ok (some line)) ++ [.ok none] ∧
          handed.map (fun line => Instruction.ofLine line.text line.number) =
            [.ok none, .ok (some (.push 7 2)), .error (Fault.pushUsage.at 3)] ∧
          ∀ line ∈ handed, ∀ word number,
            Instruction.ofLine line.text line.number ≠
              .error ((Fault.unknownInstruction word).at number) := by
  intro contents feed
  have hsmooth : feed.Smooth := Feed.smooth_bytes _
  have hpieces : pieces Feed.newline feed.content = contents := by decide
  obtain ⟨last, hyields⟩ := yields_of_symbols (Feed.symbols_of_smooth hsmooth)
  rw [hpieces] at hyields
  have hresults : (SourceLine.decoded 1 contents).map
      (fun line => Instruction.ofLine line.text line.number) =
        [.ok none, .ok (some (.push 7 2)), .error (Fault.pushUsage.at 3)] := by decide
  refine ⟨hsmooth, hpieces, by decide, _, drain_of_yields hyields, hresults, ?_⟩
  intro line hline word number hunknown
  have hmem := List.mem_map_of_mem (f := fun line => Instruction.ofLine line.text line.number) hline
  rw [hresults, hunknown] at hmem
  simp [Fault.at] at hmem

end Source

end Stackline
