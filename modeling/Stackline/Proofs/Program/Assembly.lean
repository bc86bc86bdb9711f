import Stackline.Proofs.Instruction.Reading
import Stackline.Proofs.Source.Lines

/-!
# Programs from lines

A program can be read from the lines that a source hands out, one after the other, or from its whole
text at once.

* `Program.ofSourceLines` — the instructions on lines that were handed out, or the first fault.
* `ofSourceLines_numbered` — on numbered lines, this is the reading of the text that they make up.
* `drain_eq_assemble_decode` — for bytes in any deliveries, valid UTF-8 or not, a source hands out
  the lines of the decoded bytes, and the program read from them is the one read from the whole
  decoded text.
-/

namespace Stackline

open Text

namespace Program

/-- A line that is an instruction, or none, leaves the other lines to read. -/
theorem ofLines_cons_of_ok {before : Nat} {line : List Char} {first : Option Instruction}
    (h : Instruction.ofLine (String.ofList (trim line)) (before + 1) = .ok first)
    (rest : List (List Char)) :
    ofLines before (line :: rest) = (ofLines (before + 1) rest).map (first.toList ++ ·) := by
  rw [ofLines, h]
  cases ofLines (before + 1) rest <;> rfl

/-- A faulty line ends the reading. -/
theorem ofLines_cons_of_error {before : Nat} {line : List Char} {cause : LocatedFault}
    (h : Instruction.ofLine (String.ofList (trim line)) (before + 1) = .error cause)
    (rest : List (List Char)) : ofLines before (line :: rest) = .error cause := by
  rw [ofLines, h]
  rfl

/-- A text is faulty at a line if that line is faulty and those before it are not. -/
theorem ofLines_eq_error {before : Nat} {texts : List (List Char)} {fault : LocatedFault}
    (h : ofLines before texts = .error fault) :
    ∃ earlier line later program,
      texts = earlier ++ line :: later ∧ fault.line = before + earlier.length + 1 ∧
        ofLines before earlier = .ok program ∧
        Instruction.ofLine (String.ofList (trim line)) fault.line = .error fault := by
  -- On the lines: the first one is the faulty line, or it goes before those that the others give.
  induction texts generalizing before with
  | nil => simp [ofLines] at h
  | cons line rest ih =>
    cases hfirst : Instruction.ofLine (String.ofList (trim line)) (before + 1) with
    | error cause =>
      rw [ofLines_cons_of_error hfirst] at h
      obtain rfl := Except.error.inj h
      have hline := Instruction.line_of_ofLine_eq_error hfirst
      refine ⟨[], line, rest, [], rfl, hline, rfl, ?_⟩
      rw [hline, hfirst]
    | ok first =>
      rw [ofLines_cons_of_ok hfirst] at h
      cases hrest : ofLines (before + 1) rest with
      | ok others => simp [hrest, Except.map] at h
      | error cause =>
        obtain rfl : cause = fault := by simpa [hrest, Except.map] using h
        obtain ⟨earlier, faulty, later, program, rfl, hline, hearlier, hfault⟩ := ih hrest
        refine ⟨line :: earlier, faulty, later, first.toList ++ program, rfl, ?_, ?_, hfault⟩
        · rw [hline, List.length_cons]
          omega
        · rw [ofLines_cons_of_ok hfirst, hearlier]
          rfl

/-- Reads one more line behind the instructions of the lines before it. -/
def readLine (program : Program) (line : SourceLine) : Except LocatedFault Program :=
  (Instruction.ofLine line.text line.number).map fun first => program ++ first.toList

/-- The instructions on lines that were handed out, in order, or the first fault. -/
def ofSourceLines (lines : List SourceLine) : Except LocatedFault Program :=
  lines.foldlM readLine []

/-- Reading numbered lines behind a program adds the instructions on them. -/
theorem foldlM_readLine_numbered (program : Program) (before : Nat) (texts : List (List Char)) :
    (SourceLine.numbered (before + 1) (texts.map trim)).foldlM readLine program =
      (ofLines before texts).map (program ++ ·) := by
  -- The program read so far grows in front of what is left, so it has to be arbitrary.
  induction texts generalizing program before with
  | nil => simp [ofLines, Except.map, pure, Except.pure]
  | cons line rest ih =>
    rw [List.map_cons, SourceLine.numbered_cons, List.foldlM_cons]
    cases hfirst : Instruction.ofLine (String.ofList (trim line)) (before + 1) with
    | error cause =>
      rw [ofLines_cons_of_error hfirst, readLine, hfirst]
      rfl
    | ok first =>
      rw [ofLines_cons_of_ok hfirst, readLine, hfirst]
      change (SourceLine.numbered (before + 1 + 1) (rest.map trim)).foldlM readLine
        (program ++ first.toList) = _
      rw [ih]
      cases ofLines (before + 1) rest with
      | error cause => rfl
      | ok others => simp [Except.map]

/-- Reading numbered lines one after the other is reading the text that they make up. -/
theorem ofSourceLines_numbered (texts : List (List Char)) :
    ofSourceLines (SourceLine.numbered 1 (texts.map trim)) = ofLines 0 texts := by
  rw [ofSourceLines, foldlM_readLine_numbered]
  cases ofLines 0 texts <;> simp [Except.map]

end Program

/-- Bytes that are delivered without failures, in any deliveries, are handed out as the trimmed
lines of the decoded bytes, numbered from one. Reading these lines one after the other, up to the
first fault, is reading the decoded bytes as one text. -/
theorem Source.drain_eq_assemble_decode {feed : Feed} (h : feed.Smooth) :
    ∃ handed : List SourceLine,
      (ofFeed feed).drain.map (·.1) =
          handed.map (fun line => .ok (some line)) ++ [.ok none] ∧
        handed = SourceLine.numbered 1 ((endedLines (Utf8.decode feed.content)).map trim) ∧
        Program.ofSourceLines handed =
          Program.assemble (String.ofList (Utf8.decode feed.content)) := by
  obtain ⟨last, hyields⟩ := yields_of_smooth h
  refine ⟨_, drain_of_yields hyields, ?_, ?_⟩
  · rw [map_trim_endedLines]
  · rw [Program.ofSourceLines_numbered, Program.assemble, String.toList_ofList]

/-- Two deliveries that part a character and an ill-formed sequence, with an interruption between
them: the lines are those of the decoded bytes, and the instruction on the first one is read. -/
theorem Source.drain_eq_assemble_decode_parted :
    let feed : Feed := [.bytes [0x6E, 0x6F], .interruption, .bytes [0x70, 0x0D, 0x0A, 0xE2, 0x82]]
    feed.Smooth ∧ Utf8.decode feed.content = ['n', 'o', 'p', '\r', '\n', Utf8.replacement] ∧
      ∃ handed : List SourceLine,
        (ofFeed feed).drain.map (·.1) =
            handed.map (fun line => .ok (some line)) ++ [.ok none] ∧
          handed = SourceLine.numbered 1 [['n', 'o', 'p'], [Utf8.replacement]] ∧
          Program.ofSourceLines handed =
            .error ((Fault.unknownInstruction (String.ofList [Utf8.replacement])).at 2) := by
  have hsmooth : Feed.Smooth
      [.bytes [0x6E, 0x6F], .interruption, .bytes [0x70, 0x0D, 0x0A, 0xE2, 0x82]] := by
    simp [Feed.Smooth]
  refine ⟨hsmooth, by decide, ?_⟩
  obtain ⟨handed, hdrain, hhanded, hread⟩ := drain_eq_assemble_decode hsmooth
  refine ⟨handed, hdrain, ?_, ?_⟩
  · rw [hhanded]
    decide
  · rw [hread]
    decide

end Stackline
