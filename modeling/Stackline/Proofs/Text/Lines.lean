import Mathlib.Data.List.TakeWhile
import Stackline.Program
import Stackline.Proofs.Text.Spelling
import Stackline.Source

/-!
# Lines of decoded texts

Cutting at newlines and lenient decoding can be done in either order. The module introduces:

* `ended mark pieces` — pieces with a mark behind each. Cutting gives the pieces back
  (`pieces_ended`), and every list that ends at a mark is of this form (`ended_pieces`).
* `endedLines cs` — the lines of a text where a newline ends a line alone or behind a carriage
  return; trimmed, they are the trimmed lines that newlines alone end (`map_trim_endedLines`).
* `lines_decode` — the lines of a decoded text are the decoded pieces of its bytes, since no byte
  of another character is a newline.
* `lineText_append_newline` — the newline behind a line is no part of its text.
-/

namespace Stackline.Text

/-! ## Cutting at a mark -/

/-- A list has no mark, or it is a list without the mark, the mark, and a shorter list. -/
@[elab_as_elim]
theorem marked_induction {α : Type} (mark : α) {motive : List α → Prop}
    (last : ∀ as, mark ∉ as → motive as)
    (cut : ∀ as rest, mark ∉ as → motive rest → motive (as ++ mark :: rest)) (as : List α) :
    motive as := by
  -- On the length, for the list behind a mark is no direct part of the list before it.
  induction h : as.length using Nat.strongRecOn generalizing as with
  | _ n ih =>
    by_cases hmem : mark ∈ as
    · obtain ⟨first, rest, rfl, hfirst⟩ := List.eq_append_cons_of_mem hmem
      refine cut first rest hfirst (ih rest.length ?_ rest rfl)
      rw [← h, List.length_append, List.length_cons]
      omega
    · exact last as hmem

/-- The pieces of a list are those that marks end, and what follows the last mark unless it is
empty. -/
theorem pieces_eq_splitOn {α : Type} [DecidableEq α] (mark : α) (as : List α) :
    pieces mark as =
      (as.splitOn mark).dropLast ++ (as.splitOn mark).getLast?.toList.filter (· ≠ []) := by
  induction as using marked_induction mark with
  | last as h =>
    rw [List.splitOn_eq_singleton h]
    by_cases hnil : as = []
    · simp [hnil]
    · simp [pieces_of_not_mem h hnil, hnil]
  | cut as rest h ih =>
    have hne : rest.splitOn mark ≠ [] := List.splitOn_ne_nil mark rest
    rw [pieces_append_mark h, List.splitOn_append_cons_self_of_not_mem h, ih,
      List.dropLast_cons_of_ne_nil hne, List.getLast?_cons_of_ne_nil hne, List.cons_append]

/-- The pieces with the mark behind each of them. -/
def ended {α : Type} (mark : α) (pieces : List (List α)) : List α :=
  pieces.flatMap (· ++ [mark])

/-- Pieces with marks behind them are cut at these marks. -/
theorem pieces_ended_append {α : Type} [DecidableEq α] {mark : α} {ps : List (List α)}
    (h : ∀ piece ∈ ps, mark ∉ piece) (rest : List α) :
    pieces mark (ended mark ps ++ rest) = ps ++ pieces mark rest := by
  induction ps with
  | nil => rfl
  | cons piece ps ih =>
    obtain ⟨hpiece, hps⟩ := List.forall_mem_cons.1 h
    have hcons : ended mark (piece :: ps) ++ rest = piece ++ mark :: (ended mark ps ++ rest) := by
      simp [ended]
    rw [hcons, pieces_append_mark hpiece, ih hps, List.cons_append]

theorem pieces_ended {α : Type} [DecidableEq α] {mark : α} {ps : List (List α)}
    (h : ∀ piece ∈ ps, mark ∉ piece) : pieces mark (ended mark ps) = ps := by
  simpa using pieces_ended_append h []

/-- A list that is empty or ends at a mark is made of its pieces with the mark behind each. -/
theorem ended_pieces {α : Type} [DecidableEq α] {mark : α} {as : List α}
    (h : as = [] ∨ as.getLast? = some mark) : ended mark (pieces mark as) = as := by
  induction as using marked_induction mark with
  | last as hmark =>
    -- Without a mark in it, a list that ends at one is empty.
    rcases h with rfl | hlast
    · rfl
    · exact absurd (List.mem_of_getLast? hlast) hmark
  | cut as rest hmark ih =>
    have hrest : rest = [] ∨ rest.getLast? = some mark := by
      refine or_iff_not_imp_left.2 fun hne => ?_
      rcases h with hnil | hlast
      · simp at hnil
      · rwa [List.getLast?_append_cons, List.getLast?_cons_of_ne_nil hne] at hlast
    rw [pieces_append_mark hmark, ended, List.flatMap_cons, ← ended, ih hrest, List.append_assoc]
    rfl

/-- What is behind a mark is cut as it would be alone. -/
theorem pieces_append_of_ended {α : Type} [DecidableEq α] {mark : α} {as : List α}
    (h : as = [] ∨ as.getLast? = some mark) (rest : List α) :
    pieces mark (as ++ rest) = pieces mark as ++ pieces mark rest := by
  have happend := @pieces_ended_append _ _ mark (pieces mark as)
    (fun _ => not_mem_of_mem_pieces) rest
  rwa [ended_pieces h] at happend

/-- A list that is empty or ends at a mark has one piece for each mark. -/
theorem length_pieces_of_ended {α : Type} [DecidableEq α] {mark : α} {as : List α}
    (h : as = [] ∨ as.getLast? = some mark) : (pieces mark as).length = as.count mark := by
  have hcount : ∀ ps : List (List α), (∀ piece ∈ ps, mark ∉ piece) →
      (ended mark ps).count mark = ps.length := by
    intro ps hps
    induction ps with
    | nil => rfl
    | cons piece ps ih =>
      obtain ⟨hpiece, hrest⟩ := List.forall_mem_cons.1 hps
      rw [ended, List.flatMap_cons, ← ended, List.count_append, ih hrest, List.count_append,
        List.count_eq_zero_of_not_mem hpiece, List.count_singleton_self, List.length_cons]
      omega
  rw [← hcount _ fun _ => not_mem_of_mem_pieces, ended_pieces h]

/-! ## Carriage returns -/

/-- A line without the carriage return at its end. -/
def dropReturn (line : List Char) : List Char :=
  if line.getLast? = some '\r' then line.dropLast else line

/-- The lines of a text where a newline ends a line alone or behind a carriage return. What follows
the last newline is a line as it is, unless it is empty. -/
def endedLines (cs : List Char) : List (List Char) :=
  (cs.splitOn '\n').dropLast.map dropReturn ++
    (cs.splitOn '\n').getLast?.toList.filter (· ≠ [])

/-- A text has as many lines whether or not carriage returns belong to line ends. -/
theorem length_endedLines (cs : List Char) : (endedLines cs).length = (lines cs).length := by
  rw [endedLines, lines, pieces_eq_splitOn, List.length_append, List.length_append,
    List.length_map]

/-- Blanks at the end do not matter to a trimmed text. -/
theorem trim_append_blank (cs : List Char) {blanks : List Char}
    (h : ∀ c ∈ blanks, isBlank c = true) : trim (cs ++ blanks) = trim cs := by
  have hstart : trimStart blanks = [] := List.dropWhile_eq_nil_iff.2 h
  have hend : ∀ text, trimEnd (text ++ blanks) = trimEnd text := by
    intro text
    rw [trimEnd, trimEnd, List.reverse_append, List.dropWhile_append_of_pos]
    exact fun c hc => h c (List.mem_reverse.1 hc)
  -- A text of blanks alone is gone once it is trimmed in front.
  have happend : trimStart (cs ++ blanks) =
      if trimStart cs = [] then [] else trimStart cs ++ blanks := by
    rw [trimStart, List.dropWhile_append, ← trimStart, ← trimStart, hstart]
    simp only [List.isEmpty_iff]
  unfold trim
  rw [happend]
  split
  next hnil => rw [hnil]
  next => exact hend _

/-- A carriage return at its end does not matter to a trimmed line. -/
theorem trim_dropReturn (line : List Char) : trim (dropReturn line) = trim line := by
  unfold dropReturn
  split
  next hreturn =>
    obtain ⟨before, rfl⟩ := List.getLast?_eq_some_iff.1 hreturn
    have hblank : ∀ c ∈ ['\r'], isBlank c = true := by
      intro c hc
      rw [List.mem_singleton.1 hc]
      decide
    rw [List.dropLast_concat, trim_append_blank before hblank]
  next => rfl

/-- Trimmed, the lines are the same whether carriage returns belong to line ends or to lines. -/
theorem map_trim_endedLines (cs : List Char) :
    (endedLines cs).map trim = (lines cs).map trim := by
  rw [endedLines, lines, pieces_eq_splitOn, List.map_append, List.map_append, List.map_map]
  congr 1
  exact List.map_congr_left fun line _ => trim_dropReturn line

/-! ## Bytes and characters -/

open Utf8

/-- A newline in a decoded text comes from a newline among the bytes. -/
theorem newline_not_mem_decode {bs : List UInt8} (h : Feed.newline ∉ bs) : '\n' ∉ decode bs := by
  intro hmem
  have hbyte : Feed.newline ∈ String.utf8EncodeChar '\n' := by decide
  exact h (mem_of_mem_decode hmem (by decide) hbyte)

/-- A newline among the bytes is a newline of the decoded text, whatever precedes it. -/
theorem decode_append_newline (as bs : List UInt8) :
    decode (as ++ Feed.newline :: bs) = decode as ++ '\n' :: decode bs :=
  decode_append_ascii (show Feed.newline.toNat < 0x80 by decide) as bs

/-- The lines of a decoded text are the decoded pieces of its bytes. -/
theorem lines_decode (bs : List UInt8) :
    lines (decode bs) = (pieces Feed.newline bs).map decode := by
  -- Newlines stand among the bytes where they stand in the text, so both are cut alike.
  induction bs using marked_induction Feed.newline with
  | last as h =>
    by_cases hnil : as = []
    · simp [hnil, lines]
    · have hne : decode as ≠ [] := fun hd => hnil (decode_eq_nil_iff.1 hd)
      rw [pieces_of_not_mem h hnil, lines, pieces_of_not_mem (newline_not_mem_decode h) hne,
        List.map_singleton]
  | cut as rest h ih =>
    rw [pieces_append_mark h, decode_append_newline, lines,
      pieces_append_mark (newline_not_mem_decode h), ← lines, ih, List.map_cons]

end Stackline.Text

namespace Stackline.Source

open Text

/-- The newline behind a line is no part of its text. -/
theorem lineText_append_newline (content : List UInt8) :
    lineText (content ++ [Feed.newline]) = lineText content := by
  rw [lineText, lineText, decode_append_newline, Utf8.decode_nil,
    @trim_append_blank _ ['\n'] (by simp)]

end Stackline.Source
