import Stackline.Proofs.Source.Lines

/-!
# Reading to the end

A source that is asked again and again ends, also when reads fail and it is asked again. How long
that takes does not depend on how many deliveries there are, since a line may take many of them or a
part of one: every answer before the end uses up a symbol that stops a line, but for the answer to
the bytes behind the last of these.

* `Symbol.stopsLine symbol` — whether a line is read no further than this symbol.
* `Automaton.answersLeft a` — a bound on the answers before the end, which every answer lowers
  (`answersLeft_next_lt`).
* `Automaton.Leaves symbols later` — what such an answer uses up (`exists_leaves`).
* `Source.Exhausts s answers` — asked until it ends, `s` gives `answers`, which are lines and
  failures. Every source ends within its bound (`exists_exhausts`).
* `reading_ends` — the bound for a feed, by its newlines, failures and pauses, and the numbers of
  the lines and of the failures.
-/

namespace Stackline

/-! ## Symbols that stop a line -/

/-- Whether a line is read no further than this symbol. -/
def Symbol.stopsLine : Symbol → Bool
  | .byte b => b = Feed.newline
  | .failure _ => true
  | .ending => true

/-- How many reads of a feed fail. -/
def Feed.failures (feed : Feed) : Nat :=
  feed.countP fun delivery => delivery matches .failure _

/-- How often a feed has no bytes for now. -/
def Feed.pauses (feed : Feed) : Nat :=
  feed.count .pause

theorem Symbol.countP_stopsLine_map_byte (content : List UInt8) :
    (content.map byte).countP stopsLine = content.count Feed.newline := by
  rw [List.countP_map, List.count]
  exact List.countP_congr fun b _ => by simp [stopsLine]

/-- The symbols of a feed that stop a line are its newlines, its failures and its pauses. -/
theorem Feed.countP_stopsLine_symbols (feed : Feed) :
    feed.symbols.countP Symbol.stopsLine =
      feed.content.count newline + feed.failures + feed.pauses := by
  induction feed with
  | nil => rfl
  | cons delivery rest ih =>
    cases delivery with
    | bytes content =>
      rw [symbols, List.countP_append, Symbol.countP_stopsLine_map_byte, ih, Feed.content,
        List.count_append]
      simp [failures, pauses, Nat.add_assoc]
    | failure reason =>
      rw [symbols, List.countP_cons_of_pos rfl, ih]
      simp only [failures, pauses, Feed.content, List.countP_cons_of_pos, ne_eq, reduceCtorEq,
        not_false_eq_true, List.count_cons_of_ne]
      omega
    | interruption =>
      rw [symbols, ih]
      simp [Feed.content, failures, pauses]
    | pause =>
      rw [symbols, List.countP_cons_of_pos rfl, ih]
      simp only [failures, pauses, Feed.content, Bool.false_eq_true, not_false_eq_true,
        List.countP_cons_of_neg, List.count_cons_self]
      omega

namespace Symbol

/-- Cutting off a line uses up no symbol that stops one. -/
theorem countP_stopsLine_takeLine (symbols : List Symbol) :
    (takeLine symbols).2.countP stopsLine = symbols.countP stopsLine := by
  have hline : ((takeLine symbols).1.map byte).countP stopsLine = 0 := by
    rw [countP_stopsLine_map_byte, List.count_eq_zero]
    exact newline_not_mem_takeLine symbols
  conv_rhs => rw [← takeLine_append symbols, List.countP_append, hline, Nat.zero_add]

/-- What stops a line counts among the symbols that do. -/
theorem stopsLine_of_takeLine_eq {symbols later : List Symbol} {symbol : Symbol}
    (h : (takeLine symbols).2 = symbol :: later) : symbol.stopsLine = true := by
  have hend := atLineEnd_takeLine symbols
  rw [h] at hend
  cases symbol with
  | byte b => exact decide_eq_true (hend b rfl)
  | failure reason => rfl
  | ending => rfl

end Symbol

/-! ## How many answers are left -/

namespace Automaton

/-- How many answers an automaton has at most before it ends: one for each symbol that stops a line,
and one for bytes behind the last of these. -/
def answersLeft (a : Automaton) : Nat :=
  match a.left with
  | none | some [] => 0
  | some symbols => symbols.countP Symbol.stopsLine + 1

theorem answersLeft_le {a : Automaton} {symbols : List Symbol} (h : a.left = some symbols) :
    a.answersLeft ≤ symbols.countP Symbol.stopsLine + 1 := by
  rw [answersLeft, h]
  cases symbols with
  | nil => exact Nat.zero_le _
  | cons symbol rest => exact le_rfl

theorem answersLeft_of_ne_nil {a : Automaton} {symbols : List Symbol} (h : a.left = some symbols)
    (hne : symbols ≠ []) : a.answersLeft = symbols.countP Symbol.stopsLine + 1 := by
  rw [answersLeft, h]
  cases symbols with
  | nil => exact absurd rfl hne
  | cons symbol rest => rfl

/-- What an open automaton leaves with an answer that is not the last one. -/
inductive Leaves (symbols : List Symbol) : List Symbol → Prop where
  /-- Nothing, as there were only the bytes of an unfinished line. -/
  | nothing : symbols ≠ [] → symbols.countP Symbol.stopsLine = 0 → Leaves symbols []
  /-- All that is behind the symbol that stopped the line. -/
  | behind {later : List Symbol} : later <:+ symbols →
      symbols.countP Symbol.stopsLine = later.countP Symbol.stopsLine + 1 → Leaves symbols later

/-- An automaton that has not ended has used up its symbols up to the one that stopped the line. -/
theorem left_next {a : Automaton} {symbols : List Symbol} (hleft : a.left = some symbols)
    (h : a.next.1 ≠ .ok none) :
    a.next.2.left = some (Symbol.first (Symbol.takeLine symbols).2).2 := by
  revert h
  simp only [next, hleft]
  cases Symbol.first (Symbol.takeLine symbols).2 with
  | mk symbol later =>
    cases symbol with
    | byte b => exact fun _ => rfl
    | failure reason => exact fun _ => rfl
    | ending =>
      dsimp only
      split
      · exact fun h => absurd rfl h
      · exact fun _ => rfl

/-- Every answer but the last one uses up one symbol that stops a line, or the bytes behind the last
of these. -/
theorem exists_leaves {a : Automaton} {symbols : List Symbol} (hleft : a.left = some symbols)
    (h : a.next.1 ≠ .ok none) : ∃ later, a.next.2.left = some later ∧ Leaves symbols later := by
  have hcount := Symbol.countP_stopsLine_takeLine symbols
  refine ⟨_, left_next hleft h, ?_⟩
  cases hafter : (Symbol.takeLine symbols).2 with
  | nil =>
    refine .nothing ?_ (by rw [← hcount, hafter, List.countP_nil])
    -- With no symbol left, this would have been the end.
    rintro rfl
    exact h (by simp [next, hleft, Symbol.takeLine, Symbol.first])
  | cons symbol later =>
    rw [hafter, List.countP_cons_of_pos (Symbol.stopsLine_of_takeLine_eq hafter)] at hcount
    refine .behind ?_ hcount.symm
    -- The line and what stopped it stand before the symbols that are left.
    have happend := Symbol.takeLine_append symbols
    rw [hafter] at happend
    exact (List.suffix_cons symbol later).trans ⟨_, happend⟩

/-- An automaton that ends, though the input pauses nowhere, has nothing left that stops a line. -/
theorem countP_stopsLine_of_next_eq_none {a : Automaton} {symbols : List Symbol}
    (hleft : a.left = some symbols) (hending : .ending ∉ symbols) (h : a.next.1 = .ok none) :
    symbols.countP Symbol.stopsLine = 0 := by
  revert h
  simp only [next, hleft]
  cases hafter : (Symbol.takeLine symbols).2 with
  | nil =>
    intro _
    rw [← Symbol.countP_stopsLine_takeLine, hafter, List.countP_nil]
  | cons symbol later =>
    intro hnone
    cases symbol with
    | byte b => cases hnone
    | failure reason => cases hnone
    | ending =>
      -- An end of input that is met is one of the symbols, unless they are all used up.
      have hmem : .ending ∈ symbols := by
        rw [← Symbol.takeLine_append symbols, hafter]
        simp
      exact absurd hmem hending

/-- Every answer but the last one lowers the number of answers that are left. -/
theorem answersLeft_next_lt {a : Automaton} (h : a.next.1 ≠ .ok none) :
    a.next.2.answersLeft < a.answersLeft := by
  cases hleft : a.left with
  | none => exact absurd (by rw [next, hleft]) h
  | some symbols =>
    obtain ⟨later, hnext, hleaves⟩ := exists_leaves hleft h
    cases hleaves with
    | nothing hne =>
      rw [answersLeft_of_ne_nil hleft hne, answersLeft, hnext]
      exact Nat.succ_pos _
    | behind hsuffix hcount =>
      have hne : symbols ≠ [] := by
        rintro rfl
        exact Nat.succ_ne_zero _ hcount.symm
      rw [answersLeft_of_ne_nil hleft hne, hcount]
      exact Nat.lt_succ_of_le (answersLeft_le hnext)

end Automaton

/-! ## Asking until the end -/

/-- An inert reader has no line to hand out, however often it is asked. -/
theorem LineReader.Inert.answers_eq {σ : Type} {r : LineReader σ} {s : σ} (h : r.Inert s)
    (n : Nat) :
    (r.responses s (.replicate n .next)).map (·.answer) = .replicate n (some (.ok none)) := by
  induction n with
  | zero => rfl
  | succ n ih =>
    rw [List.replicate_succ, List.replicate_succ, responses, List.map_cons, answer, h.1, ih]

/-- The lines among answers. -/
def SourceLine.handed (answers : List (Except SourceError SourceLine)) : List SourceLine :=
  answers.filterMap Except.toOption

@[simp]
theorem SourceLine.handed_ok_cons (line : SourceLine)
    (answers : List (Except SourceError SourceLine)) :
    handed (.ok line :: answers) = line :: handed answers := rfl

@[simp]
theorem SourceLine.handed_error_cons (cause : SourceError)
    (answers : List (Except SourceError SourceLine)) :
    handed (.error cause :: answers) = handed answers := rfl

namespace Source

/-- A source and its answers until it ends. A source whose read has failed is asked again. -/
inductive Exhausts : Source → List (Except SourceError SourceLine) → Prop where
  /-- The source has ended. -/
  | ended {s rest : Source} : s.next = (.ok none, rest) → Exhausts s []
  /-- There is a line. -/
  | line {s rest : Source} {line : SourceLine} {answers : List (Except SourceError SourceLine)} :
      s.next = (.ok (some line), rest) → Exhausts rest answers → Exhausts s (.ok line :: answers)
  /-- A read fails, and the source is asked again. -/
  | failed {s rest : Source} {cause : SourceError}
      {answers : List (Except SourceError SourceLine)} :
      s.next = (.error cause, rest) → Exhausts rest answers → Exhausts s (.error cause :: answers)

/-- Every source ends behind no more answers than it has left. -/
theorem exists_exhausts (s : Source) :
    ∃ answers, s.Exhausts answers ∧ answers.length ≤ s.automaton.answersLeft := by
  -- On the number of answers that are left, which every answer before the end lowers.
  induction h : s.automaton.answersLeft using Nat.strongRecOn generalizing s with
  | _ n ih =>
    cases hnext : s.next with
    | mk answer rest =>
    have hlt : answer ≠ .ok none → rest.automaton.answersLeft < n := by
      have hstep := Automaton.answersLeft_next_lt (a := s.automaton)
      rwa [automaton_next, hnext, h] at hstep
    match answer with
    | .ok none => exact ⟨[], .ended hnext, Nat.zero_le _⟩
    | .ok (some line) =>
      have hrest := hlt nofun
      obtain ⟨answers, hexhausts, hle⟩ := ih _ hrest rest rfl
      exact ⟨.ok line :: answers, .line hnext hexhausts, Nat.lt_of_le_of_lt hle hrest⟩
    | .error cause =>
      have hrest := hlt nofun
      obtain ⟨answers, hexhausts, hle⟩ := ih _ hrest rest rfl
      exact ⟨.error cause :: answers, .failed hnext hexhausts, Nat.lt_of_le_of_lt hle hrest⟩

/-! ## The answers, one request after the other -/

section Requests

variable {s rest : Source} {answer : Except SourceError (Option SourceLine)}

/-- A source that is asked once more than `n` times gives its next answer first. -/
theorem answers_replicate_succ (h : s.next = (answer, rest)) (n : Nat) :
    (reader.responses s (.replicate (n + 1) .next)).map (·.answer) =
      some answer :: (reader.responses rest (.replicate n .next)).map (·.answer) := by
  simp only [List.replicate_succ, LineReader.responses, LineReader.answer, reader, h, List.map_cons]

theorem after_replicate_succ (h : s.next = (answer, rest)) (n : Nat) :
    reader.after s (.replicate (n + 1) .next) = reader.after rest (.replicate n .next) := by
  simp only [List.replicate_succ, LineReader.after_cons, LineReader.answer, reader, h]

/-- Where the input pauses nowhere, an answer that is not the last one uses up at most one symbol
that stops a line. -/
theorem exists_left_of_next (h : s.next = (answer, rest)) (hanswer : answer ≠ .ok none)
    {symbols : List Symbol} (hleft : s.automaton.left = some symbols)
    (hending : .ending ∉ symbols) :
    ∃ later, rest.automaton.left = some later ∧ .ending ∉ later ∧
      symbols.countP Symbol.stopsLine ≤ later.countP Symbol.stopsLine + 1 := by
  have hautomaton := automaton_next s
  rw [h] at hautomaton
  obtain ⟨later, hlater, hleaves⟩ := Automaton.exists_leaves hleft (by rwa [hautomaton])
  rw [hautomaton] at hlater
  cases hleaves with
  | nothing _ hcount => exact ⟨[], hlater, List.not_mem_nil, hcount ▸ Nat.zero_le _⟩
  | behind hsuffix hcount =>
    exact ⟨later, hlater, fun hmem => hending (hsuffix.subset hmem), hcount.le⟩

/-- A source that has ended is inert. -/
theorem inert_of_next_eq_none (h : s.next = (.ok none, rest)) : reader.Inert rest := by
  have hclosed := isClosed_of_next_eq_none (congrArg Prod.fst h)
  rw [h] at hclosed
  exact inert_of_isClosed hclosed

end Requests

namespace Exhausts

variable {s : Source} {answers : List (Except SourceError SourceLine)}

/-- A source that is asked again and again gives its answers first, and then says each time that it
has ended. -/
theorem answers_eq (h : s.Exhausts answers) (more : Nat) :
    (reader.responses s (.replicate (answers.length + more) .next)).map (·.answer) =
      answers.map (fun answer => some (answer.map some)) ++ .replicate more (some (.ok none)) := by
  induction h with
  | ended hnext =>
    cases more with
    | zero => rfl
    | succ more =>
      -- The first request behind the answers closes the source, and no other one changes it.
      rw [List.length_nil, Nat.zero_add, answers_replicate_succ hnext,
        (inert_of_next_eq_none hnext).answers_eq]
      rfl
  | line hnext _ ih =>
    rw [List.length_cons, Nat.add_right_comm, answers_replicate_succ hnext, ih]
    rfl
  | failed hnext _ ih =>
    rw [List.length_cons, Nat.add_right_comm, answers_replicate_succ hnext, ih]
    rfl

/-- However often an open source is asked, it counts the lines among its answers, and nothing
else. -/
theorem count_after (h : s.Exhausts answers) (hopen : s.isClosed = false) (n : Nat) :
    (reader.after s (.replicate n .next)).count =
      s.count + (SourceLine.handed (answers.take n)).length := by
  induction h generalizing n with
  | ended hnext =>
    cases n with
    | zero => rfl
    | succ n =>
      rw [after_replicate_succ hnext, (inert_of_next_eq_none hnext).after_eq,
        next_eq_none hopen hnext]
      rfl
  | line hnext _ ih =>
    obtain ⟨-, hcount, hrest⟩ := next_eq_some hopen hnext
    cases n with
    | zero => rfl
    | succ n =>
      rw [after_replicate_succ hnext, ih hrest, hcount, List.take_succ_cons,
        SourceLine.handed_ok_cons, List.length_cons, Nat.add_assoc, Nat.add_comm 1]
  | failed hnext _ ih =>
    obtain ⟨-, hcount, hrest⟩ := next_eq_error hopen hnext
    cases n with
    | zero => rfl
    | succ n =>
      rw [after_replicate_succ hnext, ih hrest, hcount, List.take_succ_cons,
        SourceLine.handed_error_cons]

/-- The lines of an open source are numbered in order, whatever failures are between them. -/
theorem numbers (h : s.Exhausts answers) (hopen : s.isClosed = false) :
    (SourceLine.handed answers).map (·.number) =
      List.range' (s.count + 1) (SourceLine.handed answers).length := by
  induction h with
  | ended => rfl
  | line hnext _ ih =>
    obtain ⟨hnumber, hcount, hrest⟩ := next_eq_some hopen hnext
    rw [SourceLine.handed_ok_cons, List.map_cons, ih hrest, hnumber, hcount, List.length_cons,
      List.range'_succ]
  | failed hnext _ ih =>
    obtain ⟨-, hcount, hrest⟩ := next_eq_error hopen hnext
    rw [SourceLine.handed_error_cons, ih hrest, hcount]

/-- A read that fails names the line that would have been next. -/
theorem failure_eq (h : s.Exhausts answers) (hopen : s.isClosed = false) {n : Nat}
    {cause : SourceError} (hcause : answers[n]? = some (.error cause)) :
    ∃ reason,
      cause = .unread (s.count + (SourceLine.handed (answers.take n)).length + 1) reason := by
  induction h generalizing n with
  | ended => simp at hcause
  | @line s _ _ _ hnext _ ih =>
    obtain ⟨-, hcount, hrest⟩ := next_eq_some hopen hnext
    cases n with
    | zero => simp at hcause
    | succ n =>
      obtain ⟨reason, rfl⟩ := ih hrest hcause
      refine ⟨reason, ?_⟩
      rw [hcount, List.take_succ_cons, SourceLine.handed_ok_cons, List.length_cons,
        Nat.add_right_comm s.count 1, Nat.add_assoc s.count]
  | failed hnext _ ih =>
    obtain ⟨hfails, hcount, hrest⟩ := next_eq_error hopen hnext
    cases n with
    | zero =>
      obtain rfl := Except.error.inj (Option.some.inj hcause)
      exact hfails
    | succ n =>
      rw [List.take_succ_cons, SourceLine.handed_error_cons, ← hcount]
      exact ih hrest hcause

/-- Where the input pauses nowhere, a source does not end before all that stops a line is read. -/
theorem countP_stopsLine_le (h : s.Exhausts answers) {symbols : List Symbol}
    (hleft : s.automaton.left = some symbols) (hending : .ending ∉ symbols) :
    symbols.countP Symbol.stopsLine ≤ answers.length := by
  induction h generalizing symbols with
  | @ended s rest hnext =>
    have hanswer : s.automaton.next.1 = .ok none := by rw [automaton_next, hnext]
    rw [Automaton.countP_stopsLine_of_next_eq_none hleft hending hanswer]
    exact Nat.zero_le _
  | line hnext _ ih =>
    obtain ⟨later, hlater, hnot, hle⟩ := exists_left_of_next hnext nofun hleft hending
    exact hle.trans (Nat.succ_le_succ (ih hlater hnot))
  | failed hnext _ ih =>
    obtain ⟨later, hlater, hnot, hle⟩ := exists_left_of_next hnext nofun hleft hending
    exact hle.trans (Nat.succ_le_succ (ih hlater hnot))

end Exhausts

/-- A source that is asked again and again, also when a read has failed, ends: before that, it gives
at most one answer for each newline, failure and pause of its feed, and one more; where the input
pauses nowhere, it gives one for each newline and failure at least. From then on it says each time
that it has ended. It counts the lines among its answers, which are numbered from one without a gap,
and a failure between them names the line that comes next. -/
theorem reading_ends (feed : Feed) :
    ∃ answers : List (Except SourceError SourceLine),
      (∀ more,
        (reader.responses (ofFeed feed) (.replicate (answers.length + more) .next)).map (·.answer) =
          answers.map (fun answer => some (answer.map some)) ++
            .replicate more (some (.ok none))) ∧
      answers.length ≤ feed.content.count Feed.newline + feed.failures + feed.pauses + 1 ∧
      (.pause ∉ feed → feed.content.count Feed.newline + feed.failures ≤ answers.length) ∧
      (∀ n, (reader.after (ofFeed feed) (.replicate n .next)).count =
        (SourceLine.handed (answers.take n)).length) ∧
      (SourceLine.handed answers).map (·.number) =
        List.range' 1 (SourceLine.handed answers).length ∧
      ∀ (n : Nat) (cause : SourceError), answers[n]? = some (.error cause) →
        ∃ reason, cause = .unread ((SourceLine.handed (answers.take n)).length + 1) reason := by
  obtain ⟨answers, hexhausts, hle⟩ := exists_exhausts (ofFeed feed)
  have hopen : (ofFeed feed).isClosed = false := isClosed_ofFeed feed
  have hstops := feed.countP_stopsLine_symbols
  refine ⟨answers, hexhausts.answers_eq, ?_, ?_, ?_, hexhausts.numbers hopen, ?_⟩
  · rw [← hstops]
    exact hle.trans (Automaton.answersLeft_le rfl)
  · intro hpause
    have hleast := hexhausts.countP_stopsLine_le rfl (Feed.ending_not_mem_symbols hpause)
    rw [hstops] at hleast
    exact (Nat.le_add_right _ _).trans hleast
  · intro n
    rw [hexhausts.count_after hopen, ofFeed, Nat.zero_add]
  · intro n cause hcause
    obtain ⟨reason, rfl⟩ := hexhausts.failure_eq hopen hcause
    exact ⟨reason, by rw [ofFeed, Nat.zero_add]⟩

/-- One answer for the newline, one for the failure, one for the pause behind a byte, and one for
the byte behind it: the bound is reached. -/
example :
    (reader.responses
        (ofFeed [.bytes [Feed.newline], .failure "gone", .bytes [0x61], .pause, .bytes [0x62]])
        (.replicate 5 .next)).map (·.answer) =
      [some (.ok (some { number := 1, text := "" })), some (.error (.unread 2 "gone")),
        some (.ok (some { number := 2, text := "a" })),
        some (.ok (some { number := 3, text := "b" })), some (.ok none)] := by
  decide

end Source

end Stackline
