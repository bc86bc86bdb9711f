import Stackline.Proofs.Source.Automaton

/-!
# The lines of a source

What a source hands out when it is asked until it ends or fails.

* `Source.Yields s lines ending last` — asked again and again, `s` hands out `lines`, then ends or
  fails as `ending` says, and leaves `last` behind. Every source does so (`exists_yields`).
* `Source.Hands s lines rest` — `s` hands out `lines`, perhaps not all, and leaves `rest` behind.
  The lines are counted and numbered in order (`Hands.open_and_count`, `Yields.numbers`).
* `drain_of_yields` — the answers until a source closes, if no read fails.
* `Feed.Smooth feed`, `feed.content` — a feed of bytes and interruptions alone, and its bytes.
* `SourceLine.decoded first contents` — the lines with the given bytes, numbered in order.
* `exists_yields_of_ended` — ended lines are handed out whatever is delivered behind them. Alone,
  they are all that is handed out (`yields_of_ended`).
* `yields_of_smooth` — a source over such a feed hands out the lines of its decoded bytes, numbered
  from one, however the bytes are delivered.
* `length_le_of_yields` — where the input ends only once, a source hands out no more lines than the
  bytes of its feed have, even if reads fail.
-/

namespace Stackline

open Text

namespace Source

/-! ## Asking until the end -/

/-- A source, the lines that it hands out one after the other, whether it ends or fails behind them,
and the source behind that. -/
inductive Yields : Source → List SourceLine → Except SourceError Unit → Source → Prop where
  /-- The source has ended. -/
  | ended {s last : Source} : s.next = (.ok none, last) → Yields s [] (.ok ()) last
  /-- The next read fails. -/
  | failed {s last : Source} {cause : SourceError} :
      s.next = (.error cause, last) → Yields s [] (.error cause) last
  /-- There is a line. -/
  | line {s rest last : Source} {line : SourceLine} {lines : List SourceLine}
      {ending : Except SourceError Unit} :
      s.next = (.ok (some line), rest) → Yields rest lines ending last →
      Yields s (line :: lines) ending last

/-- Every source ends or fails behind finitely many lines. -/
theorem exists_yields (s : Source) : ∃ lines ending last, s.Yields lines ending last := by
  -- On what the source has left, which every line lowers.
  induction h : s.weight using Nat.strongRecOn generalizing s with
  | _ n ih =>
    cases hnext : s.next with
    | mk answer rest =>
    match answer with
    | .error cause => exact ⟨[], _, rest, .failed hnext⟩
    | .ok none => exact ⟨[], _, rest, .ended hnext⟩
    | .ok (some line) =>
      have hlt : rest.weight < n := by
        have hweight := weight_next_lt (s := s) (by simp [hnext])
        rwa [hnext, h] at hweight
      obtain ⟨lines, ending, last, hyields⟩ := ih rest.weight hlt rest rfl
      exact ⟨line :: lines, ending, last, .line hnext hyields⟩

/-- A source that has handed out a line is still open. -/
theorem isClosed_of_next_eq_some {s rest : Source} {line : SourceLine}
    (h : s.next = (.ok (some line), rest)) : rest.isClosed = false := by
  cases hfeed : s.feed with
  | none => simp [next, hfeed] at h
  | some feed =>
    rw [next_of_feed hfeed] at h
    split at h
    · rw [← (Prod.mk.inj h).2]
      rfl
    · simp at h
    · simp at h

/-- A source that ends behind its lines has handed out these lines when it closes, and then
nothing. -/
theorem drain_of_yields {s last : Source} {lines : List SourceLine}
    (h : s.Yields lines (.ok ()) last) :
    s.drain.map (·.1) = lines.map (fun line => .ok (some line)) ++ [.ok none] := by
  generalize hending : Except.ok () = ending at h
  induction h with
  | ended hnext =>
    have hclosed := isClosed_of_next_eq_none (by rw [hnext])
    rw [drain, dif_pos hclosed, hnext]
    rfl
  | failed => simp at hending
  | line hnext _ ih =>
    -- A line leaves the source open, so there are answers behind it.
    have hopen := isClosed_of_next_eq_some hnext
    rw [drain, dif_neg (by rw [hnext]; simp [hopen]), List.map_cons, hnext, ih hending]
    rfl

/-! ## Handing out lines -/

/-- The ways in which an open source answers. -/
inductive Answers (s : Source) : Except SourceError (Option SourceLine) × Source → Prop where
  /-- There is a line, which has the next number. -/
  | line (text : String) {rest : Source} : rest.isClosed = false → rest.count = s.count + 1 →
      Answers s (.ok (some { number := s.count + 1, text }), rest)
  /-- The source has ended. -/
  | ended : Answers s (.ok none, s.close)
  /-- The read of the next line fails, which counts no line. -/
  | failed (reason : String) {rest : Source} : rest.isClosed = false → rest.count = s.count →
      Answers s (.error (.unread (s.count + 1) reason), rest)

theorem answers_next {s : Source} (hopen : s.isClosed = false) : s.Answers s.next := by
  cases hfeed : s.feed with
  | none => simp [isClosed, hfeed] at hopen
  | some feed =>
    rw [next_of_feed hfeed]
    split
    · exact .line _ rfl rfl
    · exact .ended
    · exact .failed _ rfl rfl

/-- A line that an open source hands out has the next number, and the source stays open. -/
theorem next_eq_some {s rest : Source} {line : SourceLine} (hopen : s.isClosed = false)
    (h : s.next = (.ok (some line), rest)) :
    line.number = s.count + 1 ∧ rest.count = s.count + 1 ∧ rest.isClosed = false := by
  have hanswers := answers_next hopen
  rw [h] at hanswers
  cases hanswers with
  | line text hrest hcount => exact ⟨rfl, hcount, hrest⟩

/-- A read that fails on an open source fails at the next number, and the source stays open. -/
theorem next_eq_error {s rest : Source} {cause : SourceError} (hopen : s.isClosed = false)
    (h : s.next = (.error cause, rest)) :
    (∃ reason, cause = .unread (s.count + 1) reason) ∧ rest.count = s.count ∧
      rest.isClosed = false := by
  have hanswers := answers_next hopen
  rw [h] at hanswers
  cases hanswers with
  | failed reason hrest hcount => exact ⟨⟨reason, rfl⟩, hcount, hrest⟩

/-- An open source that ends closes itself. -/
theorem next_eq_none {s rest : Source} (hopen : s.isClosed = false)
    (h : s.next = (.ok none, rest)) : rest = s.close := by
  have hanswers := answers_next hopen
  rw [h] at hanswers
  cases hanswers with
  | ended => rfl

/-- A source, lines that it hands out one after the other, and the source behind them. -/
inductive Hands : Source → List SourceLine → Source → Prop where
  /-- No line is asked for. -/
  | nothing (s : Source) : Hands s [] s
  /-- There is a line, and there are others behind it. -/
  | line {s rest last : Source} {line : SourceLine} {lines : List SourceLine} :
      s.next = (.ok (some line), rest) → Hands rest lines last → Hands s (line :: lines) last

/-- A source stands between any two lines that it hands out. -/
theorem Yields.split {s last : Source} {earlier later : List SourceLine}
    {ending : Except SourceError Unit} (h : s.Yields (earlier ++ later) ending last) :
    ∃ middle, s.Hands earlier middle ∧ middle.Yields later ending last := by
  induction earlier generalizing s with
  | nil => exact ⟨s, .nothing s, h⟩
  | cons line earlier ih =>
    cases h with
    | line hnext hrest =>
      obtain ⟨middle, hhands, hlater⟩ := ih hrest
      exact ⟨middle, .line hnext hhands, hlater⟩

/-- An open source that has handed out lines is open, and has counted them. -/
theorem Hands.open_and_count {s rest : Source} {lines : List SourceLine} (h : s.Hands lines rest)
    (hopen : s.isClosed = false) : rest.isClosed = false ∧ rest.count = s.count + lines.length := by
  induction h with
  | nothing s => exact ⟨hopen, rfl⟩
  | line hnext _ ih =>
    obtain ⟨-, hcount, hrest⟩ := next_eq_some hopen hnext
    obtain ⟨hlast, hlength⟩ := ih hrest
    refine ⟨hlast, ?_⟩
    rw [hlength, hcount, List.length_cons, Nat.add_assoc, Nat.add_comm 1]

/-- A source hands out lines, and then what is handed out behind them. -/
theorem Hands.yields {s rest last : Source} {lines others : List SourceLine}
    {ending : Except SourceError Unit} (h : s.Hands lines rest)
    (hothers : rest.Yields others ending last) : s.Yields (lines ++ others) ending last := by
  induction h with
  | nothing s => exact hothers
  | line hnext _ ih => exact .line hnext (ih hothers)

/-- A line behind others: where the source is before it and behind it. -/
theorem Yields.exists_line {s last : Source} {earlier later : List SourceLine} {line : SourceLine}
    {ending : Except SourceError Unit} (h : s.Yields (earlier ++ line :: later) ending last)
    (hopen : s.isClosed = false) :
    ∃ middle rest, s.Hands earlier middle ∧ middle.next = (.ok (some line), rest) ∧
      rest.isClosed = false ∧ line.number = s.count + earlier.length + 1 ∧
      rest.count = s.count + earlier.length + 1 := by
  obtain ⟨middle, hhands, hmiddle⟩ := h.split
  obtain ⟨hmiddle_open, hcount⟩ := hhands.open_and_count hopen
  cases hmiddle with
  | @line _ rest _ _ _ _ hnext =>
    obtain ⟨hnumber, hbehind, hrest⟩ := next_eq_some hmiddle_open hnext
    rw [hcount] at hnumber hbehind
    exact ⟨middle, rest, hhands, hnext, hrest, hnumber, hbehind⟩

/-- Behind all lines: where the source is before it ends or fails. -/
theorem Yields.exists_ending {s last : Source} {lines : List SourceLine}
    {ending : Except SourceError Unit} (h : s.Yields lines ending last)
    (hopen : s.isClosed = false) :
    ∃ middle, s.Hands lines middle ∧ middle.isClosed = false ∧
      middle.count = s.count + lines.length ∧ middle.Yields [] ending last := by
  rw [← List.append_nil lines] at h
  obtain ⟨middle, hhands, hmiddle⟩ := h.split
  obtain ⟨hmiddle_open, hcount⟩ := hhands.open_and_count hopen
  exact ⟨middle, hhands, hmiddle_open, hcount, hmiddle⟩

/-- The lines of an open source are numbered in order, behind those that it has counted. -/
theorem Yields.numbers {s last : Source} {lines : List SourceLine}
    {ending : Except SourceError Unit} (h : s.Yields lines ending last)
    (hopen : s.isClosed = false) :
    lines.map (·.number) = List.range' (s.count + 1) lines.length := by
  induction h with
  | ended => rfl
  | failed => rfl
  | line hnext _ ih =>
    obtain ⟨hnumber, hcount, hrest⟩ := next_eq_some hopen hnext
    rw [List.map_cons, ih hrest, hnumber, hcount, List.length_cons, List.range'_succ]

end Source

/-! ## Bytes without failures -/

namespace Feed

/-- Whether a feed delivers bytes and interruptions alone. -/
def Smooth (feed : Feed) : Prop :=
  ∀ delivery ∈ feed, delivery = .interruption ∨ ∃ content, delivery = .bytes content

/-- The bytes of a feed. -/
def content : Feed → List UInt8
  | [] => []
  | .bytes content :: rest => content ++ Feed.content rest
  | _ :: rest => Feed.content rest

/-- A feed of bytes and interruptions has its bytes as symbols and no others. -/
theorem symbols_of_smooth {feed : Feed} (h : feed.Smooth) :
    feed.symbols = feed.content.map .byte := by
  induction feed with
  | nil => rfl
  | cons delivery rest ih =>
    have hrest := ih fun d hd => h d (List.mem_cons_of_mem _ hd)
    rcases h delivery List.mem_cons_self with rfl | ⟨content, rfl⟩
    · exact hrest
    · rw [symbols, hrest, Feed.content, List.map_append]

theorem smooth_bytes (content : List UInt8) : Feed.Smooth [.bytes content] := by
  intro delivery hmem
  exact .inr ⟨content, List.mem_singleton.1 hmem⟩

end Feed

/-- The lines with these texts, numbered in order. -/
def SourceLine.numbered (first : Nat) (texts : List (List Char)) : List SourceLine :=
  (texts.zipIdx first).map fun (text, number) => { number, text := String.ofList text }

@[simp]
theorem SourceLine.numbered_nil (first : Nat) : numbered first [] = [] := rfl

@[simp]
theorem SourceLine.numbered_cons (first : Nat) (text : List Char) (texts : List (List Char)) :
    numbered first (text :: texts) =
      { number := first, text := String.ofList text } :: numbered (first + 1) texts := by
  simp [numbered, List.zipIdx_cons]

theorem SourceLine.numbered_append (first : Nat) (texts rest : List (List Char)) :
    numbered first (texts ++ rest) =
      numbered first texts ++ numbered (first + texts.length) rest := by
  simp [numbered, List.zipIdx_append]

/-- The lines with these bytes, numbered in order. -/
def SourceLine.decoded (first : Nat) (contents : List (List UInt8)) : List SourceLine :=
  numbered first (contents.map fun content => trim (Utf8.decode content))

@[simp]
theorem SourceLine.decoded_cons (first : Nat) (content : List UInt8)
    (contents : List (List UInt8)) :
    decoded first (content :: contents) =
      { number := first, text := Source.lineText content } :: decoded (first + 1) contents := by
  rw [decoded, List.map_cons, numbered_cons]
  rfl

theorem SourceLine.decoded_append (first : Nat) (contents rest : List (List UInt8)) :
    decoded first (contents ++ rest) =
      decoded first contents ++ decoded (first + contents.length) rest := by
  rw [decoded, List.map_append, numbered_append, List.length_map]
  rfl

@[simp]
theorem SourceLine.length_decoded (first : Nat) (contents : List (List UInt8)) :
    (decoded first contents).length = contents.length := by
  simp [decoded, numbered]

theorem SourceLine.getElem?_decoded (first : Nat) (contents : List (List UInt8)) (k : Nat) :
    (decoded first contents)[k]? = contents[k]?.map fun content =>
      { number := first + k, text := Source.lineText content } := by
  simp [decoded, numbered, Source.lineText, Function.comp_def]

namespace Automaton

/-- Bytes up to a newline are the next line. -/
theorem next_of_newline {content : List UInt8} (h : Feed.newline ∉ content) (later : List Symbol)
    (count : Nat) :
    next { left := some (content.map .byte ++ .byte Feed.newline :: later), count } =
      (.ok (some { number := count + 1, text := Source.lineText content }),
        { left := some later, count := count + 1 }) := by
  simp only [next, Symbol.takeLine_map_byte_append h, Symbol.takeLine_newline, List.append_nil,
    Symbol.first]
  rfl

/-- Bytes without a newline before the end of the input are the last line, if there are any. -/
theorem next_of_no_newline {content : List UInt8} (h : Feed.newline ∉ content) (count : Nat) :
    next { left := some (content.map .byte), count } =
      if content = [] then (.ok none, { left := none, count })
      else (.ok (some { number := count + 1, text := Source.lineText content }),
        { left := some [], count := count + 1 }) := by
  have htake : Symbol.takeLine (content.map .byte) = (content, []) := by
    simpa [Symbol.takeLine] using Symbol.takeLine_map_byte_append h []
  simp only [next, htake, Symbol.first]
  rfl

end Automaton

namespace Source

/-- What the automaton answers and leaves, the source answers and leaves. -/
theorem exists_next_of_automaton {s : Source} {answer : Except SourceError (Option SourceLine)}
    {a : Automaton} (h : s.automaton.next = (answer, a)) :
    ∃ rest : Source, s.next = (answer, rest) ∧ rest.automaton = a := by
  rw [automaton_next, Prod.mk.injEq] at h
  exact ⟨s.next.2, Prod.ext h.1 rfl, h.2⟩

/-- A source whose symbols are bytes hands out the decoded pieces of these bytes, and ends. -/
theorem yields_of_bytes {s : Source} {bs : List UInt8} {count : Nat}
    (h : s.automaton = { left := some (bs.map .byte), count }) :
    ∃ last, s.Yields
      (SourceLine.numbered (count + 1)
        ((pieces Feed.newline bs).map fun piece => trim (Utf8.decode piece)))
      (.ok ()) last := by
  -- One line for each newline, and one more for bytes behind the last newline.
  induction bs using marked_induction Feed.newline generalizing s count with
  | last as has =>
    have hnext := Automaton.next_of_no_newline has count
    rw [← h] at hnext
    by_cases hnil : as = []
    · -- The input ends where a line would begin, so there is no line.
      rw [if_pos hnil] at hnext
      obtain ⟨last, hlast, -⟩ := exists_next_of_automaton hnext
      rw [hnil, pieces_nil]
      exact ⟨last, .ended hlast⟩
    · rw [if_neg hnil] at hnext
      obtain ⟨rest, hrest, hleft⟩ := exists_next_of_automaton hnext
      -- Behind the unfinished line, the input ends once more.
      have hend := Automaton.next_of_no_newline List.not_mem_nil (count + 1)
      rw [List.map_nil, ← hleft, if_pos rfl] at hend
      obtain ⟨last, hlast, -⟩ := exists_next_of_automaton hend
      rw [pieces_of_not_mem has hnil, List.map_singleton, SourceLine.numbered_cons,
        SourceLine.numbered_nil]
      exact ⟨last, .line hrest (.ended hlast)⟩
  | cut as rest has ih =>
    have hnext := Automaton.next_of_newline has (rest.map .byte) count
    rw [← List.map_cons, ← List.map_append, ← h] at hnext
    obtain ⟨later, hlater, hleft⟩ := exists_next_of_automaton hnext
    obtain ⟨last, hyields⟩ := ih hleft
    rw [pieces_append_mark has, List.map_cons, SourceLine.numbered_cons]
    exact ⟨last, .line hlater hyields⟩

/-- A source that meets ended lines first hands out these lines, whatever it meets behind them. -/
theorem hands_of_ended {s : Source} {contents : List (List UInt8)}
    (hcontents : ∀ content ∈ contents, Feed.newline ∉ content) {later : List Symbol} {count : Nat}
    (h : s.automaton =
      { left := some ((ended Feed.newline contents).map .byte ++ later), count }) :
    ∃ rest, s.Hands (SourceLine.decoded (count + 1) contents) rest := by
  induction contents generalizing s count with
  | nil => exact ⟨s, .nothing s⟩
  | cons content contents ih =>
    obtain ⟨hcontent, hrest⟩ := List.forall_mem_cons.1 hcontents
    have hsymbols : (ended Feed.newline (content :: contents)).map Symbol.byte ++ later =
        content.map .byte ++
          .byte Feed.newline :: ((ended Feed.newline contents).map .byte ++ later) := by
      simp [ended]
    have hnext := Automaton.next_of_newline hcontent
      ((ended Feed.newline contents).map .byte ++ later) count
    rw [← hsymbols, ← h] at hnext
    obtain ⟨behind, hbehind, hleft⟩ := exists_next_of_automaton hnext
    obtain ⟨rest, hhands⟩ := ih hrest hleft
    rw [SourceLine.decoded_cons]
    exact ⟨rest, .line hbehind hhands⟩

/-- However ended lines are delivered and whatever is delivered behind them, a source hands out
these lines first. -/
theorem exists_yields_of_ended {feed : Feed} {contents : List (List UInt8)}
    (hcontents : ∀ content ∈ contents, Feed.newline ∉ content) {later : List Symbol}
    (h : feed.symbols = (ended Feed.newline contents).map .byte ++ later) :
    ∃ others ending last,
      (ofFeed feed).Yields (SourceLine.decoded 1 contents ++ others) ending last := by
  have hautomaton : (ofFeed feed).automaton =
      { left := some ((ended Feed.newline contents).map .byte ++ later), count := 0 } := by
    rw [automaton, ofFeed, Option.map_some, h]
  obtain ⟨rest, hhands⟩ := hands_of_ended hcontents hautomaton
  obtain ⟨others, ending, last, hyields⟩ := rest.exists_yields
  exact ⟨others, ending, last, hhands.yields hyields⟩

/-- A source that meets bytes alone hands out their lines, and ends. -/
theorem yields_of_symbols {feed : Feed} {bs : List UInt8} (h : feed.symbols = bs.map .byte) :
    ∃ last, (ofFeed feed).Yields
      (SourceLine.decoded 1 (pieces Feed.newline bs)) (.ok ()) last := by
  have hautomaton : (ofFeed feed).automaton = { left := some (bs.map .byte), count := 0 } := by
    rw [automaton, ofFeed, Option.map_some, h]
  exact yields_of_bytes hautomaton

/-- A source that meets ended lines alone hands out these lines, and ends. -/
theorem yields_of_ended {feed : Feed} {contents : List (List UInt8)}
    (hcontents : ∀ content ∈ contents, Feed.newline ∉ content)
    (h : feed.symbols = (ended Feed.newline contents).map .byte) :
    ∃ last, (ofFeed feed).Yields (SourceLine.decoded 1 contents) (.ok ()) last := by
  obtain ⟨last, hyields⟩ := yields_of_symbols h
  rw [pieces_ended hcontents] at hyields
  exact ⟨last, hyields⟩

/-- A source over bytes that are delivered without failures hands out the trimmed lines of the
decoded bytes, numbered from one, and ends. -/
theorem yields_of_smooth {feed : Feed} (h : feed.Smooth) :
    ∃ last, (ofFeed feed).Yields
      (SourceLine.numbered 1 ((lines (Utf8.decode feed.content)).map trim)) (.ok ()) last := by
  rw [lines_decode, List.map_map]
  exact yields_of_symbols (Feed.symbols_of_smooth h)

end Source

/-! ## Numbers of lines -/

/-- The bytes among symbols. -/
def Symbol.bytes (symbols : List Symbol) : List UInt8 :=
  symbols.filterMap fun symbol => match symbol with
    | .byte b => some b
    | .failure _ => none
    | .ending => none

@[simp]
theorem Symbol.bytes_append (symbols rest : List Symbol) :
    bytes (symbols ++ rest) = bytes symbols ++ bytes rest :=
  List.filterMap_append

@[simp]
theorem Symbol.bytes_map_byte (content : List UInt8) : bytes (content.map .byte) = content := by
  rw [bytes, List.filterMap_map]
  exact List.filterMap_some

/-- Cutting off a line loses no symbol. -/
theorem Symbol.takeLine_append (symbols : List Symbol) :
    (takeLine symbols).1.map .byte ++ (takeLine symbols).2 = symbols := by
  fun_induction takeLine symbols with
  | case1 rest => rfl
  | case2 b rest hb ih => rw [List.map_cons, List.cons_append, ih]
  | case3 symbols => rfl

theorem Symbol.newline_not_mem_takeLine (symbols : List Symbol) :
    Feed.newline ∉ (takeLine symbols).1 := by
  fun_induction takeLine symbols with
  | case1 rest => exact List.not_mem_nil
  | case2 b rest hb ih => simp [Ne.symm hb, ih]
  | case3 symbols => exact List.not_mem_nil

namespace Feed

/-- The input ends only once if there are bytes, or nothing for good, at every read. -/
theorem ending_not_mem_symbols {feed : Feed} (h : .pause ∉ feed) : .ending ∉ feed.symbols := by
  induction feed with
  | nil => exact List.not_mem_nil
  | cons delivery rest ih =>
    have ⟨hne, hrest⟩ : .pause ≠ delivery ∧ .pause ∉ rest := by simpa using h
    cases delivery with
    | bytes content => simp [symbols, ih hrest]
    | failure reason => simp [symbols, ih hrest]
    | interruption => exact ih hrest
    | pause => exact absurd rfl hne

end Feed

/-- A line that is handed out is one of the lines of the bytes that are left, unless the input ends
more than once. -/
theorem Automaton.length_pieces_lt_of_next {a rest : Automaton} {symbols : List Symbol}
    {line : SourceLine} (hleft : a.left = some symbols) (hending : .ending ∉ symbols)
    (h : a.next = (.ok (some line), rest)) :
    ∃ later, rest.left = some later ∧ .ending ∉ later ∧
      (pieces Feed.newline (Symbol.bytes later)).length <
        (pieces Feed.newline (Symbol.bytes symbols)).length := by
  have happ := Symbol.takeLine_append symbols
  have hcontent := Symbol.newline_not_mem_takeLine symbols
  have hend := Symbol.atLineEnd_takeLine symbols
  simp only [next, hleft] at h
  generalize Symbol.takeLine symbols = taken at h happ hcontent hend
  obtain ⟨content, after⟩ := taken
  subst happ
  cases after with
  | nil =>
    -- The input ends behind an unfinished line.
    simp only [Symbol.first] at h
    by_cases hnil : content = []
    · simp [hnil] at h
    · rw [if_neg hnil] at h
      obtain ⟨-, rfl⟩ := Prod.mk.inj h
      refine ⟨[], rfl, List.not_mem_nil, ?_⟩
      rw [List.append_nil, Symbol.bytes_map_byte, pieces_of_not_mem hcontent hnil]
      exact Nat.zero_lt_one
  | cons symbol later =>
    cases symbol with
    | byte b =>
      obtain rfl : b = Feed.newline := hend b rfl
      obtain ⟨-, rfl⟩ := Prod.mk.inj h
      refine ⟨later, rfl, fun hmem => hending (by simp [hmem]), ?_⟩
      have hbytes : Symbol.bytes (content.map .byte ++ .byte Feed.newline :: later) =
          content ++ Feed.newline :: Symbol.bytes later := by
        rw [Symbol.bytes_append, Symbol.bytes_map_byte]
        rfl
      rw [hbytes, pieces_append_mark hcontent, List.length_cons]
      exact Nat.lt_succ_self _
    | failure reason => cases h
    | ending => exact absurd (by simp) hending

namespace Source

/-- A source hands out no more lines than its bytes have, unless the input ends more than once. -/
theorem Yields.length_le {s last : Source} {lines : List SourceLine}
    {ending : Except SourceError Unit} (h : s.Yields lines ending last) {symbols : List Symbol}
    (hleft : s.automaton.left = some symbols) (hending : .ending ∉ symbols) :
    lines.length ≤ (pieces Feed.newline (Symbol.bytes symbols)).length := by
  induction h generalizing symbols with
  | ended => exact Nat.zero_le _
  | failed => exact Nat.zero_le _
  | @line s rest last line lines ending hnext _ ih =>
    have hautomaton := automaton_next s
    rw [hnext] at hautomaton
    obtain ⟨later, hlater, hnot, hlt⟩ :=
      Automaton.length_pieces_lt_of_next hleft hending hautomaton
    exact Nat.lt_of_le_of_lt (ih hlater hnot) hlt

end Source

end Stackline
