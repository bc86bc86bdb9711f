import Stackline.Proofs.Text.Lines

/-!
# Sources as automata

What a source does depends on the bytes, failures and ends of input that it meets, not on how they
are delivered. This module flattens a feed to the symbols that a reader meets, defines an automaton
that reads lines off symbols, and proves that a source answers every sequence of requests as the
automaton does.

* `Feed.symbols feed` — the bytes, failures and ends of a feed in order; interruptions and empty
  deliveries leave no symbol, and behind the last symbol the input ends again and again.
* `Symbol.takeLine symbols` — the longest run of bytes other than newlines, and what follows it.
* `Automaton.next` — one answer of the automaton, which is one answer of the source
  (`automaton_next`).
* `responses_eq_automaton` — whole sequences of requests, and what becomes of a closed source.
-/

namespace Stackline

open Text

/-- One thing that the reader of a feed meets. -/
inductive Symbol where
  /-- A byte. -/
  | byte (b : UInt8)
  /-- A read that fails. -/
  | failure (reason : String)
  /-- An end of input, perhaps only for now. -/
  | ending
deriving DecidableEq, Repr

/-! ## Symbols -/

/-- What the reader of a feed meets, in order. -/
def Feed.symbols : Feed → List Symbol
  | [] => []
  | .bytes content :: rest => content.map .byte ++ symbols rest
  | .failure reason :: rest => .failure reason :: symbols rest
  | .interruption :: rest => symbols rest
  | .pause :: rest => .ending :: symbols rest

namespace Symbol

/-- The first symbol and those behind it. Where no symbol is left, the input ends, however often it
is read. -/
def first : List Symbol → Symbol × List Symbol
  | [] => (.ending, [])
  | symbol :: rest => (symbol, rest)

/-- The longest run of bytes other than newlines at the beginning, and the symbols behind it. -/
def takeLine : List Symbol → List UInt8 × List Symbol
  | .byte b :: rest =>
    if b = Feed.newline then ([], .byte b :: rest)
    else (b :: (takeLine rest).1, (takeLine rest).2)
  | symbols => ([], symbols)

/-- Whether no byte of a line comes next: the symbols begin with a newline or with no byte. -/
def AtLineEnd (symbols : List Symbol) : Prop :=
  ∀ b, (first symbols).1 = .byte b → b = Feed.newline

/-- Only newlines and symbols other than bytes stop a line. -/
theorem atLineEnd_takeLine (symbols : List Symbol) : AtLineEnd (takeLine symbols).2 := by
  fun_induction takeLine symbols with
  | case1 rest => simp [AtLineEnd, first]
  | case2 b rest hb ih => exact ih
  | case3 symbols h =>
    -- What comes next is no byte at all.
    intro b hfirst
    cases symbols with
    | nil => simp [first] at hfirst
    | cons symbol rest => exact absurd hfirst (h b rest ∘ congrArg (· :: rest))

/-- Bytes without newlines belong to the line, whatever follows. -/
theorem takeLine_map_byte_append {content : List UInt8} (h : Feed.newline ∉ content)
    (symbols : List Symbol) :
    takeLine (content.map .byte ++ symbols) =
      (content ++ (takeLine symbols).1, (takeLine symbols).2) := by
  induction content with
  | nil => rfl
  | cons b content ih =>
    have ⟨hb, hcontent⟩ : Feed.newline ≠ b ∧ Feed.newline ∉ content := by simpa using h
    rw [List.map_cons, List.cons_append, takeLine, if_neg hb.symm, ih hcontent, List.cons_append]

theorem takeLine_newline (symbols : List Symbol) :
    takeLine (.byte Feed.newline :: symbols) = ([], .byte Feed.newline :: symbols) := by
  rw [takeLine, if_pos rfl]

end Symbol

/-- What comes of reading a line when a symbol stops it. -/
def Reading.stoppedBy (line : List UInt8) : Symbol → Reading
  | .byte b => .line (line ++ [b])
  | .failure reason => .failed reason
  | .ending => .atEnd line

/-- A line is read from a feed as it is taken from its symbols: up to the symbol that stops it,
which is used up. -/
theorem Feed.readFrom_eq_takeLine (taken : List UInt8) (feed : Feed) :
    (readFrom taken feed).1 =
        .stoppedBy (taken ++ (Symbol.takeLine feed.symbols).1)
          (Symbol.first (Symbol.takeLine feed.symbols).2).1 ∧
      (readFrom taken feed).2.symbols = (Symbol.first (Symbol.takeLine feed.symbols).2).2 := by
  fun_induction readFrom taken feed with
  | case1 taken => simp [symbols, Symbol.takeLine, Symbol.first, Reading.stoppedBy]
  | case2 taken rest => simp [symbols, Symbol.takeLine, Symbol.first, Reading.stoppedBy]
  | case3 taken rest ih => exact ih
  | case4 taken reason rest =>
    simp [symbols, Symbol.takeLine, Symbol.first, Reading.stoppedBy]
  | case5 taken content rest h ih =>
    -- There is no newline in the delivery: all of it belongs to the line, which goes on.
    have hnewline : newline ∉ content := by
      intro hmem
      simpa using List.dropWhile_eq_nil_iff.1 h newline hmem
    rw [symbols, Symbol.takeLine_map_byte_append hnewline, ← List.append_assoc]
    exact ih
  | case6 taken content rest mark later h =>
    -- The line ends at the first newline of the delivery; what follows it stays to be read.
    obtain rfl : mark = newline := by
      have hhead := List.head?_dropWhile_not (· ≠ newline) content
      rw [h] at hhead
      simpa using hhead
    have hbefore : newline ∉ content.takeWhile (· ≠ newline) := fun hmem => by
      simpa using List.mem_takeWhile_imp hmem
    have hcontent : content = content.takeWhile (· ≠ newline) ++ newline :: later := by
      rw [← h, List.takeWhile_append_dropWhile]
    have hsymbols : symbols (.bytes content :: rest) =
        (content.takeWhile (· ≠ newline)).map .byte ++
          .byte newline :: symbols (.bytes later :: rest) := by
      conv_lhs => rw [symbols, hcontent]
      simp [symbols]
    rw [hsymbols, Symbol.takeLine_map_byte_append hbefore, Symbol.takeLine_newline]
    simp [Symbol.first, Reading.stoppedBy]

/-! ## Readers -/

/-- Something that hands out the lines of a program, whose state is a `σ`. -/
structure LineReader (σ : Type) where
  /-- The next line, or nothing at the end, and the state behind it. -/
  next : σ → Except SourceError (Option SourceLine) × σ
  /-- Lets go of what is left to read. -/
  close : σ → σ
  /-- Whether there is nothing left to let go of. -/
  isClosed : σ → Bool
  /-- How many lines have been handed out. -/
  count : σ → Nat

/-- A request to a reader. -/
inductive LineReader.Request where
  /-- Hand out the next line. -/
  | next
  /-- Let go of what is left to read. -/
  | close
deriving DecidableEq, Repr

/-- What can be seen of a reader when it has answered a request. -/
structure LineReader.Response where
  /-- The line, or why there is none; closing has no answer. -/
  answer : Option (Except SourceError (Option SourceLine))
  /-- Whether the reader is closed. -/
  closed : Bool
  /-- How many lines have been handed out. -/
  count : Nat

namespace LineReader

variable {σ τ : Type}

/-- The answer to a request, and the state behind it. -/
def answer (r : LineReader σ) (s : σ) :
    Request → Option (Except SourceError (Option SourceLine)) × σ
  | .next => (some (r.next s).1, (r.next s).2)
  | .close => (none, r.close s)

/-- What can be seen of a reader during requests made one after the other. -/
def responses (r : LineReader σ) (s : σ) : List Request → List Response
  | [] => []
  | request :: rest =>
    let (answer, s) := r.answer s request
    { answer, closed := r.isClosed s, count := r.count s } :: r.responses s rest

/-- The state behind requests made one after the other. -/
def after (r : LineReader σ) (s : σ) (requests : List Request) : σ :=
  requests.foldl (fun s request => (r.answer s request).2) s

/-- Two readers cannot be told apart if a map of their states agrees with all that they do. -/
theorem responses_map {r : LineReader σ} {r' : LineReader τ} (f : σ → τ)
    (hnext : ∀ s, r'.next (f s) = ((r.next s).1, f (r.next s).2))
    (hclose : ∀ s, r'.close (f s) = f (r.close s))
    (hclosed : ∀ s, r'.isClosed (f s) = r.isClosed s) (hcount : ∀ s, r'.count (f s) = r.count s)
    (s : σ) (requests : List Request) : r'.responses (f s) requests = r.responses s requests := by
  -- The map goes along with each answer, so the readers stay in step.
  induction requests generalizing s with
  | nil => rfl
  | cons request rest ih =>
    have hanswer : r'.answer (f s) request =
        ((r.answer s request).1, f (r.answer s request).2) := by
      cases request with
      | next => simp [answer, hnext]
      | close => simp [answer, hclose]
    simp only [responses, hanswer, hclosed, hcount, ih]

@[simp]
theorem after_cons (r : LineReader σ) (s : σ) (request : Request) (rest : List Request) :
    r.after s (request :: rest) = r.after (r.answer s request).2 rest := rfl

@[simp]
theorem after_append (r : LineReader σ) (s : σ) (requests rest : List Request) :
    r.after s (requests ++ rest) = r.after (r.after s requests) rest := by
  simp [after]

/-- Whether a reader has come to its end: it has no line to hand out, and no request changes it. -/
def Inert (r : LineReader σ) (s : σ) : Prop :=
  r.next s = (.ok none, s) ∧ r.close s = s

/-- A request leaves an inert reader as it is. -/
theorem Inert.answer_eq {r : LineReader σ} {s : σ} (h : r.Inert s) (request : Request) :
    (r.answer s request).1 ∈ [none, some (.ok none)] ∧ (r.answer s request).2 = s := by
  cases request with
  | next => simp [answer, h.1]
  | close => simp [answer, h.2]

theorem Inert.after_eq {r : LineReader σ} {s : σ} (h : r.Inert s) (requests : List Request) :
    r.after s requests = s := by
  induction requests with
  | nil => rfl
  | cons request rest ih => rw [after_cons, (h.answer_eq request).2, ih]

/-- An inert reader answers every request with nothing and keeps its count. -/
theorem Inert.of_mem_responses {r : LineReader σ} {s : σ} (h : r.Inert s) {requests : List Request}
    {response : Response} (hmem : response ∈ r.responses s requests) :
    response.answer ∈ [none, some (.ok none)] ∧ response.closed = r.isClosed s ∧
      response.count = r.count s := by
  -- The state does not move, so what is seen behind the first request is seen behind them all.
  induction requests with
  | nil => simp [responses] at hmem
  | cons request rest ih =>
    obtain ⟨hanswer, hstate⟩ := h.answer_eq request
    simp only [responses, hstate] at hmem
    rcases List.mem_cons.1 hmem with rfl | hrest
    · exact ⟨hanswer, rfl, rfl⟩
    · exact ih hrest

end LineReader

/-- Sources hand out the lines of their feeds. -/
def Source.reader : LineReader Source where
  next := Source.next
  close := Source.close
  isClosed := Source.isClosed
  count := Source.count

/-! ## The automaton -/

/-- A state of the automaton that reads lines off symbols. -/
structure Automaton where
  /-- The symbols that are left; a closed automaton has let go of them. -/
  left : Option (List Symbol)
  /-- How many lines have been handed out. -/
  count : Nat
deriving DecidableEq, Repr

namespace Automaton

/-- An open automaton that has read nothing. -/
def ofSymbols (symbols : List Symbol) : Automaton :=
  { left := some symbols, count := 0 }

/-- The automaton without its symbols. -/
def close (a : Automaton) : Automaton :=
  { a with left := none }

/-- The next line, or nothing at the end. A newline ends a line, and so does an end of input behind
a byte at least; an end of input at the beginning of a line closes. A failure loses the bytes before
it and counts no line. -/
def next (a : Automaton) : Except SourceError (Option SourceLine) × Automaton :=
  match a.left with
  | none => (.ok none, a)
  | some symbols =>
    let (content, rest) := Symbol.takeLine symbols
    let line : SourceLine :=
      { number := a.count + 1, text := String.ofList (trim (Utf8.decode content)) }
    match Symbol.first rest with
    | (.byte _, later) => (.ok (some line), { left := some later, count := a.count + 1 })
    | (.failure reason, later) =>
      (.error (.unread (a.count + 1) reason), { a with left := some later })
    | (.ending, later) =>
      if content = [] then (.ok none, a.close)
      else (.ok (some line), { left := some later, count := a.count + 1 })

/-- Automata hand out the lines of their symbols. -/
def reader : LineReader Automaton where
  next := next
  close := close
  isClosed := fun a => a.left.isNone
  count := count

end Automaton

/-- What is left of a source, as the automaton sees it. -/
def Source.automaton (s : Source) : Automaton :=
  { left := s.feed.map Feed.symbols, count := s.count }

namespace Source

/-- An open source answers with what it takes from its feed. -/
theorem next_of_feed {s : Source} {feed : Feed} (h : s.feed = some feed) :
    s.next =
      match (feed.readFrom []).1 with
      | .line content =>
        (.ok (some { number := s.count + 1, text := lineText content }),
          { feed := some (feed.readFrom []).2, count := s.count + 1 })
      | .ended => (.ok none, s.close)
      | .failed reason =>
        (.error (.unread (s.count + 1) reason), { s with feed := some (feed.readFrom []).2 }) := by
  rw [next, h]
  simp only [Feed.readLine]
  generalize feed.readFrom [] = taken
  obtain ⟨reading, rest⟩ := taken
  cases reading <;> rfl

/-- A source answers as the automaton does, and leaves to read what the automaton leaves. -/
theorem automaton_next (s : Source) : s.automaton.next = (s.next.1, s.next.2.automaton) := by
  cases hfeed : s.feed with
  | none => simp [automaton, Automaton.next, next, hfeed]
  | some feed =>
    obtain ⟨hreading, hleft⟩ := Feed.readFrom_eq_takeLine [] feed
    have hend := Symbol.atLineEnd_takeLine feed.symbols
    rw [List.nil_append] at hreading
    -- What stops the line decides between a counted line, a failure and the end.
    rw [next_of_feed hfeed, hreading]
    simp only [automaton, hfeed, Option.map_some, Automaton.next]
    generalize Symbol.takeLine feed.symbols = taken at *
    obtain ⟨content, rest⟩ := taken
    cases hfirst : Symbol.first rest with
    | mk symbol later =>
    rw [hfirst] at hleft
    cases symbol with
    | byte b =>
      obtain rfl : b = Feed.newline := hend b (by rw [hfirst])
      simp only [Reading.stoppedBy, lineText_append_newline, Option.map_some, hleft]
      rfl
    | failure reason => simp only [Reading.stoppedBy, Option.map_some, hleft]
    | ending =>
      by_cases hnil : content = []
      · simp only [Reading.stoppedBy, Reading.atEnd, hnil, if_true]
        rfl
      · simp only [Reading.stoppedBy, Reading.atEnd, hnil, if_false, Option.map_some, hleft]
        rfl

theorem inert_of_isClosed {s : Source} (h : s.isClosed = true) : reader.Inert s := by
  refine ⟨next_of_isClosed h, ?_⟩
  have hfeed : s.feed = none := by simpa [isClosed] using h
  obtain ⟨feed, count⟩ := s
  subst hfeed
  rfl

/-- A source that was told to close is closed from then on. -/
theorem isClosed_after_of_mem {requests : List LineReader.Request} (h : .close ∈ requests)
    (s : Source) : (reader.after s requests).isClosed = true := by
  obtain ⟨earlier, later, rfl⟩ := List.append_of_mem h
  -- From the request to close on, the source is inert.
  have hinert : reader.Inert (reader.after s earlier).close := inert_of_isClosed (isClosed_close _)
  rw [LineReader.after_append, LineReader.after_cons]
  change (reader.after (reader.after s earlier).close later).isClosed = true
  rw [hinert.after_eq, isClosed_close]

/-- A source cannot be told apart from the automaton over the symbols of its feed. -/
theorem responses_automaton (s : Source) (requests : List LineReader.Request) :
    Automaton.reader.responses s.automaton requests = reader.responses s requests := by
  apply LineReader.responses_map automaton automaton_next
  · intro s
    rfl
  · intro s
    simp [reader, Automaton.reader, automaton, isClosed]
  · intro s
    rfl

/-- For every feed and every sequence of requests, a source answers as the automaton over the
symbols of the feed, so that feeds with the same symbols cannot be told apart. Once a source is
closed, by itself or because it was told to, it hands out no line, counts no line, and stays
closed. -/
theorem responses_eq_automaton (feed : Feed) (requests : List LineReader.Request) :
    reader.responses (ofFeed feed) requests =
        Automaton.reader.responses (Automaton.ofSymbols feed.symbols) requests ∧
      (∀ feed' : Feed, feed'.symbols = feed.symbols →
        reader.responses (ofFeed feed') requests = reader.responses (ofFeed feed) requests) ∧
      ((reader.after (ofFeed feed) requests).isClosed = true ∨ .close ∈ requests →
        ∀ later, ∀ response ∈ reader.responses (reader.after (ofFeed feed) requests) later,
          response.answer ∈ [none, some (.ok none)] ∧ response.closed = true ∧
            response.count = (reader.after (ofFeed feed) requests).count) := by
  refine ⟨(responses_automaton (ofFeed feed) requests).symm, ?_, ?_⟩
  · intro feed' h
    rw [← responses_automaton, ← responses_automaton, automaton, automaton, ofFeed, ofFeed,
      Option.map_some, Option.map_some, h]
  · intro h later response hmem
    have hclosed : (reader.after (ofFeed feed) requests).isClosed = true :=
      h.elim id fun hclose => isClosed_after_of_mem hclose _
    have hinert := inert_of_isClosed hclosed
    obtain ⟨hanswer, hresponse, hcount⟩ := hinert.of_mem_responses hmem
    exact ⟨hanswer, hresponse.trans hclosed, hcount⟩

end Source

end Stackline
