import Stackline.Source.Feed
import Stackline.Text.Numeral
import Stackline.Text.Utf8
import Stackline.Text.Words

/-!
# Sources

A source hands out the lines of a program one at a time, trimmed and numbered from one. It closes at
the end of its input or when it is told to, and stays closed. A failed read closes nothing and
counts no line. Main statement: a source has less left after every answer but the last one
(`weight_next_lt`).
-/

namespace Stackline

open Text

/-- A line of a program. -/
structure SourceLine where
  /-- The number of the line; the first one has number one. -/
  number : Nat
  /-- The text of the line, without the blanks at its ends. -/
  text : String
deriving DecidableEq, Repr

/-- What can go wrong with a source. -/
inductive SourceError where
  /-- The file could not be opened. -/
  | unopened (path : String)
  /-- A line could not be read. -/
  | unread (line : Nat) (reason : String)
deriving DecidableEq, Repr

/-- The diagnostic of a source error. -/
def SourceError.message : SourceError → String
  | unopened path => "Error: Can't open file " ++ path
  | unread line reason =>
    "Error: Can't read line " ++ String.ofList (Numeral.natural line) ++ ": " ++ reason

/-- A program that is read line by line. -/
structure Source where
  /-- What is left to read; a closed source has let go of it. -/
  feed : Option Feed
  /-- How many lines have been handed out. -/
  count : Nat
deriving DecidableEq, Repr

namespace Source

/-- An open source of which nothing has been read. -/
def ofFeed (feed : Feed) : Source :=
  { feed := some feed, count := 0 }

/-- Whether the source has let go of its input. -/
def isClosed (s : Source) : Bool :=
  s.feed.isNone

/-- The source without its input. -/
def close (s : Source) : Source :=
  { s with feed := none }

/-- The text of a line, from its bytes. -/
def lineText (content : List UInt8) : String :=
  String.ofList (trim (Utf8.decode content))

/-- The next line, or nothing at the end of the input, where the source closes. -/
def next (s : Source) : Except SourceError (Option SourceLine) × Source :=
  match s.feed with
  | none => (.ok none, s)
  | some feed =>
    match feed.readLine with
    | (.line content, rest) =>
      (.ok (some { number := s.count + 1, text := lineText content }),
        { feed := some rest, count := s.count + 1 })
    | (.ended, _) => (.ok none, s.close)
    | (.failed reason, rest) =>
      (.error (.unread (s.count + 1) reason), { s with feed := some rest })

/-- A bound on how many answers a source has left. -/
def weight (s : Source) : Nat :=
  s.feed.elim 0 Feed.weight

@[simp]
theorem isClosed_close (s : Source) : s.close.isClosed = true := rfl

@[simp]
theorem count_close (s : Source) : s.close.count = s.count := rfl

@[simp]
theorem isClosed_ofFeed (feed : Feed) : (ofFeed feed).isClosed = false := rfl

/-- A closed source stays as it is and has nothing to hand out. -/
theorem next_of_isClosed {s : Source} (h : s.isClosed = true) : s.next = (.ok none, s) := by
  have : s.feed = none := by simpa [isClosed] using h
  simp [next, this]

/-- A source that answers with nothing is closed from then on. -/
theorem isClosed_of_next_eq_none {s : Source} (h : s.next.1 = .ok none) :
    s.next.2.isClosed = true := by
  revert h
  rw [next]
  split
  next hf => simp [isClosed, hf]
  next => split <;> simp

/-- Every answer but the last one leaves less to read. -/
theorem weight_next_lt {s : Source} (h : s.next.1 ≠ .ok none) : s.next.2.weight < s.weight := by
  revert h
  rw [next]
  split
  next => simp
  next feed hf =>
    have hne : feed.readLine.1 ≠ .ended → feed.readLine.2.weight < feed.weight := fun hr =>
      Feed.weight_readLine_lt (by rintro rfl; simp at hr)
    -- An ended feed is excluded by the hypothesis; every other reading lowers the weight.
    split <;> rename_i hr <;> rw [hr] at hne <;> simp_all [weight]

/-- The answers of a source until it is closed, each with the source behind it. -/
def drain (s : Source) : List (Except SourceError (Option SourceLine) × Source) :=
  if h : s.next.2.isClosed = true then [s.next]
  else
    have := weight_next_lt fun hn => h (isClosed_of_next_eq_none hn)
    s.next :: s.next.2.drain
termination_by s.weight

end Source

end Stackline
