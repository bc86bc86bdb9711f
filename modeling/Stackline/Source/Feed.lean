/-!
# Feeds

A feed is what a reader will be given, delivery by delivery: bytes, failures, interruptions and
pauses. `readLine` takes one line from it. Main statement: reading from a feed that is not empty
leaves less of it (`weight_readLine_lt`), so reading line by line ends.
-/

namespace Stackline

/-- One thing that a reader is given. -/
inductive Delivery where
  /-- Bytes that are there at once. -/
  | bytes (content : List UInt8)
  /-- The attempt to read fails. -/
  | failure (reason : String)
  /-- The attempt to read is cut short and made again. -/
  | interruption
  /-- There are no bytes for now. -/
  | pause
deriving DecidableEq, Repr

/-- What a reader is given, in order. After the last delivery there are no bytes for good. -/
abbrev Feed := List Delivery

/-- What came of reading a line. -/
inductive Reading where
  /-- The bytes of a line, with the newline unless the input ended before one. -/
  | line (content : List UInt8)
  /-- The input ended where a line would begin. -/
  | ended
  /-- Reading failed. -/
  | failed (reason : String)
deriving DecidableEq, Repr

/-- What an end of input makes of the bytes that were taken before it. -/
def Reading.atEnd (taken : List UInt8) : Reading :=
  if taken = [] then .ended else .line taken

namespace Feed

/-- The byte that ends a line. -/
def newline : UInt8 := 0x0A

/-- Goes on with a line of which some bytes are taken. A failure loses those bytes. -/
def readFrom (taken : List UInt8) : Feed → Reading × Feed
  | [] => (Reading.atEnd taken, [])
  -- No bytes for now look like the end, but the next read goes on behind them.
  | .pause :: rest => (Reading.atEnd taken, rest)
  | .interruption :: rest => readFrom taken rest
  | .failure reason :: rest => (.failed reason, rest)
  | .bytes content :: rest =>
    match content.dropWhile (· ≠ newline) with
    | [] => readFrom (taken ++ content) rest
    | mark :: later =>
      (.line (taken ++ content.takeWhile (· ≠ newline) ++ [mark]), .bytes later :: rest)

/-- Takes a line from a feed: what came of it and what is left. -/
def readLine (feed : Feed) : Reading × Feed :=
  readFrom [] feed

/-- A bound on how often a feed can be read from. -/
def weight : Feed → Nat
  | [] => 0
  | .bytes content :: rest => content.length + 1 + weight rest
  | _ :: rest => 1 + weight rest

@[simp]
theorem weight_nil : weight [] = 0 := rfl

@[simp]
theorem weight_bytes_cons (content : List UInt8) (rest : Feed) :
    weight (.bytes content :: rest) = content.length + 1 + weight rest := rfl

@[simp]
theorem weight_failure_cons (reason : String) (rest : Feed) :
    weight (.failure reason :: rest) = 1 + weight rest := rfl

@[simp]
theorem weight_interruption_cons (rest : Feed) :
    weight (.interruption :: rest) = 1 + weight rest := rfl

@[simp]
theorem weight_pause_cons (rest : Feed) : weight (.pause :: rest) = 1 + weight rest := rfl

@[simp]
theorem readLine_nil : readLine [] = (.ended, []) := rfl

theorem length_dropWhile_le (p : UInt8 → Bool) (bs : List UInt8) :
    (bs.dropWhile p).length ≤ bs.length :=
  (List.dropWhile_suffix p).length_le

/-- Reading never leaves more than there was. -/
theorem weight_readFrom_le (taken : List UInt8) (feed : Feed) :
    (readFrom taken feed).2.weight ≤ feed.weight := by
  fun_induction readFrom taken feed with
  | case1 => simp
  | case2 => simp
  | case3 taken rest ih => simp; omega
  | case4 => simp
  | case5 taken content rest h ih => simp; omega
  | case6 taken content rest mark later h =>
    -- The newline itself is used up.
    have := length_dropWhile_le (· ≠ newline) content
    simp only [h, List.length_cons] at this
    simp; omega

/-- Reading from a feed that is not empty leaves less than there was. -/
theorem weight_readFrom_lt (taken : List UInt8) {feed : Feed} (h : feed ≠ []) :
    (readFrom taken feed).2.weight < feed.weight := by
  match feed with
  | [] => exact absurd rfl h
  | .pause :: rest => simp [readFrom]
  | .interruption :: rest =>
    have := weight_readFrom_le taken rest
    simp [readFrom]; omega
  | .failure reason :: rest => simp [readFrom]
  | .bytes content :: rest =>
    rw [readFrom]
    split
    next =>
      -- The delivery is used up, and what follows it grows no heavier.
      have := weight_readFrom_le (taken ++ content) rest
      simp; omega
    next mark later hd =>
      have := length_dropWhile_le (· ≠ newline) content
      simp only [hd, List.length_cons] at this
      simp; omega

/-- Taking a line from a feed that is not empty leaves less than there was. -/
theorem weight_readLine_lt {feed : Feed} (h : feed ≠ []) :
    feed.readLine.2.weight < feed.weight :=
  weight_readFrom_lt [] h

end Feed

end Stackline
