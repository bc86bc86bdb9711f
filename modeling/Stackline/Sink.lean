/-!
# Sinks

Where the output of a run goes. A sink may take only so many bytes; a write that does not fit gets
in what fits and fails. A sink counts how often it was flushed, and flushing may fail too. Main
statement: a write succeeds exactly if every byte gets in (`error_write_eq_none_iff`).
-/

namespace Stackline

/-- A place for output. -/
structure Sink where
  /-- How many more bytes the sink takes; there is no limit if this is absent. -/
  room : Option Nat := none
  /-- Why a write fails that does not fit. -/
  writeError : Option String := none
  /-- Why flushing fails, if it does. -/
  flushError : Option String := none
  /-- How often the sink was flushed. -/
  flushes : Nat := 0
deriving DecidableEq, Repr, Inhabited

/-- What came of a write. -/
structure Receipt where
  /-- The bytes that got in. -/
  accepted : List UInt8
  /-- Why the others did not, if there were others. -/
  error : Option String
deriving DecidableEq, Repr

namespace Sink

/-- Why a write fails that does not fit. A sink that names no reason has merely taken nothing. -/
def fullReason (sink : Sink) : String :=
  sink.writeError.getD "failed to write whole buffer"

/-- Whether the sink has room for that many bytes. -/
def Fits (sink : Sink) (count : Nat) : Prop :=
  ∀ room ∈ sink.room, count ≤ room

instance (sink : Sink) (count : Nat) : Decidable (sink.Fits count) :=
  inferInstanceAs (Decidable (∀ room ∈ sink.room, count ≤ room))

/-- The sink with room for that many bytes less. -/
def shrink (sink : Sink) (count : Nat) : Sink :=
  { sink with room := sink.room.map (· - count) }

/-- Writes bytes to the sink. -/
def write (sink : Sink) (content : List UInt8) : Receipt × Sink :=
  let accepted := content.take (sink.room.getD content.length)
  ({ accepted, error := if sink.Fits content.length then none else some sink.fullReason },
    sink.shrink accepted.length)

/-- Flushes the sink: why that failed, if it did. -/
def flush (sink : Sink) : Option String × Sink :=
  (sink.flushError, { sink with flushes := sink.flushes + 1 })

/-- Writing nothing succeeds and changes nothing. -/
@[simp]
theorem write_nil (sink : Sink) : sink.write [] = ({ accepted := [], error := none }, sink) := by
  obtain ⟨room, _, _, _⟩ := sink
  cases room <;> simp [write, Fits, shrink]

/-- A write succeeds exactly if every byte gets in. -/
theorem error_write_eq_none_iff {sink : Sink} {content : List UInt8} :
    (sink.write content).1.error = none ↔ (sink.write content).1.accepted = content := by
  obtain ⟨room, _, _, _⟩ := sink
  cases room with
  | none => simp [write, Fits]
  | some room =>
    have fits_iff : content.length ≤ room ↔ content.take room = content := by
      refine ⟨List.take_of_length_le, fun h => ?_⟩
      have := congrArg List.length h
      rw [List.length_take] at this
      omega
    simp only [write, Fits, Option.mem_def, Option.some.injEq, forall_eq', Option.getD_some,
      ite_eq_left_iff, reduceCtorEq, imp_false, Decidable.not_not]
    exact fits_iff

end Sink

end Stackline
