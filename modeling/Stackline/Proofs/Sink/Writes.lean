import Stackline.Sink

/-!
# Short writes

What is printed at once may reach a sink in several buffers, and a buffer in several writes. Each
write gets in some bytes of what is left of the buffer, and the next write offers the others, until
nothing is left or nothing more gets in. A buffer that does not get in is the last one.

However the bytes are cut, the sink takes what it takes in one write (`takesBuffers_iff`).
-/

namespace Stackline.Sink

/-- Two writes are one if the first of them succeeds. -/
theorem write_append_of_fits {sink : Sink} {first : List UInt8} (h : sink.Fits first.length)
    (rest : List UInt8) :
    sink.write (first ++ rest) =
      ({ accepted := first ++ ((sink.shrink first.length).write rest).1.accepted
         error := ((sink.shrink first.length).write rest).1.error },
        ((sink.shrink first.length).write rest).2) := by
  obtain ⟨room, writeError, flushError, flushes⟩ := sink
  cases room with
  | none => simp [write, Fits, shrink, List.take_of_length_le]
  | some room =>
    have hle : first.length ≤ room := h room rfl
    have hfits : first.length + rest.length ≤ room ↔ rest.length ≤ room - first.length := by omega
    simp [write, Fits, shrink, fullReason, List.take_append, List.take_of_length_le hle, hfits]
    omega

/-- What fits gets in. -/
theorem write_of_fits {sink : Sink} {content : List UInt8} (h : sink.Fits content.length) :
    sink.write content =
      ({ accepted := content, error := none }, sink.shrink content.length) := by
  have hwrite := write_append_of_fits h []
  rwa [List.append_nil, write_nil, List.append_nil] at hwrite

/-- Behind a write that fails, nothing gets in. -/
theorem write_append_of_not_fits {sink : Sink} {first : List UInt8} (h : ¬ sink.Fits first.length)
    (rest : List UInt8) : sink.write (first ++ rest) = sink.write first := by
  obtain ⟨room, writeError, flushError, flushes⟩ := sink
  cases room with
  | none => exact absurd nofun h
  | some room =>
    have hlt : room < first.length := by simpa [Fits] using h
    have hlt' : room < first.length + rest.length := by omega
    simp [write, Fits, shrink, fullReason, List.take_append_of_le_length (Nat.le_of_lt hlt),
      Nat.not_le.2 hlt, Nat.not_le.2 hlt']

/-- A buffer is written to a sink, write by write. -/
inductive TakesBuffer : Sink → List UInt8 → Receipt → Sink → Prop where
  /-- Nothing is left to write. -/
  | nothing (sink : Sink) : TakesBuffer sink [] { accepted := [], error := none } sink
  /-- A write gets in some of the bytes, and the others are left. -/
  | part {sink last : Sink} {first rest : List UInt8} {receipt : Receipt} :
      first ≠ [] → sink.Fits first.length →
      TakesBuffer (sink.shrink first.length) rest receipt last →
      TakesBuffer sink (first ++ rest) { receipt with accepted := first ++ receipt.accepted } last
  /-- A write gets nothing in. -/
  | full {sink : Sink} {content : List UInt8} : content ≠ [] → sink.room = some 0 →
      TakesBuffer sink content { accepted := [], error := some sink.fullReason } sink

/-- Buffers are written to a sink, up to the first one that does not get in. -/
inductive TakesBuffers : Sink → List (List UInt8) → Receipt → Sink → Prop where
  /-- No buffer is left. -/
  | nothing (sink : Sink) : TakesBuffers sink [] { accepted := [], error := none } sink
  /-- A buffer gets in, and the others are left. -/
  | next {sink middle last : Sink} {buffer : List UInt8} {rest : List (List UInt8)}
      {accepted : List UInt8} {receipt : Receipt} :
      TakesBuffer sink buffer { accepted, error := none } middle →
      TakesBuffers middle rest receipt last →
      TakesBuffers sink (buffer :: rest)
        { receipt with accepted := accepted ++ receipt.accepted } last
  /-- A buffer does not get in. -/
  | failed {sink last : Sink} {buffer accepted : List UInt8} {rest : List (List UInt8)}
      {reason : String} :
      TakesBuffer sink buffer { accepted, error := some reason } last →
      TakesBuffers sink (buffer :: rest) { accepted, error := some reason } last

/-- However many writes a buffer takes, it gets in as in one write. -/
theorem TakesBuffer.eq_write {sink last : Sink} {content : List UInt8} {receipt : Receipt}
    (h : sink.TakesBuffer content receipt last) : (receipt, last) = sink.write content := by
  induction h with
  | nothing sink => rw [write_nil]
  | part _ hfits _ ih => rw [write_append_of_fits hfits, ← ih]
  | @full sink content hne hroom =>
    obtain ⟨room, writeError, flushError, flushes⟩ := sink
    subst hroom
    simp [write, Fits, shrink, fullReason, hne]

/-- Every buffer can be written: a write for what fits, and one that gets nothing in. -/
theorem exists_takesBuffer (sink : Sink) (content : List UInt8) :
    ∃ receipt last, sink.TakesBuffer content receipt last := by
  by_cases hnil : content = []
  · subst hnil
    exact ⟨_, _, .nothing sink⟩
  by_cases hfits : sink.Fits content.length
  · have htakes := TakesBuffer.part hnil hfits (.nothing _)
    rw [List.append_nil] at htakes
    exact ⟨_, _, htakes⟩
  · cases hroom : sink.room with
    | none => simp [Fits, hroom] at hfits
    | some room =>
      have hlt : room < content.length := by simpa [Fits, hroom] using hfits
      by_cases hzero : room = 0
      · exact ⟨_, _, .full hnil (hzero ▸ hroom)⟩
      · have hlength : (content.take room).length = room := List.length_take_of_le (by omega)
        have hpart : content.take room ≠ [] := List.ne_nil_of_length_pos (by omega)
        have hrest : content.drop room ≠ [] := List.ne_nil_of_length_pos (by simp; omega)
        have htakes := @TakesBuffer.part sink _ _ _ _ hpart (by simp [Fits, hroom, hlength])
          (.full hrest (by simp [shrink, hroom, hlength]))
        rw [List.take_append_drop] at htakes
        exact ⟨_, _, htakes⟩

/-- However buffers are cut into writes and bytes into buffers, the sink takes what it takes of the
same bytes in one write. -/
theorem TakesBuffers.eq_write {sink last : Sink} {buffers : List (List UInt8)} {receipt : Receipt}
    (h : sink.TakesBuffers buffers receipt last) :
    (receipt, last) = sink.write buffers.flatten := by
  induction h with
  | nothing sink => rw [List.flatten_nil, write_nil]
  | @next sink middle last buffer rest accepted receipt hbuffer _ ih =>
    have hwrite := hbuffer.eq_write
    have hfits : sink.Fits buffer.length := by
      have herror := congrArg (·.1.error) hwrite
      simpa [write] using herror
    rw [write_of_fits hfits] at hwrite
    obtain ⟨⟨rfl, -⟩, rfl⟩ := by simpa using hwrite
    rw [List.flatten_cons, write_append_of_fits hfits, ← ih]
  | @failed sink last buffer accepted rest reason hbuffer =>
    have hwrite := hbuffer.eq_write
    have hfits : ¬ sink.Fits buffer.length := by
      intro hfits
      have herror := congrArg (·.1.error) hwrite
      simp [write, hfits] at herror
    rw [List.flatten_cons, write_append_of_not_fits hfits, hwrite]

theorem exists_takesBuffers (sink : Sink) (buffers : List (List UInt8)) :
    ∃ receipt last, sink.TakesBuffers buffers receipt last := by
  induction buffers generalizing sink with
  | nil => exact ⟨_, _, .nothing sink⟩
  | cons buffer rest ih =>
    obtain ⟨⟨accepted, error⟩, middle, hbuffer⟩ := exists_takesBuffer sink buffer
    cases error with
    | none =>
      obtain ⟨receipt, last, hrest⟩ := ih middle
      exact ⟨_, _, .next hbuffer hrest⟩
    | some reason => exact ⟨_, _, .failed hbuffer⟩

/-- Buffers are written as their bytes are in one write, and can always be written. -/
theorem takesBuffers_iff {sink last : Sink} {buffers : List (List UInt8)} {receipt : Receipt} :
    sink.TakesBuffers buffers receipt last ↔ (receipt, last) = sink.write buffers.flatten := by
  refine ⟨TakesBuffers.eq_write, fun h => ?_⟩
  obtain ⟨receipt', last', htakes⟩ := exists_takesBuffers sink buffers
  obtain ⟨rfl, rfl⟩ := Prod.mk.inj (h.trans htakes.eq_write.symm)
  exact htakes

end Stackline.Sink
