import Stackline.Proofs.Run.Log

/-!
# What is behind a failing line

A run looks at no more of its source than it needs. Where a line fails, it makes no difference what
is behind that line.

* `halted_run_iff` — a run of lines is halted exactly if a line fails; a flush that fails at the end
  halts nothing.
* `run_eq_of_failed_lines` — two sources that hand out the same lines up to one that fails.
* `run_followed` — ended lines alone, and with anything behind them.
-/

namespace Stackline

open Text

variable {sink : Sink} {feed feed' : Feed} {lines others others' : List SourceLine}
  {ending ending' : Except SourceError Unit} {last last' : Source}

/-- A run whose source ends without a failure is halted exactly if a line fails. -/
theorem halted_run_iff (hyields : (Source.ofFeed feed).Yields lines (.ok ()) last) :
    (run (Source.ofFeed feed) sink).engine.halted = true ↔
      ∃ cause, ((Engine.start sink).executeLines lines).result = .error cause := by
  have hreports := Engine.run_reports hyields (Engine.start sink)
  rw [run, hreports.engine]
  cases hresult : ((Engine.start sink).executeLines lines).result with
  | error cause =>
    rw [Reply.andThen_of_error hresult]
    obtain ⟨earlier, line, later, rfl, hearlier, hfails⟩ := Engine.exists_failing_line hresult
    have hbefore := Engine.continues_executeLines rfl hearlier
    refine iff_of_true ?_ ⟨cause, rfl⟩
    rw [Engine.executeLines_of_failing_line hearlier hfails, Reply.andThen_of_ok hearlier]
    exact (Engine.tornDown_of_executeLine hbefore.running hfails).halted
  | ok =>
    -- The engine that is finished has been running all the time.
    rw [Reply.andThen_of_ok hresult]
    refine iff_of_false ?_ ?_
    · rw [Bool.not_eq_true]
      exact (Engine.continues_executeLines rfl hresult).running
    · rintro ⟨cause, hcause⟩
      cases hcause

/-- Where two sources hand out the same lines first and one of these fails, the two runs are the
same in every respect. -/
theorem run_eq_of_failed_lines {cause : RunError}
    (hyields : (Source.ofFeed feed).Yields (lines ++ others) ending last)
    (hyields' : (Source.ofFeed feed').Yields (lines ++ others') ending' last')
    (hfails : ((Engine.start sink).executeLines lines).result = .error cause) :
    run (Source.ofFeed feed) sink = run (Source.ofFeed feed') sink := by
  -- The lines behind those that agree are not executed on either side.
  have hlines : ∀ more, (Engine.start sink).executeLines (lines ++ more) =
      (Engine.start sink).executeLines lines := fun more => by
    rw [Engine.executeLines_append, Reply.andThen_of_error hfails]
  obtain ⟨_, line, _, -, -, -, -, hraised, hrun⟩ :=
    run_of_failed_line hyields (by rw [hlines, hfails])
  obtain ⟨_, line', _, -, -, -, -, hraised', hrun'⟩ :=
    run_of_failed_line hyields' (by rw [hlines, hfails])
  -- The error tells the line that has failed, so it is the same on both sides.
  have hnumber : line.number = line'.number :=
    Option.some.inj (hraised.line?_eq.symm.trans hraised'.line?_eq)
  rw [hrun, hrun', hlines, hlines, hnumber]

/-- Bytes that are empty or end in a newline are run alone, and with anything behind them: bytes,
failures, interruptions and ends of input. However all this is delivered, if the run of the bytes
alone is halted, by a fault or by an output error of a line, the other run is the same: it has the
same error, the same output and the same news, the sink has been flushed as often, and the source
has been closed behind as many lines. -/
theorem run_followed {a : List UInt8} (hended : a = [] ∨ a.getLast? = some Feed.newline)
    {alone whole b : Feed} (halone : alone.symbols = Feed.symbols [.bytes a])
    (hwhole : whole.symbols = Feed.symbols (.bytes a :: b))
    (hhalted : (run (Source.ofFeed alone) sink).engine.halted = true) :
    run (Source.ofFeed whole) sink = run (Source.ofFeed alone) sink ∧
      ∃ line cause, (run (Source.ofFeed alone) sink).result = .error cause ∧
        cause.RaisedAt line := by
  have halone : alone.symbols = a.map .byte := by simpa [Feed.symbols] using halone
  have hwhole : whole.symbols =
      (ended Feed.newline (pieces Feed.newline a)).map .byte ++ b.symbols := by
    rw [ended_pieces hended, hwhole, Feed.symbols]
  obtain ⟨last, hyields⟩ := Source.yields_of_symbols halone
  obtain ⟨others, ending, last', hyields'⟩ :=
    Source.exists_yields_of_ended (fun _ => not_mem_of_mem_pieces) hwhole
  obtain ⟨cause, hfails⟩ := (halted_run_iff hyields).1 hhalted
  refine ⟨?_, ?_⟩
  · rw [← List.append_nil (SourceLine.decoded 1 (pieces Feed.newline a))] at hyields
    exact run_eq_of_failed_lines hyields' hyields hfails
  · obtain ⟨_, line, _, -, -, -, -, hraised, hrun⟩ := run_of_failed_line hyields hfails
    rw [hrun]
    exact ⟨line.number, cause, rfl, hraised⟩

/-- A pop that finds nothing on the stack, at the fourth line: behind it, there is the beginning of
a character and a read that fails. One of the deliveries parts the second line, and another one
holds bytes of the program and bytes behind it. -/
theorem run_followed_pop :
    let a := Utf8.encode "push 1\npint\npop\npop\n".toList
    let b : Feed := [.bytes [0xE2], .failure "gone"]
    let whole : Feed :=
      [.bytes (a.take 9), .interruption, .bytes (a.drop 9 ++ [0xE2]), .failure "gone"]
    a.getLast? = some Feed.newline ∧ whole.symbols = Feed.symbols (.bytes a :: b) ∧
    (run (Source.ofFeed [.bytes a]) {}).engine.halted = true ∧
    run (Source.ofFeed whole) {} = run (Source.ofFeed [.bytes a]) {} := by
  intro a b whole
  have hended : a.getLast? = some Feed.newline := by decide
  have hwhole : whole.symbols = Feed.symbols (.bytes a :: b) := by decide
  have hhalted : (run (Source.ofFeed [.bytes a]) {}).engine.halted = true := by
    obtain ⟨last, hyields⟩ := @Source.yields_of_symbols [.bytes a] a (by decide)
    exact (halted_run_iff hyields).2 ⟨.fault (Fault.popEmpty.at 4), by rfl⟩
  exact ⟨hended, hwhole, hhalted, (run_followed (.inr hended) rfl hwhole hhalted).1⟩

end Stackline
