import Stackline.Proofs.Engine.Lines
import Stackline.Proofs.Run.Lines

/-!
# Runs with little room

A run on a sink with room for so many bytes is compared with the run of the same program on the same
sink without a limit.

* `Engine.executeLines_withRoom_of_fits` — lines whose output fits.
* `Engine.exists_cutLines` — lines whose output does not fit, and the line at which it stops
  fitting.
* `limited_eq_take` — for calls and for runs: a limit that is not exceeded makes no difference, and
  one that is exceeded cuts the output there, at the instruction that prints the byte behind it.
-/

namespace Stackline

/-- The room of the sinks has no part in the errors. -/
theorem firstError?_map_withRoom (room : Option Nat) (replies : List Reply) :
    firstError? (replies.map (·.withRoom room)) = firstError? replies := by
  rw [firstError?, List.findSome?_map]
  rfl

/-- A call that goes along with a change of the room does so behind another one. -/
theorem Reply.andThen_withRoom {reply : Reply} {next : Engine → Reply} {room : Option Nat}
    (h : ∀ engine, next (engine.withRoom room) = (next engine).withRoom room) :
    (reply.withRoom room).andThen next = (reply.andThen next).withRoom room := by
  rw [withRoom, withRoom, ← disguised_id, ← disguised_id]
  exact andThen_disguised fun engine => (h engine).trans (disguised_id _ _).symm

namespace Engine

variable {engine : Engine} {limit : Nat}

/-! ## Lines -/

/-- Lines whose output fits are executed as without a limit. -/
theorem executeLines_withRoom_of_fits (hroom : engine.sink.room = none) {lines : List SourceLine}
    (h : (engine.executeLines lines).output.length ≤ limit) :
    (engine.withRoom (some limit)).executeLines lines =
      (engine.executeLines lines).withRoom
        (some (limit - (engine.executeLines lines).output.length)) := by
  rw [executeLines_eq_answers] at h
  obtain ⟨hanswers, hafter⟩ := answers_withRoom_of_fits hroom h
  rw [executeLines_eq_answers, executeLines_eq_answers, hafter, printed, printed, ← hanswers,
    firstError?_map_withRoom, List.flatMap_map, List.flatMap_map]
  rfl

/-- Lines whose output does not fit, and the line at which it stops fitting. -/
structure CutLines (engine : Engine) (limit : Nat) (earlier : List SourceLine) (line : SourceLine)
    (later : List SourceLine) : Prop where
  /-- The lines before it succeed. -/
  succeed : (engine.executeLines earlier).result = .ok ()
  /-- They do so with the limit, too. -/
  succeed_limited : ((engine.withRoom (some limit)).executeLines earlier).result = .ok ()
  /-- What they print fits. -/
  fits : (engine.executeLines earlier).output.length ≤ limit
  /-- What is printed up to the line does not. -/
  overflows : limit < (engine.executeLines (earlier ++ [line])).output.length
  /-- The line fails for the reason that the sink gives. -/
  result : ((engine.withRoom (some limit)).executeLines (earlier ++ line :: later)).result =
    .error (.output line.number engine.sink.fullReason)
  /-- What is printed is what fits. -/
  output : ((engine.withRoom (some limit)).executeLines (earlier ++ line :: later)).output =
    (engine.executeLines (earlier ++ line :: later)).output.take limit
  /-- The engine is taken down as for every error. -/
  tornDown : (engine.withRoom (some limit)).TornDown
    ((engine.withRoom (some limit)).executeLines (earlier ++ line :: later)).engine

/-- Lines whose output does not fit are cut at the line at which it stops fitting. -/
theorem exists_cutLines (hroom : engine.sink.room = none) (hrunning : engine.halted = false)
    {lines : List SourceLine} (h : limit < (engine.executeLines lines).output.length) :
    ∃ earlier line later, lines = earlier ++ line :: later ∧
      engine.CutLines limit earlier line later := by
  rw [executeLines_eq_answers] at h
  -- The requests are those for the lines, so where they are cut, the lines are cut.
  obtain ⟨_, _, _, hcalls, hcut⟩ := exists_cut hroom hrunning h
  obtain ⟨earlier, _, rfl, rfl, hrest⟩ := List.map_eq_append_iff.1 hcalls
  obtain ⟨line, later, rfl, rfl, rfl⟩ := List.map_eq_cons_iff.1 hrest
  have hsucceed' : ∀ reply ∈ (engine.withRoom (some limit)).answers (earlier.map SourceLine.call),
      reply.result = .ok () := by
    rw [← firstError?_eq_none_iff, ← firstError?_map_withRoom none, hcut.answers,
      firstError?_eq_none_iff]
    exact hcut.succeed
  refine ⟨earlier, line, later, rfl, ?_⟩
  exact
    { succeed := executeLines_eq_ok_iff.2 hcut.succeed
      succeed_limited := executeLines_eq_ok_iff.2 hsucceed'
      fits := by
        rw [executeLines_eq_answers]
        exact hcut.fits
      overflows := by
        rw [executeLines_eq_answers, List.map_append]
        exact hcut.overflows
      result := by
        rw [executeLines_eq_error_iff, List.map_append, answers_append,
          firstError?_append_of_succeed hsucceed', List.map_cons, answers]
        exact firstError?_cons_of_error hcut.result _
      output := by
        rw [executeLines_eq_answers, executeLines_eq_answers, List.map_append, List.map_cons]
        exact hcut.output
      tornDown := by
        rw [executeLines_eq_answers, List.map_append, List.map_cons]
        exact hcut.tornDown }

/-! ## Runs -/

/-- Nothing is printed behind the last line. -/
theorem output_conclude (engine : Engine) (ending : Except SourceError Unit) :
    (engine.conclude ending).output = [] := by
  cases ending <;> rfl

theorem conclude_withRoom (engine : Engine) (room : Option Nat)
    (ending : Except SourceError Unit) :
    (engine.withRoom room).conclude ending = (engine.conclude ending).withRoom room := by
  cases ending with
  | ok => rfl
  | error cause => exact engine.stop_withRoom room _ _ _

end Engine

/-- Two sinks that differ in their room alone: one without a limit, and one with room for so many
bytes.

Calls whose whole output fits are answered alike on both. Otherwise there is a call at which the
output stops fitting. The calls before it succeed and are answered alike; with the limit, this call
fails at its own line for the reason that the sink gives, the engine is taken down, and the calls
behind it are refused. What is printed is as much of the whole output as fits.

So it is for the lines of a program that is run: the error of the run is that of the line at which
the output stops fitting, whatever would go wrong behind it.

It does not matter in which buffers the bytes reach the sink, nor how many writes a buffer takes. -/
theorem limited_eq_take (sink : Sink) (limit : Nat) :
    let unlimited := sink.withRoom none
    let limited := sink.withRoom (some limit)
    (∀ (hooked : Bool) (calls : List Call),
      let free := Engine.start unlimited hooked
      let tight := Engine.start limited hooked
      if (free.printed calls).length ≤ limit then
        (tight.answers calls).map (·.withRoom none) = free.answers calls
      else
        ∃ earlier call later, calls = earlier ++ call :: later ∧
          free.Cut limit earlier call later) ∧
    (∀ source : Source,
      let whole := run source unlimited
      let part := run source limited
      if whole.output.length ≤ limit then
        part.result = whole.result ∧ part.output = whole.output ∧
          part.engine.sink.flushes = whole.engine.sink.flushes
      else
        ∃ lines ending last earlier line later,
          source.Yields lines ending last ∧ lines = earlier ++ line :: later ∧
          (Engine.start unlimited).CutLines limit earlier line later ∧
          part.result =
            .error (.output line.number
              (sink.writeError.getD "failed to write whole buffer")) ∧
          part.output = whole.output.take limit ∧
          (Engine.start limited).TornDown part.engine) ∧
    ∀ buffers receipt last, limited.TakesBuffers buffers receipt last ↔
      (receipt, last) = limited.write buffers.flatten := by
  intro unlimited limited
  refine ⟨?_, ?_, fun _ _ _ => Sink.takesBuffers_iff⟩
  · intro hooked calls free tight
    split
    next hfits => exact (@Engine.answers_withRoom_of_fits free limit rfl calls hfits).1
    next hoverflows => exact Engine.exists_cut rfl rfl (Nat.lt_of_not_le hoverflows)
  · intro source whole part
    obtain ⟨lines, ending, last, hyields⟩ := source.exists_yields
    have hwhole : whole.Reports _ := Engine.run_reports hyields _
    have hpart : part.Reports _ := Engine.run_reports hyields _
    -- Nothing is printed behind the last line, so the output of a run is that of its lines.
    have houtput : whole.output = ((Engine.start unlimited).executeLines lines).output :=
      hwhole.output.trans (Reply.output_andThen fun engine => engine.output_conclude ending)
    split
    next hfits =>
      rw [houtput] at hfits
      have hlines := @Engine.executeLines_withRoom_of_fits (Engine.start unlimited) limit rfl
        lines hfits
      change (Engine.start limited).executeLines lines = _ at hlines
      rw [hlines, Reply.andThen_withRoom fun engine => engine.conclude_withRoom _ ending] at hpart
      refine ⟨hpart.result.trans hwhole.result.symm, hpart.output.trans hwhole.output.symm, ?_⟩
      rw [hpart.engine, hwhole.engine]
      rfl
    next hoverflows =>
      rw [houtput, Nat.not_le] at hoverflows
      obtain ⟨earlier, line, later, rfl, hcut⟩ := Engine.exists_cutLines rfl rfl hoverflows
      rw [@Reply.andThen_of_error ((Engine.start limited).executeLines _) _ _ hcut.result] at hpart
      -- The line that fails is the last call of the run.
      refine ⟨_, ending, last, earlier, line, later, hyields, rfl, hcut,
        hpart.result.trans hcut.result, ?_, ?_⟩
      · rw [houtput]
        exact hpart.output.trans hcut.output
      · rw [hpart.engine]
        exact hcut.tornDown

end Stackline
