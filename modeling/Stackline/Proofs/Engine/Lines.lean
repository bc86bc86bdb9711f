import Stackline.Proofs.Engine.Errors
import Stackline.Proofs.Engine.Room

/-!
# Lines, requests and instructions

Lines that are executed are requests that are answered, up to the first error, and what happens
meanwhile is told by the instructions on them.

* `SourceLine.call line` — the request for a line.
* `Engine.executeLines_eq_answers` — lines are executed as the requests for them are answered.
* `Engine.exists_failing_line` — the line that fails, behind lines that succeed.
* `SourceLine.instruction? line`, `Program.onLines lines` — the instructions on lines. Lines that
  succeed come to what these come to (`Engine.executeLines_eq_executeAll_onLines`).
* `Engine.events_executeLine`, `Engine.events_executeLines` — what happens when lines are executed.
-/

namespace Stackline

/-- The request for a line. -/
def SourceLine.call (line : SourceLine) : Call :=
  .line line.text line.number

/-- The instruction on a line, if the line spells one. -/
def SourceLine.instruction? (line : SourceLine) : Option Instruction :=
  match Instruction.ofLine line.text line.number with
  | .ok first => first
  | .error _ => none

/-- The instructions on lines, in order. A faulty line has none. -/
def Program.onLines (lines : List SourceLine) : Program :=
  lines.filterMap SourceLine.instruction?

@[simp]
theorem Program.onLines_append (lines rest : List SourceLine) :
    onLines (lines ++ rest) = onLines lines ++ onLines rest :=
  List.filterMap_append

theorem Program.onLines_cons (line : SourceLine) (rest : List SourceLine) :
    onLines (line :: rest) = line.instruction?.toList ++ onLines rest := by
  rw [onLines, List.filterMap_cons]
  cases line.instruction? <;> rfl

/-- The instruction on a line has the number of the line. -/
theorem SourceLine.line_of_instruction?_eq_some {line : SourceLine} {i : Instruction}
    (h : line.instruction? = some i) : i.line = line.number := by
  unfold instruction? at h
  split at h
  next hline =>
    subst h
    exact Instruction.line_of_ofLine_eq_some hline
  next => exact nomatch h

/-- Where the numbers of the lines increase, those of the instructions on them do. -/
theorem Program.pairwise_onLines {lines : List SourceLine}
    (h : lines.Pairwise (·.number < ·.number)) :
    (onLines lines).Pairwise (·.line < ·.line) := by
  refine h.filterMap _ fun first second hlt i hi j hj => ?_
  rw [SourceLine.line_of_instruction?_eq_some hi, SourceLine.line_of_instruction?_eq_some hj]
  exact hlt

namespace Engine

variable {engine : Engine} {lines : List SourceLine} {cause : RunError}

/-! ## Lines as requests -/

/-- Lines are executed as the requests for them are answered; the result is the first error. -/
theorem executeLines_eq_answers (engine : Engine) (lines : List SourceLine) :
    engine.executeLines lines =
      { result := (firstError? (engine.answers (lines.map SourceLine.call))).elim (.ok ()) .error
        output := engine.printed (lines.map SourceLine.call)
        events := (engine.answers (lines.map SourceLine.call)).flatMap (·.events)
        engine := engine.after (lines.map SourceLine.call) } := by
  induction lines generalizing engine with
  | nil => rfl
  | cons line rest ih =>
    rw [executeLines, List.map_cons, answers, printed_cons, after_cons, List.flatMap_cons]
    change (engine.answer line.call).andThen _ = _
    cases hresult : (engine.answer line.call).result with
    | error cause =>
      -- Behind the first error, nothing is done and nothing happens.
      have hhalted := halted_answer_of_error hresult
      have hevents : ((engine.answer line.call).engine.answers
          (rest.map SourceLine.call)).flatMap (·.events) = [] := by
        rw [answers_of_halted hhalted, List.flatMap_map]
        exact List.flatMap_eq_nil_iff.2 fun call _ => rfl
      rw [Reply.andThen_of_error hresult, firstError?_cons_of_error hresult,
        printed_of_halted hhalted, after_of_halted hhalted, hevents, List.append_nil,
        List.append_nil, Option.elim_some, ← hresult]
    | ok => rw [Reply.andThen_of_ok hresult, firstError?_cons_of_ok hresult, ih]

theorem executeLines_eq_ok_iff :
    (engine.executeLines lines).result = .ok () ↔
      ∀ reply ∈ engine.answers (lines.map SourceLine.call), reply.result = .ok () := by
  rw [executeLines_eq_answers, ← firstError?_eq_none_iff]
  cases firstError? (engine.answers (lines.map SourceLine.call)) <;> simp

theorem executeLines_eq_error_iff :
    (engine.executeLines lines).result = .error cause ↔
      firstError? (engine.answers (lines.map SourceLine.call)) = some cause := by
  rw [executeLines_eq_answers]
  cases firstError? (engine.answers (lines.map SourceLine.call)) <;> simp

/-- Lines that all succeed leave an engine that goes on. -/
theorem continues_executeLines (hrunning : engine.halted = false)
    (h : (engine.executeLines lines).result = .ok ()) :
    engine.Continues (engine.executeLines lines).engine := by
  rw [executeLines_eq_ok_iff] at h
  rw [executeLines_eq_answers]
  exact continues_after hrunning h

/-- Lines use the sink and do nothing else to it. -/
theorem used_executeLines (engine : Engine) (lines : List SourceLine) :
    engine.sink.Used (engine.executeLines lines).engine.sink := by
  rw [executeLines_eq_answers]
  exact engine.used_after _

/-- Lines that fail do so at a line behind lines that succeed. -/
theorem exists_failing_line (h : (engine.executeLines lines).result = .error cause) :
    ∃ earlier line later, lines = earlier ++ line :: later ∧
      (engine.executeLines earlier).result = .ok () ∧
      ((engine.executeLines earlier).engine.executeLine line.text line.number).result =
        .error cause := by
  rw [executeLines_eq_error_iff] at h
  -- The request that raises the first error is the one for the line.
  obtain ⟨_, _, _, hcalls, hearlier, hfails⟩ := exists_first_error h
  obtain ⟨earlier, _, rfl, rfl, hrest⟩ := List.map_eq_append_iff.1 hcalls
  obtain ⟨line, later, rfl, rfl, rfl⟩ := List.map_eq_cons_iff.1 hrest
  refine ⟨earlier, line, later, rfl, executeLines_eq_ok_iff.2 hearlier, ?_⟩
  rw [executeLines_eq_answers]
  exact hfails

/-- Lines that succeed come to what the instructions on them come to. -/
theorem executeLines_eq_executeAll_onLines (hrunning : engine.halted = false)
    (h : (engine.executeLines lines).result = .ok ()) :
    engine.executeLines lines = engine.executeAll (Program.onLines lines) := by
  induction lines generalizing engine with
  | nil => rfl
  | cons line rest ih =>
    rw [executeLines] at h ⊢
    obtain ⟨hfirst, hrest⟩ := Reply.andThen_eq_ok h
    have hbehind := (continues_executeLine hfirst).running
    rw [@Reply.andThen_congr _ _ (executeAll · (Program.onLines rest)) fun _ => ih hbehind hrest,
      Program.onLines_cons]
    cases hline : Instruction.ofLine line.text line.number with
    | error cause =>
      simp [executeLine_of_error hrunning hline, stop] at hfirst
    | ok first =>
      have hinstruction : line.instruction? = first := by rw [SourceLine.instruction?, hline]
      rw [hinstruction]
      cases first with
      | none =>
        rw [executeLine_of_none hrunning hline]
        exact idle_andThen engine _
      | some i =>
        rw [executeLine_of_some hrunning hline]
        rfl

/-- Behind lines that succeed, a line that fails is the last one to be executed. -/
theorem executeLines_of_failing_line {earlier : List SourceLine} {line : SourceLine}
    (hearlier : (engine.executeLines earlier).result = .ok ())
    (hfails : ((engine.executeLines earlier).engine.executeLine line.text line.number).result =
      .error cause) (later : List SourceLine) :
    engine.executeLines (earlier ++ line :: later) =
      (engine.executeLines earlier).andThen (·.executeLine line.text line.number) := by
  rw [executeLines_append, Reply.andThen_of_ok hearlier, Reply.andThen_of_ok hearlier,
    executeLines, Reply.andThen_of_error hfails]

/-- Lines that fail on a running engine do so at the number of one of them. -/
theorem raisedAt_of_executeLines (hrunning : engine.halted = false)
    (h : (engine.executeLines lines).result = .error cause) :
    ∃ line ∈ lines, cause.RaisedAt line.number := by
  obtain ⟨earlier, line, later, rfl, hearlier, hfails⟩ := exists_failing_line h
  have hbefore := continues_executeLines hrunning hearlier
  exact ⟨line, by simp, raisedAt_of_executeLine hbefore.running hfails⟩

/-- A line that fails takes the engine down, since there is room for the stack to grow. -/
theorem tornDown_of_executeLine (hrunning : engine.halted = false) {line : SourceLine}
    (h : (engine.executeLine line.text line.number).result = .error cause) :
    engine.TornDown (engine.executeLine line.text line.number).engine := by
  obtain ⟨-, htornDown⟩ := @halted_of_error engine cause hrunning line.call h
  rwa [if_neg (raisedAt_of_executeLine hrunning h).ne_outOfMemory] at htornDown

/-! ## What happens meanwhile -/

/-- A halt makes its cause known, unless memory has run out. -/
theorem events_stop (engine : Engine) (hcause : cause ≠ .outOfMemory) (output : List UInt8)
    (events : List Event) :
    (engine.stop cause output events).events = events ++ [.halting cause] := by
  rw [stop, halt, if_neg hcause]

/-- An instruction makes itself known, and a halt if it fails. -/
theorem events_execute (hrunning : engine.halted = false) (i : Instruction) :
    (engine.execute i).events =
      .executing i :: (engine.execute i).error?.toList.map .halting := by
  -- Memory does not run out here, so no error halts the engine without its cause being told.
  have hexecutes := engine.executes i .granted
  generalize engine.execute i = reply at hexecutes ⊢
  cases hexecutes with
  | refused hhalted => rw [hrunning] at hhalted; exact nomatch hhalted
  | undone refusal _ hprinted =>
    obtain ⟨fault, rfl⟩ := Instruction.exists_fault_of_granted hprinted
    exact @events_stop (.fault (fault.at i.line)) _ nofun [] [.executing i]
  | unwritten bytes reason => exact @events_stop (.output i.line reason) _ nofun _ [.executing i]
  | done => rfl

/-- A line lets its instruction be known, if it spells one, and a halt if it fails. -/
theorem events_executeLine (hrunning : engine.halted = false) (line : SourceLine) :
    (engine.executeLine line.text line.number).events =
      line.instruction?.toList.map .executing ++
        (engine.executeLine line.text line.number).error?.toList.map .halting := by
  have hexecutes := engine.executesLine line.text line.number .granted
  unfold SourceLine.instruction?
  generalize engine.executeLine line.text line.number = reply at hexecutes ⊢
  cases hexecutes with
  | refused hhalted => rw [hrunning] at hhalted; exact nomatch hhalted
  | faulty fault _ hline =>
    rw [hline]
    exact @events_stop (.fault fault) engine nofun [] []
  | blank _ hline =>
    rw [hline]
    rfl
  | instruction i _ hline =>
    rw [events_execute hrunning, hline]
    rfl

/-- Lines that succeed let the instructions on them be known, and nothing else. -/
theorem events_executeLines (hrunning : engine.halted = false)
    (h : (engine.executeLines lines).result = .ok ()) :
    (engine.executeLines lines).events = (Program.onLines lines).map .executing := by
  induction lines generalizing engine with
  | nil => rfl
  | cons line rest ih =>
    rw [executeLines] at h ⊢
    obtain ⟨hfirst, hrest⟩ := Reply.andThen_eq_ok h
    have hbehind := (continues_executeLine hfirst).running
    rw [Reply.andThen_of_ok hfirst, events_executeLine hrunning, Reply.error?_eq_none_iff.2 hfirst,
      ih hbehind hrest, Program.onLines_cons, List.map_append]
    simp

/-- A line that fails behind lines that succeed lets all their instructions be known, and the halt
last. -/
theorem events_failing_line (hrunning : engine.halted = false) {earlier : List SourceLine}
    {line : SourceLine} (hearlier : (engine.executeLines earlier).result = .ok ())
    (hfails : ((engine.executeLines earlier).engine.executeLine line.text line.number).result =
      .error cause) :
    (engine.executeLines earlier).events ++
        ((engine.executeLines earlier).engine.executeLine line.text line.number).events =
      (Program.onLines (earlier ++ [line])).map .executing ++ [.halting cause] := by
  have hbefore := continues_executeLines hrunning hearlier
  rw [events_executeLines hrunning hearlier, events_executeLine hbefore.running,
    Reply.error?_eq_some_iff.2 hfails, Program.onLines_append, Program.onLines_cons]
  simp [Program.onLines]

end Engine

end Stackline
