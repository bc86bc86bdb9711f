import Stackline.Proofs.Engine.Disguise

/-!
# Taking down

The first error halts an engine for good, and what the engine looks like from then on depends on
that error alone: running out of memory leaves everything in place, and every other error takes the
engine down.

* `Engine.trouble? engine call` — why a call goes wrong, if it does. Flushing has no part in it.
* `Engine.Answered engine call reply` — the ways in which a running engine answers a call: it goes
  on, or it halts because of the trouble (`answered`).
* `Engine.TornDown before after`, `Engine.Abandoned before after` — the two ways to be halted.
* `firstError? replies` — the first error among answers, and `Engine.exists_first_error`, the call
  that raised it.
* `Engine.teardown_after_calls` — the state behind any calls, by their first error.
* `Engine.inert_after_error` — what calls behind an error come to.
-/

namespace Stackline

/-! ## First errors -/

/-- The error of an answer, if it is one. -/
def Reply.error? (reply : Reply) : Option RunError :=
  match reply.result with
  | .ok () => none
  | .error cause => some cause

theorem Reply.error?_eq_none_iff {reply : Reply} : reply.error? = none ↔ reply.result = .ok () := by
  unfold error?
  split <;> simp_all

theorem Reply.error?_eq_some_iff {reply : Reply} {cause : RunError} :
    reply.error? = some cause ↔ reply.result = .error cause := by
  unfold error?
  split <;> simp_all

/-- The first error among answers. -/
def firstError? (replies : List Reply) : Option RunError :=
  replies.findSome? Reply.error?

theorem firstError?_eq_none_iff {replies : List Reply} :
    firstError? replies = none ↔ ∀ reply ∈ replies, reply.result = .ok () := by
  simp only [firstError?, List.findSome?_eq_none_iff, Reply.error?_eq_none_iff]

theorem firstError?_cons_of_ok {reply : Reply} (h : reply.result = .ok ()) (rest : List Reply) :
    firstError? (reply :: rest) = firstError? rest := by
  rw [firstError?, List.findSome?_cons, Reply.error?_eq_none_iff.2 h]
  rfl

theorem firstError?_cons_of_error {reply : Reply} {cause : RunError}
    (h : reply.result = .error cause) (rest : List Reply) :
    firstError? (reply :: rest) = some cause := by
  rw [firstError?, List.findSome?_cons, Reply.error?_eq_some_iff.2 h]

/-- The first error is not among answers that are none. -/
theorem firstError?_append_of_succeed {replies : List Reply}
    (h : ∀ reply ∈ replies, reply.result = .ok ()) (rest : List Reply) :
    firstError? (replies ++ rest) = firstError? rest := by
  induction replies with
  | nil => rfl
  | cons reply replies ih =>
    rw [List.forall_mem_cons] at h
    rw [List.cons_append, firstError?_cons_of_ok h.1, ih h.2]

namespace Engine

/-- The first error among the answers to calls is raised by a call behind calls that succeed. -/
theorem exists_first_error {engine : Engine} {calls : List Call} {cause : RunError}
    (h : firstError? (engine.answers calls) = some cause) :
    ∃ earlier call later, calls = earlier ++ call :: later ∧
      (∀ reply ∈ engine.answers earlier, reply.result = .ok ()) ∧
      ((engine.after earlier).answer call).result = .error cause := by
  induction calls generalizing engine with
  | nil => exact nomatch h
  | cons call rest ih =>
    rw [answers, firstError?, List.findSome?_cons] at h
    cases hfirst : (engine.answer call).error? with
    | some error =>
      rw [hfirst] at h
      obtain rfl := Option.some.inj h
      exact ⟨[], call, rest, rfl, by simp [answers], Reply.error?_eq_some_iff.1 hfirst⟩
    | none =>
      rw [hfirst] at h
      obtain ⟨earlier, call', later, rfl, hearlier, hfails⟩ := ih h
      refine ⟨call :: earlier, call', later, rfl, ?_, hfails⟩
      rw [answers, List.forall_mem_cons]
      exact ⟨Reply.error?_eq_none_iff.1 hfirst, hearlier⟩

/-! ## Trouble -/

/-- Why an instruction goes wrong, if it does: it is not done, or the sink does not take all that it
prints. -/
def instructionTrouble? (engine : Engine) (i : Instruction) (memory : Memory) : Option RunError :=
  match (i.effect memory engine.stack).printed with
  | .error refusal => some (refusal.at i.line)
  | .ok bytes => (engine.sink.write bytes).1.error.map (.output i.line)

/-- Why a call goes wrong, if it does: the line is faulty, or the instruction goes wrong. -/
def trouble? (engine : Engine) : Call → Option RunError
  | .instruction i memory => engine.instructionTrouble? i memory
  | .line content number memory =>
    match Instruction.ofLine content number with
    | .error cause => some (.fault cause)
    | .ok none => none
    | .ok (some i) => engine.instructionTrouble? i memory

/-- The ways in which a running engine answers a call. -/
inductive Answered (engine : Engine) (call : Call) : Reply → Prop where
  /-- The call succeeds, and the engine goes on. -/
  | passed {reply : Reply} : engine.trouble? call = none → reply.result = .ok () →
      engine.Continues reply.engine → Answered engine call reply
  /-- There is trouble, and it halts the engine. Where memory has run out, the stack is as it
  was. -/
  | stopped {cause : RunError} {troubled : Engine} {output : List UInt8} {events : List Event} :
      engine.trouble? call = some cause → engine.Continues troubled →
      (cause = .outOfMemory → troubled.stack = engine.stack) →
      Answered engine call (troubled.stop cause output events)

variable {engine : Engine}

/-- A running engine answers a call for an instruction by the trouble that there is with it. -/
theorem answered_execute (hrunning : engine.halted = false) {call : Call} {i : Instruction}
    {memory : Memory} (hcall : engine.trouble? call = engine.instructionTrouble? i memory) :
    engine.Answered call (engine.execute i memory) := by
  rw [instructionTrouble?] at hcall
  have hexecutes := engine.executes i memory
  generalize engine.execute i memory = reply at hexecutes ⊢
  cases hexecutes with
  | refused hhalted => rw [hrunning] at hhalted; exact nomatch hhalted
  | undone refusal _ hprinted =>
    rw [hprinted] at hcall
    exact .stopped hcall ⟨hrunning, rfl, rfl⟩ fun _ => rfl
  | unwritten bytes reason _ hprinted hwrite =>
    simp only [hprinted, hwrite] at hcall
    exact .stopped hcall ⟨hrunning, rfl, rfl⟩ nofun
  | done bytes _ hprinted hwrite =>
    simp only [hprinted, hwrite] at hcall
    exact .passed hcall rfl ⟨hrunning, rfl, rfl⟩

/-- A running engine answers a call by the trouble that there is with it. -/
theorem answered (hrunning : engine.halted = false) (call : Call) :
    engine.Answered call (engine.answer call) := by
  cases call with
  | instruction i memory => exact answered_execute hrunning rfl
  | line content number memory =>
    -- The trouble is that of the line, which is its instruction's if it has one.
    rw [answer]
    have hexecutes := engine.executesLine content number memory
    generalize engine.executeLine content number memory = reply at hexecutes ⊢
    cases hexecutes with
    | refused hhalted => rw [hrunning] at hhalted; exact nomatch hhalted
    | faulty cause _ hline => exact .stopped (by rw [trouble?, hline]) (.refl hrunning) fun _ => rfl
    | blank _ hline => exact .passed (by rw [trouble?, hline]) rfl (.refl hrunning)
    | instruction i _ hline => exact answered_execute hrunning (by rw [trouble?, hline])

/-- Calls that all succeed leave an engine that goes on. -/
theorem continues_after (hrunning : engine.halted = false) {calls : List Call}
    (h : ∀ reply ∈ engine.answers calls, reply.result = .ok ()) :
    engine.Continues (engine.after calls) := by
  -- Every call finds an engine that goes on, so the engine is arbitrary.
  induction calls generalizing engine with
  | nil => exact .refl hrunning
  | cons call rest ih =>
    rw [answers, List.forall_mem_cons] at h
    obtain ⟨hfirst, hrest⟩ := h
    have hanswered := answered hrunning call
    rw [after_cons]
    generalize engine.answer call = reply at hanswered hfirst hrest ⊢
    cases hanswered with
    | passed _ _ hcontinues => exact hcontinues.trans (ih hcontinues.running hrest)
    | stopped => simp [stop] at hfirst

/-! ## Halted engines -/

/-- The engine was taken down: its sink was flushed, its stack was released, and then its cleanup
was called, each once. -/
structure TornDown (before after : Engine) : Prop where
  /-- The engine is halted. -/
  halted : after.halted = true
  /-- Nothing is left on the stack. -/
  stack : after.stack = .empty
  /-- The sink was flushed once. -/
  flushes : after.sink.flushes = before.sink.flushes + 1
  /-- The cleanup, if there is one, was called when the stack was empty and the sink was flushed. -/
  cleanup : after.cleanup =
    before.cleanup.call { depth := 0, flushes := before.sink.flushes + 1 }

/-- The engine is halted, and otherwise as it was. -/
structure Abandoned (before after : Engine) : Prop where
  /-- The engine is halted. -/
  halted : after.halted = true
  /-- The stack was kept. -/
  stack : after.stack = before.stack
  /-- The sink was not flushed. -/
  flushes : after.sink.flushes = before.sink.flushes
  /-- The cleanup was not called. -/
  cleanup : after.cleanup = before.cleanup

variable {troubled : Engine} {cause : RunError} {output : List UInt8} {events : List Event}

/-- Every error but a lack of memory takes the engine down. -/
theorem tornDown_stop (h : engine.Continues troubled) (hcause : cause ≠ .outOfMemory) :
    engine.TornDown (troubled.stop cause output events).engine := by
  unfold stop halt
  rw [if_neg hcause]
  refine ⟨rfl, rfl, ?_, ?_⟩
  · rw [← h.flushes]
    rfl
  · rw [← h.flushes, ← h.cleanup]
    rfl

/-- A lack of memory leaves everything in place. -/
theorem abandoned_stop (h : engine.Continues troubled) (hstack : troubled.stack = engine.stack) :
    engine.Abandoned (troubled.stop .outOfMemory output events).engine :=
  ⟨rfl, hstack, h.flushes, h.cleanup⟩

/-- A call that fails on a running engine fails because of the trouble that there is with it, and
takes the engine down, or abandons it where memory has run out. -/
theorem halted_of_error (hrunning : engine.halted = false) {call : Call}
    (h : (engine.answer call).result = .error cause) :
    engine.trouble? call = some cause ∧
      if cause = .outOfMemory then engine.Abandoned (engine.answer call).engine
      else engine.TornDown (engine.answer call).engine := by
  have hanswered := answered hrunning call
  generalize engine.answer call = reply at hanswered h ⊢
  cases hanswered with
  | passed _ hok => rw [hok] at h; exact nomatch h
  | stopped htrouble hcontinues hstack =>
    obtain rfl := Except.error.inj h
    refine ⟨htrouble, ?_⟩
    split
    next hmemory =>
      subst hmemory
      exact abandoned_stop hcontinues (hstack rfl)
    next hcause => exact tornDown_stop hcontinues hcause

/-- An engine is halted behind every call that fails. -/
theorem halted_answer_of_error {call : Call} (h : (engine.answer call).result = .error cause) :
    (engine.answer call).engine.halted = true := by
  cases hbefore : engine.halted with
  | true => rw [answer_of_halted hbefore, engine_refuse, hbefore]
  | false =>
    obtain ⟨-, hhalted⟩ := halted_of_error hbefore h
    split at hhalted
    · exact hhalted.halted
    · exact hhalted.halted

/-- It does not matter whether the engine has gone on before it was taken down. -/
theorem Continues.trans_tornDown {before middle after : Engine} (h : before.Continues middle)
    (h' : middle.TornDown after) : before.TornDown after := by
  refine ⟨h'.halted, h'.stack, ?_, ?_⟩
  · rw [h'.flushes, h.flushes]
  · rw [h'.cleanup, h.flushes, h.cleanup]

/-- Behind the call that raises the first error, nothing changes any more: the engine is the one
that this call has taken down or abandoned. -/
theorem halted_after_of_firstError (hrunning : engine.halted = false) {calls : List Call}
    (h : firstError? (engine.answers calls) = some cause) :
    ∃ earlier call later, calls = earlier ++ call :: later ∧
      (∀ reply ∈ engine.answers earlier, reply.result = .ok ()) ∧
      (engine.after earlier).trouble? call = some cause ∧
      ((engine.after earlier).answer call).result = .error cause ∧
      if cause = .outOfMemory then (engine.after earlier).Abandoned (engine.after calls)
      else engine.TornDown (engine.after calls) := by
  obtain ⟨earlier, call, later, rfl, hearlier, hfails⟩ := exists_first_error h
  have hbefore := continues_after hrunning hearlier
  obtain ⟨htrouble, hhalted⟩ := halted_of_error hbefore.running hfails
  refine ⟨earlier, call, later, rfl, hearlier, htrouble, hfails, ?_⟩
  rw [after_append, after_cons]
  split at hhalted
  next hmemory =>
    rw [after_of_halted hhalted.halted, if_pos hmemory]
    exact hhalted
  next hcause =>
    rw [after_of_halted hhalted.halted, if_neg hcause]
    exact hbefore.trans_tornDown hhalted

/-- An engine is halted exactly if a call has failed. -/
theorem halted_after_iff (hrunning : engine.halted = false) (calls : List Call) :
    (engine.after calls).halted = true ↔
      ∃ reply ∈ engine.answers calls, ∃ cause, reply.result = .error cause := by
  cases hfirst : firstError? (engine.answers calls) with
  | none =>
    have hok := firstError?_eq_none_iff.1 hfirst
    rw [(continues_after hrunning hok).running]
    refine iff_of_false nofun ?_
    rintro ⟨reply, hmem, cause, hfails⟩
    rw [hok reply hmem] at hfails
    exact nomatch hfails
  | some cause =>
    obtain ⟨earlier, call, later, rfl, -, -, hfails, hhalted⟩ :=
      halted_after_of_firstError hrunning hfirst
    refine iff_of_true ?_ ⟨_, ?_, cause, hfails⟩
    · split at hhalted
      · exact hhalted.halted
      · exact hhalted.halted
    · rw [answers_append, answers]
      exact List.mem_append_right _ List.mem_cons_self

/-- Whatever the sink is, with and without a cleanup, and whatever is executed, with and without
room for the stack to grow, an engine is halted exactly if a call has failed.

Up to the first error, the sink is not flushed and the cleanup is not called. The first error is the
trouble that there is with the call, as it stands behind calls that have all succeeded. If it is a
lack of memory, the stack stays as it was before the call, the sink is not flushed and the cleanup
is not called. If it is any other error, then from this call on, the stack is empty, the sink has
been flushed once, and the cleanup has been called once if there is one, at a time when the stack
was empty and the sink was flushed.

All this is the same whether flushing fails or not, and so are the results of the calls. -/
theorem teardown_after_calls (sink : Sink) (hooked : Bool) (calls : List Call) :
    let fresh := start sink hooked
    let engine := fresh.after calls
    (engine.halted = true ↔
      ∃ reply ∈ fresh.answers calls, ∃ cause, reply.result = .error cause) ∧
    (match firstError? (fresh.answers calls) with
      | none =>
        engine.halted = false ∧ engine.sink.flushes = sink.flushes ∧ engine.cleanup.calls = []
      | some cause =>
        ∃ earlier call later, calls = earlier ++ call :: later ∧
          (∀ reply ∈ fresh.answers earlier, reply.result = .ok ()) ∧
          (fresh.after earlier).trouble? call = some cause ∧
          ((fresh.after earlier).answer call).result = .error cause ∧
          if cause = .outOfMemory then
            engine.stack = (fresh.after earlier).stack ∧ engine.sink.flushes = sink.flushes ∧
              engine.cleanup.calls = []
          else
            engine.stack = .empty ∧ engine.sink.flushes = sink.flushes + 1 ∧
              engine.cleanup.calls =
                if hooked then [{ depth := 0, flushes := sink.flushes + 1 }] else []) ∧
    ∀ failure,
      ((start { sink with flushError := failure } hooked).answers calls).map (·.result) =
        (fresh.answers calls).map (·.result) := by
  intro fresh engine
  refine ⟨halted_after_iff rfl calls, ?_, ?_⟩
  · cases hfirst : firstError? (fresh.answers calls) with
    | none =>
      have hcontinues := continues_after rfl (firstError?_eq_none_iff.1 hfirst)
      exact ⟨hcontinues.running, hcontinues.flushes, congrArg Cleanup.calls hcontinues.cleanup⟩
    | some cause =>
      obtain ⟨earlier, call, later, hcalls, hearlier, htrouble, hfails, hhalted⟩ :=
        halted_after_of_firstError rfl hfirst
      refine ⟨earlier, call, later, hcalls, hearlier, htrouble, hfails, ?_⟩
      split at hhalted
      next hmemory =>
        -- Nothing has been flushed or called before the error either.
        have hbefore := continues_after rfl hearlier
        rw [if_pos hmemory]
        refine ⟨hhalted.stack, hhalted.flushes.trans hbefore.flushes, ?_⟩
        exact congrArg Cleanup.calls (hhalted.cleanup.trans hbefore.cleanup)
      next hcause =>
        rw [if_neg hcause]
        refine ⟨hhalted.stack, hhalted.flushes, ?_⟩
        rw [hhalted.cleanup]
        cases hooked <;> rfl
  · intro failure
    have hanswers := (disguise_flushError failure).answers fresh calls
    rw [List.map_congr_left fun call _ => call.renumber_id, List.map_id'] at hanswers
    change ((withFlushError failure fresh).answers calls).map (·.result) = _
    rw [hanswers, List.map_map]
    refine List.map_congr_left fun reply _ => ?_
    rw [Function.comp_apply, Reply.disguised_id]

/-! ## Behind an error -/

/-- Behind a call that fails, an engine is inert, whether it was taken down or abandoned.

Each further call, for an instruction or for a line with whatever is on it, is refused at its own
line, and nothing gets out. However many there are, the engine stays as the failing call has left
it: the stack, the flushes of the sink, the cleanup, and what it comes to if the run is finished. A
flush that fails then is charged to the line that the failing call has left the engine at. -/
theorem inert_after_error {engine : Engine} {earlier : List Call} {call : Call} {cause : RunError}
    (h : ((engine.after earlier).answer call).result = .error cause) (rest : List Call) :
    let behind := engine.after (earlier ++ [call])
    let last := engine.after (earlier ++ [call] ++ rest)
    behind.halted = true ∧
    engine.answers (earlier ++ [call] ++ rest) =
      (engine.answers (earlier ++ [call]) ++ rest.map fun later =>
        { result := .error (.halted later.number), output := [], events := [], engine := behind }) ∧
    last = behind ∧
    last.finish = behind.finish ∧
    ∀ reason, behind.sink.flushError = some reason →
      last.finish.result = .error (.output behind.line reason) := by
  intro behind last
  have hbehind : behind = ((engine.after earlier).answer call).engine :=
    after_append engine earlier [call]
  have hhalted : behind.halted = true := hbehind ▸ halted_answer_of_error h
  have hlast : last = behind :=
    (after_append engine _ rest).trans (after_of_halted hhalted rest)
  refine ⟨hhalted, ?_, hlast, congrArg finish hlast, fun reason hreason => ?_⟩
  · rw [answers_append, answers_of_halted hhalted]
    rfl
  · rw [hlast, finish, Sink.flush, hreason]

/-- An engine that ran out of memory keeps its stack, and refuses an instruction, blank and faulty
lines, and a push for which there is room. -/
theorem inert_after_error_outOfMemory :
    let engine := start { flushError := some "closed" }
    let earlier : List Call := [.instruction (.push 1 1) .granted]
    let call : Call := .instruction (.push 2 7) .refused
    let rest : List Call :=
      [.line "pall" 8, .line "" 9, .line "bogus" 3, .instruction (.push 4 2) .granted]
    ((engine.after earlier).answer call).result = .error .outOfMemory ∧
    (engine.answers (earlier ++ [call] ++ rest)).map (·.result) =
      [.ok (), .error .outOfMemory, .error (.halted 8), .error (.halted 9), .error (.halted 3),
        .error (.halted 2)] ∧
    (engine.after (earlier ++ [call] ++ rest)).stack.toList = [1] ∧
    (engine.after (earlier ++ [call] ++ rest)).finish.result = .error (.output 7 "closed") := by
  intro engine earlier call rest
  have hfails : ((engine.after earlier).answer call).result = .error .outOfMemory := rfl
  obtain ⟨-, hanswers, hlast, -, hfinish⟩ := inert_after_error hfails rest
  refine ⟨hfails, ?_, ?_, hfinish "closed" rfl⟩
  · rw [hanswers]
    rfl
  · rw [hlast]
    rfl

end Engine

end Stackline
