import Stackline.Proofs.Engine.Teardown
import Stackline.Proofs.Sink.Writes

/-!
# Sinks with little room

A sink with room for so many bytes is compared with the same sink without a limit. As long as what
is printed fits, calls take no notice of the limit. The first call that prints more is answered with
an output error, and the engine is taken down as for any other error.

* `Engine.withRoom engine room` — the engine whose sink has the given room.
* `Engine.printed engine calls` — the bytes that get out during calls.
* `Engine.answer_withRoom_of_fits`, `Engine.answer_withRoom_of_overflow` — one call.
* `Engine.answers_withRoom_of_fits` — calls whose output fits.
* `Engine.Cut` — calls whose output does not fit, and the call at which it stops fitting
  (`exists_cut`).
-/

namespace Stackline

/-! ## Room -/

/-- The sink with the given room. -/
def Sink.withRoom (room : Option Nat) (sink : Sink) : Sink :=
  { sink with room }

/-- The engine whose sink has the given room. -/
def Engine.withRoom (room : Option Nat) (engine : Engine) : Engine :=
  { engine with sink := engine.sink.withRoom room }

/-- The answer with an engine whose sink has the given room. -/
def Reply.withRoom (room : Option Nat) (reply : Reply) : Reply :=
  { reply with engine := reply.engine.withRoom room }

theorem Reply.withRoom_eq_self {reply : Reply} {room : Option Nat}
    (h : reply.engine.sink.room = room) : reply.withRoom room = reply := by
  subst h
  rfl

/-- A sink takes what fits into its room, and has the rest of the room left. -/
theorem Sink.write_withRoom_of_fits (sink : Sink) {limit : Nat} {content : List UInt8}
    (h : content.length ≤ limit) :
    (sink.withRoom (some limit)).write content =
      ({ accepted := content, error := none }, sink.withRoom (some (limit - content.length))) :=
  write_of_fits (by simpa [withRoom, Fits] using h)

/-- What does not fit is cut off. -/
theorem Sink.write_withRoom_of_overflow (sink : Sink) {limit : Nat} {content : List UInt8}
    (h : limit < content.length) :
    ((sink.withRoom (some limit)).write content).1 =
      { accepted := content.take limit, error := some sink.fullReason } := by
  simp [write, withRoom, Fits, fullReason, Nat.not_le.2 h]

/-- What can become of a sink in use: its room shrinks, and it is flushed. -/
structure Sink.Used (before after : Sink) : Prop where
  /-- The room shrinks, if there is a limit. -/
  room : ∃ taken, after.room = before.room.map (· - taken)
  /-- Why writes fail stays the same. -/
  writeError : after.writeError = before.writeError
  /-- Whether flushing fails stays the same. -/
  flushError : after.flushError = before.flushError

namespace Sink.Used

variable {first second third : Sink}

theorem refl (sink : Sink) : sink.Used sink :=
  ⟨⟨0, by simp⟩, rfl, rfl⟩

theorem trans (h : first.Used second) (h' : second.Used third) : first.Used third := by
  obtain ⟨taken, hroom⟩ := h.room
  obtain ⟨taken', hroom'⟩ := h'.room
  refine ⟨⟨taken + taken', ?_⟩, h'.writeError.trans h.writeError, h'.flushError.trans h.flushError⟩
  rw [hroom', hroom, Option.map_map]
  exact congrArg (Option.map · first.room) (funext fun room => Nat.sub_sub room taken taken')

theorem write (sink : Sink) (content : List UInt8) : sink.Used (sink.write content).2 :=
  ⟨⟨_, rfl⟩, rfl, rfl⟩

theorem flush (sink : Sink) : sink.Used sink.flush.2 :=
  ⟨⟨0, by simp [Sink.flush]⟩, rfl, rfl⟩

/-- A sink without a limit stays without one. -/
theorem unlimited (h : first.Used second) (hroom : first.room = none) : second.room = none := by
  obtain ⟨taken, htaken⟩ := h.room
  rw [htaken, hroom, Option.map_none]

theorem fullReason (h : first.Used second) : second.fullReason = first.fullReason := by
  rw [Sink.fullReason, Sink.fullReason, h.writeError]

end Sink.Used

namespace Engine

variable {engine : Engine} {limit : Nat}

/-! ## Sinks in use -/

theorem used_stop (engine : Engine) (cause : RunError) (output : List UInt8)
    (events : List Event) : engine.sink.Used (engine.stop cause output events).engine.sink := by
  unfold stop halt
  split
  · exact .refl engine.sink
  · exact .flush engine.sink

/-- An instruction uses the sink and does nothing else to it. -/
theorem used_execute (engine : Engine) (i : Instruction) (memory : Memory) :
    engine.sink.Used (engine.execute i memory).engine.sink := by
  have hexecutes := engine.executes i memory
  generalize engine.execute i memory = reply at hexecutes ⊢
  cases hexecutes with
  | refused => exact .refl engine.sink
  | undone => exact (engine.turnTo i.line).used_stop _ _ _
  | unwritten bytes =>
    exact .trans (.write engine.sink bytes) ((engine.proceed i memory bytes).used_stop _ _ _)
  | done bytes => exact .write engine.sink bytes

theorem used_answer (engine : Engine) (call : Call) :
    engine.sink.Used (engine.answer call).engine.sink := by
  cases call with
  | instruction i memory => exact engine.used_execute i memory
  | line content number memory =>
    rw [answer]
    have hexecutes := engine.executesLine content number memory
    generalize engine.executeLine content number memory = reply at hexecutes ⊢
    cases hexecutes with
    | refused => exact .refl engine.sink
    | faulty => exact engine.used_stop _ _ _
    | blank => exact .refl engine.sink
    | instruction i => exact engine.used_execute i memory

theorem used_after (engine : Engine) (calls : List Call) :
    engine.sink.Used (engine.after calls).sink := by
  induction calls generalizing engine with
  | nil => exact .refl engine.sink
  | cons call rest ih => exact (engine.used_answer call).trans (ih _)

theorem stop_withRoom (engine : Engine) (room : Option Nat) (cause : RunError)
    (output : List UInt8) (events : List Event) :
    (engine.withRoom room).stop cause output events =
      (engine.stop cause output events).withRoom room := by
  by_cases hmemory : cause = .outOfMemory <;>
    simp [stop, halt, hmemory, withRoom, Sink.withRoom, Sink.flush, Reply.withRoom]

theorem proceed_withRoom_of_fits (engine : Engine) (i : Instruction) (memory : Memory)
    {bytes : List UInt8} (h : bytes.length ≤ limit) :
    (engine.withRoom (some limit)).proceed i memory bytes =
      (engine.proceed i memory bytes).withRoom (some (limit - bytes.length)) := by
  have hwrite := engine.sink.write_withRoom_of_fits h
  simp only [proceed, withRoom, hwrite]
  rfl

/-! ## One call -/

/-- Without a limit, an instruction that prints something is done, and all of it gets in. -/
theorem execute_of_output_ne_nil (hroom : engine.sink.room = none) {i : Instruction}
    {memory : Memory} (h : (engine.execute i memory).output ≠ []) :
    engine.halted = false ∧
      (i.effect memory engine.stack).printed = .ok (engine.execute i memory).output := by
  have hexecutes := engine.executes i memory
  generalize engine.execute i memory = reply at hexecutes h ⊢
  cases hexecutes with
  | refused => exact absurd rfl h
  | undone => exact absurd rfl h
  | unwritten bytes reason _ _ hwrite =>
    rw [Sink.write_of_unlimited hroom] at hwrite
    exact nomatch hwrite
  | done bytes hrunning hprinted => exact ⟨hrunning, hprinted⟩

/-- An instruction whose output fits is answered as without a limit. -/
theorem execute_withRoom_of_fits (hroom : engine.sink.room = none) {i : Instruction}
    {memory : Memory} (h : (engine.execute i memory).output.length ≤ limit) :
    (engine.withRoom (some limit)).execute i memory =
      (engine.execute i memory).withRoom
        (some (limit - (engine.execute i memory).output.length)) := by
  have hexecutes := engine.executes i memory
  generalize engine.execute i memory = reply at hexecutes h ⊢
  cases hexecutes with
  | refused hhalted =>
    rw [@execute_of_halted (engine.withRoom (some limit)) hhalted]
    rfl
  | undone refusal hrunning hprinted =>
    rw [@execute_of_undone (engine.withRoom (some limit)) i memory refusal hrunning hprinted]
    exact (engine.turnTo i.line).stop_withRoom (some limit) _ _ _
  | unwritten bytes reason _ _ hwrite =>
    rw [Sink.write_of_unlimited hroom] at hwrite
    exact nomatch hwrite
  | done bytes hrunning hprinted =>
    have hwrite := engine.sink.write_withRoom_of_fits h
    rw [@execute_of_done (engine.withRoom (some limit)) i memory bytes hrunning hprinted
      (congrArg (·.1.error) hwrite), proceed_withRoom_of_fits engine i memory h]
    rfl

/-- An instruction whose output does not fit prints what fits and fails at its line. -/
theorem execute_withRoom_of_overflow (hroom : engine.sink.room = none) {i : Instruction}
    {memory : Memory} (h : limit < (engine.execute i memory).output.length) :
    ((engine.withRoom (some limit)).execute i memory).result =
        .error (.output i.line engine.sink.fullReason) ∧
      ((engine.withRoom (some limit)).execute i memory).output =
        (engine.execute i memory).output.take limit := by
  have hne : (engine.execute i memory).output ≠ [] := List.ne_nil_of_length_pos (by omega)
  obtain ⟨hrunning, hprinted⟩ := execute_of_output_ne_nil hroom hne
  have hwrite := engine.sink.write_withRoom_of_overflow h
  rw [@execute_of_unwritten (engine.withRoom (some limit)) i memory _ _ hrunning hprinted
    (congrArg Receipt.error hwrite)]
  exact ⟨rfl, congrArg Receipt.accepted hwrite⟩

/-- A call whose output fits is answered as without a limit. -/
theorem answer_withRoom_of_fits (hroom : engine.sink.room = none) {call : Call}
    (h : (engine.answer call).output.length ≤ limit) :
    (engine.withRoom (some limit)).answer call =
      (engine.answer call).withRoom (some (limit - (engine.answer call).output.length)) := by
  cases call with
  | instruction i memory => exact execute_withRoom_of_fits hroom h
  | line content number memory =>
    rw [answer] at h
    rw [answer, answer]
    have hexecutes := engine.executesLine content number memory
    generalize engine.executeLine content number memory = reply at hexecutes h ⊢
    cases hexecutes with
    | refused hhalted =>
      rw [@executeLine_of_halted (engine.withRoom (some limit)) hhalted]
      rfl
    | faulty cause hrunning hline =>
      rw [@executeLine_of_error (engine.withRoom (some limit)) memory _ _ _ hrunning hline]
      exact engine.stop_withRoom (some limit) _ _ _
    | blank hrunning hline =>
      rw [@executeLine_of_none (engine.withRoom (some limit)) memory _ _ hrunning hline]
      rfl
    | instruction i hrunning hline =>
      rw [@executeLine_of_some (engine.withRoom (some limit)) i memory _ _ hrunning hline]
      exact execute_withRoom_of_fits hroom h

/-- A call whose output does not fit prints what fits and fails at its line. -/
theorem answer_withRoom_of_overflow (hroom : engine.sink.room = none) {call : Call}
    (h : limit < (engine.answer call).output.length) :
    ((engine.withRoom (some limit)).answer call).result =
        .error (.output call.number engine.sink.fullReason) ∧
      ((engine.withRoom (some limit)).answer call).output =
        (engine.answer call).output.take limit := by
  cases call with
  | instruction i memory => exact execute_withRoom_of_overflow hroom h
  | line content number memory =>
    rw [answer] at h
    rw [answer, answer]
    have hexecutes := engine.executesLine content number memory
    generalize engine.executeLine content number memory = reply at hexecutes h ⊢
    cases hexecutes with
    | refused => exact absurd h (Nat.not_lt_zero limit)
    | faulty => exact absurd h (Nat.not_lt_zero limit)
    | blank => exact absurd h (Nat.not_lt_zero limit)
    | instruction i hrunning hline =>
      rw [@executeLine_of_some (engine.withRoom (some limit)) i memory _ _ hrunning hline,
        Call.number, ← Instruction.line_of_ofLine_eq_some hline]
      exact execute_withRoom_of_overflow hroom h

/-! ## Calls -/

/-- The bytes that get out during calls. -/
def printed (engine : Engine) (calls : List Call) : List UInt8 :=
  (engine.answers calls).flatMap (·.output)

@[simp]
theorem printed_nil (engine : Engine) : engine.printed [] = [] := rfl

@[simp]
theorem printed_cons (engine : Engine) (call : Call) (rest : List Call) :
    engine.printed (call :: rest) =
      (engine.answer call).output ++ (engine.answer call).engine.printed rest := rfl

@[simp]
theorem printed_append (engine : Engine) (calls rest : List Call) :
    engine.printed (calls ++ rest) = engine.printed calls ++ (engine.after calls).printed rest := by
  simp [printed]

/-- Nothing gets out of a halted engine. -/
theorem printed_of_halted (h : engine.halted = true) (calls : List Call) :
    engine.printed calls = [] := by
  rw [printed, answers_of_halted h, List.flatMap_map]
  exact List.flatMap_eq_nil_iff.2 fun call _ => rfl

/-- An engine that prints something was running. -/
theorem running_of_output_ne_nil {call : Call} (h : (engine.answer call).output ≠ []) :
    engine.halted = false := by
  cases hhalted : engine.halted with
  | false => rfl
  | true =>
    rw [answer_of_halted hhalted] at h
    exact absurd rfl h

/-- Calls behind which an engine is still running have all succeeded. -/
theorem succeed_of_running_after (hrunning : engine.halted = false) {calls : List Call}
    (h : (engine.after calls).halted = false) :
    ∀ reply ∈ engine.answers calls, reply.result = .ok () := by
  intro reply hmem
  cases hresult : reply.result with
  | ok => rfl
  | error cause =>
    rw [(halted_after_iff hrunning calls).2 ⟨reply, hmem, cause, hresult⟩] at h
    exact nomatch h

/-- Calls whose output fits are answered as without a limit, and leave room for that much less. -/
theorem answers_withRoom_of_fits (hroom : engine.sink.room = none) {calls : List Call}
    (h : (engine.printed calls).length ≤ limit) :
    ((engine.withRoom (some limit)).answers calls).map (·.withRoom none) =
        engine.answers calls ∧
      (engine.withRoom (some limit)).after calls =
        (engine.after calls).withRoom (some (limit - (engine.printed calls).length)) := by
  -- Each call leaves the room that the calls behind it have.
  induction calls generalizing engine limit with
  | nil => exact ⟨rfl, rfl⟩
  | cons call rest ih =>
    rw [printed_cons, List.length_append] at h
    have hfirst : (engine.answer call).output.length ≤ limit := by omega
    have hbehind := (engine.used_answer call).unlimited hroom
    obtain ⟨hanswers, hafter⟩ := @ih (engine.answer call).engine
      (limit - (engine.answer call).output.length) hbehind (by omega)
    rw [answers, answers, after_cons, after_cons, answer_withRoom_of_fits hroom hfirst,
      List.map_cons, printed_cons, List.length_append, ← Nat.sub_sub]
    exact ⟨List.cons_eq_cons.2 ⟨Reply.withRoom_eq_self hbehind, hanswers⟩, hafter⟩

/-- Where the output of calls does not fit, there is a call at which it stops fitting. -/
theorem exists_overflow {calls : List Call} (h : limit < (engine.printed calls).length) :
    ∃ earlier call later, calls = earlier ++ call :: later ∧
      (engine.printed earlier).length ≤ limit ∧
      limit - (engine.printed earlier).length <
        ((engine.after earlier).answer call).output.length := by
  induction calls generalizing engine limit with
  | nil => exact absurd h (Nat.not_lt_zero limit)
  | cons call rest ih =>
    by_cases hfirst : limit < (engine.answer call).output.length
    · exact ⟨[], call, rest, rfl, Nat.zero_le limit, hfirst⟩
    · rw [printed_cons, List.length_append] at h
      obtain ⟨earlier, call', later, rfl, hearlier, hcall⟩ := @ih (engine.answer call).engine
        (limit - (engine.answer call).output.length) (by omega)
      refine ⟨call :: earlier, call', later, rfl, ?_, ?_⟩
      · rw [printed_cons, List.length_append]
        omega
      · rw [printed_cons, List.length_append, ← Nat.sub_sub]
        exact hcall

/-- Calls to an engine whose sink has too little room for what they print without a limit. The call
at which it stops fitting is the first one to fail with the limit. -/
structure Cut (engine : Engine) (limit : Nat) (earlier : List Call) (call : Call)
    (later : List Call) : Prop where
  /-- What is printed before the call fits. -/
  fits : (engine.printed earlier).length ≤ limit
  /-- What is printed up to the call does not. -/
  overflows : limit < (engine.printed (earlier ++ [call])).length
  /-- The calls before it succeed. -/
  succeed : ∀ reply ∈ engine.answers earlier, reply.result = .ok ()
  /-- These are answered as without a limit. -/
  answers : ((engine.withRoom (some limit)).answers earlier).map (·.withRoom none) =
    engine.answers earlier
  /-- The call fails at its own line, for the reason that the sink gives. -/
  result : (((engine.withRoom (some limit)).after earlier).answer call).result =
    .error (.output call.number engine.sink.fullReason)
  /-- What is printed is what fits. -/
  output : (engine.withRoom (some limit)).printed (earlier ++ call :: later) =
    (engine.printed (earlier ++ call :: later)).take limit
  /-- The engine is taken down as for every error. -/
  tornDown : (engine.withRoom (some limit)).TornDown
    ((engine.withRoom (some limit)).after (earlier ++ call :: later))
  /-- The calls behind it are refused. -/
  refused : ((engine.withRoom (some limit)).after (earlier ++ [call])).answers later =
    later.map fun other =>
      ((engine.withRoom (some limit)).after (earlier ++ call :: later)).refuse other.number

/-- Calls whose output does not fit are cut at the call at which it stops fitting. -/
theorem exists_cut (hroom : engine.sink.room = none) (hrunning : engine.halted = false)
    {calls : List Call} (h : limit < (engine.printed calls).length) :
    ∃ earlier call later, calls = earlier ++ call :: later ∧
      engine.Cut limit earlier call later := by
  obtain ⟨earlier, call, later, rfl, hfits, hcall⟩ := exists_overflow h
  obtain ⟨hanswers, hafter⟩ := answers_withRoom_of_fits hroom hfits
  obtain ⟨hresult, houtput⟩ := answer_withRoom_of_overflow
    ((engine.used_after earlier).unlimited hroom) hcall
  rw [← hafter, (engine.used_after earlier).fullReason] at hresult
  rw [← hafter] at houtput
  -- A call that prints something finds a running engine, so there was no error before it.
  have hbefore := running_of_output_ne_nil (List.ne_nil_of_length_pos (Nat.zero_lt_of_lt hcall))
  have hsucceed := succeed_of_running_after hrunning hbefore
  have hsucceed' : ∀ reply ∈ (engine.withRoom (some limit)).answers earlier,
      reply.result = .ok () := by
    intro reply hmem
    have hmem' := List.mem_map_of_mem (f := fun reply => reply.withRoom none) hmem
    rw [hanswers] at hmem'
    exact hsucceed (reply.withRoom none) hmem'
  have hcontinues := @continues_after (engine.withRoom (some limit)) hrunning _ hsucceed'
  obtain ⟨-, htornDown⟩ := halted_of_error hcontinues.running hresult
  rw [if_neg nofun] at htornDown
  have hlast := after_of_halted htornDown.halted later
  have hprinted : (engine.withRoom (some limit)).printed earlier = engine.printed earlier := by
    rw [printed, printed, ← hanswers, List.flatMap_map]
    rfl
  refine ⟨earlier, call, later, rfl, ?_⟩
  exact
    { fits := hfits
      overflows := by
        rw [printed_append, printed_cons, printed_nil, List.append_nil, List.length_append]
        omega
      succeed := hsucceed
      answers := hanswers
      result := hresult
      output := by
        rw [printed_append, printed_cons, printed_of_halted htornDown.halted, List.append_nil,
          hprinted, houtput, printed_append, printed_cons, List.take_append,
          List.take_of_length_le hfits, List.take_append_of_le_length (Nat.le_of_lt hcall)]
      tornDown := by
        rw [after_append, after_cons, hlast]
        exact hcontinues.trans_tornDown htornDown
      refused := by
        rw [after_append, after_append, after_cons, after_cons, after_nil, hlast]
        exact answers_of_halted htornDown.halted later }

end Engine

end Stackline
