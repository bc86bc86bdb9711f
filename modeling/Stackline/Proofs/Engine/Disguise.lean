import Stackline.Proofs.Engine.Sequence
import Stackline.Proofs.Instruction.Reading

/-!
# Changes that calls take no notice of

Some of what an engine holds has no part in its answers: its cleanup, the outcome of a flush, and
which numbers the lines have. A change to one of these before a call leads to the same as the change
behind the call.

* `Instruction.renumber`, `RunError.renumber`, `Event.renumber` — the same with other numbers of
  lines; a line of text with another number is read as the renumbered instruction
  (`ofLine_renumber`).
* `Reply.disguised number change reply` — the answer with other numbers and a changed engine.
* `Engine.Disguise number change` — calls take no notice of the change and the numbers: they go
  along with an instruction, a line and any sequence of requests (`Disguise.execute`,
  `Disguise.executeLine`, `Disguise.answers`).
* `Engine.disguise_renumber`, `Engine.disguise_flushError`, `Engine.disguise_bare` — such changes.
* `Engine.bare engine`, `Reply.bare reply` — without the cleanup, of which a program takes no notice
  (`bare_executeAll`).
-/

namespace Stackline

/-! ## Other numbers -/

/-- The fault at the line with the other number. -/
def LocatedFault.renumber (number : Nat → Nat) (cause : LocatedFault) : LocatedFault :=
  { cause with line := number cause.line }

/-- The error that names the line with the other number, if it names one. -/
def RunError.renumber (number : Nat → Nat) : RunError → RunError
  | .fault cause => .fault (cause.renumber number)
  | .outOfMemory => .outOfMemory
  | .output line reason => .output (number line) reason
  | .halted line => .halted (number line)
  | .source (.unread line reason) => .source (.unread (number line) reason)
  | .source (.unopened path) => .source (.unopened path)

/-- The instruction at the line with the other number. -/
def Instruction.renumber (number : Nat → Nat) (i : Instruction) : Instruction :=
  { i with line := number i.line }

/-- The event with the other numbers. What is counted stays as it is. -/
def Event.renumber (number : Nat → Nat) : Event → Event
  | .executing i => .executing (i.renumber number)
  | .halting cause => .halting (cause.renumber number)
  | event => event

/-- The request for the line with the other number. -/
def Call.renumber (number : Nat → Nat) : Call → Call
  | .line content n memory => .line content (number n) memory
  | .instruction i memory => .instruction (i.renumber number) memory

@[simp]
theorem RunError.renumber_id (cause : RunError) : cause.renumber id = cause := by
  rcases cause with _ | _ | _ | _ | (_ | _) <;> rfl

@[simp]
theorem Instruction.renumber_id (i : Instruction) : i.renumber id = i := rfl

@[simp]
theorem Event.renumber_id (event : Event) : event.renumber id = event := by
  cases event <;> simp [renumber]

@[simp]
theorem Call.renumber_id (call : Call) : call.renumber id = call := by
  cases call <;> rfl

@[simp]
theorem RunError.renumber_eq_outOfMemory_iff {number : Nat → Nat} {cause : RunError} :
    cause.renumber number = .outOfMemory ↔ cause = .outOfMemory := by
  rcases cause with _ | _ | _ | _ | (_ | _) <;> simp [renumber]

@[simp]
theorem Refusal.at_renumber (refusal : Refusal) (number : Nat → Nat) (line : Nat) :
    (refusal.at line).renumber number = refusal.at (number line) := by
  cases refusal <;> rfl

/-- An instruction does the same at every line. -/
@[simp]
theorem Instruction.effect_renumber (number : Nat → Nat) (i : Instruction) (memory : Memory)
    (stack : Stack) : (i.renumber number).effect memory stack = i.effect memory stack :=
  rfl

/-- What a line is read as, with the other number. -/
def Instruction.renumberRead (number : Nat → Nat) :
    Except LocatedFault (Option Instruction) → Except LocatedFault (Option Instruction)
  | .ok first => .ok (first.map (·.renumber number))
  | .error cause => .error (cause.renumber number)

/-- Words are read in the same way at every line. -/
theorem Instruction.Reads.renumber {line : Nat} {words : List (List Char)}
    {result : Except LocatedFault (Option Instruction)} (h : Reads line words result)
    (number : Nat → Nat) : Reads (number line) words (renumberRead number result) := by
  cases h with
  | blank => exact .blank
  | comment arguments hcomment => exact .comment arguments hcomment
  | unknown arguments hcomment hopcode => exact .unknown arguments hcomment hopcode
  | usage hcomment hopcode hargument hvalue => exact .usage hcomment hopcode hargument hvalue
  | push hcomment hopcode hargument hvalue => exact .push hcomment hopcode hargument hvalue
  | plain arguments hcomment hopcode hargument =>
    exact .plain arguments hcomment hopcode hargument

/-- A line of text with another number is read as the same instruction at that number. -/
theorem Instruction.ofLine_renumber (number : Nat → Nat) (content : String) (line : Nat) :
    ofLine content (number line) = renumberRead number (ofLine content line) :=
  reads_iff.1 ((reads_iff.2 rfl).renumber number)

/-! ## Disguises -/

/-- The answer with other numbers of lines, and with a changed engine. -/
def Reply.disguised (number : Nat → Nat) (change : Engine → Engine) (reply : Reply) : Reply :=
  { result := reply.result.mapError (·.renumber number)
    output := reply.output
    events := reply.events.map (·.renumber number)
    engine := change reply.engine }

/-- Where the numbers stay, only the engine changes. -/
theorem Reply.disguised_id (change : Engine → Engine) (reply : Reply) :
    reply.disguised id change = { reply with engine := change reply.engine } := by
  have hresult : reply.result.mapError (·.renumber id) = reply.result := by
    cases reply.result with
    | error cause => exact congrArg Except.error cause.renumber_id
    | ok => rfl
  rw [disguised, hresult, List.map_congr_left fun event _ => event.renumber_id, List.map_id']

/-- Calls that go along with a disguise do so one behind the other. -/
theorem Reply.andThen_disguised {number : Nat → Nat} {change : Engine → Engine} {reply : Reply}
    {next next' : Engine → Reply}
    (h : ∀ engine, next' (change engine) = (next engine).disguised number change) :
    (reply.disguised number change).andThen next' =
      (reply.andThen next).disguised number change := by
  obtain ⟨result, output, events, engine⟩ := reply
  cases result with
  | error cause => rfl
  | ok =>
    rw [@andThen_of_ok _ next rfl, andThen_of_ok rfl]
    simp [disguised, h]

namespace Engine

/-- A change to engines that calls take no notice of, when lines are numbered anew: the changed
engine has the same stack, its sink takes the same, and the change goes along with everything that
calls do to engines. -/
structure Disguise (number : Nat → Nat) (change : Engine → Engine) : Prop where
  /-- Whether the engine is halted does not change. -/
  halted (engine : Engine) : (change engine).halted = engine.halted
  /-- The stack does not change. -/
  stack (engine : Engine) : (change engine).stack = engine.stack
  /-- The sink takes what it took. -/
  write (engine : Engine) (bytes : List UInt8) :
    ((change engine).sink.write bytes).1 = (engine.sink.write bytes).1
  /-- The change goes along with the turn to a line. -/
  turnTo (engine : Engine) (line : Nat) :
    (change engine).turnTo (number line) = change (engine.turnTo line)
  /-- The change goes along with an instruction. -/
  proceed (engine : Engine) (i : Instruction) (memory : Memory) (bytes : List UInt8) :
    (change engine).proceed (i.renumber number) memory bytes =
      change (engine.proceed i memory bytes)
  /-- The change goes along with a halt. -/
  halt (engine : Engine) (cause : RunError) :
    (change engine).halt (cause.renumber number) =
      (change (engine.halt cause).1, (engine.halt cause).2.map (·.renumber number))

namespace Disguise

variable {number : Nat → Nat} {change : Engine → Engine}

theorem stop (h : Disguise number change) (engine : Engine) (cause : RunError)
    (output : List UInt8) (events : List Event) :
    (change engine).stop (cause.renumber number) output (events.map (·.renumber number)) =
      (engine.stop cause output events).disguised number change := by
  simp only [Engine.stop, Reply.disguised, h.halt, List.map_append]
  rfl

/-- A disguised engine answers an instruction with the disguised answer. -/
theorem execute (h : Disguise number change) (engine : Engine) (i : Instruction)
    (memory : Memory) :
    (change engine).execute (i.renumber number) memory =
      (engine.execute i memory).disguised number change := by
  have hexecutes := engine.executes i memory
  generalize engine.execute i memory = reply at hexecutes ⊢
  cases hexecutes with
  | refused hhalted =>
    rw [execute_of_halted ((h.halted engine).trans hhalted)]
    rfl
  | undone refusal hrunning hprinted =>
    rw [← h.stack engine, ← i.effect_renumber number] at hprinted
    rw [execute_of_undone ((h.halted engine).trans hrunning) hprinted, ← h.stop, ← h.turnTo,
      Refusal.at_renumber]
    rfl
  | unwritten bytes reason hrunning hprinted hwrite =>
    rw [← h.stack engine, ← i.effect_renumber number] at hprinted
    rw [← h.write engine] at hwrite
    rw [execute_of_unwritten ((h.halted engine).trans hrunning) hprinted hwrite, ← h.stop,
      h.proceed, h.write]
    rfl
  | done bytes hrunning hprinted hwrite =>
    rw [← h.stack engine, ← i.effect_renumber number] at hprinted
    rw [← h.write engine] at hwrite
    rw [execute_of_done ((h.halted engine).trans hrunning) hprinted hwrite, h.proceed]
    rfl

/-- A disguised engine answers a line with the disguised answer. -/
theorem executeLine (h : Disguise number change) (engine : Engine) (content : String) (line : Nat)
    (memory : Memory) :
    (change engine).executeLine content (number line) memory =
      (engine.executeLine content line memory).disguised number change := by
  have hread := Instruction.ofLine_renumber number content line
  have hexecutes := engine.executesLine content line memory
  generalize engine.executeLine content line memory = reply at hexecutes ⊢
  cases hexecutes with
  | refused hhalted =>
    rw [executeLine_of_halted ((h.halted engine).trans hhalted)]
    rfl
  | faulty cause hrunning hline =>
    rw [hline] at hread
    rw [executeLine_of_error ((h.halted engine).trans hrunning) hread, ← h.stop]
    rfl
  | blank hrunning hline =>
    rw [hline] at hread
    rw [executeLine_of_none ((h.halted engine).trans hrunning) hread]
    rfl
  | instruction i hrunning hline =>
    rw [hline] at hread
    rw [executeLine_of_some ((h.halted engine).trans hrunning) hread, h.execute]

/-- A disguised engine answers a request with the disguised answer. -/
theorem answer (h : Disguise number change) (engine : Engine) (call : Call) :
    (change engine).answer (call.renumber number) =
      (engine.answer call).disguised number change := by
  cases call with
  | line content line memory => exact h.executeLine engine content line memory
  | instruction i memory => exact h.execute engine i memory

/-- A disguised engine answers requests with the disguised answers. -/
theorem answers (h : Disguise number change) (engine : Engine) (calls : List Call) :
    (change engine).answers (calls.map (·.renumber number)) =
      (engine.answers calls).map (·.disguised number change) := by
  induction calls generalizing engine with
  | nil => rfl
  | cons call rest ih =>
    rw [List.map_cons, Engine.answers, Engine.answers, List.map_cons, h.answer, ← ih]
    rfl

/-- A disguised engine executes a program with the disguised answer. -/
theorem executeAll (h : Disguise number change) (engine : Engine) (program : Program) :
    (change engine).executeAll (program.map (·.renumber number)) =
      (engine.executeAll program).disguised number change := by
  induction program generalizing engine with
  | nil => rfl
  | cons i rest ih =>
    rw [List.map_cons, Engine.executeAll, Engine.executeAll, h.execute]
    exact Reply.andThen_disguised ih

end Disguise

/-! ## Numbers and flushes -/

/-- The engine whose latest line has the other number. -/
def renumber (number : Nat → Nat) (engine : Engine) : Engine :=
  { engine with line := number engine.line }

/-- Which numbers the lines have makes no difference but for the numbers. -/
theorem disguise_renumber (number : Nat → Nat) : Disguise number (renumber number) where
  halted _ := rfl
  stack _ := rfl
  write _ _ := rfl
  turnTo _ _ := rfl
  proceed _ _ _ _ := rfl
  halt engine cause := by
    by_cases hmemory : cause = .outOfMemory
    · subst hmemory
      rfl
    · simp [halt, hmemory, renumber, Event.renumber]

theorem finish_renumber (number : Nat → Nat) (engine : Engine) :
    (engine.renumber number).finish = engine.finish.disguised number (renumber number) := by
  obtain ⟨stack, ⟨room, writeError, flushError, flushes⟩, cleanup, line, halted⟩ := engine
  cases flushError <;> rfl

/-- The engine whose sink is flushed with the given outcome. -/
def withFlushError (failure : Option String) (engine : Engine) : Engine :=
  { engine with sink := { engine.sink with flushError := failure } }

/-- The outcome of a flush makes no difference to calls. -/
theorem disguise_flushError (failure : Option String) : Disguise id (withFlushError failure) where
  halted _ := rfl
  stack _ := rfl
  write _ _ := rfl
  turnTo _ _ := rfl
  proceed _ _ _ _ := rfl
  halt engine cause := by
    by_cases hmemory : cause = .outOfMemory
    · subst hmemory
      rfl
    · simp [halt, hmemory, withFlushError, Sink.flush]

end Engine

/-! ## Cleanups -/

/-- The engine without its cleanup. -/
def Engine.bare (engine : Engine) : Engine :=
  { engine with cleanup := { pending := false } }

/-- The answer, with the engine behind it without its cleanup. -/
def Reply.bare (reply : Reply) : Reply :=
  { reply with engine := reply.engine.bare }

/-- Answers that agree without the cleanups agree in everything else. -/
theorem Reply.agree_of_bare_eq {reply twin : Reply} (h : reply.bare = twin.bare) :
    reply.result = twin.result ∧ reply.output = twin.output ∧ reply.events = twin.events ∧
      reply.engine.sink = twin.engine.sink := by
  obtain ⟨hresult, houtput, hevents, hengine⟩ := Reply.mk.inj h
  exact ⟨hresult, houtput, hevents, congrArg (·.sink) hengine⟩

/-- Answers that agree without the cleanups agree behind every call that takes no notice of them. -/
theorem Reply.bare_andThen {reply twin : Reply} {next : Engine → Reply} (h : reply.bare = twin.bare)
    (hnext : ∀ engine, next engine.bare = (next engine).bare) :
    (reply.andThen next).bare = (twin.andThen next).bare := by
  have hnext : ∀ engine, next engine.bare = (next engine).disguised id Engine.bare := fun engine =>
    (hnext engine).trans (disguised_id _ _).symm
  -- Without its cleanup, the call finds the same engine on both sides.
  rw [bare, bare, ← disguised_id, ← disguised_id, ← andThen_disguised hnext,
    ← andThen_disguised hnext, disguised_id, disguised_id]
  exact congrArg (Reply.andThen · next) h

namespace Engine

@[simp]
theorem bare_start (sink : Sink) (hooked : Bool) : (start sink hooked).bare = start sink false :=
  rfl

/-- The cleanup makes no difference to calls. -/
theorem disguise_bare : Disguise id bare where
  halted _ := rfl
  stack _ := rfl
  write _ _ := rfl
  turnTo _ _ := rfl
  proceed _ _ _ _ := rfl
  halt engine cause := by
    by_cases hmemory : cause = .outOfMemory
    · subst hmemory
      rfl
    · simp [halt, hmemory, bare, Cleanup.call]

theorem bare_finish (engine : Engine) : engine.bare.finish = engine.finish.bare :=
  rfl

/-- A program takes no notice of the cleanup. -/
theorem bare_executeAll (engine : Engine) (program : Program) :
    engine.bare.executeAll program = (engine.executeAll program).bare := by
  have hdisguise := disguise_bare.executeAll engine program
  rwa [List.map_congr_left fun i _ => i.renumber_id, List.map_id', Reply.disguised_id] at hdisguise

end Engine

end Stackline
