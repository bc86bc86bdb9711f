import Stackline.Proofs.Instruction.Table
import Stackline.Proofs.Run.Assembled
import Stackline.Proofs.Run.Room

/-!
# Output in whole lines

Whatever values are on the stack, an instruction that prints them prints ASCII characters, and a
newline last. So the output of a program is made of whole lines of ASCII characters, as long as the
sink takes it; a sink with too little room cuts the last line off somewhere.

* `WholeLines bytes` — ASCII characters of which the last one, if there is one, is a newline.
* `Instruction.wholeLines_of_printed` — what an instruction prints is in whole lines.
* `Reply.InLines reply` — the output of an answer is in whole lines, unless the sink is to blame;
  `Engine.inLines_answer` and `Engine.inLines_answers` find it so in every answer.
* `Engine.output_in_wholeLines` — calls and runs, with whatever sink.
-/

namespace Stackline

open Text

/-! ## Whole lines -/

/-- Whether bytes are ASCII characters. -/
def Ascii (bytes : List UInt8) : Prop :=
  ∀ b ∈ bytes, b.toNat ≤ 127

/-- Whether there are no bytes, or a newline is the last of them. -/
def Ended (bytes : List UInt8) : Prop :=
  bytes = [] ∨ bytes.getLast? = some Feed.newline

/-- Bytes that are whole lines of ASCII characters. -/
structure WholeLines (bytes : List UInt8) : Prop where
  /-- They are ASCII characters. -/
  ascii : Ascii bytes
  /-- The last line is ended. -/
  ended : Ended bytes

theorem Ascii.nil : Ascii [] :=
  nofun

theorem Ascii.of_isPrefix {bytes part : List UInt8} (h : Ascii bytes) (hpart : part <+: bytes) :
    Ascii part :=
  fun b hb => h b (hpart.subset hb)

theorem Ascii.flatMap {α : Type} {as : List α} {f : α → List UInt8} (h : ∀ a ∈ as, Ascii (f a)) :
    Ascii (as.flatMap f) := by
  intro b hb
  obtain ⟨a, ha, hb⟩ := List.mem_flatMap.1 hb
  exact h a ha b hb

theorem Ended.nil : Ended [] :=
  .inl rfl

theorem Ended.append {bytes rest : List UInt8} (h : Ended bytes) (hrest : Ended rest) :
    Ended (bytes ++ rest) := by
  rcases hrest with rfl | hlast
  · rw [List.append_nil]
    exact h
  · exact .inr (by rw [List.getLast?_append, hlast, Option.some_or])

theorem Ended.flatMap {α : Type} {as : List α} {f : α → List UInt8} (h : ∀ a ∈ as, Ended (f a)) :
    Ended (as.flatMap f) := by
  induction as with
  | nil => exact .nil
  | cons a as ih =>
    obtain ⟨hfirst, hrest⟩ := List.forall_mem_cons.1 h
    exact hfirst.append (ih hrest)

/-- A newline ends a line. -/
theorem WholeLines.line {content : List UInt8} (h : Ascii content) :
    WholeLines (content ++ [Feed.newline]) where
  ascii := List.forall_mem_append.2 ⟨h, List.forall_mem_singleton.2 (by decide)⟩
  ended := .inr List.getLast?_concat

/-! ## What is printed -/

/-- The code of a character is an ASCII character. -/
theorem Table.toNat_code_le {z : Int} (h : z ≤ 127) : (code z).toNat ≤ 127 := by
  rw [code, UInt8.toNat_ofNat']
  omega

/-- A printed number is a line. -/
theorem wholeLines_numberLine (value : Int32) : WholeLines (numberLine value) := by
  have hnumeral : ∀ c ∈ Numeral.integer value.toInt, c.val.toNat < 0x80 :=
    fun c => Numeral.toNat_lt_of_mem_integer
  rw [numberLine, Utf8.encode_append, Utf8.encode_of_ascii hnumeral]
  refine .line fun b hb => ?_
  obtain ⟨c, hc, rfl⟩ := List.mem_map.1 hb
  have hlt : c.toNat < 0x80 := hnumeral c hc
  rw [UInt8.toNat_ofNat']
  omega

/-- A printed character is an ASCII character. -/
theorem ascii_of_asciiByte? {value : Int32} {b : UInt8} (h : asciiByte? value = some b) :
    Ascii [b] := by
  rw [asciiByte?_eq, Option.ite_none_right_eq_some] at h
  obtain ⟨⟨-, hle⟩, hcode⟩ := h
  rw [← Option.some.inj hcode]
  exact List.forall_mem_singleton.2 (Table.toNat_code_le hle)

/-- A text that values spell is of ASCII characters, whatever the values are. -/
theorem ascii_spelled (values : List Int32) : Ascii (spelled values) := by
  intro b hb
  rw [spelled_eq] at hb
  obtain ⟨z, hz, rfl⟩ := List.mem_map.1 hb
  have hcode := List.mem_takeWhile_imp hz
  rw [decide_eq_true_eq] at hcode
  exact Table.toNat_code_le hcode.2

namespace Instruction

variable {i : Instruction} {memory : Memory} {stack : Stack} {bytes : List UInt8}

/-- What an instruction prints is in whole lines. -/
theorem wholeLines_of_printed (h : (i.effect memory stack).printed = .ok bytes) :
    WholeLines bytes := by
  by_cases hnil : bytes = []
  · rw [hnil]
    exact ⟨.nil, .nil⟩
  have hprinting := opcode_mem_printing h hnil
  obtain ⟨opcode, operand, line⟩ := i
  -- Only what prints something is left.
  cases opcode with
  | pall =>
    obtain rfl := Except.ok.inj h
    exact ⟨.flatMap fun value _ => (wholeLines_numberLine value).ascii,
      .flatMap fun value _ => (wholeLines_numberLine value).ended⟩
  | pint =>
    rw [effect] at h
    cases htop : stack.top? with
    | none =>
      rw [htop] at h
      cases h
    | some value =>
      rw [htop] at h
      obtain rfl := Except.ok.inj h
      exact wholeLines_numberLine value
  | pchar =>
    change (printingChar stack).printed = .ok bytes at h
    unfold printingChar at h
    split at h
    · cases h
    · split at h
      · cases h
      next hbyte =>
        obtain rfl := Except.ok.inj h
        exact .line (ascii_of_asciiByte? hbyte)
  | pstr =>
    obtain rfl := Except.ok.inj h
    exact .line (ascii_spelled stack.toList)
  | push | pop | swap | add | sub | mul | div | mod | nop => simp [Opcode.printing] at hprinting

end Instruction

/-! ## What is put out -/

/-- The output of an answer is in whole lines, unless the sink is to blame that it is not. -/
structure Reply.InLines (reply : Reply) : Prop where
  /-- It is of ASCII characters. -/
  ascii : Ascii reply.output
  /-- The last line is ended, unless the sink did not take it. -/
  ended : (∀ line reason, reply.result ≠ .error (.output line reason)) → Ended reply.output

/-- An answer that puts out nothing is in whole lines. -/
theorem Reply.InLines.of_nil {reply : Reply} (h : reply.output = []) : reply.InLines where
  ascii := by
    rw [h]
    exact .nil
  ended _ := .inl h

/-- A sink takes the bytes that come first. -/
theorem Sink.accepted_write_isPrefix (sink : Sink) (content : List UInt8) :
    (sink.write content).1.accepted <+: content :=
  List.take_prefix _ _

namespace Engine

variable {engine : Engine}

theorem inLines_execute (engine : Engine) (i : Instruction) (memory : Memory) :
    (engine.execute i memory).InLines := by
  have hexecutes := engine.executes i memory
  generalize engine.execute i memory = reply at hexecutes ⊢
  cases hexecutes with
  | refused => exact .of_nil rfl
  | undone => exact .of_nil rfl
  | unwritten bytes reason _ hprinted =>
    -- The last line may be cut off, but the sink is to blame for that.
    have hlines := Instruction.wholeLines_of_printed hprinted
    exact
      { ascii := hlines.ascii.of_isPrefix (engine.sink.accepted_write_isPrefix bytes)
        ended := fun hblame => absurd rfl (hblame i.line reason) }
  | done bytes _ hprinted =>
    have hlines := Instruction.wholeLines_of_printed hprinted
    exact ⟨hlines.ascii, fun _ => hlines.ended⟩

theorem inLines_answer (engine : Engine) (call : Call) : (engine.answer call).InLines := by
  cases call with
  | instruction i memory => exact engine.inLines_execute i memory
  | line content number memory =>
    rw [answer]
    have hexecutes := engine.executesLine content number memory
    generalize engine.executeLine content number memory = reply at hexecutes ⊢
    cases hexecutes with
    | refused => exact .of_nil rfl
    | faulty => exact .of_nil rfl
    | blank => exact .of_nil rfl
    | instruction i => exact engine.inLines_execute i memory

/-- A sink without a limit is never to blame. -/
theorem result_execute_ne_output (hroom : engine.sink.room = none) (i : Instruction)
    (memory : Memory) (line : Nat) (reason : String) :
    (engine.execute i memory).result ≠ .error (.output line reason) := by
  intro h
  have hexecutes := engine.executes i memory
  generalize engine.execute i memory = reply at h hexecutes
  cases hexecutes with
  | refused => cases h
  | undone refusal =>
    cases refusal with
    | fault => cases h
    | outOfMemory => cases h
  | unwritten bytes reason' _ _ hwrite =>
    rw [Sink.write_of_unlimited hroom] at hwrite
    cases hwrite
  | done => cases h

theorem result_answer_ne_output (hroom : engine.sink.room = none) (call : Call) (line : Nat)
    (reason : String) : (engine.answer call).result ≠ .error (.output line reason) := by
  cases call with
  | instruction i memory => exact result_execute_ne_output hroom i memory line reason
  | line content number memory =>
    intro h
    have hexecutes := engine.executesLine content number memory
    rw [answer] at h
    generalize engine.executeLine content number memory = reply at h hexecutes
    cases hexecutes with
    | refused => cases h
    | faulty => cases h
    | blank => cases h
    | instruction i => exact result_execute_ne_output hroom i memory line reason h

/-- Every answer is given by the engine behind the calls before it. -/
theorem exists_answer_of_mem {calls : List Call} {reply : Reply}
    (h : reply ∈ engine.answers calls) :
    ∃ earlier call later, calls = earlier ++ call :: later ∧
      reply = (engine.after earlier).answer call := by
  induction calls generalizing engine with
  | nil => exact nomatch h
  | cons call rest ih =>
    rcases List.mem_cons.1 h with rfl | hrest
    · exact ⟨[], call, rest, rfl, rfl⟩
    · obtain ⟨earlier, call', later, rfl, hreply⟩ := ih hrest
      exact ⟨call :: earlier, call', later, rfl, hreply⟩

/-- Whatever the sink takes, the output of every answer is in whole lines, unless the sink is to
blame. -/
theorem inLines_answers (engine : Engine) (calls : List Call) :
    ∀ reply ∈ engine.answers calls, reply.InLines := by
  intro reply hreply
  obtain ⟨earlier, call, later, -, rfl⟩ := exists_answer_of_mem hreply
  exact inLines_answer _ call

/-- On a sink without a limit, every answer ends its last line. -/
theorem ended_answers (hroom : engine.sink.room = none) (calls : List Call) :
    ∀ reply ∈ engine.answers calls, Ended reply.output := by
  intro reply hreply
  obtain ⟨earlier, call, later, -, rfl⟩ := exists_answer_of_mem hreply
  -- The sink is still without a limit behind the calls before this one.
  have hunlimited := (engine.used_after earlier).unlimited hroom
  exact (inLines_answer _ call).ended (result_answer_ne_output hunlimited call)

/-- The output of a run is what the calls for its lines print. -/
theorem exists_output_run (engine : Engine) (source : Source) :
    ∃ calls, (engine.run source).output = engine.printed calls := by
  obtain ⟨lines, ending, last, hyields⟩ := source.exists_yields
  refine ⟨lines.map SourceLine.call, ?_⟩
  have hlines := (run_reports hyields engine).output
  rw [Reply.output_andThen fun engine => engine.output_conclude ending,
    executeLines_eq_answers] at hlines
  exact hlines

/-- Whatever was called before and whatever the sink is, all that calls put out is ASCII characters,
and so is all that a run puts out. What a call puts out is nothing, or it ends in a newline, unless
the call fails because the sink does not take what it prints.

A sink without a limit takes everything. On such a sink, what a call puts out is nothing, or it ends
in a newline, whether the call succeeds, is at fault, runs out of memory or is refused. So what any
calls put out together is nothing, or it ends in a newline, and so it is for a run, however it
ends. -/
theorem output_in_wholeLines (engine : Engine) (calls : List Call) (source : Source) :
    (∀ reply ∈ engine.answers calls, reply.InLines) ∧
    Ascii (engine.printed calls) ∧
    Ascii (engine.run source).output ∧
    (engine.sink.room = none →
      (∀ reply ∈ engine.answers calls, Ended reply.output) ∧
      Ended (engine.printed calls) ∧
      Ended (engine.run source).output) := by
  have hascii : ∀ calls, Ascii (engine.printed calls) := fun calls =>
    .flatMap fun reply hreply => (engine.inLines_answers calls reply hreply).ascii
  obtain ⟨lines, hrun⟩ := engine.exists_output_run source
  refine ⟨engine.inLines_answers calls, hascii calls, ?_, fun hroom => ?_⟩
  · rw [hrun]
    exact hascii lines
  · have hended : ∀ calls, Ended (engine.printed calls) := fun calls =>
      .flatMap (ended_answers hroom calls)
    refine ⟨ended_answers hroom calls, hended calls, ?_⟩
    rw [hrun]
    exact hended lines

/-- A printed newline, a negative number, a text that ends before it begins, a push for which there
is no room, and a line behind it. -/
theorem output_in_wholeLines_outOfMemory :
    let engine := start {}
    let calls : List Call :=
      [.line "push 10" 1, .line "pchar" 2, .line "push -5" 3, .line "pint" 4, .line "pstr" 5,
        .line "push 7" 6 .refused, .line "pall" 7]
    let source := Source.ofText "push 200\npall\npchar\n"
    engine.sink.room = none ∧
    (engine.answers calls).map (·.output) =
      [[], [10, 10], [], [45, 53, 10], [10], [], []] ∧
    Ended (engine.printed calls) ∧
    (engine.run source).result = .error (.fault (Fault.pcharOutOfRange.at 3)) ∧
    Ascii (engine.run source).output ∧
    Ended (engine.run source).output := by
  intro engine calls source
  obtain ⟨-, -, hascii, hended⟩ := output_in_wholeLines engine calls source
  obtain ⟨-, hcalls, hrun⟩ := hended rfl
  obtain ⟨last, hyields⟩ := Source.yields_ofText "push 200\npall\npchar\n"
  have hresult : (engine.run source).result = .error (.fault (Fault.pcharOutOfRange.at 3)) := by
    refine (run_reports hyields engine).result.trans ?_
    rfl
  exact ⟨rfl, by decide +kernel, hcalls, hresult, hascii, hrun⟩

end Engine

end Stackline
