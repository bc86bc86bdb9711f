import Stackline.Proofs.Engine.Moved
import Stackline.Proofs.Instruction.Table
import Stackline.Proofs.Run.Followed

/-!
# Lines that change nothing

Blank lines, comments, instructions that do nothing, and a push with a pop behind it may be put
between the lines of a program. The run comes to the same, and what was behind these lines is
further down.

* `Silent contents` — lines that spell no instruction. They leave the engine as it is
  (`Engine.executeLines_of_silent`).
* `Restoring contents` — lines whose instructions leave everything as it is but the line that the
  engine is at (`Engine.executeLines_of_restoring`).
* `Engine.Moved.executeLines_inserted` — the lines of a program with and without such lines.
* `run_inserted` — the run of a program with and without such lines.
-/

namespace Stackline

open Text

/-- Lines of bytes that spell no instruction. -/
inductive Silent : List (List UInt8) → Prop where
  /-- A line without words. -/
  | blank {content : List UInt8} : words (Utf8.decode content) = [] → Silent [content]
  /-- A line whose first word begins with a number sign. -/
  | comment {content : List UInt8} {word : List Char} {rest : List (List Char)} :
      words (Utf8.decode content) = word :: rest → word.head? = some '#' → Silent [content]

/-- Lines of bytes that spell instructions to no effect. -/
inductive Restoring : List (List UInt8) → Prop where
  /-- An instruction that does nothing. -/
  | nop {content : List UInt8} {rest : List (List Char)} :
      words (Utf8.decode content) = "nop".toList :: rest → Restoring [content]
  /-- A push of any value, and a pop that takes the value away again. -/
  | pushPop {pushing popping : List UInt8} {numeral : List Char} {value : Int32}
      {rest rest' : List (List Char)} :
      words (Utf8.decode pushing) = "push".toList :: numeral :: rest →
      Numeral.int32? numeral = some value →
      words (Utf8.decode popping) = "pop".toList :: rest' → Restoring [pushing, popping]

/-! ## Numbers of lines -/

namespace SourceLine

/-- Lines that are numbered in order stay so where the new numbers are in order. -/
theorem map_renumber_decoded {number : Nat → Nat} {first first' : Nat}
    {contents : List (List UInt8)}
    (h : ∀ k < contents.length, number (first + k) = first' + k) :
    (decoded first contents).map (·.renumber number) = decoded first' contents := by
  induction contents generalizing first first' with
  | nil => rfl
  | cons content contents ih =>
    have hfirst : number first = first' := h 0 (Nat.succ_pos _)
    have hrest : ∀ k < contents.length, number (first + 1 + k) = first' + 1 + k := by
      intro k hk
      rw [Nat.add_right_comm, Nat.add_assoc, h (k + 1) (Nat.succ_lt_succ hk)]
      omega
    rw [decoded_cons, decoded_cons, List.map_cons, ih hrest, renumber, hfirst]

/-- Lines that are numbered in order have no number below the first one. -/
theorem first_le_of_mem_decoded {first : Nat} {contents : List (List UInt8)} {line : SourceLine}
    (h : line ∈ decoded first contents) : first ≤ line.number := by
  induction contents generalizing first with
  | nil => exact nomatch h
  | cons content contents ih =>
    rw [decoded_cons, List.mem_cons] at h
    rcases h with rfl | hrest
    · exact Nat.le_refl first
    · exact Nat.le_of_succ_le (ih hrest)

end SourceLine

/-! ## Lines to no effect -/

/-- A line of bytes is read by its words; that its text was trimmed does not matter. -/
theorem Instruction.ofLine_lineText {content : List UInt8} {ws : List (List Char)} {line : Nat}
    {result : Except LocatedFault (Option Instruction)}
    (hwords : words (Utf8.decode content) = ws) (h : Reads line ws result) :
    ofLine (Source.lineText content) line = result := by
  subst hwords
  exact reads_iff_ofLine_lineText.1 h

namespace Engine

variable {engine : Engine} {contents : List (List UInt8)}

/-- A line with an instruction that prints nothing succeeds on every sink. -/
theorem executeLine_of_effect_eq_done {content : String} {line : Nat} {i : Instruction}
    {stack : Stack} (hrunning : engine.halted = false)
    (hline : Instruction.ofLine content line = .ok (some i))
    (heffect : i.effect .granted engine.stack = .done stack) :
    engine.executeLine content line =
      { result := .ok (), output := [], events := [.executing i],
        engine := { engine with stack, line } } := by
  have hprinted : (i.effect .granted engine.stack).printed = .ok [] := by
    rw [heffect]
    rfl
  rw [executeLine_of_some hrunning hline,
    execute_of_done hrunning hprinted (by rw [Sink.write_nil]), proceed, heffect, Sink.write_nil,
    Instruction.line_of_ofLine_eq_some hline]
  rfl

/-- Lines that spell no instruction leave the engine as it is. -/
theorem executeLines_of_silent (hrunning : engine.halted = false) (h : Silent contents)
    (first : Nat) : engine.executeLines (SourceLine.decoded first contents) = engine.idle := by
  have hnone : ∀ content, Instruction.ofLine (Source.lineText content) first = .ok none →
      engine.executeLines (SourceLine.decoded first [content]) = engine.idle := by
    intro content hline
    rw [SourceLine.decoded_cons, executeLines, executeLine_of_none hrunning hline]
    rfl
  cases h with
  | blank hwords => exact hnone _ (Instruction.ofLine_lineText hwords .blank)
  | comment hwords hcomment =>
    exact hnone _ (Instruction.ofLine_lineText hwords (.comment _ hcomment))

/-- Lines with instructions to no effect take the engine to another line, and do nothing else. -/
theorem executeLines_of_restoring (hrunning : engine.halted = false) (h : Restoring contents)
    (first : Nat) :
    ∃ line events, engine.executeLines (SourceLine.decoded first contents) =
      { result := .ok (), output := [], events, engine := engine.turnTo line } := by
  cases h with
  | @nop content rest hwords =>
    have hline : Instruction.ofLine (Source.lineText content) first =
        .ok (some { opcode := .nop, operand := none, line := first }) :=
      Instruction.ofLine_lineText hwords (.plain rest (by decide) (by decide) rfl)
    refine ⟨first, [.executing { opcode := .nop, operand := none, line := first }], ?_⟩
    rw [SourceLine.decoded_cons, executeLines, executeLine_of_effect_eq_done hrunning hline rfl]
    rfl
  | @pushPop pushing popping numeral value rest rest' hpush hvalue hpop =>
    have hopcode : Opcode.ofMnemonic? (String.ofList "push".toList) = some .push := by decide
    have hpushing : Instruction.ofLine (Source.lineText pushing) first =
        .ok (some (.push value first)) :=
      Instruction.ofLine_lineText hpush (.push (by decide) hopcode rfl hvalue)
    have hpopping : Instruction.ofLine (Source.lineText popping) (first + 1) =
        .ok (some { opcode := .pop, operand := none, line := first + 1 }) :=
      Instruction.ofLine_lineText hpop (.plain rest' (by decide) (by decide) rfl)
    -- The pop finds the value on the stack and uncovers what was there before.
    let pushed : Engine := { engine with stack := engine.stack.push value, line := first }
    have heffect : (Instruction.mk .pop none (first + 1)).effect .granted pushed.stack =
        .done engine.stack := by
      rw [Instruction.effect, Stack.top?_push, Stack.pop_push]
      rfl
    have hfirst := executeLine_of_effect_eq_done hrunning hpushing rfl
    have hsecond := @executeLine_of_effect_eq_done pushed _ _ _ _ hrunning hpopping heffect
    refine ⟨first + 1, [.executing (.push value first),
      .executing { opcode := .pop, operand := none, line := first + 1 }], ?_⟩
    rw [SourceLine.decoded_cons, SourceLine.decoded_cons, executeLines, hfirst,
      Reply.andThen_of_ok rfl, executeLines]
    dsimp only
    rw [hsecond]
    rfl

/-- Lines of a program are executed to the same effect with lines to no effect among them. Those
behind are further down; the line of the engine makes no difference where no flush fails. -/
theorem Moved.executeLines_inserted {number : Nat → Nat}
    {earlier inserted later : List (List UInt8)} (h : engine.Moved number engine)
    (hrunning : engine.halted = false)
    (hearlier : ∀ k < earlier.length, number (1 + k) = 1 + k)
    (hlater : ∀ k < later.length,
      number (1 + earlier.length + k) = 1 + earlier.length + inserted.length + k)
    (hinserted : Silent inserted ∨ Restoring inserted)
    (hflush : Silent inserted ∨ engine.sink.flushError = none) :
    (engine.executeLines (SourceLine.decoded 1 (earlier ++ later))).Moved number
      (engine.executeLines (SourceLine.decoded 1 (earlier ++ (inserted ++ later)))) := by
  have hbefore := h.executeLines (SourceLine.decoded 1 earlier)
  rw [SourceLine.map_renumber_decoded hearlier] at hbefore
  rw [SourceLine.decoded_append, SourceLine.decoded_append 1 earlier (inserted ++ later),
    executeLines_append, executeLines_append]
  refine hbefore.andThen fun _ hok => ?_
  have hbehind := (continues_executeLines hrunning hok).running
  rw [SourceLine.decoded_append, executeLines_append, ← SourceLine.map_renumber_decoded hlater]
  -- The lines in between leave the engine where it is, or take it to another line.
  by_cases hsilent : Silent inserted
  · rw [executeLines_of_silent hbehind hsilent, idle_andThen]
    exact hbefore.engine.executeLines _
  · obtain ⟨line, events, hline⟩ := executeLines_of_restoring hbehind
      (hinserted.resolve_left hsilent) (1 + earlier.length)
    have hnoFlush : (engine.executeLines (SourceLine.decoded 1 earlier)).engine.sink.flushError =
        none := by
      rw [(used_executeLines _ _).flushError]
      exact hflush.resolve_left hsilent
    rw [hline, Reply.andThen_of_ok rfl]
    obtain ⟨hresult, houtput, hengine⟩ := (hbefore.engine.trans_turnTo hnoFlush line).executeLines
      (SourceLine.decoded (1 + earlier.length) later)
    exact ⟨hresult, houtput, hengine⟩

/-- Lines that fail at one of the first numbers fail without the lines that are further down. -/
theorem executeLines_eq_error_of_line_lt {earlier later : List (List UInt8)} {cause : RunError}
    {n : Nat} (hrunning : engine.halted = false)
    (hfails : (engine.executeLines (SourceLine.decoded 1 (earlier ++ later))).result =
      .error cause)
    (hline : cause.line? = some n) (hlt : n < earlier.length + 1) :
    (engine.executeLines (SourceLine.decoded 1 earlier)).result = .error cause := by
  rw [SourceLine.decoded_append, executeLines_append] at hfails
  rcases Reply.andThen_eq_error hfails with hearlier | ⟨hearlier, hlater⟩
  · exact hearlier
  · -- An error of the others would name one of their numbers.
    obtain ⟨line, hmem, hraised⟩ :=
      raisedAt_of_executeLines (continues_executeLines hrunning hearlier).running hlater
    have hnumber : line.number = n := Option.some.inj (hraised.line?_eq.symm.trans hline)
    have hfirst := SourceLine.first_le_of_mem_decoded hmem
    omega

end Engine

/-! ## Runs -/

/-- Runs agree but for the numbers of the lines where the calls that they come to do. -/
theorem Outcome.Reports.agree_of_moved {number : Nat → Nat} {old new : Outcome}
    {reply twin : Reply} (hold : old.Reports reply) (hnew : new.Reports twin)
    (h : reply.Moved number twin) :
    new.output = old.output ∧
      new.result = old.result.mapError (·.renumber number) ∧
      new.engine = old.engine.turnTo new.engine.line := by
  rw [hnew.output, hnew.result, hnew.engine, hold.output, hold.result, hold.engine]
  exact ⟨h.output, h.result, h.engine.same⟩

/-- Between the lines of a program, none of which holds a newline and each of which ends in one,
there may be a blank line, a comment, an instruction that does nothing, or a push and a pop. Let
these lines begin at line `i`. However the two programs are delivered, on every sink they are run to
the same effect: they print the same, their results agree but for the line that an error names,
which is further down behind the insertion, and the engines behind them agree but for their lines.
For instructions, this holds where flushing the sink does not fail.

If the run of the program without these lines is halted by a line before them, they change nothing
at all. -/
theorem run_inserted {earlier inserted later : List (List UInt8)}
    (hlines : ∀ content ∈ earlier ++ inserted ++ later, Feed.newline ∉ content)
    (hinserted : Silent inserted ∨ Restoring inserted) {plain longer : Feed}
    (hplain : plain.symbols = (ended Feed.newline (earlier ++ later)).map .byte)
    (hlonger : longer.symbols = (ended Feed.newline (earlier ++ inserted ++ later)).map .byte)
    (sink : Sink) :
    let i := earlier.length + 1
    let number := fun n => if n < i then n else n + inserted.length
    let old := run (Source.ofFeed plain) sink
    let new := run (Source.ofFeed longer) sink
    (Silent inserted ∨ sink.flushError = none →
      new.output = old.output ∧
      new.result = old.result.mapError (·.renumber number) ∧
      new.engine = old.engine.turnTo new.engine.line) ∧
    ∀ cause n, old.result = .error cause → cause.line? = some n → n < i →
      old.engine.halted = true → new = old := by
  intro i number old new
  have hlines' : ∀ content ∈ earlier ++ later, Feed.newline ∉ content := by
    intro content hmem
    refine hlines content ?_
    simp only [List.mem_append] at hmem ⊢
    exact hmem.imp_left .inl
  -- Both sources hand out the lines that they were given, numbered from one.
  obtain ⟨last, hyields⟩ := Source.yields_of_ended hlines' hplain
  obtain ⟨last', hyields'⟩ := Source.yields_of_ended hlines hlonger
  rw [List.append_assoc] at hyields'
  have hold : old.Reports _ := Engine.run_reports hyields (Engine.start sink)
  have hnew : new.Reports _ := Engine.run_reports hyields' (Engine.start sink)
  refine ⟨fun hflush => ?_, fun cause n hcause hline hlt hhalted => ?_⟩
  · have hstart : (Engine.start sink).Moved number (Engine.start sink) :=
      ⟨rfl, .inl (if_pos (Nat.succ_pos _)).symm⟩
    have hearlier : ∀ k < earlier.length, number (1 + k) = 1 + k := by
      intro k hk
      exact if_pos (by omega)
    have hlater : ∀ k < later.length,
        number (1 + earlier.length + k) = 1 + earlier.length + inserted.length + k := by
      intro k _
      exact (if_neg (by omega)).trans (by omega)
    have hmoved := hstart.executeLines_inserted rfl hearlier hlater hinserted hflush
    exact hold.agree_of_moved hnew (hmoved.andThen fun _ _ => hmoved.engine.finish)
  · obtain ⟨cause', hfails⟩ := (halted_run_iff hyields).1 hhalted
    rw [hold.result, Reply.andThen_of_error hfails] at hcause
    have hearlier := Engine.executeLines_eq_error_of_line_lt rfl hcause hline hlt
    rw [SourceLine.decoded_append] at hyields hyields'
    exact run_eq_of_failed_lines hyields' hyields hearlier

/-- A pop that finds nothing on the stack, at the third line. With a push and a pop before it, it is
at the fifth line, and a comment behind it changes nothing. -/
theorem run_inserted_pop :
    let line := fun text : String => Utf8.encode text.toList
    let source := fun contents => Source.ofFeed [.bytes (ended Feed.newline contents)]
    let earlier := [line "push 1", line "pop"]
    let inserted := [line "push -7", line " pop"]
    let failing := [line "pop"]
    let comment := [line "#done"]
    Restoring inserted ∧ Silent comment ∧
    (run (source (earlier ++ failing)) {}).result = .error (.fault (Fault.popEmpty.at 3)) ∧
    (run (source (earlier ++ inserted ++ failing)) {}).result =
      .error (.fault (Fault.popEmpty.at 5)) ∧
    run (source (earlier ++ failing ++ comment)) {} = run (source (earlier ++ failing)) {} := by
  intro line source earlier inserted failing comment
  have hrestoring : Restoring inserted :=
    @Restoring.pushPop _ _ "-7".toList (-7) [] [] (by decide) (by decide) (by decide)
  have hsilent : Silent comment := @Silent.comment _ "#done".toList [] (by decide) (by decide)
  have hsymbols : ∀ contents, Feed.symbols [.bytes (ended Feed.newline contents)] =
      (ended Feed.newline contents).map .byte := by
    intro contents
    simp [Feed.symbols]
  obtain ⟨last, hyields⟩ := Source.yields_of_symbols (hsymbols (earlier ++ failing))
  have hresult : (run (source (earlier ++ failing)) {}).result =
      .error (.fault (Fault.popEmpty.at 3)) := by
    rw [run, (Engine.run_reports hyields _).result]
    rfl
  have hhalted : (run (source (earlier ++ failing)) {}).engine.halted = true :=
    (halted_run_iff hyields).2 ⟨_, by rfl⟩
  obtain ⟨hbefore, -⟩ := @run_inserted earlier inserted failing (by decide) (.inr hrestoring)
    _ _ (hsymbols _) (hsymbols _) {}
  obtain ⟨-, hbehind⟩ := @run_inserted (earlier ++ failing) comment [] (by decide) (.inl hsilent)
    _ _ (hsymbols _) (hsymbols _) {}
  refine ⟨hrestoring, hsilent, hresult, ?_, hbehind _ 3 hresult rfl (by decide) hhalted⟩
  rw [(hbefore (.inr rfl)).2.1, hresult]
  rfl

end Stackline
