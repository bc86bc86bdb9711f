import Stackline.Proofs.Command.Diagnostic

/-!
# What a setting makes of a command

Events are written as they happen, and the diagnostic is written when all is over. So a setting puts
lines in front of what a command writes without it, and nothing else comes of it. This holds for
every library that writes the lines and decides which of them to write.

* `Command.exists_closesWith` — no event stands behind the diagnostic or the complaint.
* `Command.Happens files arguments happened` — the events of a command, by the ways in which it
  ends.
* `Exit.log_sublist_log` — a decision that lets more through adds lines.
* `Command.report_eq_log_append` — a decision puts its lines in front of what is written anyway.
* `Command.invoke_logged` — settings, and two decisions of which one is stricter.
-/

namespace Stackline

open Text

/-- A decision that lets more through adds lines, and keeps the others in their order. -/
theorem Exit.log_sublist_log {strict lax : Event → Bool}
    (h : ∀ event, strict event = true → lax event = true) (exit : Exit)
    (written : Nat → Event → String) :
    (exit.log written strict).Sublist (exit.log written lax) :=
  List.Sublist.map _ (List.monotone_filter_right _ fun pair hstrict => h pair.1 hstrict)

/-- A filter that asks for nothing but a level lets that level through, and the more important
ones. -/
theorem Event.Filter.admits_least {least : Level} {event : Event} :
    Admits [{ target := [], level := some least }] event ↔ event.level.rank ≤ least.rank := by
  have hgoverning : governing [{ target := [], level := some least }] event =
      some { target := [], level := some least } := by
    simp [governing, Directive.Concerns, Condition.Holds]
  simp [Admits, hgoverning, Directive.Admits]

/-- The plain library decides by the filter that a setting spells. -/
theorem Logging.plain_admits {text : String} {filter : Event.Filter}
    (h : Event.Filter.ofText? text.toList = some filter) (event : Event) :
    plain.admits (some (SystemText.ofString text)) event = true ↔ filter.Admits event := by
  simp [admits, plain, h]

namespace Command

variable {files : PathBytes → Except OpenFailure Feed}

/-- However a command ends, no event stands behind what it has to tell. -/
theorem exists_closesWith (files : PathBytes → Except OpenFailure Feed)
    (arguments : List SystemText) :
    ∃ happened closing, (run files arguments).ClosesWith happened closing := by
  rcases spelled_or_illFormed arguments with
    ⟨spelled, rfl⟩ | ⟨earlier, argument, later, rfl, hargument⟩
  · obtain ⟨happened, diagnostic, -, hcloses⟩ := exists_concludes files spelled
    exact ⟨happened, diagnostic.map .diagnostic, hcloses⟩
  · rw [run_of_illFormed hargument]
    exact ⟨[], some (.complaint argument), rfl, rfl⟩

/-- What happens in a command that can be asked for: its arguments, given what opening a path gives,
and the events in order. -/
inductive Happens (files : PathBytes → Except OpenFailure Feed) :
    List SystemText → List Event → Prop where
  /-- An argument spells no text. -/
  | complained {arguments : List SystemText} {argument : SystemText} :
      argument ∈ arguments → Utf8.IllFormed argument → Happens files arguments []
  /-- There is not one argument behind the name. -/
  | misused {spelled : List String} : spelled.length ≠ 2 →
      Happens files (spelled.map SystemText.ofString) []
  /-- The file cannot be opened. -/
  | unopened {name path : String} {failure : OpenFailure} :
      files (Utf8.encode path.toList) = .error failure →
      Happens files [SystemText.ofString name, SystemText.ofString path]
        [.openFailed path failure.message]
  /-- The run fails. -/
  | failed {name path : String} {feed : Feed} {cause : RunError} :
      files (Utf8.encode path.toList) = .ok feed →
      (Stackline.run (Source.ofFeed feed) {}).result = .error cause →
      Happens files [SystemText.ofString name, SystemText.ofString path]
        (.fileOpened path :: ((Stackline.run (Source.ofFeed feed) {}).events ++
          [.runFailed path cause.line?]))
  /-- The run goes well. -/
  | succeeded {name path : String} {feed : Feed} :
      files (Utf8.encode path.toList) = .ok feed →
      (Stackline.run (Source.ofFeed feed) {}).result = .ok () →
      Happens files [SystemText.ofString name, SystemText.ofString path]
        (.fileOpened path :: (Stackline.run (Source.ofFeed feed) {}).events)

/-- A command that ends in one of its ways has had the events of that way. -/
theorem Concludes.happens {spelled : List String} {code : UInt8} {output : List UInt8}
    {diagnostic : Option String} (h : Concludes files spelled code output diagnostic) :
    Happens files (spelled.map SystemText.ofString)
      (run files (spelled.map SystemText.ofString)).events := by
  cases h with
  | misused hcount =>
    rw [run_of_misused hcount]
    exact .misused hcount
  | unopened hfile =>
    rw [List.map_cons, List.map_cons, List.map_nil, run_of_unopened hfile]
    exact .unopened hfile
  | failed hfile hresult =>
    rw [List.map_cons, List.map_cons, List.map_nil,
      (closesWith_of_failed hfile hresult).events_eq]
    exact .failed hfile hresult
  | succeeded hfile hresult =>
    rw [List.map_cons, List.map_cons, List.map_nil, run_of_succeeded hfile hresult,
      @Exit.ClosesWith.events_eq _ _ none ⟨(List.append_nil _).symm, rfl⟩]
    exact .succeeded hfile hresult

/-- What happens in a command follows from its arguments and the files. -/
theorem happens_run (files : PathBytes → Except OpenFailure Feed) (arguments : List SystemText) :
    Happens files arguments (run files arguments).events := by
  rcases spelled_or_illFormed arguments with
    ⟨spelled, rfl⟩ | ⟨earlier, argument, later, rfl, hargument⟩
  · obtain ⟨_, _, hconcludes, -⟩ := exists_concludes files spelled
    exact hconcludes.happens
  · rw [run_of_illFormed hargument]
    exact .complained (List.mem_append_right _ List.mem_cons_self) hargument

/-- Whatever is decided about the events, the lines for those that are let through stand in front of
what the command writes without a setting. -/
theorem report_eq_log_append {host : Host} (hlawful : host.logging.Lawful)
    (arguments : List SystemText) (admits : Event → Bool) :
    (run host.files arguments).report host admits =
      String.join ((run host.files arguments).log host.logging.written admits) ++
        (invoke host none arguments).report := by
  -- What closes the events is written alike under every decision, and alone without a setting.
  obtain ⟨happened, closing, hcloses⟩ := exists_closesWith host.files arguments
  have hquiet : (invoke host none arguments).report =
      closing.elim "" (·.written host (fun _ => false) 0) :=
    hcloses.report_of_silent hlawful.admits_none
  rw [hcloses.report_eq, hquiet]

/-- Whatever the host is and its files are, and whatever the arguments and the setting are, a
command has the exit code and the output that it has without a setting. What it writes beside the
output is the lines for the events that the setting asks for, all of them, and then what it writes
without a setting. What happens depends on the files and the arguments alone.

How the lines look, and which events a setting asks for, is up to the library that writes them. If
one decision lets through all the events that a stricter one does, the lines that the stricter one
leaves are among its own, in the same order. -/
theorem invoke_logged {host : Host} (hlawful : host.logging.Lawful) (arguments : List SystemText) :
    let exit := run host.files arguments
    let quiet := invoke host none arguments
    Happens host.files arguments exit.events ∧
    (∀ setting : Option SystemText,
      let transcript := invoke host setting arguments
      transcript.code = quiet.code ∧ transcript.output = quiet.output ∧
        transcript.report =
          String.join (exit.log host.logging.written (host.logging.admits setting)) ++
            quiet.report) ∧
    ∀ (written : Nat → Event → String) (strict lax : Event → Bool),
      (∀ event, strict event = true → lax event = true) →
      (exit.log written strict).Sublist (exit.log written lax) := by
  intro exit quiet
  refine ⟨happens_run host.files arguments, fun setting => ⟨rfl, rfl, ?_⟩,
    fun written strict lax h => ?_⟩
  · exact report_eq_log_append hlawful arguments (host.logging.admits setting)
  · exact Exit.log_sublist_log h exit written

/-- The second line is at fault, and the run is taken down there. A setting that asks for warnings
shows the halt; one that asks for more shows the opened and the closed file as well. -/
theorem invoke_logged_warn :
    let content := Utf8.encode "push 1\nbogus\n".toList
    let host := Host.plain fun _ => .ok [.bytes content]
    let arguments := [SystemText.ofString "monty", SystemText.ofString "program"]
    let exit := run host.files arguments
    let strict := host.logging.admits (some (SystemText.ofString "warn"))
    let lax := host.logging.admits (some (SystemText.ofString "debug"))
    let halting := " WARN monty_vm::machine: halting run err=L2: unknown instruction bogus\n"
    host.logging.Lawful ∧ (∀ event, strict event = true → lax event = true) ∧
    exit.log host.logging.written strict = [halting] ∧
    exit.log host.logging.written lax =
      ["DEBUG monty_assembler::source: opened program path=program\n", halting,
        "DEBUG monty_assembler::source: closed program source lines=2\n",
        "DEBUG monty::commands: run failed path=\"program\" line=Some(2)\n"] ∧
    (exit.log host.logging.written strict).Sublist (exit.log host.logging.written lax) ∧
    (invoke host (some (SystemText.ofString "warn")) arguments).report =
      halting ++ "L2: unknown instruction bogus\n" := by
  intro content host arguments exit strict lax halting
  let cause := (Fault.unknownInstruction "bogus").at 2
  obtain ⟨last, hyields⟩ := @Source.yields_of_symbols [.bytes content] content (by decide)
  have hwarn : Event.Filter.ofText? "warn".toList =
      some [{ target := [], level := some .warn }] := by decide
  have hdebug : Event.Filter.ofText? "debug".toList =
      some [{ target := [], level := some .debug }] := by decide
  have hlax : ∀ event, strict event = true → lax event = true := by
    intro event hevent
    have hrank := Event.Filter.admits_least.1 ((Logging.plain_admits hwarn event).1 hevent)
    exact (Logging.plain_admits hdebug event).2
      (Event.Filter.admits_least.2 (hrank.trans (by decide)))
  have hlines : Program.onLines ((SourceLine.decoded 1 (pieces Feed.newline content)).take 2) =
      [.push 1 1] := by decide
  obtain ⟨n, -, -, hraised, hends⟩ := @ends_of_failed_line {} _ _ _ _ (.fault cause) hyields rfl
  -- The line that fails is the one that the fault is located at.
  obtain rfl : 2 = n := Option.some.inj hraised.line?_eq
  have hfailed := @closesWith_of_failed host.files "monty" "program" _ _ rfl hends.result
  have hevents : exit.events =
      [.fileOpened "program", .executing (.push 1 1), .halting (.fault cause), .sourceClosed 2,
        .runFailed "program" (some 2)] := by
    rw [hfailed.events_eq, hends.events, hlines]
    rfl
  have hstrict : exit.log host.logging.written strict = [halting] := by
    rw [Exit.log, hevents]
    decide +kernel
  obtain ⟨-, hsettings, hsublist⟩ := @invoke_logged host Logging.plain_lawful arguments
  obtain ⟨-, -, hreport⟩ := hsettings (some (SystemText.ofString "warn"))
  have hmessage : cause.message ++ "\n" = "L2: unknown instruction bogus\n" := by decide
  have hquiet : (invoke host none arguments).report = "L2: unknown instruction bogus\n" :=
    (@report_of_diagnostic exit host Logging.plain_lawful _ (some cause.message)
      hfailed).trans hmessage
  refine ⟨Logging.plain_lawful, hlax, hstrict, ?_, hsublist _ _ _ hlax, ?_⟩
  · rw [Exit.log, hevents]
    decide +kernel
  · refine hreport.trans ?_
    rw [hquiet]
    exact congrArg (String.join · ++ _) hstrict

end Command

end Stackline
