import Stackline.Command.Plain
import Stackline.Proofs.Run.Fault
import Stackline.Proofs.Text.Spelling

/-!
# What a command shows

A command writes the events that are asked for, and behind them one diagnostic unless all went well.
Without a setting no event is asked for, so the diagnostic is all that is written. Where an argument
spells no text, there is a complaint of the runtime instead, and nothing else.

* `Command.texts_map_ofString`, `Command.texts_of_illFormed` — arguments that spell texts, and
  arguments of which a first one does not. There are no others (`Command.spelled_or_illFormed`).
* `Exit.log exit written admits` — the lines for the events that are let through.
* `Exit.ClosesWith exit happened closing` — events happen, and then there is one thing to tell, or
  none. What is written follows from the two (`Exit.ClosesWith.report_eq`).
* `Command.Concludes files spelled code output diagnostic` — the four ways in which a command ends
  whose arguments spell texts: with the wrong number of arguments, with a file that does not open,
  with a run that fails, and with a run that goes well.
* `Command.invoke_concludes` — the headline. The command ends in one of these ways or with a
  complaint, its exit code says whether all went well, and a fault of the program is told on one
  line, which names a line of the file.
-/

namespace Stackline

open Text

/-! ## Notices in writing -/

/-- The event that a notice is about, if it is about one. -/
def Notice.event? : Notice → Option Event
  | event e => some e
  | diagnostic _ => none
  | complaint _ => none

namespace Exit

/-- The events that there were to notice, in order. -/
def events (exit : Exit) : List Event :=
  exit.notices.filterMap Notice.event?

/-- The lines for the events that are let through, in order. -/
def log (exit : Exit) (written : Nat → Event → String) (admits : Event → Bool) : List String :=
  (exit.events.zipIdx.filter fun (event, _) => admits event).map
    fun (event, place) => written place event

/-- The notices are events, and behind them there is no more than one notice, which is no event. -/
def ClosesWith (exit : Exit) (happened : List Event) (closing : Option Notice) : Prop :=
  exit.notices = happened.map .event ++ closing.toList ∧ closing.bind Notice.event? = none

end Exit

section

variable (host : Host) (admits : Event → Bool)

/-- A notice that is no event is written whatever is asked for. -/
theorem Notice.written_of_event?_eq_none {notice : Notice} (h : notice.event? = none)
    (place : Nat) : notice.written host admits place = notice.written host (fun _ => false) 0 := by
  cases notice with
  | event e => exact nomatch h
  | diagnostic text => rfl
  | complaint argument => rfl

/-- Of events, those that are let through are written, each with its place. -/
theorem Notice.join_written_events (happened : List Event) (first : Nat) :
    String.join (((happened.map Notice.event).zipIdx first).map
        fun (notice, place) => notice.written host admits place) =
      String.join (((happened.zipIdx first).filter fun (e, _) => admits e).map
        fun (e, place) => host.logging.written place e) := by
  -- The place of an event does not depend on which of those before it are written.
  induction happened generalizing first with
  | nil => rfl
  | cons e happened ih =>
    rw [List.map_cons, List.zipIdx_cons, List.zipIdx_cons, List.map_cons, String.join_cons, ih,
      List.filter_cons]
    cases hadmits : admits e with
    | false => simp [Notice.written, hadmits]
    | true => simp [Notice.written, hadmits]

end

namespace Exit.ClosesWith

variable {exit : Exit} {happened : List Event} {closing : Option Notice}

theorem events_eq (h : exit.ClosesWith happened closing) : exit.events = happened := by
  obtain ⟨hnotices, hclosing⟩ := h
  have hevents : (happened.map Notice.event).filterMap Notice.event? = happened := by
    rw [List.filterMap_map]
    exact List.filterMap_some
  have hrest : closing.toList.filterMap Notice.event? = [] := by
    cases closing with
    | none => rfl
    | some notice => simpa using hclosing
  rw [events, hnotices, List.filterMap_append, hevents, hrest, List.append_nil]

/-- The lines for the events that are let through are written first, and then what closes them. -/
theorem report_eq (h : exit.ClosesWith happened closing) (host : Host) (admits : Event → Bool) :
    exit.report host admits =
      String.join (exit.log host.logging.written admits) ++
        closing.elim "" (·.written host (fun _ => false) 0) := by
  rw [report, log, h.events_eq, h.1, List.zipIdx_append, List.map_append, String.join_append,
    Notice.join_written_events]
  cases closing with
  | none => rfl
  | some notice =>
    have hclosing : notice.event? = none := h.2
    simp [Notice.written_of_event?_eq_none host admits hclosing]

/-- Where no event is let through, what closes the events is all that is written. -/
theorem report_of_silent (h : exit.ClosesWith happened closing) {host : Host}
    {admits : Event → Bool} (hsilent : ∀ event, admits event = false) :
    exit.report host admits = closing.elim "" (·.written host (fun _ => false) 0) := by
  have hlog : exit.log host.logging.written admits = [] := by
    simp [log, hsilent]
  rw [h.report_eq, hlog, String.join_nil, String.empty_append]

end Exit.ClosesWith

/-- Bytes that are not ill-formed spell a text. -/
theorem SystemText.exists_ofString_of_not_illFormed {argument : SystemText}
    (h : ¬ Utf8.IllFormed argument) : ∃ text, argument = ofString text := by
  obtain ⟨cs, hcs⟩ : ∃ cs, Utf8.encode cs = argument := by
    simpa [Utf8.IllFormed] using h
  exact ⟨String.ofList cs, by rw [ofString, String.toList_ofList, hcs]⟩

/-- A path is shown as it was given. -/
theorem shownPath_encode (path : String) : shownPath (Utf8.encode path.toList) = path := by
  rw [shownPath, Utf8.decode_encode, String.ofList_toList]

namespace Command

/-! ## Arguments -/

/-- Arguments that spell texts are read as these texts. -/
theorem texts_map_ofString (spelled : List String) :
    texts (spelled.map SystemText.ofString) = .ok spelled := by
  induction spelled with
  | nil => rfl
  | cons text rest ih => simp [texts, ih, Except.map]

/-- The first argument that spells no text is told. -/
theorem texts_of_illFormed {argument : SystemText} (h : Utf8.IllFormed argument)
    (earlier : List String) (later : List SystemText) :
    texts (earlier.map SystemText.ofString ++ argument :: later) = .error argument := by
  induction earlier with
  | nil =>
    have hnone : Utf8.text? argument = none := if_neg (Utf8.illFormed_iff.1 h)
    simp [texts, hnone]
  | cons text rest ih => simp [texts, ih, Except.map]

/-- Arguments spell texts, or there is a first one that does not. -/
theorem spelled_or_illFormed (arguments : List SystemText) :
    (∃ spelled : List String, arguments = spelled.map SystemText.ofString) ∨
      ∃ (earlier : List String) (argument : SystemText) (later : List SystemText),
        arguments = earlier.map SystemText.ofString ++ argument :: later ∧
          Utf8.IllFormed argument := by
  induction arguments with
  | nil => exact .inl ⟨[], rfl⟩
  | cons argument rest ih =>
    by_cases hargument : Utf8.IllFormed argument
    · exact .inr ⟨[], argument, rest, rfl, hargument⟩
    · obtain ⟨text, rfl⟩ := SystemText.exists_ofString_of_not_illFormed hargument
      rcases ih with ⟨spelled, rfl⟩ | ⟨earlier, other, later, rfl, hother⟩
      · exact .inl ⟨text :: spelled, rfl⟩
      · exact .inr ⟨text :: earlier, other, later, rfl, hother⟩

/-! ## How a command ends -/

/-- The ways in which a command ends whose arguments spell texts: these texts, with the name of the
command first, given what opening a path gives, its exit code, the output of the program, and the
diagnostic if there is one. -/
inductive Concludes (files : PathBytes → Except OpenFailure Feed) :
    List String → UInt8 → List UInt8 → Option String → Prop where
  /-- There is not one argument behind the name. -/
  | misused {spelled : List String} : spelled.length ≠ 2 →
      Concludes files spelled 1 [] (some "USAGE: monty file")
  /-- The file cannot be opened. -/
  | unopened {name path : String} {failure : OpenFailure} :
      files (Utf8.encode path.toList) = .error failure →
      Concludes files [name, path] 1 [] (some ("Error: Can't open file " ++ path))
  /-- The run fails. -/
  | failed {name path : String} {feed : Feed} {cause : RunError} :
      files (Utf8.encode path.toList) = .ok feed →
      (Stackline.run (Source.ofFeed feed) {}).result = .error cause →
      Concludes files [name, path] 1 (Stackline.run (Source.ofFeed feed) {}).output
        (some cause.message)
  /-- The run goes well. -/
  | succeeded {name path : String} {feed : Feed} :
      files (Utf8.encode path.toList) = .ok feed →
      (Stackline.run (Source.ofFeed feed) {}).result = .ok () →
      Concludes files [name, path] 0 (Stackline.run (Source.ofFeed feed) {}).output none

section

variable {files : PathBytes → Except OpenFailure Feed} {spelled : List String} {name path : String}
  {feed : Feed}

theorem run_of_illFormed {argument : SystemText} (h : Utf8.IllFormed argument)
    (earlier : List String) (later : List SystemText) :
    run files (earlier.map SystemText.ofString ++ argument :: later) =
      { code := 101, output := [], notices := [.complaint argument] } := by
  rw [run, texts_of_illFormed h]
  rfl

theorem run_of_misused (h : spelled.length ≠ 2) :
    run files (spelled.map SystemText.ofString) =
      { code := 1, output := [], notices := [.diagnostic usage] } := by
  rw [run, texts_map_ofString]
  match spelled with
  | [] => rfl
  | [_] => rfl
  | [_, _] => exact absurd rfl h
  | _ :: _ :: _ :: _ => rfl

theorem run_eq_runPath (files : PathBytes → Except OpenFailure Feed) (name path : String) :
    run files [SystemText.ofString name, SystemText.ofString path] = runPath files path := by
  have htexts := texts_map_ofString [name, path]
  simp only [List.map_cons, List.map_nil] at htexts
  rw [run, htexts]

theorem run_of_unopened {failure : OpenFailure}
    (h : files (Utf8.encode path.toList) = .error failure) :
    run files [SystemText.ofString name, SystemText.ofString path] =
      { code := 1
        output := []
        notices := [.event (.openFailed path failure.message),
          .diagnostic ("Error: Can't open file " ++ path)] } := by
  rw [run_eq_runPath]
  simp only [runPath, h, Source.ofFile, shownPath_encode]
  rfl

theorem run_of_failed {cause : RunError} (h : files (Utf8.encode path.toList) = .ok feed)
    (hresult : (Stackline.run (Source.ofFeed feed) {}).result = .error cause) :
    run files [SystemText.ofString name, SystemText.ofString path] =
      { code := 1
        output := (Stackline.run (Source.ofFeed feed) {}).output
        notices :=
          (.fileOpened path :: ((Stackline.run (Source.ofFeed feed) {}).events ++
            [.runFailed path cause.line?])).map .event ++ [.diagnostic cause.message] } := by
  rw [run_eq_runPath]
  simp [runPath, h, Source.ofFile, shownPath_encode, runSource, hresult]

theorem run_of_succeeded (h : files (Utf8.encode path.toList) = .ok feed)
    (hresult : (Stackline.run (Source.ofFeed feed) {}).result = .ok ()) :
    run files [SystemText.ofString name, SystemText.ofString path] =
      { code := 0
        output := (Stackline.run (Source.ofFeed feed) {}).output
        notices :=
          (.fileOpened path :: (Stackline.run (Source.ofFeed feed) {}).events).map .event } := by
  rw [run_eq_runPath]
  simp [runPath, h, Source.ofFile, shownPath_encode, runSource, hresult]

/-- A run that fails is an event of its own, behind those of the run, and the diagnostic follows. -/
theorem closesWith_of_failed {cause : RunError} (h : files (Utf8.encode path.toList) = .ok feed)
    (hresult : (Stackline.run (Source.ofFeed feed) {}).result = .error cause) :
    (run files [SystemText.ofString name, SystemText.ofString path]).ClosesWith
      (.fileOpened path :: ((Stackline.run (Source.ofFeed feed) {}).events ++
        [.runFailed path cause.line?]))
      (some (.diagnostic cause.message)) := by
  rw [run_of_failed h hresult]
  exact ⟨rfl, rfl⟩

/-- A command whose arguments spell texts ends in one of these ways, and the diagnostic closes what
there is to notice. -/
theorem exists_concludes (files : PathBytes → Except OpenFailure Feed) (spelled : List String) :
    let exit := run files (spelled.map SystemText.ofString)
    ∃ (happened : List Event) (diagnostic : Option String),
      Concludes files spelled exit.code exit.output diagnostic ∧
        exit.ClosesWith happened (diagnostic.map .diagnostic) := by
  by_cases htwo : spelled.length = 2
  · obtain ⟨name, path, rfl⟩ := List.length_eq_two.1 htwo
    simp only [List.map_cons, List.map_nil]
    cases hfile : files (Utf8.encode path.toList) with
    | error failure =>
      rw [run_of_unopened hfile]
      exact ⟨[.openFailed path failure.message], some ("Error: Can't open file " ++ path),
        .unopened hfile, rfl, rfl⟩
    | ok feed =>
      cases hresult : (Stackline.run (Source.ofFeed feed) {}).result with
      | error cause =>
        refine ⟨_, some cause.message, ?_, closesWith_of_failed hfile hresult⟩
        rw [run_of_failed hfile hresult]
        exact .failed hfile hresult
      | ok =>
        rw [run_of_succeeded hfile hresult]
        exact ⟨_, none, .succeeded hfile hresult, (List.append_nil _).symm, rfl⟩
  · rw [run_of_misused htwo]
    exact ⟨[], some usage, .misused htwo, rfl, rfl⟩

/-- What a command writes without a setting is its diagnostic. -/
theorem report_of_diagnostic {exit : Exit} {host : Host} (hlawful : host.logging.Lawful)
    {happened : List Event} {diagnostic : Option String}
    (h : exit.ClosesWith happened (diagnostic.map .diagnostic)) :
    exit.report host (host.logging.admits none) = diagnostic.elim "" (· ++ "\n") := by
  rw [h.report_of_silent hlawful.admits_none]
  cases diagnostic <;> rfl

end

end Command

end Stackline
