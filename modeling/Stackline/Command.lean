import Stackline.Event.Logging
import Stackline.FileTree
import Stackline.Run

/-!
# The command

The command takes the path of one program file, runs the program, and reports an error in one
diagnostic. Beside the output it writes notices, in the order in which things happen: the events of
the run, as far as a setting asks for them, and the diagnostic.

Arguments and the setting are bytes, as the system hands them over. The command works with texts
only: where an argument spells none, the runtime gives up before anything else is looked at, with a
complaint and an exit code of its own.
-/

namespace Stackline

open Text

/-- What a command is given by the system that it is run on. -/
structure Host where
  /-- What opening a path gives. -/
  files : PathBytes → Except OpenFailure Feed
  /-- The library that writes events. -/
  logging : Logging
  /-- What the runtime writes when it meets an argument that spells no text. -/
  complaint : SystemText → String

/-- Something that the command may write beside the output. -/
inductive Notice where
  /-- An event, which is written if it is asked for. -/
  | event (event : Event)
  /-- A diagnostic, which is always written. -/
  | diagnostic (text : String)
  /-- A complaint of the runtime about an argument, which is always written. -/
  | complaint (argument : SystemText)
deriving DecidableEq, Repr

/-- A notice in writing, given which events are asked for and the place of the notice among all. -/
def Notice.written (host : Host) (admits : Event → Bool) : Notice → Nat → String
  | event e, place => if admits e then host.logging.written place e else ""
  | diagnostic text, _ => text ++ "\n"
  | complaint argument, _ => host.complaint argument

/-- What a command did. -/
structure Exit where
  /-- Zero if all went well. -/
  code : UInt8
  /-- The output of the program. -/
  output : List UInt8
  /-- What there was to notice, in order. -/
  notices : List Notice
deriving DecidableEq, Repr

/-- The notices of a command in writing. -/
def Exit.report (exit : Exit) (host : Host) (admits : Event → Bool) : String :=
  String.join (exit.notices.zipIdx.map fun (notice, place) => notice.written host admits place)

/-- What can be seen of a command from outside. -/
structure Transcript where
  /-- Zero if all went well. -/
  code : UInt8
  /-- The output of the program. -/
  output : List UInt8
  /-- All that was written beside the output. -/
  report : String
deriving DecidableEq, Repr

namespace Command

/-- What the command answers when its arguments are not one path. -/
def usage : String := "USAGE: monty file"

/-- The exit code of the runtime when it gives up. -/
def complaintCode : UInt8 := 101

/-- Runs the program of a source that was opened under a path. -/
def runSource (path : String) (source : Source) : Exit :=
  let outcome := Stackline.run source {}
  match outcome.result with
  | .ok () => { code := 0, output := outcome.output, notices := outcome.events.map .event }
  | .error cause =>
    { code := 1
      output := outcome.output
      notices := outcome.events.map .event ++
        [.event (.runFailed path cause.line?), .diagnostic cause.message] }

/-- Runs the program at a path, given what opening a path gives. -/
def runPath (files : PathBytes → Except OpenFailure Feed) (path : String) : Exit :=
  let bytes := Utf8.encode path.toList
  match Source.ofFile bytes (files bytes) with
  | (.ok source, events) =>
    let exit := runSource path source
    { exit with notices := events.map .event ++ exit.notices }
  | (.error cause, events) =>
    { code := 1, output := [], notices := events.map .event ++ [.diagnostic cause.message] }

/-- The texts that arguments spell, or the first argument that spells none. -/
def texts : List SystemText → Except SystemText (List String)
  | [] => .ok []
  | argument :: rest =>
    match Utf8.text? argument with
    | none => .error argument
    | some text => (texts rest).map (text :: ·)

/-- Runs the command with all that it is called with, its own name first. -/
def run (files : PathBytes → Except OpenFailure Feed) (arguments : List SystemText) : Exit :=
  match texts arguments with
  | .error argument => { code := complaintCode, output := [], notices := [.complaint argument] }
  | .ok [_, path] => runPath files path
  | .ok _ => { code := 1, output := [], notices := [.diagnostic usage] }

/-- Runs the command on a host and writes what the setting asks for. -/
def invoke (host : Host) (setting : Option SystemText) (arguments : List SystemText) :
    Transcript :=
  let exit := run host.files arguments
  { code := exit.code
    output := exit.output
    report := exit.report host (host.logging.admits setting) }

end Command

end Stackline
