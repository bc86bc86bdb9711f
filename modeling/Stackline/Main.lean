import Stackline.Command.Plain

/-!
# The program

Reads the file that the arguments name, hands it to the command, and writes what the command
answers. The variable `MONTY_LOG` of the environment says which events are logged.
-/

namespace Stackline

open Text

/-- The system's own words for an error, with its number. -/
def systemText : IO.Error → String
  | .alreadyExists _ code details
  | .otherError code details
  | .resourceBusy code details
  | .resourceVanished code details
  | .unsupportedOperation code details
  | .hardwareFault code details
  | .unsatisfiedConstraints code details
  | .illegalOperation code details
  | .protocolError code details
  | .timeExpired code details
  | .interrupted _ code details
  | .noFileOrDirectory _ code details
  | .invalidArgument _ code details
  | .permissionDenied _ code details
  | .resourceExhausted _ code details
  | .inappropriateType _ code details
  | .noSuchThing _ code details => details ++ " (os error " ++ toString code ++ ")"
  | .unexpectedEof => "unexpected end of file"
  | .userError reason => reason

/-- What opening and reading a file gives. -/
def readFile (path : String) : IO (Except OpenFailure Feed) := do
  let handle ← try
      pure (Except.ok (← IO.FS.Handle.mk path .read))
    catch e =>
      pure (Except.error (OpenFailure.other (systemText e)))
  match handle with
  | .error failure => return .error failure
  | .ok handle =>
    try
      return .ok [.bytes (← handle.readBinToEnd).toList]
    catch e =>
      return .ok [.failure (systemText e)]

/-- Runs the command in the world. -/
def runCommand (arguments : List String) : IO UInt32 := do
  let opened ← match arguments with
    | [path] => readFile path
    | _ => pure (.error .notFound)
  let setting := (← IO.getEnv "MONTY_LOG").map SystemText.ofString
  let transcript :=
    Command.invoke (.plain fun _ => opened) setting (("monty" :: arguments).map .ofString)
  let stdout ← IO.getStdout
  stdout.write (ByteArray.mk transcript.output.toArray)
  stdout.flush
  IO.eprint transcript.report
  return transcript.code.toUInt32

end Stackline

/-- The entry point: one argument, the path of a program file. -/
def main (arguments : List String) : IO UInt32 :=
  Stackline.runCommand arguments
