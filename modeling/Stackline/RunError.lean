import Stackline.Fault
import Stackline.Source

/-!
# Run errors

All that ends a run early, and the diagnostics that report it.
-/

namespace Stackline

open Text

/-- Why a run ended early, or why a call was refused. -/
inductive RunError where
  /-- The program is at fault. -/
  | fault (cause : LocatedFault)
  /-- There was no room for another value. -/
  | outOfMemory
  /-- Output could not be written. -/
  | output (line : Nat) (reason : String)
  /-- The run had ended early before. -/
  | halted (line : Nat)
  /-- The source failed. -/
  | source (cause : SourceError)
deriving DecidableEq, Repr

namespace RunError

/-- The diagnostic of an error. -/
def message : RunError → String
  | fault cause => cause.message
  | outOfMemory => "Error: malloc failed"
  | output line reason => lineLabel line ++ "can't write output: " ++ reason
  | halted line => lineLabel line ++ "run already halted"
  | source cause => cause.message

/-- The number of the line that the error belongs to, if it belongs to one. -/
def line? : RunError → Option Nat
  | fault cause => some cause.line
  | output line _ => some line
  | halted line => some line
  | source (.unread line _) => some line
  | source (.unopened _) => none
  | outOfMemory => none

/-- The fault of the program, if it is at fault. -/
def fault? : RunError → Option Fault
  | fault cause => some cause.fault
  | _ => none

end RunError

end Stackline
