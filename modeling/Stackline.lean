import Stackline.Main
import Stackline.Program
import Stackline.Stack.Request
import Stackline.Engine.Call
import Stackline.Proofs.Text.Lines
import Stackline.Proofs.Source.Automaton
import Stackline.Proofs.Source.Lines
import Stackline.Proofs.Source.Exhaustion
import Stackline.Proofs.Sink.Writes
import Stackline.Proofs.Instruction.Reading
import Stackline.Proofs.Instruction.Table
import Stackline.Proofs.Program.Assembly
import Stackline.Proofs.Program.Canonical
import Stackline.Proofs.Engine.Execution
import Stackline.Proofs.Engine.Refinement
import Stackline.Proofs.Engine.Sequence
import Stackline.Proofs.Engine.Disguise
import Stackline.Proofs.Engine.Errors
import Stackline.Proofs.Engine.Teardown
import Stackline.Proofs.Engine.Room
import Stackline.Proofs.Engine.Lines
import Stackline.Proofs.Engine.Moved
import Stackline.Proofs.Run.Lines
import Stackline.Proofs.Run.Assembled
import Stackline.Proofs.Run.Canonical
import Stackline.Proofs.Run.Room
import Stackline.Proofs.Run.Log
import Stackline.Proofs.Engine.Exact
import Stackline.Proofs.Engine.Frame
import Stackline.Proofs.Run.Followed
import Stackline.Proofs.Run.Inserted
import Stackline.Proofs.Engine.Depth
import Stackline.Proofs.Instruction.Grammar
import Stackline.Proofs.Run.Fault
import Stackline.Proofs.Command.Diagnostic
import Stackline.Proofs.Engine.Atomic
import Stackline.Proofs.Engine.Written
import Stackline.Proofs.Engine.Division
import Stackline.Proofs.Run.Replay
import Stackline.Proofs.Program.Appended
import Stackline.Proofs.Instruction.Spelled
import Stackline.Proofs.Instruction.IllFormed
import Stackline.Proofs.Run.Output
import Stackline.Proofs.RunError.Message
import Stackline.Proofs.Stack.TopFirst
import Stackline.Proofs.Run.WholeLines
import Stackline.Proofs.Command.Logged
