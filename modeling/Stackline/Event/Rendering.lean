import Stackline.Event
import Stackline.Text.Quoted

/-!
# Events in writing

One way to write an event, on a line of its own and without the time: its level, flush right in five
columns, the component, the message, and every detail as its name, an equals sign and its value.
-/

namespace Stackline

open Text

/-- The number of columns that the name of a level takes. -/
def Level.columns : Nat := 5

/-- The name of a level, flush right in its columns. -/
def Level.padded (level : Level) : String :=
  String.ofList (List.replicate (columns - level.name.length) ' ') ++ level.name

/-- The value of a detail in writing. -/
def Detail.written : Detail → String
  | number n => String.ofList (Numeral.natural n)
  | optionalNumber none => "None"
  | optionalNumber (some n) => "Some(" ++ String.ofList (Numeral.natural n) ++ ")"
  | text content => content
  | quoted content => String.ofList (Text.quoted content.toList)

/-- The line that reports an event, with its newline. -/
def Event.written (event : Event) : String :=
  event.details.foldl (fun line (name, detail) => line ++ " " ++ name ++ "=" ++ detail.written)
    (event.level.padded ++ " " ++ event.target ++ ": " ++ event.message) ++ "\n"

end Stackline
