import Stackline.Event
import Stackline.Text.Utf8

/-!
# Logging

Events are written by a library that is not part of this one. It is taken as it is: `Logging` holds
what is asked of it, and `Logging.Lawful` what it promises. Which events are let through is up to
the library; without a setting it is asked for `off`, and lets none through (`Lawful.admits_none`).
-/

namespace Stackline

/-- A text as the system hands it over: bytes, which need not spell one. -/
abbrev SystemText := List UInt8

/-- A text, spelled for the system. -/
def SystemText.ofString (text : String) : SystemText :=
  Text.Utf8.encode text.toList

@[simp]
theorem SystemText.text?_ofString (text : String) : Text.Utf8.text? (ofString text) = some text :=
  Text.Utf8.text?_eq_some_iff.2 rfl

/-- A library that writes events. -/
structure Logging where
  /-- The choice of events that a setting asks for, if there is a setting and it can be read. -/
  ofSetting? : Option SystemText → Option (Event → Bool)
  /-- The choice of events that a text asks for. -/
  ofText : String → Event → Bool
  /-- An event in writing. The line may tell when the event happened, and where it stands among the
  events of a command is given for that. -/
  written : Nat → Event → String

namespace Logging

/-- What a library promises. -/
structure Lawful (logging : Logging) : Prop where
  /-- Where there is no setting, there is nothing to read. -/
  unset : logging.ofSetting? none = none
  /-- The text `off` asks for no event. -/
  off : ∀ event, logging.ofText "off" event = false

/-- Whether an event is let through under a setting. If the setting cannot be read, it counts as
`off`. -/
def admits (logging : Logging) (setting : Option SystemText) : Event → Bool :=
  (logging.ofSetting? setting).getD (logging.ofText "off")

/-- Without a setting no event is let through. -/
theorem Lawful.admits_none {logging : Logging} (h : logging.Lawful) (event : Event) :
    logging.admits none event = false := by
  rw [admits, h.unset, Option.getD_none, h.off]

end Logging

end Stackline
