import Stackline.Command
import Stackline.Event.Filter
import Stackline.Event.Rendering

/-!
# A plain host

A host on which the command can be tried: a small library for logging that writes every event on a
line without the time, and a short complaint. Main statement: the library keeps what libraries
promise (`Logging.plain_lawful`).
-/

namespace Stackline

open Text

/-- A library that reads filters and writes events plainly. A setting that spells no text cannot be
read. -/
def Logging.plain : Logging where
  ofSetting? setting := do
    let filter ← Event.Filter.ofText? (← Utf8.text? (← setting)).toList
    return fun event => decide (filter.Admits event)
  ofText text := fun event => decide ((Event.Filter.ofText text.toList).Admits event)
  written _ event := event.written

/-- A host with plain logging, given what opening a path gives. -/
def Host.plain (files : PathBytes → Except OpenFailure Feed) : Host where
  files := files
  logging := .plain
  complaint argument := "argument is no text: " ++ shownPath argument ++ "\n"

theorem Logging.plain_lawful : plain.Lawful where
  unset := rfl
  off event := decide_eq_false (Event.Filter.not_admits_off event)

end Stackline
