import Stackline.Event.Directive

/-!
# Filters for events

A filter is a list of directives. An event is judged by the directive that takes precedence among
those that are about it; if neither of two does, the later one counts. Main statement: the filter
`off` lets nothing through (`not_admits_off`).
-/

namespace Stackline

/-- A choice among events. -/
abbrev Event.Filter := List Directive

namespace Event.Filter

/-- The filter of a text that names no directive. -/
def errorsOnly : Filter :=
  [{ target := [], level := some .error }]

/-- The parts of a text that name directives, with commas between them. -/
def parts (text : List Char) : List (List Char) :=
  (text.splitOn ',').filter (· ≠ [])

/-- Reads a filter. A directive that cannot be read spoils all. -/
def ofText? (text : List Char) : Option Filter :=
  match parts text with
  | [] => some errorsOnly
  | parts => parts.mapM Directive.ofText?

/-- Reads what can be read of a filter. -/
def ofText (text : List Char) : Filter :=
  match (parts text).filterMap Directive.ofText? with
  | [] => errorsOnly
  | directives => directives

/-- The directive that an event is judged by. -/
def governing (f : Filter) (event : Event) : Option Directive :=
  (f.filter (·.Concerns event)).foldl
    (fun best d => some (best.elim d fun first => if first.outranks d then first else d)) none

/-- Whether an event is let through. -/
def Admits (f : Filter) (event : Event) : Prop :=
  ∃ d ∈ f.governing event, d.Admits event.level

instance (f : Filter) (event : Event) : Decidable (f.Admits event) :=
  match h : f.governing event with
  | none => isFalse (by simp [Admits, h])
  | some d => decidable_of_iff (d.Admits event.level) (by simp [Admits, h])

/-- The filter `off` lets nothing through. -/
theorem not_admits_off (event : Event) : ¬ (ofText "off".toList).Admits event := by
  have hoff : ofText "off".toList = [{ target := [], level := none }] := by decide
  have hgoverning : governing [{ target := [], level := none }] event =
      some { target := [], level := none } := by
    simp [governing, Directive.Concerns, Condition.Holds]
  rw [hoff]
  simp [Admits, hgoverning, Directive.Admits]

end Event.Filter

end Stackline
