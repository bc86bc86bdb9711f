import Stackline.Event
import Stackline.Text.Alphanumeric
import Stackline.Text.Words

/-!
# Directives

A directive says which events of some components are let through, down to which level. It is written
as a level alone, or as the beginning of component names, a condition in square brackets, or both,
with the level behind an equals sign; a level that is left out is the least important one. Blanks
around a directive are not dropped but become part of what stands next to them.
-/

namespace Stackline

open Text

/-- What an event has to fulfil, besides the name of its component. -/
inductive Condition where
  /-- Nothing. -/
  | always
  /-- The event tells something under this name. -/
  | tells (name : List Char)
  /-- The event happens in a scope of a given name, or under a detail of a given value. There are no
  scopes, so no event does. -/
  | inScope
deriving DecidableEq, Repr

namespace Condition

/-- Whether an event fulfils a condition. -/
def Holds (event : Event) : Condition → Prop
  | always => True
  | tells name => ∃ told ∈ event.detailNames, told.toList = name
  | inScope => False

instance (event : Event) : (c : Condition) → Decidable (c.Holds event)
  | always => isTrue trivial
  | tells name => inferInstanceAs (Decidable (∃ told ∈ event.detailNames, told.toList = name))
  | inScope => isFalse id

/-- Whether a condition takes precedence over another one: a name over none, and of two names the
one that comes later in the alphabet. -/
def outranks : Condition → Condition → Bool
  | tells name, tells name' => List.lex name' name fun c d => c.toNat < d.toNat
  | tells _, _ => true
  | _, _ => false

end Condition

/-- What part of some events is let through. -/
structure Directive where
  /-- How the names of the components begin. -/
  target : List Char
  /-- What else the events have to fulfil. -/
  condition : Condition := .always
  /-- The least important level that is let through, if any level is. -/
  level : Option Level := some .trace
deriving DecidableEq, Repr

namespace Directive

/-- Whether a directive is about an event. -/
def Concerns (d : Directive) (event : Event) : Prop :=
  d.target <+: event.target.toList ∧ d.condition.Holds event

instance (d : Directive) (event : Event) : Decidable (d.Concerns event) :=
  inferInstanceAs (Decidable (_ ∧ _))

/-- Whether a directive lets a level through. -/
def Admits (d : Directive) (level : Level) : Prop :=
  ∃ least ∈ d.level, level.rank ≤ least.rank

instance (d : Directive) (level : Level) : Decidable (d.Admits level) :=
  match h : d.level with
  | none => isFalse (by simp [Admits, h])
  | some least => decidable_of_iff (level.rank ≤ least.rank) (by simp [Admits, h])

/-- Whether a directive takes precedence over another one: the one that begins names with more, or
with the same whose condition takes precedence. -/
def outranks (d d' : Directive) : Bool :=
  d'.target.length < d.target.length ||
    (d'.target.length == d.target.length && d.condition.outranks d'.condition)

/-! ## Reading -/

/-- The level that a word names, if it names one; the word for no level gives none. A level has a
name, in letters of either case, and a number. -/
def threshold? (word : List Char) : Option (Option Level) :=
  match Numeral.unsigned? word with
  | some 0 => some none
  | some rank => (Level.all.find? fun level => level.rank = rank).map some
  | none =>
    let folded := String.ofList (word.map Char.toLower)
    if folded = "off" then some none
    else (Level.all.find? fun level =>
      folded = String.ofList (level.name.toList.map Char.toLower)).map some

/-- Whether a directive may begin with a character. -/
def isInitial (c : Char) : Bool :=
  isAlphanumeric c || c == '-' || c == '_' || c == ':' || c == '['

/-- Reads the level at the end of a directive, if there is one: an equals sign and a word, which may
be empty. Behind a directive without a level there may be blanks. -/
def withLevel? (d : Directive) : List Char → Option Directive
  | '=' :: word =>
    if d.target.head?.any isBlank then none
    else if word = [] then some d
    else (threshold? word).map fun level => { d with level }
  | rest => if rest.all isBlank then some d else none

/-- Reads what follows an opening bracket: the name of a scope, which may be left out before the
name of a detail in braces, perhaps with a value behind an equals sign. -/
def withCondition? (target : List Char) (text : List Char) : Option Directive :=
  let goesOn (c : Char) : Bool := c ≠ ']' ∧ c ≠ '\x7b'
  match text.takeWhile goesOn, text.dropWhile goesOn with
  | _, ']' :: rest => withLevel? { target, condition := .inScope } rest
  | scope, '\x7b' :: inner =>
    match inner.takeWhile (· ≠ '\x7d'), inner.dropWhile (· ≠ '\x7d') with
    | [], _ => none
    | detail, '\x7d' :: ']' :: rest =>
      let condition := if scope = [] ∧ '=' ∉ detail then .tells detail else .inScope
      withLevel? { target, condition } rest
    | _, _ => none
  | _, _ => none

/-- Reads a directive. -/
def ofText? (text : List Char) : Option Directive :=
  let body := trimStart text
  let goesOn (c : Char) : Bool := c ≠ '=' ∧ c ≠ '['
  if ¬ body.head?.any isInitial then none
  else
    let target := text.takeWhile isBlank ++ body.takeWhile goesOn
    match body.dropWhile goesOn with
    -- The whole text is one word, blanks included, so a level has to stand without any.
    | [] => some (match threshold? text with
      | some level => { target := [], level }
      | none => { target := text })
    | '[' :: rest => withCondition? target rest
    | rest => withLevel? { target } rest

end Directive

end Stackline
