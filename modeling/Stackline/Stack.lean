/-!
# The operand stack

The values of a run, held in an array whose last element is the top. `toList` is the view of a stack
from the top downward; every operation is described by what it does to that view. An operation that
finds too few values leaves the stack as it is.
-/

namespace Stackline

/-- Whether there is room for a stack to grow. -/
inductive Memory where
  /-- Growing succeeds. -/
  | granted
  /-- Growing fails. -/
  | refused
deriving DecidableEq, Repr, Inhabited

/-- A stack of 32-bit values. -/
structure Stack where
  /-- The values from the bottom to the top. -/
  values : Array Int32
deriving DecidableEq, Repr, Inhabited

namespace Stack

/-- The stack without values. -/
def empty : Stack :=
  { values := #[] }

/-- How many values are on the stack. -/
def size (s : Stack) : Nat :=
  s.values.size

/-- Whether nothing is on the stack. -/
def isEmpty (s : Stack) : Bool :=
  s.values.isEmpty

/-- The values from the top to the bottom. -/
def toList (s : Stack) : List Int32 :=
  s.values.toList.reverse

/-- The first values from the top, `count` of them if there are as many. -/
def topmost (s : Stack) (count : Nat) : List Int32 :=
  s.toList.take count

/-- The stack with a value on top of it. -/
def push (s : Stack) (value : Int32) : Stack :=
  { values := s.values.push value }

/-- Pushes a value if there is room for it, and says whether there was. -/
def tryPush (s : Stack) (value : Int32) : Memory → Bool × Stack
  | .granted => (true, s.push value)
  | .refused => (false, s)

/-- The top value. -/
def top? (s : Stack) : Option Int32 :=
  s.values.back?

/-- The value below the top value. -/
def second? (s : Stack) : Option Int32 :=
  if 2 ≤ s.values.size then s.values[s.values.size - 2]? else none

/-- The stack without its top value. -/
def pop (s : Stack) : Stack :=
  { values := s.values.pop }

/-- The stack with another value in the place of its top value. -/
def setTop (s : Stack) (value : Int32) : Stack :=
  { values := s.values.setIfInBounds (s.values.size - 1) value }

/-- The stack with its two top values exchanged. -/
def swapTop (s : Stack) : Stack :=
  if h : 2 ≤ s.values.size then
    { values := s.values.swap (s.values.size - 1) (s.values.size - 2) }
  else s

/-- The stack with the given values from the top to the bottom. -/
def ofList : List Int32 → Stack
  | [] => empty
  | value :: rest => (ofList rest).push value

/-! ## The view -/

@[simp]
theorem toList_empty : empty.toList = [] := rfl

@[simp]
theorem toList_push (s : Stack) (value : Int32) : (s.push value).toList = value :: s.toList := by
  simp [push, toList]

@[simp]
theorem toList_ofList (values : List Int32) : (ofList values).toList = values := by
  induction values with
  | nil => rfl
  | cons value rest ih => rw [ofList, toList_push, ih]

/-- A stack is known by its view. -/
theorem toList_injective {s t : Stack} (h : s.toList = t.toList) : s = t := by
  obtain ⟨values⟩ := s
  obtain ⟨values'⟩ := t
  simpa [toList, Array.toList_inj] using h

/-- A stack is empty, or it has a top value and a stack below. -/
theorem eq_empty_or_push (s : Stack) : s = empty ∨ ∃ below value, s = push below value := by
  cases h : s.toList with
  | nil => exact .inl (toList_injective (by rw [h, toList_empty]))
  | cons value rest =>
    exact .inr ⟨ofList rest, value, toList_injective (by rw [h, toList_push, toList_ofList])⟩

theorem size_eq_length (s : Stack) : s.size = s.toList.length := by
  simp [toList, size]

theorem isEmpty_eq (s : Stack) : s.isEmpty = s.toList.isEmpty := by
  simp [isEmpty, toList]

@[simp]
theorem toList_pop (s : Stack) : s.pop.toList = s.toList.tail := by
  rcases eq_empty_or_push s with rfl | ⟨below, value, rfl⟩
  · rfl
  · rw [toList_push, List.tail_cons]
    simp [pop, push]

theorem top?_eq_head? (s : Stack) : s.top? = s.toList.head? := by
  simp [top?, toList]

theorem second?_eq_head?_tail (s : Stack) : s.second? = s.toList.tail.head? := by
  -- There is nothing on the stack, or one value, or two on top of others.
  rcases eq_empty_or_push s with rfl | ⟨below, value, rfl⟩
  · rfl
  rw [toList_push, List.tail_cons, ← top?_eq_head?]
  rcases eq_empty_or_push below with rfl | ⟨rest, value', rfl⟩
  · rfl
  · rw [second?, if_pos (by simp [push])]
    simp only [push, top?, Array.size_push, Array.back?]
    rw [Array.getElem?_push_lt (by simp), Array.getElem?_eq_getElem (by simp)]
    congr 2

theorem toList_setTop (s : Stack) (value : Int32) :
    (s.setTop value).toList = if s.toList = [] then [] else value :: s.toList.tail := by
  rcases eq_empty_or_push s with rfl | ⟨below, value', rfl⟩
  · rfl
  · have : (push below value').setTop value = push below value := by
      -- No place but the last one changes.
      simp only [push, setTop, Stack.mk.injEq]
      apply Array.ext (by simp)
      intro i h h'
      grind
    simp [this]

theorem swapTop_push_push (s : Stack) (second top : Int32) :
    ((s.push second).push top).swapTop = (s.push top).push second := by
  rw [swapTop, dif_pos (by simp [push])]
  simp only [push, Stack.mk.injEq]
  apply Array.ext (by simp)
  intro i h h'
  grind

theorem toList_swapTop (s : Stack) :
    s.swapTop.toList = match s.toList with
      | top :: second :: rest => second :: top :: rest
      | values => values := by
  rcases eq_empty_or_push s with rfl | ⟨below, value, rfl⟩
  · rfl
  rcases eq_empty_or_push below with rfl | ⟨rest, value', rfl⟩
  · rfl
  · simp [swapTop_push_push]

end Stack

end Stackline
