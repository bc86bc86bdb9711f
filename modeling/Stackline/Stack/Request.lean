import Stackline.Stack

/-!
# Requests to a stack

The operations of a stack as data: each request has an answer and leaves a stack behind, so that a
whole sequence of them can be spoken of.
-/

namespace Stackline.Stack

/-- Something that a stack can be asked to do or to tell. -/
inductive Request where
  /-- Push a value, with or without room for it. -/
  | push (value : Int32) (memory : Memory)
  /-- Drop the top value and tell it. -/
  | pop
  /-- Tell the top value. -/
  | top
  /-- Tell the value below the top value. -/
  | second
  /-- Put a value in the place of the top value. -/
  | setTop (value : Int32)
  /-- Exchange the two top values. -/
  | swapTop
  /-- Tell the first values from the top, or all of them. -/
  | topmost (count : Option Nat)
  /-- Drop every value. -/
  | clear
  /-- Tell how many values there are. -/
  | size
  /-- Tell whether there are none. -/
  | isEmpty
deriving DecidableEq, Repr

/-- What a stack answers. -/
inductive Answer where
  /-- Whether the request could be carried out, or whether it is so. -/
  | verdict (holds : Bool)
  /-- The value that was asked for, if there is one. -/
  | value (value : Option Int32)
  /-- The values that were asked for. -/
  | values (values : List Int32)
  /-- The number that was asked for. -/
  | number (n : Nat)
deriving DecidableEq, Repr

/-- Answers a request. -/
def answer (s : Stack) : Request → Answer × Stack
  | .push value memory =>
    let (pushed, s) := s.tryPush value memory
    (.verdict pushed, s)
  | .pop => (.value s.top?, s.pop)
  | .top => (.value s.top?, s)
  | .second => (.value s.second?, s)
  | .setTop value => (.verdict s.top?.isSome, s.setTop value)
  | .swapTop => (.verdict s.second?.isSome, s.swapTop)
  | .topmost none => (.values s.toList, s)
  | .topmost (some count) => (.values (s.topmost count), s)
  | .clear => (.verdict true, empty)
  | .size => (.number s.size, s)
  | .isEmpty => (.verdict s.isEmpty, s)

/-- Answers requests one after the other: each answer with the stack behind it. -/
def answers (s : Stack) : List Request → List (Answer × Stack)
  | [] => []
  | request :: rest => s.answer request :: (s.answer request).2.answers rest

@[simp]
theorem answers_cons (s : Stack) (request : Request) (rest : List Request) :
    s.answers (request :: rest) = s.answer request :: (s.answer request).2.answers rest := rfl

end Stackline.Stack
