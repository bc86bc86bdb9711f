import Stackline.Stack.Request

/-!
# Stacks as lists

A stack holds its values from the bottom to the top and looks at them from the end. For whoever asks
it, it is a list whose head is the top.

* `TopFirst.answer values request` — what such a list answers, and the list behind the request.
* `Stack.answer_eq_topFirst` — a stack answers as the list of its values does, and stays in step.
* `Request.Idle size request` — requests that leave a stack of this size as it is.
* `Request.reach? request` — how many values from the top a request is about. It leaves those below
  where they are, and does not depend on them (`TopFirst.answer_append`).
* `Stack.answers_eq_topFirst` — the headline, for requests one after the other.
-/

namespace Stackline.Stack

/-! ## Lists that answer requests -/

namespace TopFirst

/-- What a list whose head is the top answers to a request, and the list behind the request. -/
def answer (values : List Int32) : Request → Answer × List Int32
  | .push value .granted => (.verdict true, value :: values)
  | .push _ .refused => (.verdict false, values)
  | .pop => (.value values.head?, values.tail)
  | .top => (.value values.head?, values)
  | .second => (.value values[1]?, values)
  | .setTop value =>
    match values with
    | _ :: below => (.verdict true, value :: below)
    | [] => (.verdict false, [])
  | .swapTop =>
    match values with
    | top :: second :: below => (.verdict true, second :: top :: below)
    | _ => (.verdict false, values)
  | .topmost none => (.values values, values)
  | .topmost (some count) => (.values (values.take count), values)
  | .clear => (.verdict true, [])
  | .size => (.number values.length, values)
  | .isEmpty => (.verdict values.isEmpty, values)

/-- What it answers to requests one after the other: each answer with the list behind it. -/
def answers (values : List Int32) : List Request → List (Answer × List Int32)
  | [] => []
  | request :: rest => answer values request :: answers (answer values request).2 rest

end TopFirst

namespace Request

/-- Whether a request leaves a stack of that size as it is. -/
def Idle (size : Nat) : Request → Prop
  | push _ memory => memory = .refused
  | pop => size = 0
  | setTop _ => size = 0
  | swapTop => size < 2
  | clear => size = 0
  | top | second | topmost _ | Request.size | isEmpty => True

/-- How many values from the top a request is about, unless it is about all of them. -/
def reach? : Request → Option Nat
  | push _ _ => some 0
  | pop | top | setTop _ | isEmpty => some 1
  | second | swapTop => some 2
  | topmost count => count
  | clear | size => none

end Request

/-! ## One request -/

/-- A stack answers as the list of its values does, and the stack behind the answer has the values
of the list behind it. -/
theorem answer_eq_topFirst (s : Stack) (request : Request) :
    ((s.answer request).1, (s.answer request).2.toList) = TopFirst.answer s.toList request := by
  cases request with
  | push value memory =>
    cases memory with
    | granted => exact congrArg (Prod.mk _) (s.toList_push value)
    | refused => rfl
  | pop => simp only [answer, TopFirst.answer, top?_eq_head?, toList_pop]
  | top => simp only [answer, TopFirst.answer, top?_eq_head?]
  | second =>
    simp only [answer, TopFirst.answer, second?_eq_head?_tail, List.head?_eq_getElem?,
      List.getElem?_tail]
  | setTop value =>
    simp only [answer, TopFirst.answer, top?_eq_head?, toList_setTop]
    cases s.toList with
    | nil => rfl
    | cons => rfl
  | swapTop =>
    simp only [answer, TopFirst.answer, second?_eq_head?_tail, toList_swapTop]
    cases s.toList with
    | nil => rfl
    | cons _ below =>
      cases below with
      | nil => rfl
      | cons => rfl
  | topmost count =>
    cases count with
    | none => rfl
    | some count => rfl
  | clear => rfl
  | size => simp only [answer, TopFirst.answer, size_eq_length]
  | isEmpty => simp only [answer, TopFirst.answer, isEmpty_eq]

/-- An idle request leaves a list as it is. -/
theorem TopFirst.answer_of_idle {values : List Int32} {request : Request}
    (h : request.Idle values.length) : (answer values request).2 = values := by
  cases request with
  | push value memory =>
    obtain rfl : memory = .refused := h
    rfl
  | pop | setTop | clear =>
    obtain rfl := List.eq_nil_of_length_eq_zero h
    rfl
  | swapTop =>
    match values with
    | [] => rfl
    | [_] => rfl
    | _ :: _ :: _ => exact absurd h (by simp [Request.Idle])
  | topmost count =>
    cases count with
    | none => rfl
    | some count => rfl
  | top | second | size | isEmpty => rfl

/-- What a request is not about does not change the answer, and stays below. -/
theorem TopFirst.answer_append {request : Request} {reach : Nat} {upper : List Int32}
    (hreach : request.reach? = some reach) (h : reach ≤ upper.length) (below : List Int32) :
    answer (upper ++ below) request =
      ((answer upper request).1, (answer upper request).2 ++ below) := by
  -- As many values are there as the request looks at, so it finds the same ones.
  cases request with
  | push value memory =>
    cases memory with
    | granted => rfl
    | refused => rfl
  | pop | top | setTop | isEmpty =>
    obtain rfl := Option.some.inj hreach
    match upper with
    | [] => exact absurd h (by simp)
    | _ :: _ => rfl
  | second | swapTop =>
    obtain rfl := Option.some.inj hreach
    match upper with
    | [] => exact absurd h (by simp)
    | [_] => exact absurd h (by simp)
    | _ :: _ :: _ => rfl
  | topmost count =>
    obtain rfl : count = some reach := hreach
    exact Prod.ext (congrArg Answer.values (List.take_append_of_le_length h)) rfl
  | clear | size => exact nomatch hreach

/-! ## Requests one after the other -/

theorem answers_map_toList (s : Stack) (requests : List Request) :
    (s.answers requests).map (fun (answer, behind) => (answer, behind.toList)) =
      TopFirst.answers s.toList requests := by
  -- Behind each answer, stack and list are in step again.
  induction requests generalizing s with
  | nil => rfl
  | cons request rest ih =>
    have hanswer := s.answer_eq_topFirst request
    rw [answers_cons, List.map_cons, TopFirst.answers, ← hanswer, ih]

/-- An idle request leaves a stack as it is. -/
theorem answer_of_idle {s : Stack} {request : Request} (h : request.Idle s.size) :
    (s.answer request).2 = s := by
  have hanswer := congrArg Prod.snd (s.answer_eq_topFirst request)
  rw [size_eq_length] at h
  rw [TopFirst.answer_of_idle h] at hanswer
  exact toList_injective hanswer

/-- Whatever the requests are, a new stack answers them one after the other as the empty list does,
and behind each of them it has the values of the list behind it. These are the values that it tells
when it is asked for all of them.

A push without room leaves a stack as it is, and so do an exchange where there are fewer than two
values and every request to tell something. Values that are told twice in a row are the same. The
values that a request is not about stay where they are, in order below the others, and have no part
in the answer. -/
theorem answers_eq_topFirst (requests : List Request) :
    (empty.answers requests).map (fun (answer, behind) => (answer, behind.toList)) =
        TopFirst.answers [] requests ∧
      ∀ s : Stack,
        (s.answer (.topmost none)).1 = .values s.toList ∧
        (∀ request, request.Idle s.size → (s.answer request).2 = s) ∧
        (∀ count again,
          (s.answer (.topmost count)).2.answer (.topmost again) = s.answer (.topmost again)) ∧
        ∀ request reach upper below, request.reach? = some reach → reach ≤ upper.length →
          s.toList = upper ++ below →
          (s.answer request).1 = ((ofList upper).answer request).1 ∧
          (s.answer request).2.toList = ((ofList upper).answer request).2.toList ++ below := by
  refine ⟨answers_map_toList empty requests, fun s => ⟨rfl, fun _ => answer_of_idle, ?_, ?_⟩⟩
  · intro count again
    rw [@answer_of_idle s (.topmost count) trivial]
  · intro request reach upper below hreach hle hvalues
    have hanswer := s.answer_eq_topFirst request
    have hupper := (ofList upper).answer_eq_topFirst request
    rw [toList_ofList] at hupper
    rw [hvalues, TopFirst.answer_append hreach hle, ← hupper] at hanswer
    exact Prod.mk.inj hanswer

/-- A value for which there is no room is not pushed on three others, and the two upper ones of
these are exchanged above the third. One value alone is not exchanged. -/
theorem answers_eq_topFirst_refused :
    let s := ofList [1, 2, 3]
    (Request.push 9 .refused).Idle s.size ∧ (s.answer (.push 9 .refused)).2 = s ∧
      Request.swapTop.reach? = some 2 ∧ (s.answer .swapTop).2.toList = [2, 1] ++ [3] ∧
      (empty.answers [.push 3 .granted, .swapTop, .topmost none]).map
          (fun (answer, behind) => (answer, behind.toList)) =
        [(.verdict true, [3]), (.verdict false, [3]), (.values [3], [3])] := by
  intro s
  obtain ⟨hanswers, hlaws⟩ := answers_eq_topFirst [.push 3 .granted, .swapTop, .topmost none]
  obtain ⟨-, hidle, -, hbelow⟩ := hlaws s
  refine ⟨rfl, hidle (.push 9 .refused) rfl, rfl, ?_, hanswers⟩
  exact (hbelow .swapTop 2 [1, 2] [3] rfl (by decide) (by decide)).2

end Stackline.Stack
