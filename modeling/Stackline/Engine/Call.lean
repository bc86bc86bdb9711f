import Stackline.Engine

/-!
# Calls

The requests that an engine answers, and what becomes of it when they are made one after the other.
Halting is for good: once a call has failed, every later one is refused.
-/

namespace Stackline

/-- A request to an engine. -/
inductive Call where
  /-- Execute the instruction on a line of text, with or without room for the stack to grow. -/
  | line (content : String) (number : Nat) (memory : Memory := .granted)
  /-- Execute an instruction, with or without room for the stack to grow. -/
  | instruction (i : Instruction) (memory : Memory)
deriving DecidableEq, Repr

/-- The number of the line that a request is made for. -/
def Call.number : Call → Nat
  | line _ number _ => number
  | instruction i _ => i.line

namespace Engine

/-- Answers a request. -/
def answer (engine : Engine) : Call → Reply
  | .line content number memory => engine.executeLine content number memory
  | .instruction i memory => engine.execute i memory

/-- Answers requests one after the other. -/
def answers (engine : Engine) : List Call → List Reply
  | [] => []
  | call :: rest => engine.answer call :: (engine.answer call).engine.answers rest

/-- The engine behind requests made one after the other. -/
def after (engine : Engine) (calls : List Call) : Engine :=
  calls.foldl (fun engine call => (engine.answer call).engine) engine

@[simp]
theorem after_nil (engine : Engine) : engine.after [] = engine := rfl

@[simp]
theorem after_cons (engine : Engine) (call : Call) (rest : List Call) :
    engine.after (call :: rest) = (engine.answer call).engine.after rest := rfl

@[simp]
theorem after_append (engine : Engine) (calls rest : List Call) :
    engine.after (calls ++ rest) = (engine.after calls).after rest := by
  simp [after]

@[simp]
theorem answers_append (engine : Engine) (calls rest : List Call) :
    engine.answers (calls ++ rest) = engine.answers calls ++ (engine.after calls).answers rest := by
  induction calls generalizing engine with
  | nil => rfl
  | cons call calls ih => simp [answers, ih]

/-- A halted engine refuses every request and stays as it is. -/
theorem answer_of_halted {engine : Engine} (h : engine.halted = true) (call : Call) :
    engine.answer call = engine.refuse call.number := by
  cases call with
  | line content number memory => exact executeLine_of_halted h content number memory
  | instruction i memory => exact execute_of_halted h i memory

theorem answers_of_halted {engine : Engine} (h : engine.halted = true) (calls : List Call) :
    engine.answers calls = calls.map fun call => engine.refuse call.number := by
  induction calls with
  | nil => rfl
  | cons call rest ih => rw [answers, answer_of_halted h, engine_refuse, ih, List.map_cons]

theorem after_of_halted {engine : Engine} (h : engine.halted = true) (calls : List Call) :
    engine.after calls = engine := by
  induction calls with
  | nil => rfl
  | cons call rest ih => rw [after_cons, answer_of_halted h, engine_refuse, ih]

end Engine

end Stackline
