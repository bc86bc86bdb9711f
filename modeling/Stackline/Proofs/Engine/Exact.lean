import Mathlib.Data.Int.ModEq
import Stackline.Proofs.Engine.Quiet

/-!
# Arithmetic without wrapping around

Sums, differences and products of machine words wrap around in every instruction. It comes to the
same to compute with numbers of any size and to wrap around once, at the end.

* `Table.exactOutcome i values` — the table of instructions for numbers of any size.
* `Table.exactRun values program` — what becomes of such numbers in a program, or the first
  instruction that is at fault.
* `Opcode.ring` — the opcodes that move, add, subtract and multiply numbers.
* `Table.outcome_map_wrap` — with these opcodes, the table takes wrapped numbers to wrapped numbers.
* `Engine.numbers_executeAll_eq_map_wrap` — programs of these opcodes.
-/

namespace Stackline

/-- The opcodes that move, add, subtract and multiply numbers. They print nothing. -/
def Opcode.ring : List Opcode :=
  [push, pop, swap, add, sub, mul, nop]

namespace Table

/-- The table of instructions for numbers of any size: sums, differences and products do not wrap
around. -/
def exactOutcome (i : Instruction) (values : List Int) : Outcome :=
  match i.opcode with
  | .add => binary .add (fun second top => .ok (second + top)) values
  | .sub => binary .sub (fun second top => .ok (second - top)) values
  | .mul => binary .mul (fun second top => .ok (second * top)) values
  | _ => outcome i values

/-- The numbers behind the instructions of a program, or how many instructions are done before the
first one that is at fault, and its fault. -/
def exactRun (values : List Int) : Program → Except (Nat × Fault) (List Int)
  | [] => .ok values
  | i :: rest =>
    match exactOutcome i values with
    | .error cause => .error (0, cause)
    | .ok (behind, _) => (exactRun behind rest).mapError fun (done, cause) => (done + 1, cause)

/-! ## Wrapping around -/

/-- Wrapping around leads to the only number from `-2^31` up to `2^31 - 1` that is congruent modulo
`2^32`. -/
theorem eq_wrap_iff {r z : Int} :
    r = wrap z ↔ -2 ^ 31 ≤ r ∧ r < 2 ^ 31 ∧ r ≡ z [ZMOD 2 ^ 32] := by
  unfold wrap Int.ModEq
  omega

theorem wrap_modEq (z : Int) : wrap z ≡ z [ZMOD 2 ^ 32] :=
  (eq_wrap_iff.1 rfl).2.2

/-- Congruent numbers wrap around to the same number. -/
theorem wrap_congr {y z : Int} (h : y ≡ z [ZMOD 2 ^ 32]) : wrap y = wrap z := by
  obtain ⟨hlow, hhigh, hy⟩ := eq_wrap_iff.1 (rfl : wrap y = wrap y)
  exact eq_wrap_iff.2 ⟨hlow, hhigh, hy.trans h⟩

/-- A value of the machine has nothing to wrap around. -/
theorem wrap_toInt (value : Int32) : wrap value.toInt = value.toInt :=
  (eq_wrap_iff.2 ⟨Int32.le_toInt value, Int32.toInt_lt value, rfl⟩).symm

/-! ## Instructions -/

/-- An operation that goes along with wrapping around does so on a stack. -/
theorem binary_map_wrap (op : Opcode) {result exact : Int → Int → Int}
    (h : ∀ second top, result (wrap second) (wrap top) = wrap (exact second top))
    (values : List Int) :
    binary op (fun second top => .ok (result second top)) (values.map wrap) =
      (binary op (fun second top => .ok (exact second top)) values).map
        fun (behind, _) => (behind.map wrap, []) := by
  match values with
  | [] => rfl
  | [_] => rfl
  | top :: second :: rest =>
    simp only [List.map_cons, binary, h]
    rfl

/-- The table takes wrapped numbers to the wrapped results, and finds the same faults, as long as
numbers are moved, added, subtracted and multiplied only. -/
theorem outcome_map_wrap {i : Instruction} (h : i.opcode ∈ Opcode.ring) (values : List Int) :
    outcome i (values.map wrap) =
      (exactOutcome i values).map fun (behind, _) => (behind.map wrap, []) := by
  obtain ⟨opcode, operand, line⟩ := i
  cases opcode with
  | push =>
    cases operand with
    | none => rfl
    | some value =>
      simp only [outcome, exactOutcome]
      rw [← wrap_toInt value]
      simp [Except.map, wrap_toInt]
  | pop => cases values <;> rfl
  | swap =>
    -- There is nothing on the stack, or one value, or two on top of others.
    rcases values with _ | ⟨top, _ | ⟨second, rest⟩⟩
    · rfl
    · rfl
    · rfl
  | add => exact binary_map_wrap .add (fun _ _ => wrap_congr ((wrap_modEq _).add (wrap_modEq _))) _
  | sub => exact binary_map_wrap .sub (fun _ _ => wrap_congr ((wrap_modEq _).sub (wrap_modEq _))) _
  | mul => exact binary_map_wrap .mul (fun _ _ => wrap_congr ((wrap_modEq _).mul (wrap_modEq _))) _
  | nop => rfl
  | pall | pint | div | mod | pchar | pstr => simp [Opcode.ring] at h

/-! ## Programs -/

/-- A program is at fault at an instruction behind others that are not. -/
theorem exactRun_eq_error {values : List Int} {program : Program} {done : Nat} {cause : Fault}
    (h : exactRun values program = .error (done, cause)) :
    ∃ earlier i later behind, program = earlier ++ i :: later ∧ earlier.length = done ∧
      exactRun values earlier = .ok behind ∧ exactOutcome i behind = .error cause := by
  -- The first instruction is at fault, or it is done and one of the others is.
  induction program generalizing values done with
  | nil => exact nomatch h
  | cons i rest ih =>
    rw [exactRun] at h
    cases hfirst : exactOutcome i values with
    | error fault =>
      rw [hfirst] at h
      obtain ⟨rfl, rfl⟩ := Prod.mk.inj (Except.error.inj h)
      exact ⟨[], i, rest, values, rfl, rfl, rfl, hfirst⟩
    | ok row =>
      rw [hfirst] at h
      cases hrest : exactRun row.1 rest with
      | ok behind => simp [hrest, Except.mapError] at h
      | error faulty =>
        simp only [hrest, Except.mapError, Except.error.injEq, Prod.mk.injEq] at h
        obtain ⟨rfl, rfl⟩ := h
        obtain ⟨earlier, j, later, behind, rfl, hdone, hearlier, hfault⟩ := ih hrest
        refine ⟨i :: earlier, j, later, behind, rfl, ?_, ?_, hfault⟩
        · rw [List.length_cons, hdone]
        · rw [exactRun, hfirst]
          simp only [hearlier]
          rfl

/-- A program that is without fault on exact numbers leads from the wrapped numbers to the wrapped
ones behind it, and prints nothing. -/
theorem leads_of_exactRun {values behind : List Int} {program : Program}
    (hring : ∀ i ∈ program, i.opcode ∈ Opcode.ring) (h : exactRun values program = .ok behind) :
    Leads (values.map wrap) program (behind.map wrap) := by
  induction program generalizing values with
  | nil =>
    obtain rfl := Except.ok.inj h
    exact .idle _
  | cons i rest ih =>
    rw [List.forall_mem_cons] at hring
    have hrow := outcome_map_wrap hring.1 values
    rw [exactRun] at h
    cases hfirst : exactOutcome i values with
    | error cause => simp [hfirst] at h
    | ok row =>
      rw [hfirst] at h hrow
      cases hrest : exactRun row.1 rest with
      | error faulty => simp [hrest, Except.mapError] at h
      | ok final =>
        obtain rfl : final = behind := by simpa [hrest, Except.mapError] using h
        exact .next hrow (ih hring.2 hrest)

end Table

namespace Engine

variable {engine : Engine} {values behind : List Int}

/-- Where exact numbers have a fault, the instruction has it, too. -/
theorem execute_of_exactOutcome_eq_error {i : Instruction} {cause : Fault}
    (hrunning : engine.halted = false) (hnumbers : engine.stack.numbers = values.map Table.wrap)
    (hring : i.opcode ∈ Opcode.ring) (h : Table.exactOutcome i values = .error cause) :
    (engine.execute i).result = .error (.fault (cause.at i.line)) := by
  have hrow := Table.outcome_map_wrap hring values
  rw [← hnumbers, h] at hrow
  rw [execute_of_undone hrunning (Instruction.printed_of_outcome_eq_error hrow)]
  rfl

/-- A program that is without fault on exact numbers succeeds, and leaves the wrapped ones. -/
theorem executeAll_of_exactRun_eq_ok (hrunning : engine.halted = false)
    (hnumbers : engine.stack.numbers = values.map Table.wrap) {program : Program}
    (hring : ∀ i ∈ program, i.opcode ∈ Opcode.ring)
    (h : Table.exactRun values program = .ok behind) :
    (engine.executeAll program).result = .ok () ∧
      (engine.executeAll program).engine.stack.numbers = behind.map Table.wrap := by
  have hleads := Table.leads_of_exactRun hring h
  rw [← hnumbers] at hleads
  have hquiet := quiet_executeAll hrunning hleads
  exact ⟨hquiet.result, hquiet.numbers⟩

/-- Whatever instructions push, pop, swap, add, subtract and multiply numbers or do nothing, and
whatever the sink is, a fresh engine executes them as the table for numbers of any size does.

If there is no fault with these numbers, the program succeeds, and what is on the stack are these
numbers, wrapped around once. If there is one, the instructions before it succeed, and the program
fails at the same instruction with the same fault.

To wrap around is to take the only number from `-2^31` up to `2^31 - 1` that is congruent modulo
`2^32`. -/
theorem numbers_executeAll_eq_map_wrap (sink : Sink) (hooked : Bool) {program : Program}
    (h : ∀ i ∈ program, i.opcode ∈ Opcode.ring) :
    let fresh := start sink hooked
    (match Table.exactRun [] program with
      | .ok values =>
        (fresh.executeAll program).result = .ok () ∧
          (fresh.executeAll program).engine.stack.numbers = values.map Table.wrap
      | .error (done, cause) =>
        ∃ earlier i later, program = earlier ++ i :: later ∧ earlier.length = done ∧
          (fresh.executeAll earlier).result = .ok () ∧
          ((fresh.executeAll earlier).engine.execute i).result =
            .error (.fault (cause.at i.line)) ∧
          (fresh.executeAll program).result = .error (.fault (cause.at i.line))) ∧
    ∀ r z : Int, r = Table.wrap z ↔ -2 ^ 31 ≤ r ∧ r < 2 ^ 31 ∧ r ≡ z [ZMOD 2 ^ 32] := by
  intro fresh
  refine ⟨?_, fun _ _ => Table.eq_wrap_iff⟩
  cases hexact : Table.exactRun [] program with
  | ok values => exact executeAll_of_exactRun_eq_ok rfl rfl h hexact
  | error faulty =>
    obtain ⟨done, cause⟩ := faulty
    obtain ⟨earlier, i, later, behind, rfl, hdone, hearlier, hfault⟩ :=
      Table.exactRun_eq_error hexact
    obtain ⟨hring, hlater⟩ := List.forall_mem_append.1 h
    obtain ⟨hresult, hnumbers⟩ :=
      @executeAll_of_exactRun_eq_ok fresh [] behind rfl rfl earlier hring hearlier
    have hrunning := (@continues_executeAll fresh rfl earlier hresult).running
    have hfails := execute_of_exactOutcome_eq_error hrunning hnumbers
      (hlater i List.mem_cons_self) hfault
    refine ⟨earlier, i, later, rfl, hdone, hresult, hfails, ?_⟩
    rw [executeAll_append, Reply.andThen_of_ok hresult, executeAll,
      Reply.andThen_of_error hfails]
    exact hfails

/-- A sum and a difference that are out of range on the way: the number behind them wraps around
once. -/
theorem numbers_executeAll_eq_map_wrap_twice :
    let program : Program :=
      [.push 0x7FFFFFFF 1, .push 0x7FFFFFFF 2, { opcode := .add, operand := none, line := 3 },
        .push (-0x80000000) 5, { opcode := .swap, operand := none, line := 6 },
        { opcode := .sub, operand := none, line := 7 }]
    (∀ i ∈ program, i.opcode ∈ Opcode.ring) ∧
    Table.exactRun [] program = .ok [-6442450942] ∧
    ∀ (sink : Sink) (hooked : Bool),
      ((start sink hooked).executeAll program).result = .ok () ∧
        ((start sink hooked).executeAll program).engine.stack.numbers = [-2147483646] := by
  intro program
  have hring : ∀ i ∈ program, i.opcode ∈ Opcode.ring := by decide
  refine ⟨hring, by decide, fun sink hooked => ?_⟩
  exact (numbers_executeAll_eq_map_wrap sink hooked hring).1

end Engine

end Stackline
