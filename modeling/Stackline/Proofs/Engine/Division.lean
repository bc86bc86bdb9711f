import Stackline.Proofs.Engine.Exact

/-!
# Quotients and remainders

A value that is divided by another one leaves a quotient and a remainder that belong together: the
quotient times the divisor, with the remainder added, is the dividend again. On machine words this
is so without exception, even where the quotient wraps around.

* `Table.wrap_quotient_mul_add` — the same said of numbers that wrap around at every step.
* `Table.toInt_quotient_mul_add`, `Table.natAbs_toInt_remainder_lt`, `Table.sign_toInt_remainder` —
  what the quotient and the remainder are as numbers.
* `Program.division dividend divisor number` — a program that divides, and makes the dividend from
  the quotient and the remainder.
* `Table.leads_quotient`, `Table.leads_remainder`, `Table.leads_division` — where it leads.
* `Engine.executeAll_division` — every running engine executes it so, and refuses to divide by zero.
-/

namespace Stackline

/-! ## Numbers -/

namespace Table

variable {dividend divisor : Int32}

/-- The quotient may wrap around, and the product and the sum, too: what comes out is the dividend,
wrapped around. -/
theorem wrap_quotient_mul_add (dividend divisor : Int) :
    wrap (wrap (wrap (dividend.tdiv divisor) * divisor) + dividend.tmod divisor) =
      wrap dividend := by
  apply wrap_congr
  calc wrap (wrap (dividend.tdiv divisor) * divisor) + dividend.tmod divisor
      ≡ wrap (dividend.tdiv divisor) * divisor + dividend.tmod divisor [ZMOD 2 ^ 32] :=
        (wrap_modEq _).add_right _
    _ ≡ dividend.tdiv divisor * divisor + dividend.tmod divisor [ZMOD 2 ^ 32] :=
        ((wrap_modEq _).mul_right _).add_right _
    _ = dividend := Int.tdiv_mul_add_tmod dividend divisor

/-- On machine words, the quotient times the divisor with the remainder added is the dividend. -/
theorem quotient_mul_add (dividend divisor : Int32) :
    dividend / divisor * divisor + dividend % divisor = dividend := by
  apply Int32.toInt_inj.1
  rw [toInt_add, toInt_mul, toInt_div, Int32.toInt_mod, wrap_quotient_mul_add, wrap_toInt]

/-- On numbers, it is as well, unless the quotient is out of range. -/
theorem toInt_quotient_mul_add (h : ¬ (dividend = -0x80000000 ∧ divisor = -1)) :
    (dividend / divisor).toInt * divisor.toInt + (dividend % divisor).toInt = dividend.toInt := by
  have hquotient : (dividend / divisor).toInt = dividend.toInt.tdiv divisor.toInt := by
    rcases not_and_or.1 h with hleft | hright
    · exact Int32.toInt_div_of_ne_left dividend divisor hleft
    · exact Int32.toInt_div_of_ne_right dividend divisor hright
  rw [hquotient, Int32.toInt_mod, Int.tdiv_mul_add_tmod]

/-- The remainder is smaller than the divisor. -/
theorem natAbs_toInt_remainder_lt (h : divisor ≠ 0) (dividend : Int32) :
    (dividend % divisor).toInt.natAbs < divisor.toInt.natAbs := by
  have hpositive : 0 < divisor.toInt.natAbs := by
    rw [Int.natAbs_pos, ← Int32.toInt_zero]
    exact mt Int32.toInt_inj.1 h
  rw [Int32.toInt_mod, Int.natAbs_tmod]
  exact Nat.mod_lt _ hpositive

/-- The remainder has the sign of the dividend, unless it is zero. -/
theorem sign_toInt_remainder (dividend divisor : Int32) :
    (dividend % divisor).toInt = 0 ∨ (dividend % divisor).toInt.sign = dividend.toInt.sign := by
  rw [Int32.toInt_mod]
  by_cases hdvd : divisor.toInt ∣ dividend.toInt
  · exact .inl (Int.tmod_eq_zero_of_dvd hdvd)
  · exact .inr (by rw [Int.sign_tmod, if_neg hdvd])

/-! ## Rows -/

variable {second top : Int32} (values : List Int) (operand : Option Int32) (line : Nat)

theorem outcome_add :
    outcome { opcode := .add, operand, line } (top.toInt :: second.toInt :: values) =
      .ok ((second + top).toInt :: values, []) := by
  rw [toInt_add]
  rfl

theorem outcome_mul :
    outcome { opcode := .mul, operand, line } (top.toInt :: second.toInt :: values) =
      .ok ((second * top).toInt :: values, []) := by
  rw [toInt_mul]
  rfl

theorem outcome_div (h : top ≠ 0) :
    outcome { opcode := .div, operand, line } (top.toInt :: second.toInt :: values) =
      .ok ((second / top).toInt :: values, []) := by
  simp only [outcome, binary]
  rw [← Instruction.map_toInt_dividing toInt_div, if_neg h]
  rfl

theorem outcome_mod (h : top ≠ 0) :
    outcome { opcode := .mod, operand, line } (top.toInt :: second.toInt :: values) =
      .ok ((second % top).toInt :: values, []) := by
  simp only [outcome, binary]
  rw [← Instruction.map_toInt_dividing Int32.toInt_mod, if_neg h]
  rfl

/-- Zero divides no number. -/
theorem outcome_of_zero {op : Opcode} (h : op ∈ [Opcode.div, .mod]) (second : Int) :
    outcome { opcode := op, operand, line } (0 :: second :: values) = .error .divisionByZero := by
  simp only [List.mem_cons, List.not_mem_nil, or_false] at h
  rcases h with rfl | rfl <;> rfl

end Table

/-! ## The program -/

/-- Divides two values, and makes the dividend from the quotient and the remainder. Every line is
known by its place. -/
def Program.division (dividend divisor : Int32) (number : Nat → Nat) : Program :=
  [.push dividend (number 1), .push divisor (number 2),
    { opcode := .div, operand := none, line := number 3 },
    .push divisor (number 4), { opcode := .mul, operand := none, line := number 5 },
    .push dividend (number 6), .push divisor (number 7),
    { opcode := .mod, operand := none, line := number 8 },
    { opcode := .add, operand := none, line := number 9 }]

namespace Table

open Program

variable {divisor : Int32} (h : divisor ≠ 0) (dividend : Int32) (number : Nat → Nat)
  (values : List Int)

include h

/-- The first three instructions leave the quotient. -/
theorem leads_quotient :
    Leads values ((division dividend divisor number).take 3)
      ((dividend / divisor).toInt :: values) :=
  .next rfl (.next rfl (.next (outcome_div values none _ h) (.idle _)))

/-- The next five leave the remainder, above the quotient times the divisor. -/
theorem leads_remainder :
    Leads values ((division dividend divisor number).take 8)
      ((dividend % divisor).toInt :: (dividend / divisor * divisor).toInt :: values) := by
  apply (leads_quotient h dividend number values).append
  refine .next rfl (.next (outcome_mul values none _) (.next rfl (.next rfl (.next ?_ (.idle _)))))
  exact outcome_mod _ none _ h

/-- The last one leaves the dividend. -/
theorem leads_division :
    Leads values (division dividend divisor number) (dividend.toInt :: values) := by
  apply (leads_remainder h dividend number values).append
  have hrow := @outcome_add (dividend / divisor * divisor) (dividend % divisor) values none
    (number 9)
  rw [quotient_mul_add] at hrow
  exact .next hrow (.idle _)

end Table

/-! ## Engines -/

namespace Engine

variable {engine : Engine}

/-- A division by zero is refused on its own line. -/
theorem executeAll_of_zero (hrunning : engine.halted = false) {op : Opcode}
    (h : op ∈ [Opcode.div, .mod]) (dividend : Int32) (first second line : Nat) :
    (engine.executeAll
      [.push dividend first, .push 0 second, { opcode := op, operand := none, line }]).result =
        .error (.fault (Fault.divisionByZero.at line)) := by
  have hleads : Table.Leads engine.stack.numbers [.push dividend first, .push 0 second]
      (0 :: dividend.toInt :: engine.stack.numbers) :=
    .next rfl (.next rfl (.idle _))
  exact (executeAll_of_leads_of_error hrunning hleads (Table.outcome_of_zero _ none line h _)).1

/-- Whatever is on the stack, whatever the sink takes and whatever two values are divided, a running
engine makes the dividend from the quotient and the remainder again: nothing is at fault, nothing is
printed, and the dividend is all that has come on the stack.

On the way, the division leaves a quotient on the stack, and `mod` leaves a remainder above the
product. The remainder is smaller than the divisor, and it is zero or has the sign of the dividend.
The quotient times the divisor with the remainder added is the dividend, also on numbers, unless the
quotient wraps around, as it does for one pair.

If the divisor is zero, neither instruction is done, and the fault names its line. -/
theorem executeAll_division (hrunning : engine.halted = false) (dividend divisor : Int32)
    (number : Nat → Nat) :
    let program := Program.division dividend divisor number
    (divisor ≠ 0 →
      (engine.executeAll program).result = .ok () ∧
      (engine.executeAll program).output = [] ∧
      (engine.executeAll program).engine.stack = engine.stack.push dividend ∧
      ∃ quotient product remainder : Int32,
        (engine.executeAll (program.take 3)).engine.stack = engine.stack.push quotient ∧
        (engine.executeAll (program.take 8)).engine.stack =
          (engine.stack.push product).push remainder ∧
        remainder.toInt.natAbs < divisor.toInt.natAbs ∧
        (remainder.toInt = 0 ∨ remainder.toInt.sign = dividend.toInt.sign) ∧
        (¬ (dividend = -0x80000000 ∧ divisor = -1) →
          quotient.toInt * divisor.toInt + remainder.toInt = dividend.toInt)) ∧
    ∀ op ∈ [Opcode.div, .mod], ∀ first second line : Nat,
      (engine.executeAll
        [.push dividend first, .push 0 second, { opcode := op, operand := none, line }]).result =
          .error (.fault (Fault.divisionByZero.at line)) := by
  intro program
  constructor
  · intro hne
    have hwhole := quiet_executeAll hrunning
      (Table.leads_division hne dividend number engine.stack.numbers)
    have hquotient := quiet_executeAll hrunning
      (Table.leads_quotient hne dividend number engine.stack.numbers)
    have hremainder := quiet_executeAll hrunning
      (Table.leads_remainder hne dividend number engine.stack.numbers)
    refine ⟨hwhole.result, hwhole.output, hwhole.stack_eq (Stack.numbers_push _ _), ?_⟩
    refine ⟨dividend / divisor, dividend / divisor * divisor, dividend % divisor, ?_, ?_, ?_, ?_, ?_⟩
    · exact hquotient.stack_eq (Stack.numbers_push _ _)
    · exact hremainder.stack_eq (by rw [Stack.numbers_push, Stack.numbers_push])
    · exact Table.natAbs_toInt_remainder_lt hne dividend
    · exact Table.sign_toInt_remainder dividend divisor
    · exact Table.toInt_quotient_mul_add
  · intro op hop first second line
    exact executeAll_of_zero hrunning hop dividend first second line

/-- The quotient that wraps around: on a sink that takes nothing, the lowest value comes back. -/
theorem executeAll_division_lowest :
    let engine := { start { room := some 0 } with stack := .ofList [5] }
    let program := Program.division (-0x80000000) (-1) id
    engine.halted = false ∧ (-1 : Int32) ≠ 0 ∧
    (engine.executeAll program).result = .ok () ∧
    (engine.executeAll program).engine.stack = engine.stack.push (-0x80000000) := by
  intro engine program
  have hrunning : engine.halted = false := rfl
  have hdivisor : (-1 : Int32) ≠ 0 := by decide
  obtain ⟨hresult, -, hstack, -⟩ :=
    (executeAll_division hrunning (-0x80000000) (-1) id).1 hdivisor
  exact ⟨hrunning, hdivisor, hresult, hstack⟩

end Engine

end Stackline
