import Stackline.Proofs.Engine.Sequence
import Stackline.Proofs.Instruction.Table

/-!
# The part of a stack that is not reached

An instruction works on the two values on top of a stack at most, and it looks at the others only to
print them. So a program that succeeds on a stack does the same on a deeper one, and leaves the
values below as they are.

* `Opcode.listing` — the opcodes that print the values from the top downward.
* `Opcode.takes`, `Opcode.gives` — how many values an instruction takes from the top, and how many
  it puts in their place.
* `Table.Replaces i output taken given`, `Table.exists_replaces` — an instruction that is done takes
  numbers from the top and gives others for them, whatever is below.
* `Table.outcome_append` — a row of the table, with other numbers below those that it is about.
* `Engine.Over below engine deeper` — the second engine has the stack of the first one on top of
  other values, and can go on.
* `Engine.Over.execute`, `Engine.Over.executeAll` — such engines execute an instruction and a
  program alike.
* `Engine.succeeds_over_below` — programs that succeed.
-/

namespace Stackline

namespace Opcode

/-- The opcodes that print the values from the top downward, as far as there are any. -/
def listing : List Opcode :=
  [pall, pstr]

/-- How many values an instruction takes from the top of the stack. -/
def takes : Opcode → Nat
  | push | pall | pstr | nop => 0
  | pint | pop | pchar => 1
  | swap | add | sub | mul | div | mod => 2

/-- How many values an instruction puts in the place of those that it takes. -/
def gives : Opcode → Nat
  | pop | pall | pstr | nop => 0
  | push | pint | pchar | add | sub | mul | div | mod => 1
  | swap => 2

end Opcode

namespace Table

/-- What an instruction that is done makes of the numbers on top, and that it makes the same of them
on top of any others. -/
structure Replaces (i : Instruction) (output : List UInt8) (taken given : List Int) : Prop where
  /-- As many numbers are taken as the opcode takes. -/
  takes : taken.length = i.opcode.takes
  /-- As many numbers are given as the opcode gives. -/
  gives : given.length = i.opcode.gives
  /-- The other numbers make no difference, unless they are printed. -/
  row (others : List Int) :
    ∃ printed, outcome i (taken ++ others) = .ok (given ++ others, printed) ∧
      (i.opcode ∉ Opcode.listing → printed = output)

variable {values behind : List Int} {output : List UInt8}

/-- An instruction that is done replaces numbers on top and leaves the others below. -/
theorem exists_replaces {i : Instruction} (h : outcome i values = .ok (behind, output)) :
    ∃ taken given rest, values = taken ++ rest ∧ behind = given ++ rest ∧
      Replaces i output taken given := by
  obtain ⟨opcode, operand, line⟩ := i
  cases opcode with
  | push =>
    cases operand with
    | none => cases h
    | some value =>
      obtain ⟨rfl, rfl⟩ := Prod.mk.inj (Except.ok.inj h)
      exact ⟨[], [value.toInt], values, rfl, rfl, rfl, rfl, fun _ => ⟨[], rfl, fun _ => rfl⟩⟩
  | pall | pstr =>
    obtain ⟨rfl, rfl⟩ := Prod.mk.inj (Except.ok.inj h)
    refine ⟨[], [], values, rfl, rfl, rfl, rfl, fun others => ⟨_, rfl, fun hlisting => ?_⟩⟩
    simp [Opcode.listing] at hlisting
  | pint =>
    cases values with
    | nil => cases h
    | cons top rest =>
      obtain ⟨rfl, rfl⟩ := Prod.mk.inj (Except.ok.inj h)
      exact ⟨[top], [top], rest, rfl, rfl, rfl, rfl, fun _ => ⟨_, rfl, fun _ => rfl⟩⟩
  | pop =>
    cases values with
    | nil => cases h
    | cons top rest =>
      obtain ⟨rfl, rfl⟩ := Prod.mk.inj (Except.ok.inj h)
      exact ⟨[top], [], rest, rfl, rfl, rfl, rfl, fun _ => ⟨[], rfl, fun _ => rfl⟩⟩
  | swap =>
    match values with
    | [] => cases h
    | [_] => cases h
    | top :: second :: rest =>
      obtain ⟨rfl, rfl⟩ := Prod.mk.inj (Except.ok.inj h)
      exact ⟨[top, second], [second, top], rest, rfl, rfl, rfl, rfl,
        fun _ => ⟨[], rfl, fun _ => rfl⟩⟩
  | add | sub | mul | div | mod =>
    obtain ⟨top, second, rest, z, rfl, hresult, rfl, rfl⟩ := binary_eq_ok h
    refine ⟨[top, second], [z], rest, rfl, rfl, rfl, rfl, fun _ => ⟨[], ?_, fun _ => rfl⟩⟩
    simp only [outcome, List.cons_append, List.nil_append, binary, hresult]
    rfl
  | pchar =>
    cases values with
    | nil => cases h
    | cons top rest =>
      simp only [outcome] at h
      by_cases hcode : 0 ≤ top ∧ top ≤ 127
      · rw [if_pos hcode] at h
        obtain ⟨rfl, rfl⟩ := Prod.mk.inj (Except.ok.inj h)
        refine ⟨[top], [top], rest, rfl, rfl, rfl, rfl, fun _ => ⟨[code top, 10], ?_, fun _ => rfl⟩⟩
        simp only [outcome, List.cons_append, if_pos hcode]
      · rw [if_neg hcode] at h
        cases h
  | nop =>
    obtain ⟨rfl, rfl⟩ := Prod.mk.inj (Except.ok.inj h)
    exact ⟨[], [], values, rfl, rfl, rfl, rfl, fun _ => ⟨[], rfl, fun _ => rfl⟩⟩

/-- An instruction that is done does the same with other numbers below, and leaves them there. What
it prints can be different only if it prints from the top downward. -/
theorem outcome_append {i : Instruction} (below : List Int)
    (h : outcome i values = .ok (behind, output)) :
    ∃ printed, outcome i (values ++ below) = .ok (behind ++ below, printed) ∧
      (i.opcode ∉ Opcode.listing → printed = output) := by
  obtain ⟨taken, given, rest, rfl, rfl, hreplaces⟩ := exists_replaces h
  rw [List.append_assoc, List.append_assoc]
  exact hreplaces.row (rest ++ below)

/-- Behind an instruction that is done, there are as many numbers as before, less those that it
takes and with those that it gives. -/
theorem length_of_outcome_eq_ok {i : Instruction} (h : outcome i values = .ok (behind, output)) :
    behind.length + i.opcode.takes = values.length + i.opcode.gives := by
  obtain ⟨taken, given, rest, rfl, rfl, hreplaces⟩ := exists_replaces h
  rw [List.length_append, List.length_append, hreplaces.takes, hreplaces.gives]
  omega

end Table

/-- Numbers below those of another stack are on the stack below the values of that one. -/
theorem Stack.toList_eq_append_of_numbers {stack deeper : Stack} {below : List Int32}
    (h : deeper.numbers = stack.numbers ++ below.map Int32.toInt) :
    deeper.toList = stack.toList ++ below := by
  apply toList_eq_of_numbers
  rw [List.map_append]
  exact h

/-- An instruction that is done on a stack does the same on a deeper one. -/
theorem Instruction.effect_append {i : Instruction} {stack deeper : Stack} {below : List Int32}
    {output : List UInt8} (hdeeper : deeper.toList = stack.toList ++ below)
    (h : (i.effect .granted stack).printed = .ok output) :
    ∃ printed, (i.effect .granted deeper).printed = .ok printed ∧
      (i.effect .granted deeper).stack.toList =
        (i.effect .granted stack).stack.toList ++ below ∧
      (i.opcode ∉ Opcode.listing → printed = output) := by
  have hnumbers : deeper.numbers = stack.numbers ++ below.map Int32.toInt := by
    rw [Stack.numbers, hdeeper, List.map_append, Stack.numbers]
  obtain ⟨printed, hrow, hsame⟩ :=
    Table.outcome_append (below.map Int32.toInt) (outcome_of_printed_eq_ok h)
  rw [← hnumbers] at hrow
  obtain ⟨hprinted, hbehind⟩ := effect_of_outcome_eq_ok hrow
  exact ⟨printed, hprinted, Stack.toList_eq_append_of_numbers hbehind, hsame⟩

namespace Engine

/-- An engine that has the stack of another one on top of other values, and can go on: it is
running, and its sink takes everything. -/
structure Over (below : List Int32) (engine deeper : Engine) : Prop where
  /-- The other values are below those of the first engine. -/
  stack : deeper.stack.toList = engine.stack.toList ++ below
  /-- The second engine is running. -/
  running : deeper.halted = false
  /-- The sink of the second engine takes everything. -/
  room : deeper.sink.room = none

variable {below : List Int32} {engine deeper : Engine}

/-- An instruction that succeeds does so above other values, too. -/
theorem Over.execute (h : engine.Over below deeper) {i : Instruction}
    (hok : (engine.execute i).result = .ok ()) :
    (deeper.execute i).result = .ok () ∧
      (engine.execute i).engine.Over below (deeper.execute i).engine ∧
      (i.opcode ∉ Opcode.listing → (deeper.execute i).output = (engine.execute i).output) := by
  obtain ⟨bytes, -, hprinted, hdone⟩ := execute_of_ok hok
  obtain ⟨printed, hprinted', hstack, hsame⟩ := Instruction.effect_append h.stack hprinted
  have hwrite := Sink.write_of_unlimited h.room printed
  rw [hdone, execute_of_done h.running hprinted' (by rw [hwrite])]
  refine ⟨rfl, ⟨hstack, h.running, ?_⟩, hsame⟩
  rw [proceed, hwrite]
  exact h.room

/-- A program that succeeds does so above other values, too. -/
theorem Over.executeAll (h : engine.Over below deeper) {program : Program}
    (hok : (engine.executeAll program).result = .ok ()) :
    (deeper.executeAll program).result = .ok () ∧
      (engine.executeAll program).engine.Over below (deeper.executeAll program).engine ∧
      ((∀ i ∈ program, i.opcode ∉ Opcode.listing) →
        (deeper.executeAll program).output = (engine.executeAll program).output) := by
  -- The one engine is above the other behind every instruction.
  induction program generalizing engine deeper with
  | nil => exact ⟨rfl, h, fun _ => rfl⟩
  | cons i rest ih =>
    rw [Engine.executeAll] at hok
    obtain ⟨hfirst, hrest⟩ := Reply.andThen_eq_ok hok
    obtain ⟨hfirst', hover, houtput⟩ := h.execute hfirst
    obtain ⟨hrest', hover', houtput'⟩ := ih hover hrest
    rw [Engine.executeAll, Engine.executeAll, Reply.andThen_of_ok hfirst,
      Reply.andThen_of_ok hfirst']
    refine ⟨hrest', hover', fun hlisting => ?_⟩
    rw [List.forall_mem_cons] at hlisting
    simp only [houtput hlisting.1, houtput' hlisting.2]

/-- Where a program succeeds on an engine, it succeeds on every running engine that has other values
below those of the first one, if the sink of that takes everything. The values that the first engine
ends with are then on top of these others. As long as nothing is printed from the top downward, the
bytes are the same.

The first engine is any engine: whatever its sink takes, it has taken all that was printed. -/
theorem succeeds_over_below {below : List Int32} {engine deeper : Engine} {program : Program}
    (hstack : deeper.stack.toList = engine.stack.toList ++ below)
    (hrunning : deeper.halted = false) (hroom : deeper.sink.room = none)
    (hok : (engine.executeAll program).result = .ok ()) :
    (deeper.executeAll program).result = .ok () ∧
      (deeper.executeAll program).engine.stack.toList =
        (engine.executeAll program).engine.stack.toList ++ below ∧
      ((∀ i ∈ program, i.opcode ∉ Opcode.listing) →
        (deeper.executeAll program).output = (engine.executeAll program).output) := by
  have hover : engine.Over below deeper := ⟨hstack, hrunning, hroom⟩
  obtain ⟨hresult, hbehind, houtput⟩ := hover.executeAll hok
  exact ⟨hresult, hbehind.stack, houtput⟩

/-- A swap, a difference and its numeral, above a zero and the least value of the machine. The sink
of the first engine takes just the bytes of the numeral. -/
theorem succeeds_over_below_swap :
    let program : Program :=
      [{ opcode := .swap, operand := none, line := 1 },
        { opcode := .sub, operand := none, line := 2 },
        { opcode := .pint, operand := none, line := 3 }]
    let engine := { start { room := some 3 } with stack := .ofList [3, 10] }
    let deeper := { start {} with stack := .ofList [3, 10, 0, -0x80000000] }
    deeper.stack.toList = engine.stack.toList ++ [0, -0x80000000] ∧
    (engine.executeAll program).result = .ok () ∧
    (engine.executeAll program).output = Text.Utf8.encode "-7\n".toList ∧
    (deeper.executeAll program).result = .ok () ∧
    (deeper.executeAll program).engine.stack.toList = [-7, 0, -0x80000000] ∧
    (deeper.executeAll program).output = Text.Utf8.encode "-7\n".toList := by
  intro program engine deeper
  have hstack : deeper.stack.toList = engine.stack.toList ++ [0, -0x80000000] := by decide
  have hok : (engine.executeAll program).result = .ok () := by decide
  have hvalues : (engine.executeAll program).engine.stack.toList = [-7] := by decide
  have hbytes : (engine.executeAll program).output = Text.Utf8.encode "-7\n".toList := by decide
  obtain ⟨hresult, hbehind, houtput⟩ :=
    @succeeds_over_below [0, -0x80000000] engine deeper program hstack rfl rfl hok
  refine ⟨hstack, hok, hbytes, hresult, ?_, ?_⟩
  · rw [hbehind, hvalues]
    rfl
  · rw [houtput (by decide), hbytes]

end Engine

end Stackline
