import Stackline.Text.Blank

/-!
# Decimal numerals

Numbers are written in ASCII digits without leading zeros, a negative one behind a minus sign. They
are read more freely: a plus sign and leading zeros are taken too. A numeral names a 32-bit value
only if the number lies in range.
-/

namespace Stackline.Text.Numeral

/-- The digits of a natural number. -/
def natural (n : Nat) : List Char :=
  Nat.toDigits 10 n

/-- The digits of an integer, behind a minus sign if it is negative. -/
def integer (z : Int) : List Char :=
  if z < 0 then '-' :: natural z.natAbs else natural z.natAbs

/-- The number that a text of ASCII digits denotes; there has to be one digit at least. -/
def natural? (cs : List Char) : Option Nat :=
  if cs ≠ [] ∧ cs.all Char.isDigit = true then some (Nat.ofDigitChars 10 cs 0) else none

/-- The number that digits denote, perhaps behind a plus sign. -/
def unsigned? : List Char → Option Nat
  | '+' :: ds => natural? ds
  | ds => natural? ds

/-- The number that an optional sign and digits denote. -/
def integer? : List Char → Option Int
  | '+' :: ds => (natural? ds).map Int.ofNat
  | '-' :: ds => (natural? ds).map fun n => -Int.ofNat n
  | ds => (natural? ds).map Int.ofNat

/-- Whether a number is a value of the machine. -/
def InRange (z : Int) : Prop :=
  -0x80000000 ≤ z ∧ z ≤ 0x7FFFFFFF

instance (z : Int) : Decidable (InRange z) :=
  inferInstanceAs (Decidable (_ ∧ _))

/-- The 32-bit value that a numeral denotes. -/
def int32? (cs : List Char) : Option Int32 :=
  (integer? cs).bind fun z => if InRange z then some (Int32.ofInt z) else none

/-- Every value of the machine is in range. -/
theorem inRange_toInt (v : Int32) : InRange v.toInt :=
  ⟨Int32.le_toInt v, Int.lt_add_one_iff.1 (Int32.toInt_lt v)⟩

/-- Writing a natural number gives digits only. -/
theorem natural_all_isDigit (n : Nat) : (natural n).all Char.isDigit = true := by
  rw [List.all_eq_true]
  intro c hc
  exact Nat.isDigit_of_mem_toDigits (by decide) (by decide) hc

theorem natural_ne_nil (n : Nat) : natural n ≠ [] := by
  have := Nat.length_toDigits_pos (b := 10) (n := n)
  intro h
  rw [natural] at h
  simp [h] at this

/-- A natural number is read back from its digits. -/
@[simp]
theorem natural?_natural (n : Nat) : natural? (natural n) = some n := by
  rw [natural?, if_pos ⟨natural_ne_nil n, natural_all_isDigit n⟩]
  simp [natural]

theorem ne_of_mem_natural {n : Nat} {c : Char} (h : c ∈ natural n) : c ≠ '-' ∧ c ≠ '+' := by
  have hd := List.all_eq_true.1 (natural_all_isDigit n) c h
  constructor <;> (rintro rfl; simp [Char.isDigit] at hd)

/-- An integer is read back from its numeral. -/
@[simp]
theorem integer?_integer (z : Int) : integer? (integer z) = some z := by
  rw [integer]
  split
  · simp only [integer?, natural?_natural, Option.map_some, Option.some.injEq, Int.ofNat_eq_natCast]
    omega
  · -- The numeral begins with a digit, which is read as no sign.
    obtain ⟨c, cs, hcs⟩ := List.exists_cons_of_ne_nil (natural_ne_nil z.natAbs)
    have hc := ne_of_mem_natural (n := z.natAbs) (c := c) (by simp [hcs])
    rw [integer?.eq_3 _ (by rintro ds h; simp [hcs, hc.2] at h)
      (by rintro ds h; simp [hcs, hc.1] at h), natural?_natural]
    simp only [Option.map_some, Option.some.injEq, Int.ofNat_eq_natCast]
    omega

theorem integer_ne_nil (z : Int) : integer z ≠ [] := by
  rw [integer]
  split
  · simp
  · exact natural_ne_nil _

/-- A digit is no blank. -/
theorem isBlank_of_isDigit {c : Char} (h : c.isDigit = true) : isBlank c = false := by
  rw [Char.isDigit, Bool.and_eq_true, decide_eq_true_eq, decide_eq_true_eq, ge_iff_le,
    UInt32.le_iff_toNat_le, UInt32.le_iff_toNat_le] at h
  change 48 ≤ c.toNat ∧ c.toNat ≤ 57 at h
  rw [← Bool.not_eq_true, isBlank_iff_of_ascii (by omega)]
  omega

/-- There are no blanks in a numeral. -/
theorem isBlank_integer (z : Int) : ∀ c ∈ integer z, isBlank c = false := by
  have hdigits : ∀ c ∈ natural z.natAbs, isBlank c = false := fun c hc =>
    isBlank_of_isDigit (List.all_eq_true.1 (natural_all_isDigit _) c hc)
  intro c hc
  rw [integer] at hc
  split at hc
  · rcases List.mem_cons.1 hc with rfl | hc
    · decide
    · exact hdigits c hc
  · exact hdigits c hc

/-- Every value of the machine is read back from its numeral. -/
@[simp]
theorem int32?_integer (v : Int32) : int32? (integer v.toInt) = some v := by
  simp [int32?, inRange_toInt]

end Stackline.Text.Numeral
