/-!
# Blank characters

The characters of the Unicode property `White_Space`. They separate the words of a line and are
dropped at its ends. Controls U+001C to U+001F and the zero-width characters are not blank.
-/

namespace Stackline.Text

/-- The ranges of code points, both ends included, that have the property `White_Space`. -/
def blankRanges : List (Nat × Nat) :=
  [(0x09, 0x0D), (0x20, 0x20), (0x85, 0x85), (0xA0, 0xA0), (0x1680, 0x1680), (0x2000, 0x200A),
    (0x2028, 0x2029), (0x202F, 0x202F), (0x205F, 0x205F), (0x3000, 0x3000)]

/-- Whether a character separates words. -/
def isBlank (c : Char) : Bool :=
  blankRanges.any fun (low, high) => low ≤ c.toNat && c.toNat ≤ high

@[simp]
theorem isBlank_newline : isBlank '\n' = true := by decide

@[simp]
theorem isBlank_space : isBlank ' ' = true := by decide

/-- The blank ASCII characters are the space and the controls from the tab to the carriage
return. -/
theorem isBlank_iff_of_ascii {c : Char} (h : c.toNat < 0x80) :
    isBlank c = true ↔ (0x09 ≤ c.toNat ∧ c.toNat ≤ 0x0D) ∨ c.toNat = 0x20 := by
  simp only [isBlank, blankRanges, List.any_cons, List.any_nil, Bool.or_false, Bool.or_eq_true,
    Bool.and_eq_true, decide_eq_true_eq]
  omega

end Stackline.Text
