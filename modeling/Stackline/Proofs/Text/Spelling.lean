import Mathlib.Data.List.Forall2
import Stackline.Text.Utf8

/-!
# Spellings of decoded texts

Lenient decoding never makes a character up. This module shows that decoded bytes fall into parts,
one for each character of the text, where each part is the UTF-8 form of its character or was
replaced (`exists_spelling`). It follows that a character other than U+FFFD stands in a decoded text
only if its bytes stand among the decoded ones (`mem_of_mem_decode`), and that the beginning of a
decoded text, if there is no U+FFFD in it, is spelled by the bytes that come first
(`exists_append_of_decode`). In bytes that spell no text (`IllFormed`), something is replaced
(`IllFormed.replacement_mem_decode`).
-/

namespace Stackline.Text.Utf8

/-- Whether bytes stand for a character of a decoded text: they are its UTF-8 form, or they have
been replaced. -/
def Spells (part : List UInt8) (c : Char) : Prop :=
  part = String.utf8EncodeChar c ∨ c = replacement

/-! ## Characters from their bytes -/

/-- A code point in the range of Unicode is the code point of its character. -/
theorem toNat_ofNat {n : Nat} (h : n < 0xD800 ∨ 0xDFFF < n ∧ n < 0x110000) :
    (Char.ofNat n).val.toNat = n := by
  have hvalid : n.isValidChar := h
  rw [Char.ofNat, dif_pos hvalid]
  rfl

/-- An ASCII byte is the UTF-8 form of its character. -/
theorem utf8EncodeChar_one {a : UInt8} (ha : a.toNat < 0x80) :
    String.utf8EncodeChar (Char.ofNat a.toNat) = [a] := by
  rw [String.utf8EncodeChar, toNat_ofNat (by omega)]
  rw [if_pos (by omega), UInt8.ofNat_toNat]

/-- The bytes of a text of ASCII characters are the codes of these. -/
theorem encode_of_ascii {cs : List Char} (h : ∀ c ∈ cs, c.val.toNat < 0x80) :
    encode cs = cs.map fun c => UInt8.ofNat c.toNat := by
  induction cs with
  | nil => rfl
  | cons c cs ih =>
    rw [encode_cons, List.map_cons, ih fun d hd => h d (List.mem_cons_of_mem _ hd),
      String.utf8EncodeChar, if_pos (Nat.lt_succ_iff.1 (h c List.mem_cons_self))]
    rfl

theorem ofNat_eq_byte {n : Nat} {a : UInt8} (h : n = a.toNat) : UInt8.ofNat n = a := by
  rw [h, UInt8.ofNat_toNat]

/-- Two bytes in range are the UTF-8 form of the character that their bits name. -/
theorem utf8EncodeChar_two {a b : UInt8} (ha : 0xC2 ≤ a.toNat ∧ a.toNat ≤ 0xDF)
    (hb : 0x80 ≤ b.toNat ∧ b.toNat ≤ 0xBF) :
    String.utf8EncodeChar (Char.ofNat (a.toNat % 32 * 64 + b.toNat % 64)) = [a, b] := by
  rw [String.utf8EncodeChar, toNat_ofNat (by omega)]
  rw [if_neg (by omega), if_pos (by omega), ofNat_eq_byte (a := a) (by omega),
    ofNat_eq_byte (a := b) (by omega)]

/-- Three bytes in range are the UTF-8 form of the character that their bits name. -/
theorem utf8EncodeChar_three {a b c : UInt8} (ha : 0xE0 ≤ a.toNat ∧ a.toNat ≤ 0xEF)
    (hb : 0x80 ≤ b.toNat ∧ b.toNat ≤ 0xBF) (hc : 0x80 ≤ c.toNat ∧ c.toNat ≤ 0xBF)
    (hlow : a.toNat = 0xE0 → 0xA0 ≤ b.toNat) (hhigh : a.toNat = 0xED → b.toNat ≤ 0x9F) :
    String.utf8EncodeChar
      (Char.ofNat ((a.toNat % 16 * 64 + b.toNat % 64) * 64 + c.toNat % 64)) = [a, b, c] := by
  rw [String.utf8EncodeChar, toNat_ofNat (by omega)]
  rw [if_neg (by omega), if_neg (by omega), if_pos (by omega), ofNat_eq_byte (a := a) (by omega),
    ofNat_eq_byte (a := b) (by omega), ofNat_eq_byte (a := c) (by omega)]

/-- Four bytes in range are the UTF-8 form of the character that their bits name. -/
theorem utf8EncodeChar_four {a b c d : UInt8} (ha : 0xF0 ≤ a.toNat ∧ a.toNat ≤ 0xF4)
    (hb : 0x80 ≤ b.toNat ∧ b.toNat ≤ 0xBF) (hc : 0x80 ≤ c.toNat ∧ c.toNat ≤ 0xBF)
    (hd : 0x80 ≤ d.toNat ∧ d.toNat ≤ 0xBF)
    (hlow : a.toNat = 0xF0 → 0x90 ≤ b.toNat) (hhigh : a.toNat = 0xF4 → b.toNat ≤ 0x8F) :
    String.utf8EncodeChar
      (Char.ofNat (((a.toNat % 8 * 64 + b.toNat % 64) * 64 + c.toNat % 64) * 64 + d.toNat % 64)) =
        [a, b, c, d] := by
  rw [String.utf8EncodeChar, toNat_ofNat (by omega)]
  rw [if_neg (by omega), if_neg (by omega), if_neg (by omega), ofNat_eq_byte (a := a) (by omega),
    ofNat_eq_byte (a := b) (by omega), ofNat_eq_byte (a := c) (by omega),
    ofNat_eq_byte (a := d) (by omega)]

/-! ## Unfinished characters -/

namespace Pending

/-- How an unfinished character comes about: from the bytes of it that have been read. -/
inductive Holds : Pending → List UInt8 → Prop where
  /-- The first byte begins a character. -/
  | lead {p : Pending} {b : UInt8} : ofLead? b = some p → Holds p [b]
  /-- A further byte continues it, and more bytes are missing. -/
  | extend {p q : Pending} {held : List UInt8} {b : UInt8} :
      Holds p held → p.Admits b → p.extend b = ([], some q) → Holds q (held ++ [b])

/-- What the first byte of a character says about it, by the number of bytes that follow. -/
theorem bounds_of_ofLead? {b : UInt8} {p : Pending} (h : ofLead? b = some p) :
    (p.owed = 0 ∧ (0xC2 ≤ b.toNat ∧ b.toNat ≤ 0xDF) ∧ p.bits = b.toNat % 32 ∧
        p.low = 0x80 ∧ p.high = 0xBF) ∨
      (p.owed = 1 ∧ (0xE0 ≤ b.toNat ∧ b.toNat ≤ 0xEF) ∧ p.bits = b.toNat % 16 ∧
        0x80 ≤ p.low ∧ p.high ≤ 0xBF ∧ (b.toNat = 0xE0 → p.low = 0xA0) ∧
        (b.toNat = 0xED → p.high = 0x9F)) ∨
      (p.owed = 2 ∧ (0xF0 ≤ b.toNat ∧ b.toNat ≤ 0xF4) ∧ p.bits = b.toNat % 8 ∧
        0x80 ≤ p.low ∧ p.high ≤ 0xBF ∧ (b.toNat = 0xF0 → p.low = 0x90) ∧
        (b.toNat = 0xF4 → p.high = 0x8F)) := by
  simp only [ofLead?] at h
  -- One case for each range of first bytes; the last one begins no character.
  split_ifs at h <;> simp only [Option.some.injEq] at h <;> subst h <;> simp <;> omega

/-- A byte that leaves a character unfinished adds its bits and takes one from what is missing. -/
theorem extend_eq_some {p q : Pending} {b : UInt8} (h : p.extend b = ([], some q)) :
    p.owed = q.owed + 1 ∧ q.bits = p.bits * 64 + b.toNat % 64 ∧ q.low = 0x80 ∧ q.high = 0xBF := by
  simp only [extend] at h
  split at h
  · simp at h
  · rename_i owed howed
    simp only [Prod.mk.injEq, Option.some.injEq, true_and] at h
    subst h
    exact ⟨howed, rfl, rfl, rfl⟩

/-- A character has four bytes at most. -/
theorem Holds.length_add_owed_le {p : Pending} {held : List UInt8} (h : p.Holds held) :
    0 < held.length ∧ held.length + p.owed ≤ 3 := by
  -- A further byte is one of those that were owed, so the sum stays what the first byte made it.
  induction h with
  | lead hlead =>
    have := bounds_of_ofLead? hlead
    simp only [List.length_singleton]
    omega
  | extend _ _ hextend ih =>
    have := (extend_eq_some hextend).1
    simp only [List.length_append, List.length_singleton]
    omega

/-- The last missing byte makes the bytes read so far the UTF-8 form of the character. -/
theorem Holds.utf8EncodeChar_eq {p : Pending} {held : List UInt8} (h : p.Holds held)
    (howed : p.owed = 0) {b : UInt8} (hb : p.Admits b) :
    String.utf8EncodeChar (Char.ofNat (p.bits * 64 + b.toNat % 64)) = held ++ [b] := by
  -- Back to the first byte, one further byte at a time: only a first byte that owes as many bytes
  -- as there were fits, and its bounds are those of that many bytes.
  cases h with
  | lead hlead =>
    obtain ⟨-, ha, hbits, hlow, hhigh⟩ | ⟨hne, -⟩ | ⟨hne, -⟩ := bounds_of_ofLead? hlead
    · rw [hbits]
      exact utf8EncodeChar_two ha (by rw [Admits, hlow, hhigh] at hb; exact hb)
    · omega
    · omega
  | @extend p₁ _ _ c h₁ hc hextend₁ =>
    obtain ⟨howed₁, hbits, hlow, hhigh⟩ := extend_eq_some hextend₁
    rw [Admits, hlow, hhigh] at hb
    rw [hbits]
    cases h₁ with
    | lead hlead =>
      obtain ⟨hne, -⟩ | ⟨-, ha, hbits₁, hle, hge, hshort, hsurrogate⟩ | ⟨hne, -⟩ :=
        bounds_of_ofLead? hlead
      · omega
      · rw [Admits] at hc
        rw [hbits₁]
        exact utf8EncodeChar_three ha (by omega) hb (by omega) (by omega)
      · omega
    | @extend p₂ _ _ d h₂ hd hextend₂ =>
      obtain ⟨howed₂, hbits₁, hlow₁, hhigh₁⟩ := extend_eq_some hextend₂
      rw [Admits, hlow₁, hhigh₁] at hc
      rw [hbits₁]
      cases h₂ with
      | lead hlead =>
        obtain ⟨hne, -⟩ | ⟨hne, -⟩ | ⟨-, ha, hbits₂, hle, hge, hshort, hlarge⟩ :=
          bounds_of_ofLead? hlead
        · omega
        · omega
        · rw [Admits] at hd
          rw [hbits₂]
          exact utf8EncodeChar_four ha (by omega) hc hb (by omega) (by omega)
      | extend h₃ _ hextend₃ =>
        -- A fifth byte: no first byte asks for as many.
        have hlength := h₃.length_add_owed_le
        have howed₃ := (extend_eq_some hextend₃).1
        omega

end Pending

/-! ## Spellings -/

/-- The bytes that have been read of an unfinished character; there are none between characters. -/
def Unread : Option Pending → List UInt8 → Prop
  | none, held => held = []
  | some p, held => p.Holds held

/-- The bytes that a byte completes to characters, and the bytes that it leaves unfinished. -/
def Splits (bytes : List UInt8) (read : List Char × Option Pending) : Prop :=
  ∃ parts held, bytes = parts.flatten ++ held ∧ List.Forall₂ Spells parts read.1 ∧
    Unread read.2 held

/-- A byte between two characters is a character, begins one, or is replaced. -/
theorem splits_start (b : UInt8) : Splits [b] (start b) := by
  unfold start
  split
  next hascii => exact ⟨[[b]], [], rfl, by simp [Spells, utf8EncodeChar_one hascii], rfl⟩
  next =>
    split
    next p hlead => exact ⟨[], [b], rfl, .nil, .lead hlead⟩
    next => exact ⟨[[b]], [], rfl, by simp [Spells], rfl⟩

/-- A byte behind an unfinished character completes it, continues it, or breaks it off. -/
theorem splits_step {state : Option Pending} {held : List UInt8} (h : Unread state held)
    (b : UInt8) : Splits (held ++ [b]) (step state b) := by
  cases state with
  | none =>
    have hnil : held = [] := h
    rw [hnil]
    exact splits_start b
  | some p =>
    have hholds : p.Holds held := h
    by_cases hb : p.Admits b
    · rw [step, if_pos hb]
      cases howed : p.owed with
      | zero =>
        -- The byte completes the character, and all that was held becomes one part.
        refine ⟨[held ++ [b]], [], by simp, ?_, ?_⟩
        · simp [Pending.extend, howed, Spells, hholds.utf8EncodeChar_eq howed hb]
        · simp [Pending.extend, howed, Unread]
      | succ owed =>
        -- The byte is held with the others.
        have hextend : p.extend b =
            ([], some { owed, bits := p.bits * 64 + b.toNat % 64 }) := by
          simp [Pending.extend, howed]
        rw [hextend]
        exact ⟨[], held ++ [b], rfl, .nil, .extend hholds hb hextend⟩
    · rw [step, if_neg hb]
      -- All that was held becomes a part that is replaced; the byte starts anew.
      obtain ⟨parts, later, hbytes, hparts, hlater⟩ := splits_start b
      exact ⟨held :: parts, later, by simp [hbytes], .cons (.inr rfl) hparts, hlater⟩

/-- What follows an unfinished character is spelled together with the bytes read of it. -/
theorem exists_spelling_decodeFrom {state : Option Pending} {held : List UInt8}
    (h : Unread state held) (bs : List UInt8) :
    ∃ parts : List (List UInt8),
      held ++ bs = parts.flatten ∧ List.Forall₂ Spells parts (decodeFrom state bs) := by
  -- The bytes held are what the state remembers of the input, so they change from byte to byte.
  induction bs generalizing state held with
  | nil =>
    cases state with
    | none =>
      have hnil : held = [] := h
      exact ⟨[], by simp [hnil], .nil⟩
    | some p =>
      -- The input ends within a character.
      exact ⟨[held], by simp, .cons (.inr rfl) .nil⟩
  | cons b bs ih =>
    obtain ⟨parts, later, hbytes, hparts, hlater⟩ := splits_step h b
    obtain ⟨others, hothers, hspelled⟩ := ih hlater
    refine ⟨parts ++ others, ?_, ?_⟩
    · rw [List.append_cons, hbytes, List.append_assoc, hothers, List.flatten_append]
    · rw [decodeFrom_cons]
      exact List.rel_append hparts hspelled

/-- Bytes fall into the parts that spell the characters of the decoded text. -/
theorem exists_spelling (bs : List UInt8) :
    ∃ parts : List (List UInt8), bs = parts.flatten ∧ List.Forall₂ Spells parts (decode bs) :=
  @exists_spelling_decodeFrom none [] rfl bs

/-- A character that was not replaced is spelled by one of the parts. -/
theorem mem_parts_of_mem {parts : List (List UInt8)} {cs : List Char}
    (h : List.Forall₂ Spells parts cs) {c : Char} (hc : c ∈ cs) (hne : c ≠ replacement) :
    String.utf8EncodeChar c ∈ parts := by
  induction h with
  | nil => simp at hc
  | cons hspells _ ih =>
    rcases List.mem_cons.1 hc with rfl | hc
    · rcases hspells with rfl | hreplaced
      · exact List.mem_cons_self
      · exact absurd hreplaced hne
    · exact List.mem_cons_of_mem _ (ih hc)

/-- The bytes of a character of a decoded text stand among the decoded bytes, unless it is a
replacement. -/
theorem mem_of_mem_decode {bs : List UInt8} {c : Char} (h : c ∈ decode bs) (hne : c ≠ replacement)
    {b : UInt8} (hb : b ∈ String.utf8EncodeChar c) : b ∈ bs := by
  obtain ⟨parts, rfl, hspelled⟩ := exists_spelling bs
  exact List.mem_flatten.2 ⟨_, mem_parts_of_mem hspelled h hne, hb⟩

/-- Nothing is decoded to the empty text but no bytes. -/
theorem decode_eq_nil_iff {bs : List UInt8} : decode bs = [] ↔ bs = [] := by
  refine ⟨fun h => ?_, fun h => by rw [h, decode_nil]⟩
  obtain ⟨parts, hbytes, hspelled⟩ := exists_spelling bs
  rw [h, List.forall₂_nil_right_iff] at hspelled
  rw [hbytes, hspelled, List.flatten_nil]

/-! ## Texts without replacements -/

/-- Parts that spell a text without replacements are its UTF-8 form. -/
theorem flatten_eq_encode {parts : List (List UInt8)} {cs : List Char}
    (h : List.Forall₂ Spells parts cs) (hne : replacement ∉ cs) : parts.flatten = encode cs := by
  induction h with
  | nil => rfl
  | @cons part c parts cs hspells _ ih =>
    rw [List.mem_cons, not_or] at hne
    have hpart : part = String.utf8EncodeChar c :=
      hspells.resolve_right fun hreplaced => hne.1 hreplaced.symm
    rw [List.flatten_cons, encode_cons, hpart, ih hne.2]

/-- The bytes of a text spell it, whatever follows. -/
theorem decode_encode_append (cs : List Char) (bs : List UInt8) :
    decode (encode cs ++ bs) = cs ++ decode bs := by
  induction cs with
  | nil => rfl
  | cons c cs ih =>
    rw [encode_cons, List.append_assoc, decode_utf8EncodeChar_append, ih, List.cons_append]

/-- The beginning of a decoded text is spelled by the bytes that come first, unless something of it
was replaced. The bytes behind these spell the rest. -/
theorem exists_append_of_decode {bs : List UInt8} {cs ds : List Char} (h : decode bs = cs ++ ds)
    (hne : replacement ∉ cs) : ∃ rest, bs = encode cs ++ rest ∧ decode rest = ds := by
  obtain ⟨parts, hbytes, hspelled⟩ := exists_spelling bs
  rw [h] at hspelled
  -- The parts of the beginning come first.
  have hfirst := List.forall₂_take_append parts cs ds hspelled
  have hparts : bs = encode cs ++ (parts.drop cs.length).flatten := by
    rw [hbytes, ← flatten_eq_encode hfirst hne, ← List.flatten_append, List.take_append_drop]
  refine ⟨_, hparts, ?_⟩
  rw [hparts, decode_encode_append] at h
  exact List.append_cancel_left h

/-- Whether bytes are the UTF-8 form of no text. -/
def IllFormed (bs : List UInt8) : Prop :=
  ∀ cs, encode cs ≠ bs

/-- Ill-formed bytes are not restored from the decoded text. -/
theorem illFormed_iff {bs : List UInt8} : IllFormed bs ↔ encode (decode bs) ≠ bs := by
  refine ⟨fun h => h (decode bs), fun h cs hcs => h ?_⟩
  rw [← hcs, decode_encode]

instance (bs : List UInt8) : Decidable (IllFormed bs) :=
  decidable_of_iff _ illFormed_iff.symm

/-- Something is replaced in ill-formed bytes. -/
theorem IllFormed.replacement_mem_decode {bs : List UInt8} (h : IllFormed bs) :
    replacement ∈ decode bs := by
  by_contra hne
  obtain ⟨rest, hbytes, hrest⟩ := exists_append_of_decode (List.append_nil (decode bs)).symm hne
  rw [decode_eq_nil_iff.1 hrest, List.append_nil] at hbytes
  exact h _ hbytes.symm

end Stackline.Text.Utf8
