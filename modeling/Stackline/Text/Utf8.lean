/-!
# Lenient UTF-8

Bytes are decoded one at a time. Where they do not spell a character, each maximal run that could
still have begun one, and each byte that begins none, gives one U+FFFD; the byte that broke a run is
looked at again. Main statements: a text is decoded from the bytes that spell it (`decode_encode`),
bytes are decoded separately before and after an ASCII byte (`decode_append_ascii`), and the bytes
that spell a text are those that it is encoded to (`text?_eq_some_iff`).
-/

namespace Stackline.Text.Utf8

/-- Stands for bytes that spell no character. -/
def replacement : Char := '\uFFFD'

/-- A character of which only the first bytes have been read. -/
structure Pending where
  /-- How many bytes are missing after the next one. -/
  owed : Nat
  /-- The bits read so far. -/
  bits : Nat
  /-- The least byte that may come next. -/
  low : Nat := 0x80
  /-- The greatest byte that may come next. -/
  high : Nat := 0xBF
  /-- No ASCII byte may come next. -/
  ascii_lt_low : 0x7F < low := by decide
deriving DecidableEq, Repr

namespace Pending

/-- What a byte above ASCII begins, if it begins a character. The bounds on the byte after it keep
out the forms that are too long, the surrogates, and everything above U+10FFFF. -/
def ofLead? (b : UInt8) : Option Pending :=
  let n := b.toNat
  if 0xC2 ≤ n ∧ n ≤ 0xDF then some { owed := 0, bits := n % 32 }
  else if n = 0xE0 then some { owed := 1, bits := 0x0, low := 0xA0 }
  else if n = 0xED then some { owed := 1, bits := 0xD, high := 0x9F }
  else if 0xE1 ≤ n ∧ n ≤ 0xEF then some { owed := 1, bits := n % 16 }
  else if n = 0xF0 then some { owed := 2, bits := 0x0, low := 0x90 }
  else if 0xF1 ≤ n ∧ n ≤ 0xF3 then some { owed := 2, bits := n % 8 }
  else if n = 0xF4 then some { owed := 2, bits := 0x4, high := 0x8F }
  else none

/-- Whether a byte continues the character. -/
def Admits (p : Pending) (b : UInt8) : Prop :=
  p.low ≤ b.toNat ∧ b.toNat ≤ p.high

instance (p : Pending) (b : UInt8) : Decidable (p.Admits b) :=
  inferInstanceAs (Decidable (_ ∧ _))

/-- The character after one more byte: written out if that byte was the last one. -/
def extend (p : Pending) (b : UInt8) : List Char × Option Pending :=
  let bits := p.bits * 64 + b.toNat % 64
  match p.owed with
  | 0 => ([Char.ofNat bits], none)
  | owed + 1 => ([], some { owed, bits })

end Pending

/-- Reads a byte between two characters. -/
def start (b : UInt8) : List Char × Option Pending :=
  if b.toNat < 0x80 then ([Char.ofNat b.toNat], none)
  else match Pending.ofLead? b with
    | some p => ([], some p)
    | none => ([replacement], none)

/-- Reads a byte: what it adds to the text, and the character that it leaves unfinished. -/
def step : Option Pending → UInt8 → List Char × Option Pending
  | none, b => start b
  | some p, b => if p.Admits b then p.extend b else (replacement :: (start b).1, (start b).2)

/-- Decodes what follows an unfinished character, or what follows a finished one. -/
def decodeFrom : Option Pending → List UInt8 → List Char
  | none, [] => []
  | some _, [] => [replacement]
  | state, b :: bs => (step state b).1 ++ decodeFrom (step state b).2 bs

/-- The text that the bytes spell. -/
def decode (bs : List UInt8) : List Char :=
  decodeFrom none bs

/-- The bytes that spell a text. -/
def encode (cs : List Char) : List UInt8 :=
  cs.flatMap String.utf8EncodeChar

/-- The text that the bytes spell, if nothing has to be replaced in it. -/
def text? (bs : List UInt8) : Option String :=
  if encode (decode bs) = bs then some (String.ofList (decode bs)) else none

@[simp]
theorem decode_nil : decode [] = [] := rfl

@[simp]
theorem encode_nil : encode [] = [] := rfl

@[simp]
theorem encode_cons (c : Char) (cs : List Char) :
    encode (c :: cs) = String.utf8EncodeChar c ++ encode cs := rfl

@[simp]
theorem encode_append (cs ds : List Char) : encode (cs ++ ds) = encode cs ++ encode ds := by
  simp [encode]

theorem decodeFrom_cons (state : Option Pending) (b : UInt8) (bs : List UInt8) :
    decodeFrom state (b :: bs) = (step state b).1 ++ decodeFrom (step state b).2 bs := by
  cases state <;> rfl

/-! ## ASCII bytes -/

/-- An ASCII byte between two characters spells itself. -/
theorem decode_cons_of_ascii {b : UInt8} (h : b.toNat < 0x80) (bs : List UInt8) :
    decode (b :: bs) = Char.ofNat b.toNat :: decode bs := by
  simp [decode, decodeFrom_cons, step, start, h]

/-- An ASCII byte breaks off what is unfinished and spells itself. -/
theorem step_of_ascii {b : UInt8} (h : b.toNat < 0x80) (state : Option Pending) :
    step state b = (decodeFrom state [] ++ [Char.ofNat b.toNat], none) := by
  cases state with
  | none => simp [step, start, h, decodeFrom]
  | some p =>
    -- The byte breaks the character off, for no character goes on with an ASCII byte.
    have : ¬ p.Admits b := fun ha => by
      have := p.ascii_lt_low
      have := ha.1
      omega
    simp [step, this, start, h, decodeFrom]

theorem decodeFrom_append_ascii {b : UInt8} (h : b.toNat < 0x80) (state : Option Pending)
    (as bs : List UInt8) :
    decodeFrom state (as ++ b :: bs) = decodeFrom state as ++ Char.ofNat b.toNat :: decode bs := by
  induction as generalizing state with
  | nil => simp [decodeFrom_cons, step_of_ascii h, decode]
  | cons a as ih => simp [decodeFrom_cons, ih]

/-- The bytes before and after an ASCII byte are decoded separately. -/
theorem decode_append_ascii {b : UInt8} (h : b.toNat < 0x80) (as bs : List UInt8) :
    decode (as ++ b :: bs) = decode as ++ Char.ofNat b.toNat :: decode bs :=
  decodeFrom_append_ascii h none as bs

/-! ## Encoded texts -/

/-- A byte that continues a character is read into it. -/
theorem decodeFrom_cons_of_admits {p : Pending} {b : UInt8} (h : p.Admits b) (bs : List UInt8) :
    decodeFrom (some p) (b :: bs) = (p.extend b).1 ++ decodeFrom (p.extend b).2 bs := by
  simp [decodeFrom_cons, step, h]

/-- A byte that begins a character is read as its beginning. -/
theorem decode_cons_of_lead {p : Pending} {b : UInt8} (h : 0x80 ≤ b.toNat)
    (hp : Pending.ofLead? b = some p) (bs : List UInt8) :
    decode (b :: bs) = decodeFrom (some p) bs := by
  have : ¬ b.toNat < 0x80 := by omega
  simp [decode, decodeFrom_cons, step, start, this, hp]

/-- A character is known by its code point. -/
theorem ofNat_eq_of_toNat {c : Char} {n : Nat} (h : n = c.toNat) : Char.ofNat n = c := by
  rw [h, Char.ofNat_toNat]

/-- A number below 256 is a byte. -/
theorem toNat_ofNat_byte {n : Nat} (h : n < 256) : (UInt8.ofNat n).toNat = n :=
  UInt8.toNat_ofNat_of_lt (by simpa using h)

/-- Two bytes of a character spell it. -/
theorem decode_two (c : Char) (bs : List UInt8) (h : 0x80 ≤ c.toNat) (h' : c.toNat < 0x800) :
    decode (UInt8.ofNat (c.toNat / 64 % 0x20 + 0xC0) :: UInt8.ofNat (c.toNat % 0x40 + 0x80) :: bs) =
      c :: decode bs := by
  have h1 := toNat_ofNat_byte (n := c.toNat / 64 % 0x20 + 0xC0) (by omega)
  have h2 := toNat_ofNat_byte (n := c.toNat % 0x40 + 0x80) (by omega)
  have lead : Pending.ofLead? (UInt8.ofNat (c.toNat / 64 % 0x20 + 0xC0)) =
      some { owed := 0, bits := c.toNat / 64 } := by
    simp only [Pending.ofLead?, h1]
    rw [if_pos (by omega)]
    congr 2; omega
  rw [decode_cons_of_lead (by omega) lead,
    decodeFrom_cons_of_admits (by constructor <;> simp only [h2] <;> omega)]
  simp only [Pending.extend, h2, decode, List.cons_append, List.nil_append]
  rw [ofNat_eq_of_toNat (c := c) (by omega)]

/-- Three bytes of a character spell it. -/
theorem decode_three (c : Char) (bs : List UInt8) (h : 0x800 ≤ c.toNat) (h' : c.toNat < 0x10000) :
    decode (UInt8.ofNat (c.toNat / 4096 % 0x10 + 0xE0) ::
      UInt8.ofNat (c.toNat / 64 % 0x40 + 0x80) ::
      UInt8.ofNat (c.toNat % 0x40 + 0x80) :: bs) = c :: decode bs := by
  have hc : c.toNat < 0xD800 ∨ 0xDFFF < c.toNat ∧ c.toNat < 0x110000 := c.valid
  have h1 := toNat_ofNat_byte (n := c.toNat / 4096 % 0x10 + 0xE0) (by omega)
  have h2 := toNat_ofNat_byte (n := c.toNat / 64 % 0x40 + 0x80) (by omega)
  have h3 := toNat_ofNat_byte (n := c.toNat % 0x40 + 0x80) (by omega)
  obtain ⟨p, lead, howed, hbits, hadmits⟩ :
      ∃ p, Pending.ofLead? (UInt8.ofNat (c.toNat / 4096 % 0x10 + 0xE0)) = some p ∧ p.owed = 1 ∧
        p.bits = c.toNat / 4096 ∧ p.Admits (UInt8.ofNat (c.toNat / 64 % 0x40 + 0x80)) := by
    -- The leads 0xE0 and 0xED bound the second byte; the bounds hold as `c` is no short form and
    -- no surrogate.
    simp only [Pending.ofLead?, h1]
    rw [if_neg (by omega)]
    by_cases low : c.toNat / 4096 = 0
    · rw [if_pos (by omega)]
      exact ⟨_, rfl, rfl, low.symm, by constructor <;> simp only [h2] <;> omega⟩
    rw [if_neg (by omega)]
    by_cases high : c.toNat / 4096 = 13
    · rw [if_pos (by omega)]
      exact ⟨_, rfl, rfl, high.symm, by constructor <;> simp only [h2] <;> omega⟩
    rw [if_neg (by omega), if_pos (by omega)]
    exact ⟨_, rfl, rfl, by simp only; omega, by constructor <;> simp only [h2] <;> omega⟩
  rw [decode_cons_of_lead (by omega) lead, decodeFrom_cons_of_admits hadmits]
  simp only [Pending.extend, howed, h2, hbits, List.nil_append]
  rw [decodeFrom_cons_of_admits (by constructor <;> simp only [h3] <;> omega)]
  simp only [Pending.extend, h3, decode, List.cons_append, List.nil_append]
  rw [ofNat_eq_of_toNat (c := c) (by omega)]

/-- Four bytes of a character spell it. -/
theorem decode_four (c : Char) (bs : List UInt8) (h : 0x10000 ≤ c.toNat) :
    decode (UInt8.ofNat (c.toNat / 262144 % 0x08 + 0xF0) ::
      UInt8.ofNat (c.toNat / 4096 % 0x40 + 0x80) :: UInt8.ofNat (c.toNat / 64 % 0x40 + 0x80) ::
      UInt8.ofNat (c.toNat % 0x40 + 0x80) :: bs) = c :: decode bs := by
  have hc : c.toNat < 0xD800 ∨ 0xDFFF < c.toNat ∧ c.toNat < 0x110000 := c.valid
  have h1 := toNat_ofNat_byte (n := c.toNat / 262144 % 0x08 + 0xF0) (by omega)
  have h2 := toNat_ofNat_byte (n := c.toNat / 4096 % 0x40 + 0x80) (by omega)
  have h3 := toNat_ofNat_byte (n := c.toNat / 64 % 0x40 + 0x80) (by omega)
  have h4 := toNat_ofNat_byte (n := c.toNat % 0x40 + 0x80) (by omega)
  obtain ⟨p, lead, howed, hbits, hadmits⟩ :
      ∃ p, Pending.ofLead? (UInt8.ofNat (c.toNat / 262144 % 0x08 + 0xF0)) = some p ∧ p.owed = 2 ∧
        p.bits = c.toNat / 262144 ∧ p.Admits (UInt8.ofNat (c.toNat / 4096 % 0x40 + 0x80)) := by
    -- The leads 0xF0 and 0xF4 bound the second byte; the bounds hold as `c` is no short form and
    -- not above U+10FFFF.
    simp only [Pending.ofLead?, h1]
    rw [if_neg (by omega), if_neg (by omega), if_neg (by omega), if_neg (by omega)]
    by_cases low : c.toNat / 262144 = 0
    · rw [if_pos (by omega)]
      exact ⟨_, rfl, rfl, low.symm, by constructor <;> simp only [h2] <;> omega⟩
    rw [if_neg (by omega)]
    by_cases high : c.toNat / 262144 = 4
    · rw [if_neg (by omega), if_pos (by omega)]
      exact ⟨_, rfl, rfl, high.symm, by constructor <;> simp only [h2] <;> omega⟩
    rw [if_pos (by omega)]
    exact ⟨_, rfl, rfl, by simp only; omega, by constructor <;> simp only [h2] <;> omega⟩
  rw [decode_cons_of_lead (by omega) lead, decodeFrom_cons_of_admits hadmits]
  simp only [Pending.extend, howed, h2, hbits, List.nil_append]
  rw [decodeFrom_cons_of_admits (by constructor <;> simp only [h3] <;> omega)]
  simp only [Pending.extend, h3, List.nil_append]
  rw [decodeFrom_cons_of_admits (by constructor <;> simp only [h4] <;> omega)]
  simp only [Pending.extend, h4, decode, List.cons_append, List.nil_append]
  rw [ofNat_eq_of_toNat (c := c) (by omega)]

/-- The bytes of a character spell it, whatever follows. -/
theorem decode_utf8EncodeChar_append (c : Char) (bs : List UInt8) :
    decode (String.utf8EncodeChar c ++ bs) = c :: decode bs := by
  have hval : c.val.toNat = c.toNat := rfl
  simp only [String.utf8EncodeChar, hval]
  -- One case for each number of bytes.
  split
  · have hb := toNat_ofNat_byte (n := c.toNat) (by omega)
    rw [List.cons_append, List.nil_append, decode_cons_of_ascii (by omega), hb, Char.ofNat_toNat]
  split
  · exact decode_two c bs (by omega) (by omega)
  split
  · exact decode_three c bs (by omega) (by omega)
  · exact decode_four c bs (by omega)

/-- A text is decoded from the bytes that spell it. -/
@[simp]
theorem decode_encode (cs : List Char) : decode (encode cs) = cs := by
  induction cs with
  | nil => rfl
  | cons c cs ih => rw [encode_cons, decode_utf8EncodeChar_append, ih]

/-- Bytes spell a text exactly if the text is encoded to them. -/
theorem text?_eq_some_iff {bs : List UInt8} {text : String} :
    text? bs = some text ↔ bs = encode text.toList := by
  constructor
  · intro h
    rw [text?] at h
    split at h
    next hspelled =>
      obtain rfl := Option.some.inj h
      rw [String.toList_ofList, hspelled]
    next => exact nomatch h
  · rintro rfl
    rw [text?, decode_encode, if_pos rfl, String.ofList_toList]

end Stackline.Text.Utf8
