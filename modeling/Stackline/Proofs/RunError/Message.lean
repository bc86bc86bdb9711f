import Stackline.RunError

/-!
# Diagnostics tell errors apart

A diagnostic quotes words, paths and reasons as they are, and these may be any texts, those of other
diagnostics included. Still no two errors have the same diagnostic: what is quoted comes last, all
before it is fixed but for the number of a line, and of two kinds of errors neither begins as the
other one does.

* `RunError.telling number quote e` — the error of the same kind with another number and another
  text to quote; `RunError.kinds` — the kinds of errors, without both.
* `RunError.message_eq` — a diagnostic is an opening, the number, a middle part and the quote, where
  opening and middle part are fixed by the kind.
* `RunError.opening_eq_of_append`, `RunError.kind_eq_of_append` — a kind is known by how its
  diagnostics begin.
* `RunError.message_unambiguous` — the headline. Diagnostics tell errors apart, and the label of a
  line stands in front of those of faults, output errors and refused calls only.
-/

namespace Stackline

open Text

/-! ## Numbers -/

/-- Behind a number there is no digit, so where two texts that begin with numbers agree, so do the
numbers and what is behind them. -/
theorem Text.Numeral.natural_append_inj {n n' : Nat} {c c' : Char} {rest rest' : List Char}
    (hc : c.isDigit = false) (hc' : c'.isDigit = false)
    (h : natural n ++ c :: rest = natural n' ++ c' :: rest') :
    n = n' ∧ c :: rest = c' :: rest' := by
  have hdigits : ∀ (n : Nat) (c : Char) (rest : List Char), c.isDigit = false →
      (natural n ++ c :: rest).takeWhile Char.isDigit = natural n := by
    intro n c rest hc
    have hall := List.all_eq_true.1 (natural_all_isDigit n)
    rw [List.takeWhile_append_of_pos hall, List.takeWhile_cons_of_neg (by simp [hc]),
      List.append_nil]
  have hnatural : natural n = natural n' := by
    rw [← hdigits n c rest hc, h, hdigits n' c' rest' hc']
  refine ⟨Option.some.inj ?_, ?_⟩
  · rw [← natural?_natural n, hnatural, natural?_natural]
  · rw [hnatural] at h
    exact List.append_cancel_left h

/-! ## Kinds of errors -/

namespace Fault

/-- The fault with another word in the place of the one that it names, if it names one. -/
def naming (word : String) : Fault → Fault
  | unknownInstruction _ => unknownInstruction word
  | fault => fault

/-- The word that a fault names, or no text if it names none. -/
def word : Fault → String
  | unknownInstruction word => word
  | _ => ""

theorem naming_naming (fault : Fault) (word word' : String) :
    (fault.naming word).naming word' = fault.naming word' := by
  cases fault <;> rfl

theorem naming_word (fault : Fault) : fault.naming fault.word = fault := by
  cases fault <;> rfl

/-- The word that a fault names comes last in its wording. -/
theorem message_eq (fault : Fault) : fault.message = (fault.naming "").message ++ fault.word := by
  cases fault with
  | unknownInstruction word =>
    show "unknown instruction " ++ word = "unknown instruction " ++ "" ++ word
    rw [String.append_empty]
  | pushUsage | pintEmpty | popEmpty | stackTooShort | divisionByZero | pcharEmpty
  | pcharOutOfRange =>
    exact String.append_empty.symm

end Fault

namespace RunError

/-- The text that the diagnostic of an error quotes, or no text if it quotes none. -/
def quote : RunError → String
  | fault cause => cause.fault.word
  | outOfMemory => ""
  | output _ reason => reason
  | halted _ => ""
  | source (.unopened path) => path
  | source (.unread _ reason) => reason

/-- The error of the same kind that belongs to another line and quotes another text. -/
def telling (number : Nat) (quote : String) : RunError → RunError
  | fault cause => fault ((cause.fault.naming quote).at number)
  | outOfMemory => outOfMemory
  | output _ _ => output number quote
  | halted _ => halted number
  | source (.unopened _) => source (.unopened quote)
  | source (.unread _ _) => source (.unread number quote)

/-- The kind of an error. -/
def kind (e : RunError) : RunError :=
  e.telling 0 ""

/-- The faults, with no text in the place of the word that one of them names. -/
def faultKinds : List Fault :=
  [.pushUsage, .unknownInstruction "", .pintEmpty, .popEmpty, .divisionByZero, .pcharEmpty,
    .pcharOutOfRange] ++ Opcode.all.map .stackTooShort

/-- The kinds of errors. -/
def kinds : List RunError :=
  faultKinds.map (fun cause => .fault (cause.at 0)) ++
    [.outOfMemory, .output 0 "", .halted 0, .source (.unopened ""), .source (.unread 0 "")]

/-- What a diagnostic begins with, up to the number of a line if it tells one. -/
def opening : RunError → String
  | fault _ => "L"
  | outOfMemory => "Error: malloc failed"
  | output _ _ => "L"
  | halted _ => "L"
  | source (.unopened _) => "Error: Can't open file "
  | source (.unread _ _) => "Error: Can't read line "

/-- The number of the line that a diagnostic tells, if it tells one. -/
def digits (e : RunError) : List Char :=
  e.line?.elim [] Numeral.natural

/-- What is between the number of a line and the quote. -/
def middle : RunError → String
  | fault cause => ": " ++ (cause.fault.naming "").message
  | outOfMemory => ""
  | output _ _ => ": " ++ "can't write output: "
  | halted _ => ": " ++ "run already halted"
  | source (.unopened _) => ""
  | source (.unread _ _) => ": "

variable {e e' : RunError}

theorem kind_mem_kinds (e : RunError) : e.kind ∈ kinds := by
  match e with
  | .fault { line := _, fault := cause } =>
    refine List.mem_append_left _ (List.mem_map_of_mem ?_)
    cases cause with
    | stackTooShort op => exact List.mem_append_right _ (List.mem_map_of_mem op.mem_all)
    | pushUsage | unknownInstruction | pintEmpty | popEmpty | divisionByZero | pcharEmpty
    | pcharOutOfRange => simp [Fault.naming, faultKinds]
  | .outOfMemory | .output _ _ | .halted _ | .source (.unopened _) | .source (.unread _ _) =>
    simp [kind, telling, kinds]

theorem opening_kind (e : RunError) : e.kind.opening = e.opening := by
  match e with
  | .fault _ | .outOfMemory | .output _ _ | .halted _ | .source (.unopened _)
  | .source (.unread _ _) => rfl

theorem middle_kind (e : RunError) : e.kind.middle = e.middle := by
  match e with
  | .fault cause =>
    show ": " ++ ((cause.fault.naming "").naming "").message = _
    rw [Fault.naming_naming]
    rfl
  | .outOfMemory | .output _ _ | .halted _ | .source (.unopened _) | .source (.unread _ _) => rfl

theorem isSome_line?_kind (e : RunError) : e.kind.line?.isSome = e.line?.isSome := by
  match e with
  | .fault _ | .outOfMemory | .output _ _ | .halted _ | .source (.unopened _)
  | .source (.unread _ _) => rfl

/-- An error is known by its kind, its line and the text that it quotes. -/
theorem eq_of_kind (hkind : e.kind = e'.kind) (hline : e.line? = e'.line?)
    (hquote : e.quote = e'.quote) : e = e' := by
  -- The kind holds all that the line and the quote do not.
  have hself : ∀ e : RunError, e.kind.telling (e.line?.getD 0) e.quote = e := by
    intro e
    match e with
    | .fault cause =>
      show fault (((cause.fault.naming "").naming cause.fault.word).at cause.line) = _
      rw [Fault.naming_naming, Fault.naming_word]
      rfl
    | .outOfMemory | .output _ _ | .halted _ | .source (.unopened _) | .source (.unread _ _) => rfl
  rw [← hself e, hkind, hline, hquote, hself e']

/-! ## How diagnostics begin -/

/-- A diagnostic is its opening, the number of a line, the middle part and the quote. -/
theorem message_eq (e : RunError) :
    e.message = e.opening ++ String.ofList e.digits ++ e.middle ++ e.quote := by
  match e with
  | .fault cause =>
    show lineLabel cause.line ++ cause.fault.message = _
    rw [Fault.message_eq]
    simp only [lineLabel, opening, digits, line?, Option.elim_some, middle, quote,
      String.append_assoc]
  | .outOfMemory => rfl
  | .output line reason =>
    show lineLabel line ++ "can't write output: " ++ reason = _
    simp only [lineLabel, opening, digits, line?, Option.elim_some, middle, quote,
      String.append_assoc]
  | .halted line =>
    show lineLabel line ++ "run already halted" = _
    simp only [lineLabel, opening, digits, line?, Option.elim_some, middle, quote,
      String.append_assoc, String.append_empty]
  | .source (.unopened path) => rfl
  | .source (.unread line reason) => rfl

theorem toList_message (e : RunError) :
    e.message.toList = e.opening.toList ++ (e.digits ++ (e.middle.toList ++ e.quote.toList)) := by
  rw [message_eq]
  simp only [String.toList_append, String.toList_ofList, List.append_assoc]

/-- Behind the number of a line there is a colon, and a space behind that. -/
theorem exists_middle_eq_colon_append (h : e.line?.isSome = true) :
    ∃ rest, e.middle.toList = ':' :: ' ' :: rest := by
  match e with
  | .fault _ | .output _ _ | .halted _ => exact ⟨_, String.toList_append⟩
  | .source (.unread _ _) => exact ⟨[], String.toList_ofList⟩
  | .outOfMemory | .source (.unopened _) => exact nomatch h

/-- No kind of error begins as another one does. -/
theorem kinds_separated : ∀ k ∈ kinds, ∀ k' ∈ kinds, k.opening.toList <+: k'.opening.toList →
    k.opening = k'.opening ∧ k.line?.isSome = k'.line?.isSome ∧
      (k.middle.toList <+: k'.middle.toList → k = k') := by
  -- There are finitely many kinds, so each two of them are compared.
  decide +kernel

theorem opening_eq_of_isPrefix (h : e.opening.toList <+: e'.opening.toList) :
    e.opening = e'.opening ∧ e.line?.isSome = e'.line?.isSome := by
  rw [← opening_kind e, ← opening_kind e'] at h ⊢
  rw [← isSome_line?_kind e, ← isSome_line?_kind e']
  obtain ⟨hopening, hline, -⟩ := kinds_separated _ e.kind_mem_kinds _ e'.kind_mem_kinds h
  exact ⟨hopening, hline⟩

theorem kind_eq_of_isPrefix (hopening : e.opening = e'.opening)
    (h : e.middle.toList <+: e'.middle.toList) : e.kind = e'.kind := by
  rw [← opening_kind e, ← opening_kind e'] at hopening
  rw [← middle_kind e, ← middle_kind e'] at h
  have hprefix : e.kind.opening.toList <+: e'.kind.opening.toList := hopening ▸ List.prefix_rfl
  obtain ⟨-, -, hkind⟩ := kinds_separated _ e.kind_mem_kinds _ e'.kind_mem_kinds hprefix
  exact hkind h

/-- Texts that agree begin with the same opening, if they begin with one. -/
theorem opening_eq_of_append {rest rest' : List Char}
    (h : e.opening.toList ++ rest = e'.opening.toList ++ rest') :
    e.opening = e'.opening ∧ e.line?.isSome = e'.line?.isSome := by
  rcases List.prefix_or_prefix_of_prefix ⟨rest, h⟩ ⟨rest', rfl⟩ with hprefix | hprefix
  · exact opening_eq_of_isPrefix hprefix
  · obtain ⟨hopening, hline⟩ := opening_eq_of_isPrefix hprefix
    exact ⟨hopening.symm, hline.symm⟩

/-- Behind the same opening, texts that agree tell the same line. -/
theorem line?_eq_of_append {rest rest' : List Char} (hline : e.line?.isSome = e'.line?.isSome)
    (h : e.digits ++ (e.middle.toList ++ rest) = e'.digits ++ (e'.middle.toList ++ rest')) :
    e.line? = e'.line? ∧ e.middle.toList ++ rest = e'.middle.toList ++ rest' := by
  unfold digits at h
  cases hnumber : e.line? with
  | none =>
    rw [hnumber, Option.isSome_none] at hline
    have hnumber' := Option.isSome_eq_false_iff.1 hline.symm
    rw [Option.isNone_iff_eq_none] at hnumber'
    rw [hnumber, hnumber'] at h
    exact ⟨hnumber'.symm, h⟩
  | some n =>
    rw [hnumber, Option.isSome_some] at hline
    obtain ⟨n', hnumber'⟩ := Option.isSome_iff_exists.1 hline.symm
    obtain ⟨later, hmiddle⟩ := @exists_middle_eq_colon_append e (by rw [hnumber]; rfl)
    obtain ⟨later', hmiddle'⟩ := @exists_middle_eq_colon_append e' hline.symm
    rw [hnumber, hnumber', hmiddle, hmiddle'] at h
    obtain ⟨rfl, hrest⟩ := Numeral.natural_append_inj (by decide) (by decide) h
    rw [hmiddle, hmiddle']
    exact ⟨hnumber'.symm, hrest⟩

/-- Behind the same opening and number, texts that agree are of the same kind. -/
theorem kind_eq_of_append {rest rest' : List Char} (hopening : e.opening = e'.opening)
    (h : e.middle.toList ++ rest = e'.middle.toList ++ rest') :
    e.kind = e'.kind ∧ rest = rest' := by
  have hkind : e.kind = e'.kind := by
    rcases List.prefix_or_prefix_of_prefix ⟨rest, h⟩ ⟨rest', rfl⟩ with hprefix | hprefix
    · exact kind_eq_of_isPrefix hopening hprefix
    · exact (kind_eq_of_isPrefix hopening.symm hprefix).symm
  refine ⟨hkind, ?_⟩
  rw [← middle_kind e, hkind, middle_kind] at h
  exact List.append_cancel_left h

/-- Errors with the same diagnostic are the same. -/
theorem message_injective (h : e.message = e'.message) : e = e' := by
  -- The parts are found to agree one after the other, from the front.
  have hlist := congrArg String.toList h
  rw [toList_message, toList_message] at hlist
  obtain ⟨hopening, hnumbered⟩ := opening_eq_of_append hlist
  rw [hopening] at hlist
  obtain ⟨hline, hmiddle⟩ := line?_eq_of_append hnumbered (List.append_cancel_left hlist)
  obtain ⟨hkind, hquote⟩ := kind_eq_of_append hopening hmiddle
  exact eq_of_kind hkind hline (String.toList_inj.1 hquote)

/-- The label of a line stands in front of the diagnostics that open with an `L`, and it is the
label of the line that they tell. -/
theorem lineLabel_prefix_message_iff {n : Nat} :
    (lineLabel n).toList <+: e.message.toList ↔ e.line? = some n ∧ e.opening = "L" := by
  have hlabel : (lineLabel n).toList = "L".toList ++ (Numeral.natural n ++ [':', ' ']) := by
    simp [lineLabel]
  rw [toList_message, hlabel]
  constructor
  · rintro ⟨rest, happend⟩
    rw [List.append_assoc] at happend
    -- A refused call opens with an `L`, and so does the error.
    obtain ⟨hopening, hnumbered⟩ := @opening_eq_of_append (.halted n) e _ _ happend
    obtain ⟨n', hnumber⟩ := Option.isSome_iff_exists.1 hnumbered.symm
    obtain ⟨later, hmiddle⟩ := exists_middle_eq_colon_append hnumbered.symm
    have hopening : e.opening = "L" := hopening.symm
    rw [hopening, digits, hnumber, hmiddle, List.append_assoc] at happend
    obtain ⟨rfl, -⟩ := Numeral.natural_append_inj (by decide) (by decide)
      (List.append_cancel_left happend)
    exact ⟨hnumber, hopening⟩
  · rintro ⟨hnumber, hopening⟩
    obtain ⟨later, hmiddle⟩ := @exists_middle_eq_colon_append e (by rw [hnumber]; rfl)
    rw [hopening, digits, hnumber, hmiddle]
    exact ⟨later ++ e.quote.toList, by simp⟩

/-- Whatever two errors are, their words, paths, reasons and lines included: they have the same
diagnostic only if they are the same. The label of a line stands in front of a diagnostic exactly if
the error belongs to this line and is a fault, an output error or a refused call. -/
theorem message_unambiguous (e e' : RunError) (n : Nat) :
    (e.message = e'.message ↔ e = e') ∧
    (("L" ++ toString n ++ ": ").toList <+: e.message.toList ↔
      e.line? = some n ∧
        ((∃ cause, e = .fault cause) ∨ (∃ line reason, e = .output line reason) ∨
          ∃ line, e = .halted line)) := by
  refine ⟨⟨message_injective, congrArg message⟩, ?_⟩
  refine (lineLabel_prefix_message_iff (n := n)).trans (and_congr_right fun _ => ?_)
  match e with
  | .fault cause => simp [opening]
  | .output line reason => simp [opening]
  | .halted line => simp [opening]
  | .outOfMemory | .source (.unopened _) | .source (.unread _ _) => simp [opening]

end RunError

end Stackline
