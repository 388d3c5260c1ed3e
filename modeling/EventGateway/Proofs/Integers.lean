import EventGateway.Compile.Connection
import Mathlib.Data.List.Basic

/-!
# Integers in decimal

A port without variables, and the operand of an integer expression, are read as integers of 64 bits:
decimal digits behind a sign or none.  `Denotes` says what a text stands for without reading it, and
reading a text finds exactly this.

## Main statements

* `integerOfDecimal?_eq_some_iff` — the texts that are read as integers, and as which.
-/

namespace EventGateway

/-! ## What a text denotes -/

/-- The number of a text of decimal digits. -/
def decimalNumber (digits : List Char) : Int :=
  Text.ofDigits 10 (digits.map fun c => c.toNat - 48)

/-- A text of one digit at least and of nothing but digits. -/
def IsDigits (s : List Char) : Prop :=
  s ≠ [] ∧ ∀ c ∈ s, c.isDigit = true

/-- The integer that a text denotes: decimal digits behind a sign or none. -/
inductive Denotes : List Char → Int → Prop
  | plain {digits : List Char} (h : IsDigits digits) : Denotes digits (decimalNumber digits)
  | plus {digits : List Char} (h : IsDigits digits) : Denotes ('+' :: digits) (decimalNumber digits)
  | minus {digits : List Char} (h : IsDigits digits) :
      Denotes ('-' :: digits) (-decimalNumber digits)

/-- A text denotes an integer of 64 bits. -/
def IsInteger64 (s : List Char) : Prop :=
  ∃ n, Denotes s n ∧ Number.minInteger ≤ n ∧ n ≤ Number.maxInteger

/-! ## What is read -/

/-- The digits of base ten are those of the decimal notation. -/
theorem digitValue?_ten (c : Char) :
    Text.digitValue? 10 c = if c.isDigit then some (c.toNat - 48) else none := by
  have code : ∀ a b : Char, a ≤ b ↔ a.toNat ≤ b.toNat := fun a b => Iff.rfl
  have digit : c.isDigit = true ↔ 48 ≤ c.toNat ∧ c.toNat ≤ 57 := by
    simp only [Char.isDigit, Bool.and_eq_true, decide_eq_true_eq]
    exact Iff.rfl
  unfold Text.digitValue? Text.hexValue?
  simp only [code, digit]
  -- A letter has a value, but not one below ten.
  by_cases decimal : 48 ≤ c.toNat ∧ c.toNat ≤ 57
  · have below : c.toNat - 48 < 10 := by omega
    simp [decimal, below]
  · have notDecimal : ¬ ('0'.toNat ≤ c.toNat ∧ c.toNat ≤ '9'.toNat) := decimal
    rw [if_neg notDecimal, if_neg decimal]
    by_cases lower : 'a'.toNat ≤ c.toNat ∧ c.toNat ≤ 'f'.toNat
    · have large : ¬ c.toNat - 87 < 10 := by
        have start : 97 ≤ c.toNat := lower.1
        omega
      rw [if_pos lower]
      simp [Option.filter, large]
    · rw [if_neg lower]
      by_cases upper : 'A'.toNat ≤ c.toNat ∧ c.toNat ≤ 'F'.toNat
      · have large : ¬ c.toNat - 55 < 10 := by
          have start : 65 ≤ c.toNat := upper.1
          omega
        rw [if_pos upper]
        simp [Option.filter, large]
      · rw [if_neg upper]
        rfl

/-- Digits are read one by one, and all of them have to be there. -/
theorem mapM_digitValue?_ten (s : List Char) :
    s.mapM (Text.digitValue? 10) =
      if s.all Char.isDigit then some (s.map fun c => c.toNat - 48) else none := by
  induction s with
  | nil => rfl
  | cons c s ih =>
    rw [List.mapM_cons, ih, digitValue?_ten, List.all_cons]
    cases c.isDigit <;> cases s.all Char.isDigit <;> rfl

/-- A number is read from digits and from nothing else. -/
theorem natOfDigits?_eq_some_iff {s : List Char} {n : Nat} :
    Text.natOfDigits? 10 s = some n ↔
      IsDigits s ∧ n = Text.ofDigits 10 (s.map fun c => c.toNat - 48) := by
  unfold Text.natOfDigits? IsDigits
  rw [mapM_digitValue?_ten, ← List.all_eq_true]
  cases s with
  | nil => simp
  | cons c s =>
    by_cases digits : (c :: s).all Char.isDigit = true
    · rw [if_pos digits]
      constructor
      · intro h
        exact ⟨⟨List.cons_ne_nil _ _, digits⟩, (Option.some.inj h).symm⟩
      · intro h
        exact congrArg some h.2.symm
    · rw [if_neg digits]
      constructor
      · intro h
        cases h
      · intro h
        exact absurd h.1.2 digits

/-- A whole number without sign is read from digits and from nothing else. -/
theorem decimal_eq_some_iff {s : List Char} {n : Int} :
    (do let m ← Text.natOfDigits? 10 s; pure (m : Int)) = some n ↔
      IsDigits s ∧ n = decimalNumber s := by
  constructor
  · intro h
    obtain ⟨m, hm, h⟩ := Option.bind_eq_some_iff.1 h
    obtain ⟨digits, rfl⟩ := natOfDigits?_eq_some_iff.1 hm
    exact ⟨digits, (Option.some.inj h).symm⟩
  · rintro ⟨digits, rfl⟩
    exact Option.bind_eq_some_iff.2 ⟨_, natOfDigits?_eq_some_iff.2 ⟨digits, rfl⟩, rfl⟩

/-- **The texts that are read as integers** are those that denote one of 64 bits. -/
theorem integerOfDecimal?_eq_some_iff {s : List Char} {n : Int} :
    integerOfDecimal? s = some n ↔
      Denotes s n ∧ Number.minInteger ≤ n ∧ n ≤ Number.maxInteger := by
  unfold integerOfDecimal?
  rw [Option.filter_eq_some_iff, Bool.and_eq_true, decide_eq_true_eq, decide_eq_true_eq]
  refine and_congr_left fun _ => ?_
  constructor
  · intro h
    split at h <;> obtain ⟨m, hm, rfl⟩ := Option.map_eq_some_iff.1 h <;>
      obtain ⟨digits, rfl⟩ := decimal_eq_some_iff.1 hm
    · exact .minus digits
    · exact .plus digits
    · exact .plain digits
  · intro h
    cases h with
    | minus digits => exact Option.map_eq_some_iff.2 ⟨_, decimal_eq_some_iff.2 ⟨digits, rfl⟩, rfl⟩
    | plus digits => exact Option.map_eq_some_iff.2 ⟨_, decimal_eq_some_iff.2 ⟨digits, rfl⟩, rfl⟩
    | plain digits =>
      -- No digit is a sign.
      split
      next rest => exact absurd (digits.2 '-' List.mem_cons_self) (by decide)
      next rest => exact absurd (digits.2 '+' List.mem_cons_self) (by decide)
      next => exact Option.map_eq_some_iff.2 ⟨_, decimal_eq_some_iff.2 ⟨digits, rfl⟩, rfl⟩

/-- The reader takes the integers of 64 bits. -/
theorem isInteger64_iff {s : List Char} :
    IsInteger64 s ↔ (integerOfDecimal? s).isSome = true := by
  rw [Option.isSome_iff_exists]
  exact exists_congr fun n => integerOfDecimal?_eq_some_iff.symm

end EventGateway
