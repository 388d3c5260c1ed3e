import EventGateway.Json.Printer
import EventGateway.Text.Digits
import Mathlib.Data.List.Basic

/-!
# The characters of printed JSON

Quoting leaves most characters as they are and escapes the others in one of two ways
(`escape_cases`); whoever reads quoted texts back, as JSON or as source code, goes by these three
cases.  Printed JSON has no control character but the line breaks of the indented form, whatever the
strings, keys and numbers in it are (`printableOrBreak_pretty`).

## Main statements

* `escape_cases` — how a character is written between quotes.
* `printableOrBreak_pretty` — the indented form consists of line breaks and characters that are no
  control characters.
-/

namespace EventGateway.Json

/-! ## Quoted texts -/

/-- The characters that are escaped by a letter, with their letters. -/
def letterEscapes : List (Char × Char) :=
  [('"', '"'), ('\\', '\\'), ('\n', 'n'), ('\r', 'r'), ('\t', 't'), ('\x08', 'b'), ('\x0c', 'f')]

/-- **A character between quotes** is escaped by a letter, escaped by its number, or it stands for
itself. -/
theorem escape_cases (c : Char) :
    (∃ letter, (c, letter) ∈ letterEscapes ∧ escape c = ['\\', letter]) ∨
    (c.toNat < 32 ∧
      escape c = ['\\', 'u', '0', '0', hexDigit (c.toNat / 16), hexDigit (c.toNat % 16)]) ∨
    (c ≠ '"' ∧ c ≠ '\\' ∧ 32 ≤ c.toNat ∧ escape c = [c]) := by
  by_cases letter : ∃ e, (c, e) ∈ letterEscapes
  · obtain ⟨e, mem⟩ := letter
    refine .inl ⟨e, mem, ?_⟩
    simp only [letterEscapes, List.mem_cons, Prod.mk.injEq, List.not_mem_nil, or_false] at mem
    rcases mem with ⟨rfl, rfl⟩ | ⟨rfl, rfl⟩ | ⟨rfl, rfl⟩ | ⟨rfl, rfl⟩ | ⟨rfl, rfl⟩ | ⟨rfl, rfl⟩ |
      ⟨rfl, rfl⟩ <;> rfl
  · have ne : ∀ e d, (d, e) ∈ letterEscapes → c ≠ d := by
      rintro e d mem rfl
      exact letter ⟨e, mem⟩
    have quote : c ≠ '"' := ne '"' _ (by decide)
    have backslash : c ≠ '\\' := ne '\\' _ (by decide)
    unfold escape
    rw [if_neg quote, if_neg backslash, if_neg (ne 'n' _ (by decide)),
      if_neg (ne 'r' _ (by decide)), if_neg (ne 't' _ (by decide)), if_neg (ne 'b' _ (by decide)),
      if_neg (ne 'f' _ (by decide))]
    by_cases control : c.toNat < 32
    · exact .inr (.inl ⟨control, if_pos control⟩)
    · exact .inr (.inr ⟨quote, backslash, Nat.le_of_not_lt control, if_neg control⟩)

/-- The number of a control character is read back from its two digits. -/
theorem natOfDigits?_hexDigits {n : Nat} (h : n < 32) :
    Text.natOfDigits? 16 ['0', '0', hexDigit (n / 16), hexDigit (n % 16)] = some n := by
  revert n
  decide

/-! ## Texts without control characters -/

/-- All characters of a text are of some kind. -/
def Only (P : Char → Prop) (s : List Char) : Prop :=
  ∀ c ∈ s, P c

section Only

variable {P Q : Char → Prop} {c : Char} {s t : List Char}

@[simp] theorem only_nil : Only P [] := by
  simp [Only]

@[simp] theorem only_cons : Only P (c :: s) ↔ P c ∧ Only P s :=
  List.forall_mem_cons

@[simp] theorem only_append : Only P (s ++ t) ↔ Only P s ∧ Only P t :=
  List.forall_mem_append

theorem only_replicate {n : Nat} (h : P c) : Only P (List.replicate n c) := by
  intro d mem
  rw [List.eq_of_mem_replicate mem]
  exact h

/-- A bound on characters may be widened. -/
theorem Only.mono (h : Only P s) (imp : ∀ c, P c → Q c) : Only Q s :=
  fun c mem => imp c (h c mem)

end Only

/-- No control character. -/
def Printable (c : Char) : Prop :=
  32 ≤ c.toNat
deriving Decidable

@[simp] theorem printable_iff {c : Char} : Printable c ↔ 32 ≤ c.toNat := Iff.rfl

/-- A line break, or no control character. -/
def PrintableOrBreak (c : Char) : Prop :=
  c = '\n' ∨ Printable c
deriving Decidable

@[simp] theorem printableOrBreak_iff {c : Char} :
    PrintableOrBreak c ↔ c = '\n' ∨ 32 ≤ c.toNat := Iff.rfl

/-- What is printable may have line breaks. -/
theorem Only.orBreak {s : List Char} (h : Only Printable s) : Only PrintableOrBreak s :=
  h.mono fun _ printable => .inr printable

/-- Hexadecimal digits are printable. -/
theorem printable_hexDigit {n : Nat} (h : n < 16) : Printable (hexDigit n) := by
  unfold Printable
  revert n
  decide

/-- **Escaping** leaves no control character. -/
theorem printable_escape (c : Char) : Only Printable (escape c) := by
  rcases escape_cases c with ⟨letter, mem, eq⟩ | ⟨control, eq⟩ | ⟨-, -, le, eq⟩
  · have letters : ∀ x ∈ letterEscapes, 32 ≤ x.2.toNat := by decide
    rw [eq]
    simpa using letters _ mem
  · have first : c.toNat / 16 < 16 := by omega
    have second : c.toNat % 16 < 16 := Nat.mod_lt _ (by decide)
    rw [eq]
    simpa using And.intro (printable_hexDigit first) (printable_hexDigit second)
  · rw [eq]
    simpa using le

/-- A quoted text has no control characters. -/
theorem printable_quote (s : List Char) : Only Printable (quote s) := by
  have inside : Only Printable (s.flatMap escape) := by
    intro c mem
    obtain ⟨d, -, mem⟩ := List.mem_flatMap.1 mem
    exact printable_escape d c mem
  simpa [quote] using inside

end EventGateway.Json

/-! ## Numbers -/

namespace EventGateway.Number

open Json (Only Printable only_cons only_replicate)

/-- Whole numbers are printable. -/
theorem printable_toDigits (n : Nat) : Only Printable (Nat.toDigits 10 n) := by
  intro c mem
  have digit := Nat.isDigit_of_mem_toDigits (by decide) (by decide) mem
  have low : 48 ≤ c.toNat := by
    simp only [Char.isDigit, Bool.and_eq_true, decide_eq_true_eq] at digit
    exact digit.1
  show 32 ≤ c.toNat
  omega

/-- Exponents are printable. -/
theorem printable_exponentText (e : Int) : Only Printable (exponentText e) := by
  unfold exponentText
  split <;> simp [printable_toDigits]

/-- Decimal numbers are printable. -/
theorem printable_positive (s : Decimal.Scaled) : Only Printable (positive s) := by
  have digits := printable_toDigits s.digits
  have start : ∀ n, Only Printable ((Nat.toDigits 10 s.digits).take n) :=
    fun n c mem => digits c (List.mem_of_mem_take mem)
  have rest : ∀ n, Only Printable ((Nat.toDigits 10 s.digits).drop n) :=
    fun n c mem => digits c (List.mem_of_mem_drop mem)
  have zeros : ∀ n, Only Printable (zeros n) :=
    fun n => only_replicate (show 32 ≤ '0'.toNat by decide)
  unfold positive
  dsimp only
  split
  · split
    · simp [digits, zeros]
    · split
      · simp [start, rest]
      · simp [digits, zeros]
  · -- The digits are taken apart here, so what is known about them has to be, too.
    generalize Nat.toDigits 10 s.digits = text at digits
    split
    · simp
    · obtain ⟨first, -⟩ := only_cons.1 digits
      simpa [printable_exponentText] using first
    · obtain ⟨first, others⟩ := only_cons.1 digits
      simpa [others, printable_exponentText] using first

/-- Floating-point numbers are printable. -/
theorem printable_floatText (bits : UInt64) : Only Printable (floatText bits) := by
  unfold floatText
  split
  · simp
  · next x _ =>
    have magnitude : Only Printable
        (if x.mantissa = 0 then ['0', '.', '0'] else positive (Decimal.shortest x)) := by
      split
      · simp
      · exact printable_positive _
    dsimp only
    split
    · exact only_cons.2 ⟨show 32 ≤ '-'.toNat by decide, magnitude⟩
    · exact magnitude

/-- A number is written without control characters. -/
theorem printable_chars (n : Number) : Only Printable n.chars := by
  cases n with
  | integer n =>
    show Only Printable (integerText n)
    unfold integerText
    split
    · simp [printable_toDigits]
    · exact printable_toDigits _
  | float bits => exact printable_floatText bits

end EventGateway.Number

/-! ## The indented form -/

namespace EventGateway.Json

/-- A new line is a break and blanks. -/
theorem printableOrBreak_newLine (level : Nat) : Only PrintableOrBreak (newLine level) :=
  only_cons.2 ⟨.inl rfl, only_replicate (.inr (show 32 ≤ ' '.toNat by decide))⟩

mutual

/-- **The indented form** has no control characters but line breaks. -/
theorem printableOrBreak_pretty (level : Nat) :
    (j : Json) → Only PrintableOrBreak (j.prettyChars level)
  | .null => by simp [prettyChars]
  | .bool true => by simp [prettyChars]
  | .bool false => by simp [prettyChars]
  | .number n => (Number.printable_chars n).orBreak
  | .text s => (printable_quote s.toList).orBreak
  | .list [] => by simp [prettyChars]
  | .list (item :: items) => by
    have inside := printableOrBreak_prettyItems (level + 1) (item :: items)
    simp [prettyChars, printableOrBreak_newLine, inside]
  | .object [] => by simp [prettyChars]
  | .object (member :: members) => by
    have inside := printableOrBreak_prettyMembers (level + 1) (member :: members)
    simp [prettyChars, printableOrBreak_newLine, inside]

theorem printableOrBreak_prettyItems (level : Nat) :
    (items : List Json) → Only PrintableOrBreak (prettyItems level items)
  | [] => by simp [prettyItems]
  | [item] => by
    simp [prettyItems, printableOrBreak_newLine, printableOrBreak_pretty level item]
  | item :: next :: items => by
    have rest := printableOrBreak_prettyItems level (next :: items)
    simp [prettyItems, printableOrBreak_newLine, printableOrBreak_pretty level item, rest]

theorem printableOrBreak_prettyMembers (level : Nat) :
    (members : List (String × Json)) → Only PrintableOrBreak (prettyMembers level members)
  | [] => by simp [prettyMembers]
  | [(name, value)] => by
    have key := (printable_quote name.toList).orBreak
    simp [prettyMembers, printableOrBreak_newLine, key, printableOrBreak_pretty level value]
  | (name, value) :: next :: members => by
    have key := (printable_quote name.toList).orBreak
    have rest := printableOrBreak_prettyMembers level (next :: members)
    simp [prettyMembers, printableOrBreak_newLine, key, printableOrBreak_pretty level value, rest]

end

end EventGateway.Json
