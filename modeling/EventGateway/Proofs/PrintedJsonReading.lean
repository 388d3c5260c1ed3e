import EventGateway.Json.Reader
import EventGateway.Proofs.Integers
import EventGateway.Proofs.PrintedJson
import Mathlib.Data.List.Infix

/-!
# Reading printed JSON

The indented form of a JSON value is always a text that can be read, and what is read is the value
as it is: every text is read back character by character, and every integer of 64 bits as itself.
There is one limit, and it is the reader's: a list or an object below too many others becomes an
unreadable part (`kept`).  Floating-point numbers are left out; to read one back is a question of
rounding.

## Main statements

* `readText?_quote` — a quoted text is read back.
* `Numeral.read?_integerText`, `Numeral.value?_ofInteger` — an integer of 64 bits is read back.
* `read?_pretty` — the indented form is read back down to the last level that is kept.
* `kept_eq_ofJson` — a value with few enough levels is kept as it is.
-/

namespace EventGateway.Json

/-! ## Texts -/

/-- An escaped character is read as the character. -/
theorem readText?_escape (c : Char) (before rest : List Char) :
    readText? ⟨before, none, true⟩ (escape c ++ rest) =
      readText? ⟨c :: before, none, true⟩ rest := by
  rcases escape_cases c with ⟨letter, mem, eq⟩ | ⟨control, eq⟩ | ⟨quote, backslash, le, eq⟩
  · rw [eq]
    simp only [letterEscapes, List.mem_cons, Prod.mk.injEq, List.not_mem_nil, or_false] at mem
    rcases mem with ⟨rfl, rfl⟩ | ⟨rfl, rfl⟩ | ⟨rfl, rfl⟩ | ⟨rfl, rfl⟩ | ⟨rfl, rfl⟩ | ⟨rfl, rfl⟩ |
      ⟨rfl, rfl⟩ <;> rfl
  · have high : isHighSurrogate c.toNat = false := by simp [isHighSurrogate]; omega
    have low : isLowSurrogate c.toNat = false := by simp [isLowSurrogate]; omega
    rw [eq]
    show (Text.natOfDigits? 16 _).bind _ = _
    rw [natOfDigits?_hexDigits control, Option.bind_some, TextSoFar.pushUnit, high, low,
      Char.ofNat_toNat]
    rfl
  · rw [eq]
    show readText? _ (c :: rest) = _
    rw [readText?, if_neg (Nat.not_lt.2 le)]
    · rfl
    all_goals simp_all

/-- **A text in quotes** is read back, whatever has been read of it before. -/
theorem readText?_append (before s rest : List Char) :
    readText? ⟨before, none, true⟩ (s.flatMap escape ++ '"' :: rest) =
      some (.text (String.ofList (before.reverse ++ s)), rest) := by
  induction s generalizing before with
  | nil =>
    rw [List.append_nil]
    rfl
  | cons c s ih =>
    rw [List.flatMap_cons, List.append_assoc, readText?_escape, ih, List.reverse_cons,
      List.append_assoc]
    rfl

/-- **A quoted text is read back**, whatever is in it and whatever follows. -/
theorem readText?_quote (s : String) (rest : List Char) :
    readText? ⟨[], none, true⟩ (s.toList.flatMap escape ++ '"' :: rest) =
      some (.text s, rest) := by
  rw [readText?_append, List.reverse_nil, List.nil_append, String.ofList_toList]

/-! ## Integers -/

/-- A numeral ends here: none of the characters with which it could go on follows. -/
def Stops (rest : List Char) : Prop :=
  ∀ c ∈ rest.head?, c.isDigit = false ∧ c ≠ '.' ∧ c ≠ 'e' ∧ c ≠ 'E'

/-- The values of the decimal digits of a number. -/
def digitValues (n : Nat) : List Nat :=
  (Nat.toDigits 10 n).map fun c => c.toNat - 48

/-- A whole number is written in digits. -/
theorem isDigit_toDigits (n : Nat) : ∀ c ∈ Nat.toDigits 10 n, c.isDigit = true :=
  fun _ mem => Nat.isDigit_of_mem_toDigits (by decide) (by decide) mem

/-- Digits are taken as long as they last. -/
theorem takeDigits_append {digits rest : List Char} (all : ∀ c ∈ digits, c.isDigit = true)
    (stops : Stops rest) :
    Text.takeDigits (digits ++ rest) = (digits.map fun c => c.toNat - 48, rest) := by
  induction digits with
  | nil =>
    cases rest with
    | nil => rfl
    | cons c rest =>
      show Text.takeDigits (c :: rest) = _
      rw [Text.takeDigits, digitValue?_ten, (stops c rfl).1]
      rfl
  | cons c digits ih =>
    have first := all c List.mem_cons_self
    rw [List.cons_append, Text.takeDigits, digitValue?_ten, first,
      ih fun d mem => all d (List.mem_cons_of_mem c mem)]
    rfl

/-- The digits of a number stand for it. -/
theorem ofDigits_digitValues (n : Nat) : Text.ofDigits 10 (digitValues n) = n := by
  have step : (fun (m : Nat) (c : Char) => m * 10 + (c.toNat - 48)) =
      fun m c => 10 * m + (c.toNat - '0'.toNat) := by
    funext m c
    rw [Nat.mul_comm]
    rfl
  rw [Text.ofDigits, digitValues, List.foldl_map, step]
  exact Nat.ofDigitChars_ten_toDigits

/-- A number above zero does not start with the digit zero. -/
theorem head?_toDigits {n : Nat} (pos : 0 < n) : (Nat.toDigits 10 n).head? ≠ some '0' := by
  induction n using Nat.strongRecOn with
  | ind n ih =>
    rcases Nat.lt_or_ge n 10 with small | large
    · have digit : ∀ m < 10, 0 < m → [m.digitChar].head? ≠ some '0' := by decide
      rw [Nat.toDigits_of_lt_base small]
      exact digit n small pos
    · have above : 0 < n / 10 := Nat.div_pos large (by decide)
      have first := ih (n / 10) (Nat.div_lt_self pos (by decide)) above
      rwa [Nat.toDigits_of_base_le (by decide) large,
        List.head?_append_of_ne_nil _ Nat.toDigits_ne_nil]

namespace Numeral

/-- The digits of a number are its whole part. -/
theorem readWhole?_toDigits (n : Nat) {rest : List Char} (stops : Stops rest) :
    readWhole? (Nat.toDigits 10 n ++ rest) = some (digitValues n, rest) := by
  rcases Nat.eq_zero_or_pos n with rfl | pos
  · cases rest with
    | nil => rfl
    | cons c rest =>
      show (if c.isDigit then none else some ([0], c :: rest)) = _
      rw [(stops c rfl).1]
      rfl
  · have first := head?_toDigits pos
    have taken := takeDigits_append (isDigit_toDigits n) stops
    obtain ⟨c, cs, eq⟩ := List.exists_cons_of_ne_nil (Nat.toDigits_ne_nil (n := n) (b := 10))
    rw [digitValues]
    rw [eq] at first taken ⊢
    rw [List.cons_append] at taken ⊢
    unfold readWhole?
    split
    next same =>
      obtain ⟨rfl, -⟩ := List.cons.inj same
      exact absurd rfl first
    next =>
      rw [someDigits?, taken]
      rfl

/-- Digits of a number that fits in 64 bits are gathered without a rest. -/
theorem gather_eq {start : Nat} {digits : List Nat}
    (fits : digits.foldl (fun n d => n * 10 + d) start < Nat.pow 2 64) :
    gather start digits = (digits.foldl (fun n d => n * 10 + d) start, []) := by
  induction digits generalizing start with
  | nil => rfl
  | cons d digits ih =>
    have grows : ∀ (ds : List Nat) (n : Nat), n ≤ ds.foldl (fun n d => n * 10 + d) n := by
      intro ds
      induction ds with
      | nil => exact Nat.le_refl
      | cons d ds ih =>
        intro n
        have le := ih (n * 10 + d)
        rw [List.foldl_cons]
        omega
    have first : start * 10 + d < Nat.pow 2 64 := Nat.lt_of_le_of_lt (grows digits _) fits
    rw [gather, if_pos first]
    exact ih fits

/-- The numeral of an integer. -/
def ofInteger (n : Int) : Numeral :=
  ⟨decide (n < 0), digitValues n.natAbs, none, none⟩

/-- The digits of a whole number are read back. -/
theorem readMagnitude?_toDigits (negative : Bool) (n : Nat) {rest : List Char}
    (stops : Stops rest) :
    readMagnitude? negative (Nat.toDigits 10 n ++ rest) =
      some (⟨negative, digitValues n, none, none⟩, rest) := by
  rw [readMagnitude?, readWhole?_toDigits n stops, Option.bind_some]
  cases rest with
  | nil => rfl
  | cons c rest =>
    obtain ⟨-, point, lower, upper⟩ := stops c rfl
    have fraction : readFraction? (c :: rest) = some (none, c :: rest) := by
      unfold readFraction?
      split
      next same => exact absurd (List.cons.inj same).1 point
      next => rfl
    have exponent : readExponent? (c :: rest) = some (none, c :: rest) :=
      if_neg (not_or.2 ⟨lower, upper⟩)
    show (readFraction? (c :: rest)).bind _ = _
    rw [fraction, Option.bind_some]
    show (readExponent? (c :: rest)).map _ = _
    rw [exponent]
    rfl

/-- The text of an integer is its numeral. -/
theorem read?_integerText (n : Int) {rest : List Char} (stops : Stops rest) :
    read? (Number.integerText n ++ rest) = some (ofInteger n, rest) := by
  unfold Number.integerText ofInteger
  by_cases negative : n < 0
  · rw [if_pos negative, decide_eq_true negative]
    exact readMagnitude?_toDigits true n.natAbs stops
  · rw [if_neg negative, decide_eq_false negative]
    have magnitude := readMagnitude?_toDigits false n.natAbs stops
    unfold read?
    split
    next rest' same =>
      -- No digit is a minus sign.
      obtain ⟨c, cs, eq⟩ := List.exists_cons_of_ne_nil
        (Nat.toDigits_ne_nil (n := n.natAbs) (b := 10))
      have digit := isDigit_toDigits n.natAbs c (eq ▸ List.mem_cons_self)
      rw [eq] at same
      rw [(List.cons.inj same).1] at digit
      exact absurd digit (by decide)
    next => exact magnitude

/-- Digits are gathered to the number that they are of, if it has 64 bits. -/
theorem gather_digitValues {n : Nat} (fits : n < Nat.pow 2 64) :
    gather 0 (digitValues n) = (n, []) := by
  have digits : (digitValues n).foldl (fun n d => n * 10 + d) 0 = n := ofDigits_digitValues n
  have fits' : (digitValues n).foldl (fun n d => n * 10 + d) 0 < Nat.pow 2 64 := by rwa [digits]
  rw [gather_eq fits', digits]

/-- The numeral of an integer of 64 bits, with a sign or without, stands for it. -/
theorem value?_ofInteger {n : Int} (least : Number.minInteger ≤ n)
    (most : n < (Nat.pow 2 64 : Nat)) : (ofInteger n).value? = some (.integer n) := by
  have limit : Number.minInteger = -(Nat.pow 2 63 : Nat) := rfl
  have powers : Nat.pow 2 64 = 2 * Nat.pow 2 63 := rfl
  have fits : n.natAbs < Nat.pow 2 64 := by omega
  have gathered : gather 0 (ofInteger n).whole = (n.natAbs, []) := gather_digitValues fits
  rw [value?, gathered]
  by_cases negative : n < 0
  · have inRange : ¬ (n.natAbs = 0 ∨ Nat.pow 2 63 < n.natAbs) := by omega
    have value : -(n.natAbs : Int) = n := by omega
    show (if (!decide (n < 0)) = true then _ else
      if n.natAbs = 0 ∨ Nat.pow 2 63 < n.natAbs then _ else
        some (Number.integer (-(n.natAbs : Int)))) = _
    rw [decide_eq_true negative, if_neg (by decide), if_neg inRange, value]
  · have value : (n.natAbs : Int) = n := by omega
    simp [ofInteger, negative, value]

end Numeral

/-! ## Values -/

end EventGateway.Json

namespace EventGateway

/-- An integer of 64 bits, with a sign or without. -/
def Number.Integral : Number → Prop
  | integer n => minInteger ≤ n ∧ n < (Nat.pow 2 64 : Nat)
  | float _ => False

namespace Json

mutual

/-- All numbers are integers of 64 bits. -/
def Integral : Json → Prop
  | number n => n.Integral
  | list items => IntegralItems items
  | object members => IntegralMembers members
  | _ => True

/-- All items are integral. -/
def IntegralItems : List Json → Prop
  | [] => True
  | item :: items => Integral item ∧ IntegralItems items

/-- The values of all members are integral. -/
def IntegralMembers : List (String × Json) → Prop
  | [] => True
  | (_, value) :: members => Integral value ∧ IntegralMembers members

end

mutual

/-- What is kept of a value if `depth` levels may still be opened: everything but the lists and
objects below them. -/
def kept (depth : Nat) : Json → Draft
  | null => .null
  | bool value => .bool value
  | number n => .number n
  | text s => .text s
  | list items => nested depth (.list (keptItems (depth - 1) items))
  | object members => nested depth (.map (keptMembers (depth - 1) members))

/-- What is left of items. -/
def keptItems (depth : Nat) : List Json → List Draft
  | [] => []
  | item :: items => kept depth item :: keptItems depth items

/-- What is left of members. -/
def keptMembers (depth : Nat) : List (String × Json) → List (Draft × Draft)
  | [] => []
  | (name, value) :: members => (.text name, kept depth value) :: keptMembers depth members

end

/-! ### What values start with -/

/-- The indentation before a value is skipped. -/
theorem skipSpace_newLine (level : Nat) (s : List Char) :
    skipSpace (newLine level ++ s) = skipSpace s := by
  have blanks : ∀ n, (List.replicate n ' ' ++ s).dropWhile isSpace = s.dropWhile isSpace := by
    intro n
    induction n with
    | zero => rfl
    | succ n ih => exact ih
  exact blanks (2 * level)

/-- Nothing is skipped before a visible character. -/
theorem skipSpace_cons {c : Char} (visible : isSpace c = false) (s : List Char) :
    skipSpace (c :: s) = c :: s := by
  rw [skipSpace, List.dropWhile_cons, visible]
  rfl

/-- A line break ends a numeral. -/
theorem stops_newLine (level : Nat) (s : List Char) : Stops (newLine level ++ s) := by
  intro c eq
  obtain rfl := Option.some.inj eq
  decide

/-- A comma ends a numeral. -/
theorem stops_comma (s : List Char) : Stops (',' :: s) := by
  intro c eq
  obtain rfl := Option.some.inj eq
  decide

/-- A character with which a value may start. -/
def Starts (c : Char) : Prop :=
  isSpace c = false ∧ c ≠ ']'

theorem starts_of_isDigit {c : Char} (digit : c.isDigit = true) : Starts c := by
  have ne : ∀ d : Char, d.isDigit = false → c ≠ d := by
    rintro d other rfl
    simp [other] at digit
  refine ⟨?_, ne ']' (by decide)⟩
  simp [isSpace, ne ' ' (by decide), ne '\n' (by decide), ne '\t' (by decide),
    ne '\r' (by decide)]

/-- The text of an integer starts with a minus sign or a digit. -/
theorem integerText_eq_cons (n : Int) :
    ∃ c cs, Number.integerText n = c :: cs ∧ (c = '-' ∨ c.isDigit = true) := by
  unfold Number.integerText
  split
  · exact ⟨'-', _, rfl, .inl rfl⟩
  · obtain ⟨c, cs, eq⟩ := List.exists_cons_of_ne_nil
      (Nat.toDigits_ne_nil (n := n.natAbs) (b := 10))
    exact ⟨c, cs, eq, .inr (isDigit_toDigits n.natAbs c (eq ▸ List.mem_cons_self))⟩

/-- Printed JSON starts with a character that a value can start with. -/
theorem prettyChars_eq_cons (level : Nat) {j : Json} (integral : j.Integral) :
    ∃ c cs, j.prettyChars level = c :: cs ∧ Starts c := by
  cases j with
  | null => exact ⟨'n', _, rfl, by decide, by decide⟩
  | bool value => cases value <;> exact ⟨_, _, rfl, by decide, by decide⟩
  | number n =>
    cases n with
    | integer n =>
      obtain ⟨c, cs, eq, rfl | digit⟩ := integerText_eq_cons n
      · exact ⟨'-', cs, eq, by decide, by decide⟩
      · exact ⟨c, cs, eq, starts_of_isDigit digit⟩
    | float bits => exact integral.elim
  | text s => exact ⟨'"', _, rfl, by decide, by decide⟩
  | list items => cases items <;> exact ⟨'[', _, rfl, by decide, by decide⟩
  | object members => cases members <;> exact ⟨'{', _, rfl, by decide, by decide⟩

/-- What starts like a numeral is read as one. -/
theorem readValue?_numeral (fuel depth : Nat) {s : List Char} {c : Char} {cs : List Char}
    (start : skipSpace s = c :: cs) (sign : c = '-' ∨ c.isDigit = true) :
    readValue? (fuel + 1) depth s =
      (Numeral.read? (c :: cs)).map fun x =>
        (match x.1.value? with
          | some n => .number n
          | none => .unreadable, x.2) := by
  have ne : ∀ d : Char, d ≠ '-' → d.isDigit = false → c ≠ d := by
    rintro d minus other rfl
    rcases sign with rfl | digit
    · exact minus rfl
    · simp [other] at digit
  rw [readValue?, start]
  split
  all_goals first
    | rfl
    | rename_i same
      exact absurd (List.cons.inj same).1 (ne _ (by decide) (by decide))

/-- A value on a line of its own is found behind the indentation. -/
theorem skipSpace_pretty (level : Nat) {j : Json} (integral : j.Integral) (s : List Char) :
    skipSpace (newLine level ++ (j.prettyChars level ++ s)) = j.prettyChars level ++ s := by
  obtain ⟨c, cs, eq, visible, -⟩ := prettyChars_eq_cons level integral
  rw [skipSpace_newLine, eq]
  exact skipSpace_cons visible _

/-- A value behind the colon of a member. -/
theorem skipSpace_blank (level : Nat) {j : Json} (integral : j.Integral) (s : List Char) :
    skipSpace (' ' :: (j.prettyChars level ++ s)) = j.prettyChars level ++ s := by
  obtain ⟨c, cs, eq, visible, -⟩ := prettyChars_eq_cons level integral
  rw [eq]
  exact skipSpace_cons visible _

section Lines

variable (level : Nat) (s : List Char)

/-- One item stands on a line of its own. -/
theorem prettyItems_singleton (item : Json) :
    prettyItems level [item] ++ s = newLine level ++ (item.prettyChars level ++ s) := by
  rw [prettyItems, List.append_assoc]

/-- An item that another follows ends with a comma. -/
theorem prettyItems_cons_cons (item next : Json) (items : List Json) :
    prettyItems level (item :: next :: items) ++ s = newLine level ++
      (item.prettyChars level ++ ',' :: (prettyItems level (next :: items) ++ s)) := by
  simp [prettyItems]

/-- One member stands on a line of its own. -/
theorem prettyMembers_singleton (name : String) (value : Json) :
    prettyMembers level [(name, value)] ++ s = newLine level ++ '"' ::
      (name.toList.flatMap escape ++ '"' :: ':' :: ' ' :: (value.prettyChars level ++ s)) := by
  simp [prettyMembers, quote]

/-- A member that another follows ends with a comma. -/
theorem prettyMembers_cons_cons (name : String) (value : Json) (next : String × Json)
    (members : List (String × Json)) :
    prettyMembers level ((name, value) :: next :: members) ++ s = newLine level ++ '"' ::
      (name.toList.flatMap escape ++ '"' :: ':' :: ' ' ::
        (value.prettyChars level ++ ',' :: (prettyMembers level (next :: members) ++ s))) := by
  simp [prettyMembers, quote]

/-- Items start like the first of them. -/
theorem skipSpace_prettyItems {item : Json} (integral : item.Integral) (items : List Json) :
    ∃ c cs, skipSpace (prettyItems level (item :: items) ++ s) = c :: cs ∧ Starts c := by
  obtain ⟨c, cs, eq, starts⟩ := prettyChars_eq_cons level integral
  cases items with
  | nil =>
    rw [prettyItems_singleton, skipSpace_pretty level integral, eq]
    exact ⟨c, _, rfl, starts⟩
  | cons next items =>
    rw [prettyItems_cons_cons, skipSpace_pretty level integral, eq]
    exact ⟨c, _, rfl, starts⟩

/-- Members start with a quote. -/
theorem skipSpace_prettyMembers (member : String × Json) (members : List (String × Json)) :
    ∃ cs, skipSpace (prettyMembers level (member :: members) ++ s) = '"' :: cs := by
  cases members with
  | nil =>
    rw [prettyMembers_singleton, skipSpace_newLine]
    exact ⟨_, rfl⟩
  | cons next members =>
    rw [prettyMembers_cons_cons, skipSpace_newLine]
    exact ⟨_, rfl⟩

end Lines

/-- A member is read as its name and its value. -/
theorem readMembers?_member (fuel depth : Nat) {s : List Char} {name : String} {rest : List Char}
    (start : skipSpace s = '"' :: (name.toList.flatMap escape ++ '"' :: ':' :: rest)) :
    readMembers? (fuel + 1) depth s = (readValue? fuel depth rest).bind fun x =>
      match skipSpace x.2 with
      | ',' :: rest => (readMembers? fuel depth rest).map fun y => ((.text name, x.1) :: y.1, y.2)
      | '}' :: rest => some ([(.text name, x.1)], rest)
      | _ => none := by
  rw [readMembers?, start]
  show (readText? _ _).bind _ = _
  rw [readText?_quote, Option.bind_some]
  rfl

mutual

/-- **A value is read back** down to the last level that is kept, whatever follows it. -/
theorem readValue?_pretty (level depth : Nat) : (j : Json) → j.Integral → ∀ {fuel s rest},
    (j.prettyChars level).length ≤ fuel → skipSpace s = j.prettyChars level ++ rest → Stops rest →
    readValue? fuel depth s = some (kept depth j, rest)
  | .null, _, fuel + 1, s, rest, _, start, _ => by
    rw [readValue?, start]
    rfl
  | .bool true, _, fuel + 1, s, rest, _, start, _ => by
    rw [readValue?, start]
    rfl
  | .bool false, _, fuel + 1, s, rest, _, start, _ => by
    rw [readValue?, start]
    rfl
  | .number (.integer n), integral, fuel + 1, s, rest, _, start, stops => by
    obtain ⟨c, cs, eq, sign⟩ := integerText_eq_cons n
    have text : c :: (cs ++ rest) = Number.integerText n ++ rest := by rw [eq]; rfl
    rw [readValue?_numeral fuel depth (start.trans text.symm) sign, text,
      Numeral.read?_integerText n stops, Option.map_some,
      Numeral.value?_ofInteger integral.1 integral.2]
    rfl
  | .text t, _, fuel + 1, s, rest, _, start, _ => by
    have chars : prettyChars level (.text t) ++ rest =
        '"' :: (t.toList.flatMap escape ++ '"' :: rest) := by
      simp [prettyChars, quote]
    rw [readValue?, start, chars]
    exact readText?_quote t rest
  | .list [], _, fuel + 1, s, rest, _, start, _ => by
    rw [readValue?, start]
    rfl
  | .list (item :: items), integral, fuel + 1, s, rest, enough, start, _ => by
    -- What follows the bracket is an item and not the bracket that closes an empty list.
    obtain ⟨c, cs, eq, visible, inner⟩ := skipSpace_prettyItems (level + 1)
      (newLine level ++ ']' :: rest) integral.1 items
    have chars : prettyChars level (.list (item :: items)) ++ rest =
        '[' :: (prettyItems (level + 1) (item :: items) ++ (newLine level ++ ']' :: rest)) := by
      simp [prettyChars]
    have inside : readItems? fuel (depth - 1) (c :: cs) =
        some (keptItems (depth - 1) (item :: items), rest) := by
      refine readItems?_pretty (level + 1) level (depth - 1) (item :: items) nofun integral ?_
        (by rw [eq, skipSpace_cons visible])
      simp [prettyChars] at enough
      omega
    rw [readValue?, start, chars]
    show (match skipSpace _ with
      | ']' :: rest => some (nested depth (.list []), rest)
      | rest => (readItems? fuel (depth - 1) rest).map fun (items, rest) =>
          (nested depth (.list items), rest)) = _
    rw [eq]
    split
    next same => exact absurd (List.cons.inj same).1 inner
    next =>
      rw [inside]
      rfl
  | .object [], _, fuel + 1, s, rest, _, start, _ => by
    rw [readValue?, start]
    rfl
  | .object (member :: members), integral, fuel + 1, s, rest, enough, start, _ => by
    obtain ⟨cs, eq⟩ := skipSpace_prettyMembers (level + 1) (newLine level ++ '}' :: rest) member
      members
    have chars : prettyChars level (.object (member :: members)) ++ rest =
        '{' :: (prettyMembers (level + 1) (member :: members) ++
          (newLine level ++ '}' :: rest)) := by
      simp [prettyChars]
    have inside : readMembers? fuel (depth - 1) ('"' :: cs) =
        some (keptMembers (depth - 1) (member :: members), rest) := by
      refine readMembers?_pretty (level + 1) level (depth - 1) (member :: members) nofun integral ?_
        (by rw [eq, skipSpace_cons (by decide)])
      simp [prettyChars] at enough
      omega
    rw [readValue?, start, chars]
    show (match skipSpace _ with
      | '}' :: rest => some (nested depth (.map []), rest)
      | rest => (readMembers? fuel (depth - 1) rest).map fun (entries, rest) =>
          (nested depth (.map entries), rest)) = _
    rw [eq]
    show (readMembers? fuel (depth - 1) ('"' :: cs)).map _ = _
    rw [inside]
    rfl
  | j, integral, 0, _, _, enough, _, _ => by
    obtain ⟨c, cs, eq, -⟩ := prettyChars_eq_cons level integral
    rw [eq] at enough
    exact absurd enough (Nat.not_succ_le_zero _)

theorem readItems?_pretty (level closing depth : Nat) : (items : List Json) → items ≠ [] →
    IntegralItems items → ∀ {fuel s rest}, (prettyItems level items).length ≤ fuel →
    skipSpace s = skipSpace (prettyItems level items ++ (newLine closing ++ ']' :: rest)) →
    readItems? fuel depth s = some (keptItems depth items, rest)
  | [item], _, integral, fuel + 1, s, rest, enough, start => by
    rw [prettyItems_singleton, skipSpace_pretty level integral.1] at start
    have read : readValue? fuel depth s =
        some (kept depth item, newLine closing ++ ']' :: rest) := by
      refine readValue?_pretty level depth item integral.1 ?_ start (stops_newLine closing _)
      simp [prettyItems, newLine] at enough
      omega
    rw [readItems?, read, Option.bind_some]
    simp only [skipSpace_newLine]
    rfl
  | item :: next :: items, _, integral, fuel + 1, s, rest, enough, start => by
    rw [prettyItems_cons_cons, skipSpace_pretty level integral.1] at start
    simp [prettyItems, newLine] at enough
    have read : readValue? fuel depth s = some (kept depth item, ',' ::
        (prettyItems level (next :: items) ++ (newLine closing ++ ']' :: rest))) :=
      readValue?_pretty level depth item integral.1 (by omega) start (stops_comma _)
    have others : readItems? fuel depth
        (prettyItems level (next :: items) ++ (newLine closing ++ ']' :: rest)) =
          some (keptItems depth (next :: items), rest) :=
      readItems?_pretty level closing depth (next :: items) nofun integral.2 (by omega) rfl
    rw [readItems?, read, Option.bind_some]
    show (readItems? fuel depth _).map _ = _
    rw [others]
    rfl
  | item :: items, _, integral, 0, _, _, enough, _ => by
    cases items <;> simp [prettyItems, newLine] at enough

theorem readMembers?_pretty (level closing depth : Nat) : (members : List (String × Json)) →
    members ≠ [] → IntegralMembers members → ∀ {fuel s rest},
    (prettyMembers level members).length ≤ fuel →
    skipSpace s = skipSpace (prettyMembers level members ++ (newLine closing ++ '}' :: rest)) →
    readMembers? fuel depth s = some (keptMembers depth members, rest)
  | [(name, value)], _, integral, fuel + 1, s, rest, enough, start => by
    rw [prettyMembers_singleton, skipSpace_newLine, skipSpace_cons (by decide)] at start
    simp [prettyMembers, newLine] at enough
    have read : readValue? fuel depth
        (' ' :: (value.prettyChars level ++ (newLine closing ++ '}' :: rest))) =
          some (kept depth value, newLine closing ++ '}' :: rest) :=
      readValue?_pretty level depth value integral.1 (by omega)
        (skipSpace_blank level integral.1 _) (stops_newLine closing _)
    rw [readMembers?_member fuel depth start, read, Option.bind_some]
    simp only [skipSpace_newLine]
    rfl
  | (name, value) :: next :: members, _, integral, fuel + 1, s, rest, enough, start => by
    rw [prettyMembers_cons_cons, skipSpace_newLine, skipSpace_cons (by decide)] at start
    simp [prettyMembers, newLine] at enough
    have others : readMembers? fuel depth
        (prettyMembers level (next :: members) ++ (newLine closing ++ '}' :: rest)) =
          some (keptMembers depth (next :: members), rest) :=
      readMembers?_pretty level closing depth (next :: members) nofun integral.2 (by omega) rfl
    have read : readValue? fuel depth (' ' :: (value.prettyChars level ++ ',' ::
        (prettyMembers level (next :: members) ++ (newLine closing ++ '}' :: rest)))) =
          some (kept depth value, ',' ::
            (prettyMembers level (next :: members) ++ (newLine closing ++ '}' :: rest))) :=
      readValue?_pretty level depth value integral.1 (by omega)
        (skipSpace_blank level integral.1 _) (stops_comma _)
    rw [readMembers?_member fuel depth start, read, Option.bind_some]
    show (readMembers? fuel depth _).map _ = _
    rw [others]
    rfl
  | member :: members, _, integral, 0, _, _, enough, _ => by
    cases members <;> simp [prettyMembers, newLine] at enough

end

/-- **Printed JSON is read back** down to the last level that is kept, if its numbers are integers
of 64 bits. -/
theorem read?_pretty {j : Json} (integral : j.Integral) :
    read? j.pretty = some (kept maxDepth j) := by
  obtain ⟨c, cs, eq, visible, -⟩ := prettyChars_eq_cons 0 integral
  have start : skipSpace (j.prettyChars 0) = j.prettyChars 0 ++ [] := by
    rw [List.append_nil, eq]
    exact skipSpace_cons visible cs
  have value : readValue? (2 * (j.prettyChars 0).length + 2) maxDepth (j.prettyChars 0) =
      some (kept maxDepth j, []) :=
    readValue?_pretty 0 maxDepth j integral (by omega) start nofun
  rw [read?, pretty, String.toList_ofList, readChars?, value]
  rfl

/-! ## Values with few levels -/

mutual

/-- How many lists and objects stand inside each other. -/
def levels : Json → Nat
  | list items => levelsOfItems items + 1
  | object members => levelsOfMembers members + 1
  | _ => 0

/-- The levels of the deepest item. -/
def levelsOfItems : List Json → Nat
  | [] => 0
  | item :: items => max (levels item) (levelsOfItems items)

/-- The levels of the deepest member. -/
def levelsOfMembers : List (String × Json) → Nat
  | [] => 0
  | (_, value) :: members => max (levels value) (levelsOfMembers members)

end

mutual

/-- **Nothing is lost** of a value that has no more levels than may be opened. -/
theorem kept_eq_ofJson {depth : Nat} : (j : Json) → j.levels ≤ depth → kept depth j = .ofJson j
  | .null, _ => rfl
  | .bool _, _ => rfl
  | .number _, _ => rfl
  | .text _, _ => rfl
  | .list items, few => by
    obtain ⟨depth, rfl⟩ : ∃ d, depth = d + 1 := ⟨depth - 1, by simp [levels] at few; omega⟩
    have inside := keptItems_eq_ofItems items (Nat.le_of_succ_le_succ few)
    rw [kept, Nat.add_sub_cancel, inside]
    rfl
  | .object members, few => by
    obtain ⟨depth, rfl⟩ : ∃ d, depth = d + 1 := ⟨depth - 1, by simp [levels] at few; omega⟩
    have inside := keptMembers_eq_ofMembers members (Nat.le_of_succ_le_succ few)
    rw [kept, Nat.add_sub_cancel, inside]
    rfl

theorem keptItems_eq_ofItems {depth : Nat} : (items : List Json) → levelsOfItems items ≤ depth →
    keptItems depth items = Draft.ofItems items
  | [], _ => rfl
  | item :: items, few => by
    obtain ⟨first, others⟩ := Nat.max_le.1 few
    rw [keptItems, kept_eq_ofJson item first, keptItems_eq_ofItems items others]
    rfl

theorem keptMembers_eq_ofMembers {depth : Nat} : (members : List (String × Json)) →
    levelsOfMembers members ≤ depth → keptMembers depth members = Draft.ofMembers members
  | [], _ => rfl
  | (name, value) :: members, few => by
    obtain ⟨first, others⟩ := Nat.max_le.1 few
    rw [keptMembers, kept_eq_ofJson value first, keptMembers_eq_ofMembers members others]
    rfl

end

end Json

end EventGateway
