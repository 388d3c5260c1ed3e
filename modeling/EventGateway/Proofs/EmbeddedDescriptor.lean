import EventGateway.Proofs.PrintedJson
import EventGateway.Proofs.UsedModules

/-!
# The descriptor inside the program

The program that holds a descriptor has it as the value of a string constant.  What such a constant
denotes is said here without the writer: a raw literal denotes the text between its backquotes
without carriage returns, an interpreted literal denotes its text with the escapes resolved, and
literals joined by plus signs denote what they denote one after the other.  The value of a constant
is a string of octets, since an escape may stand for a single octet, and the text of a source is in
UTF-8.

The descriptor is written as raw literals, which would lose carriage returns, so the argument has
two parts: a text without carriage returns is denoted by the literals it is written as
(`readExpression?_raw`), and a descriptor, however it is nested and whatever its texts are, has no
carriage returns, since JSON escapes them (`Json.printableOrBreak_pretty`).

## Main statements

* `readInterpreted?_quote` — a quoted text denotes the text.
* `readExpression?_raw` — raw literals denote the text, backquotes included.
* `appSource_embeds_descriptor` — the program as a whole.
-/

namespace EventGateway.Project

/-! ## What string constants denote -/

/-- The octets of a text in UTF-8. -/
def octets (s : List Char) : List UInt8 :=
  s.flatMap String.utf8EncodeChar

/-- What has been read of a constant, and the text that is left. -/
abbrev Reading := Option (List UInt8 × List Char)

/-- Puts octets before those that are read. -/
def behind (start : List UInt8) (r : Reading) : Reading :=
  r.map fun (rest, s) => (start ++ rest, s)

/-- Reads a raw literal behind its opening backquote.  It ends at the next backquote, and carriage
returns inside it do not count. -/
def readRaw? : List Char → Reading
  | [] => none
  | c :: rest =>
    if c = backquote then some ([], rest)
    else if c = '\r' then readRaw? rest
    else behind (String.utf8EncodeChar c) (readRaw? rest)

/-- The octet that a letter or mark behind a backslash stands for. -/
def letterOctet? : Char → Option UInt8
  | 'a' => some 7
  | 'b' => some 8
  | 't' => some 9
  | 'n' => some 10
  | 'v' => some 11
  | 'f' => some 12
  | 'r' => some 13
  | '"' => some 34
  | '\\' => some 92
  | _ => none

/-- A single octet. -/
def octet? (n : Nat) : Option (List UInt8) :=
  if n < 256 then some [UInt8.ofNat n] else none

/-- The octets of the character with a number; halves of surrogate pairs are no characters. -/
def characterOctets? (n : Nat) : Option (List UInt8) :=
  if n.isValidChar then some (String.utf8EncodeChar (Char.ofNat n)) else none

/-- Reads an interpreted literal behind its opening quote.  It ends at the next quote that is not
escaped, and on the same line.  An escape is a letter or mark, three octal or two hexadecimal digits
for an octet, or four or eight hexadecimal digits for a character. -/
def readInterpreted? : List Char → Reading
  | [] => none
  | '"' :: rest => some ([], rest)
  | '\n' :: _ => none
  | '\\' :: 'x' :: a :: b :: rest =>
    ((Text.natOfDigits? 16 [a, b]).bind octet?).bind fun os => behind os (readInterpreted? rest)
  | '\\' :: 'u' :: a :: b :: c :: d :: rest =>
    ((Text.natOfDigits? 16 [a, b, c, d]).bind characterOctets?).bind fun os =>
      behind os (readInterpreted? rest)
  | '\\' :: 'U' :: a :: b :: c :: d :: a' :: b' :: c' :: d' :: rest =>
    ((Text.natOfDigits? 16 [a, b, c, d, a', b', c', d']).bind characterOctets?).bind fun os =>
      behind os (readInterpreted? rest)
  | '\\' :: a :: rest =>
    match letterOctet? a with
    | some o => behind [o] (readInterpreted? rest)
    | none =>
      match rest with
      | b :: c :: rest =>
        ((Text.natOfDigits? 8 [a, b, c]).bind octet?).bind fun os =>
          behind os (readInterpreted? rest)
      | _ => none
  | c :: rest => behind (String.utf8EncodeChar c) (readInterpreted? rest)

/-- Reads a string literal. -/
def readLiteral? : List Char → Reading
  | [] => none
  | c :: rest =>
    if c = backquote then readRaw? rest else if c = '"' then readInterpreted? rest else none

/-- The text without the blanks at its start that may stand between two tokens of a line. -/
def skipGap (s : List Char) : List Char :=
  s.dropWhile fun c => c == ' ' || c == '\t' || c == '\r'

/-- The text without the blanks at its start, line breaks included. -/
def skipBlanks (s : List Char) : List Char :=
  s.dropWhile fun c => c == ' ' || c == '\t' || c == '\r' || c == '\n'

/-- Goes on behind a literal: with the next one, if a plus sign follows on the same line, and not
at all otherwise. -/
def readMore? (next : List Char → Reading) (start : List UInt8) (s : List Char) : Reading :=
  match skipGap s with
  | '+' :: rest => behind start (next rest)
  | _ => some (start, s)

/-- Reads at most so many literals, joined by plus signs. -/
def readSum? : (count : Nat) → List Char → Reading
  | 0, _ => none
  | count + 1, s =>
    (readLiteral? (skipBlanks s)).bind fun x => readMore? (readSum? count) x.1 x.2

/-- Reads a constant expression of string literals at the start of a text. -/
def readExpression? (s : List Char) : Reading :=
  readSum? s.length s

/-! ## Interpreted literals -/

/-- Bytes in front of bytes in front of a reading. -/
theorem behind_behind (start next : List UInt8) (r : Reading) :
    behind start (behind next r) = behind (start ++ next) r := by
  cases r <;> simp [behind]

/-- An escaped character is read as the character. -/
theorem readInterpreted?_escape (c : Char) (rest : List Char) :
    readInterpreted? (Json.escape c ++ rest) =
      behind (String.utf8EncodeChar c) (readInterpreted? rest) := by
  rcases Json.escape_cases c with ⟨letter, mem, eq⟩ | ⟨control, eq⟩ | ⟨quote, backslash, le, eq⟩
  · rw [eq]
    simp only [Json.letterEscapes, List.mem_cons, Prod.mk.injEq, List.not_mem_nil,
      or_false] at mem
    rcases mem with ⟨rfl, rfl⟩ | ⟨rfl, rfl⟩ | ⟨rfl, rfl⟩ | ⟨rfl, rfl⟩ | ⟨rfl, rfl⟩ | ⟨rfl, rfl⟩ |
      ⟨rfl, rfl⟩ <;> rfl
  · have valid : c.toNat.isValidChar := .inl (by omega)
    rw [eq]
    show ((Text.natOfDigits? 16 _).bind characterOctets?).bind _ = _
    rw [Json.natOfDigits?_hexDigits control, Option.bind_some, characterOctets?, if_pos valid,
      Char.ofNat_toNat]
    rfl
  · rw [eq]
    have lineEnd : c ≠ '\n' := by
      rintro rfl
      exact absurd le (by decide)
    show readInterpreted? (c :: rest) = _
    rw [readInterpreted?]
    all_goals simp_all

/-- **A quoted text denotes the text**, whatever follows. -/
theorem readInterpreted?_quote (s rest : List Char) :
    readInterpreted? (s.flatMap Json.escape ++ '"' :: rest) = some (octets s, rest) := by
  induction s with
  | nil => rfl
  | cons c s ih =>
    rw [List.flatMap_cons, List.append_assoc, readInterpreted?_escape, ih]
    rfl

/-- **An interpreted literal** stands for the text that it was made of. -/
theorem readLiteral?_interpreted (s : String) :
    readLiteral? (interpreted s).toList = some (octets s.toList, []) := by
  have written : (interpreted s).toList = '"' :: (s.toList.flatMap Json.escape ++ ['"']) := by
    simp [interpreted, Json.quoted, Json.quote]
  rw [written]
  exact readInterpreted?_quote s.toList []

/-! ## Raw literals -/

/-- The expression ends where no plus sign follows on the line. -/
def Ends (rest : List Char) : Prop :=
  (skipGap rest).head? ≠ some '+'

/-- Nothing follows at the end of an expression. -/
theorem readMore?_of_ends {rest : List Char} (ends : Ends rest) (next : List Char → Reading)
    (start : List UInt8) : readMore? next start rest = some (start, rest) := by
  unfold readMore?
  split
  next eq => exact absurd (by rw [eq]; rfl) ends
  next => rfl

/-- What has been read before does not matter to what follows. -/
theorem readMore?_append (next : List Char → Reading) (start os : List UInt8) (s : List Char) :
    readMore? next (start ++ os) s = behind start (readMore? next os s) := by
  unfold readMore?
  split
  · rw [behind_behind]
  · rfl

/-- Bytes in front of a reading stay in front when reading goes on. -/
theorem bind_readMore?_behind (next : List Char → Reading) (start : List UInt8) (r : Reading) :
    (behind start r).bind (fun x => readMore? next x.1 x.2) =
      behind start (r.bind fun x => readMore? next x.1 x.2) := by
  cases r with
  | none => rfl
  | some x => exact readMore?_append next start x.1 x.2

/-- **Inside a raw literal.**  The rest of a text that is being written as raw literals, with all
that has to be joined to it, denotes that rest. -/
theorem readRaw?_bind_readMore? {s : List Char} (clean : '\r' ∉ s) {rest : List Char}
    (ends : Ends rest) (count : Nat) (enough : 2 * s.count backquote ≤ count) :
    (readRaw? (s.flatMap rawChar ++ backquote :: rest)).bind
      (fun x => readMore? (readSum? count) x.1 x.2) = some (octets s, rest) := by
  induction s generalizing count with
  | nil => exact readMore?_of_ends ends _ _
  | cons c s ih =>
    rw [List.mem_cons, not_or] at clean
    rw [List.flatMap_cons, List.append_assoc]
    by_cases quote : c = backquote
    · -- The literal ends, one with the backquote is joined to it, and then the next raw one.
      subst quote
      rw [List.count_cons_self] at enough
      obtain ⟨count, rfl⟩ : ∃ k, count = k + 2 := ⟨count - 2, by omega⟩
      have following := ih clean.2 count (by omega)
      show behind [] (behind (octets [backquote])
        ((readRaw? (s.flatMap rawChar ++ backquote :: rest)).bind _)) = _
      rw [following]
      rfl
    · have fewer : 2 * s.count backquote ≤ count := by
        rwa [List.count_cons_of_ne quote] at enough
      have following := ih clean.2 count fewer
      rw [rawChar, if_neg quote, List.singleton_append, readRaw?, if_neg quote,
        if_neg (Ne.symm clean.1), bind_readMore?_behind, following]
      rfl

/-- Each backquote takes two characters of the written text, and more. -/
theorem count_le_length_rawChar (s : List Char) :
    2 * s.count backquote ≤ (s.flatMap rawChar).length := by
  induction s with
  | nil => exact Nat.le_refl 0
  | cons c s ih =>
    rw [List.flatMap_cons, List.length_append]
    by_cases quote : c = backquote
    · subst quote
      have long : (rawChar backquote).length = 11 := rfl
      rw [List.count_cons_self, long]
      omega
    · rw [List.count_cons_of_ne quote]
      omega

/-- **A text without carriage returns is denoted by its raw literals**, if no plus sign follows
them. -/
theorem readExpression?_raw {s : String} (clean : '\r' ∉ s.toList) {rest : List Char}
    (ends : Ends rest) :
    readExpression? ((raw s).toList ++ rest) = some (octets s.toList, rest) := by
  have written : (raw s).toList ++ rest =
      backquote :: (s.toList.flatMap rawChar ++ backquote :: rest) := by
    simp [raw]
  have enough : 2 * s.toList.count backquote ≤
      (s.toList.flatMap rawChar ++ backquote :: rest).length := by
    have le := count_le_length_rawChar s.toList
    rw [List.length_append]
    omega
  rw [written]
  exact readRaw?_bind_readMore? clean ends _ enough

-- Carriage returns would be lost.
example : readExpression? (raw "a\rb`").toList = some (octets "ab`".toList, []) := by
  decide +kernel

/-! ## The program -/

/-- Each line ends with a line break. -/
theorem lines_cons (first : String) (texts : List String) :
    lines (first :: texts) = first ++ "\n" ++ lines texts := by
  simp [lines]

/-- The constant of a program stands behind the comment with the name, and ends its line. -/
theorem appSource_eq_constant (c : Compilation) :
    ∃ rest, c.appSource = programHead (c.app.imports.map Import.key) ++
        lines ["", "// Flogo descriptor of " ++ interpreted c.app.name] ++
        "const descriptor = " ++ raw c.descriptor ++ "\n" ++ rest := by
  have split := lines_cons_cons "" ("// Flogo descriptor of " ++ interpreted c.app.name)
  have constant := lines_cons ("const descriptor = " ++ raw c.descriptor)
  rw [appSource_eq, programTail, split, constant]
  simp only [← String.append_assoc]
  exact ⟨_, rfl⟩

/-- The name of an application between quotes stays on its line. -/
theorem printable_interpreted (s : String) : Json.Only Json.Printable (interpreted s).toList := by
  simpa [interpreted, Json.quoted] using Json.printable_quote s.toList

/-- A descriptor has no carriage returns. -/
theorem return_notMem_descriptor (c : Compilation) : '\r' ∉ c.descriptor.toList := by
  intro mem
  have written : c.descriptor.toList = c.app.toJson.prettyChars 0 := by
    simp [Compilation.descriptor, Flogo.App.descriptor, Json.pretty]
  rw [written] at mem
  exact absurd (Json.printableOrBreak_pretty 0 _ _ mem) (by decide)

/-- **The program embeds exactly the descriptor.**  It consists of its imports, a comment, and a
constant, before what all programs have.  The literals after the equals sign of the constant denote
the text of the descriptor, whatever the texts in it are.  The name in the comment stays on its line
and denotes the name of the application. -/
theorem appSource_embeds_descriptor (c : Compilation) :
    (∃ rest, c.appSource = programHead (c.app.imports.map Import.key) ++
          lines ["", "// Flogo descriptor of " ++ interpreted c.app.name] ++
          "const descriptor = " ++ raw c.descriptor ++ rest ∧
        readExpression? (raw c.descriptor ++ rest).toList =
          some (octets c.descriptor.toList, rest.toList)) ∧
      '\n' ∉ (interpreted c.app.name).toList ∧ '\r' ∉ (interpreted c.app.name).toList ∧
      readLiteral? (interpreted c.app.name).toList = some (octets c.app.name.toList, []) := by
  have printable := printable_interpreted c.app.name
  refine ⟨?_, ?_, ?_, readLiteral?_interpreted c.app.name⟩
  · obtain ⟨rest, eq⟩ := appSource_eq_constant c
    have ends : Ends ('\n' :: rest.toList) := nofun
    refine ⟨"\n" ++ rest, by rw [eq, ← String.append_assoc], ?_⟩
    have read := readExpression?_raw (return_notMem_descriptor c) ends
    simpa using read
  · intro mem
    exact absurd (printable _ mem) (by decide)
  · intro mem
    exact absurd (printable _ mem) (by decide)

end EventGateway.Project
