import EventGateway.Compile.Connection
import EventGateway.Proofs.ImportKey
import EventGateway.Proofs.Templates

/-!
# How the engine evaluates expressions

A setting that starts with an equals sign holds an expression.  The engine reads it as a term and
evaluates the term under the properties of the application: a quoted text is the text, a reference
is the value of a property, `string.concat` joins at least two texts and `string.integer` reads a
text as a decimal number.  Terms are deeper than the expressions that are made from templates, since
an expression may be put into another one.

## Main statements

* `Term.read?_write` — a written term is read back, if its texts contain no quotes and its names no
  closing brackets.
* `evaluates_setting` — the setting of a term evaluates to the value of the term.
* `Expression.render_eq`, `Expression.renderInteger_eq` — expressions are written as terms.
* `Term.value?_ofTemplate` — the term of a template evaluates to the template with its variables
  filled in.
-/

namespace EventGateway.Flogo

open Text (dropPrefix? dropPrefix?_append splitOnce splitOnce_of_notMem Segment Template)

/-- What the engine evaluates. -/
inductive Term where
  | text (value : String)
  | property (name : String)
  /-- Texts that are joined. -/
  | concat (parts : List Term)
  /-- A text that is read as an integer. -/
  | integer (part : Term)

namespace Term

/-! ## Values -/

/-- The integer that a text stands for in decimal; blank characters around it do not count. -/
def decimal? (text : String) : Option Int :=
  integerOfDecimal? (Text.trim text.toList)

mutual

/-- The value of a term, given the values of properties.  Fewer than two texts are not joined. -/
def value? (properties : String → Option Value) : Term → Option Value
  | text value => some (.text value)
  | property name => properties name
  | concat parts =>
    if parts.length < 2 then none
    else (texts? properties parts).map fun texts => .text (String.join texts)
  | integer part =>
    (((part.value? properties).bind Value.text?).bind decimal?).map .integer

/-- The texts that terms evaluate to. -/
def texts? (properties : String → Option Value) : List Term → Option (List String)
  | [] => some []
  | part :: parts =>
    ((part.value? properties).bind Value.text?).bind fun text =>
      (texts? properties parts).map (text :: ·)

end

mutual

/-- Wherever texts are joined, there are at least two. -/
def Joined : Term → Prop
  | concat parts => 2 ≤ parts.length ∧ JoinedAll parts
  | integer part => part.Joined
  | _ => True

/-- All parts are joined. -/
def JoinedAll : List Term → Prop
  | [] => True
  | part :: parts => part.Joined ∧ JoinedAll parts

end

mutual

/-- The properties that a term refers to, in order and with repetitions. -/
def names : Term → List String
  | text _ => []
  | property name => [name]
  | concat parts => namesAll parts
  | integer part => part.names

/-- The properties of all parts, in order. -/
def namesAll : List Term → List String
  | [] => []
  | part :: parts => part.names ++ namesAll parts

end

/-! ## Reading and writing -/

/-- What stands before the name of a property. -/
def propertyStart : List Char := "$property[".toList

/-- What stands before texts that are joined. -/
def concatStart : List Char := "string.concat(".toList

/-- What stands before a text that is read as an integer. -/
def integerStart : List Char := "string.integer(".toList

mutual

/-- A term as it is written behind the equals sign. -/
def write : Term → List Char
  | text value => '\'' :: (value.toList ++ ['\''])
  | property name => propertyStart ++ (name.toList ++ [']'])
  | concat parts => concatStart ++ writeParts parts
  | integer part => integerStart ++ (part.write ++ [')'])

/-- Terms between commas, and the closing parenthesis. -/
def writeParts : List Term → List Char
  | [] => [')']
  | part :: parts => part.write ++ writeMore parts

/-- Further terms between commas and the closing parenthesis. -/
def writeMore : List Term → List Char
  | [] => [')']
  | part :: parts => ',' :: ' ' :: (part.write ++ writeMore parts)

end

mutual

/-- Reads a term at the start of a text and tells what follows it.  The number bounds the depth to
which terms are read. -/
def readAt? : Nat → List Char → Option (Term × List Char)
  | 0, _ => none
  | depth + 1, s =>
    match dropPrefix? ['\''] s with
    | some rest =>
      (splitOnce ['\''] rest).map fun (value, rest) => (text (String.ofList value), rest)
    | none =>
      match dropPrefix? propertyStart s with
      | some rest =>
        (splitOnce [']'] rest).map fun (name, rest) => (property (String.ofList name), rest)
      | none =>
        match dropPrefix? concatStart s with
        | some rest =>
          (readAt? depth rest).bind fun (part, rest) =>
            (readMore? depth rest).map fun (parts, rest) => (concat (part :: parts), rest)
        | none =>
          (dropPrefix? integerStart s).bind fun rest =>
            (readAt? depth rest).bind fun (part, rest) =>
              (dropPrefix? [')'] rest).map fun rest => (integer part, rest)

/-- Reads further terms between commas up to a closing parenthesis. -/
def readMore? : Nat → List Char → Option (List Term × List Char)
  | 0, _ => none
  | depth + 1, s =>
    match dropPrefix? [')'] s with
    | some rest => some ([], rest)
    | none =>
      (dropPrefix? [',', ' '] s).bind fun rest =>
        (readAt? depth rest).bind fun (part, rest) =>
          (readMore? depth rest).map fun (parts, rest) => (part :: parts, rest)

end

/-- Reads a whole text as a term. -/
def read? (s : List Char) : Option Term :=
  match readAt? s.length s with
  | some (t, []) => some t
  | _ => none

mutual

/-- A term that can be told from what stands around it: no quote in its texts, no closing bracket in
its names, and something in every list. -/
def Plain : Term → Prop
  | text value => '\'' ∉ value.toList
  | property name => ']' ∉ name.toList
  | concat parts => parts ≠ [] ∧ PlainAll parts
  | integer part => part.Plain

/-- All parts are plain. -/
def PlainAll : List Term → Prop
  | [] => True
  | part :: parts => part.Plain ∧ PlainAll parts

end

theorem concatStart_pos : 0 < concatStart.length := by decide

theorem integerStart_pos : 0 < integerStart.length := by decide

/-- No term is written as nothing. -/
theorem length_write_pos (t : Term) : 0 < t.write.length := by
  have start := concatStart_pos
  cases t <;> simp only [write, List.length_append, List.length_cons] <;> omega

mutual

/-- **What has been written is read back**, whatever follows. -/
theorem readAt?_write : (t : Term) → t.Plain → (depth : Nat) → t.write.length ≤ depth →
    (rest : List Char) → readAt? depth (t.write ++ rest) = some (t, rest)
  | t, _, 0, long, _ => absurd t.length_write_pos (by omega)
  | text value, plain, depth + 1, long, rest => by
    have quoted : write (text value) ++ rest = ['\''] ++ (value.toList ++ '\'' :: rest) := by
      simp [write]
    rw [quoted, readAt?, dropPrefix?_append]
    simp [splitOnce_of_notMem (show '\'' ∉ value.toList from plain)]
  | property name, plain, depth + 1, long, rest => by
    have bracketed : write (property name) ++ rest =
        propertyStart ++ (name.toList ++ ']' :: rest) := by
      simp [write]
    have start : dropPrefix? ['\''] (propertyStart ++ (name.toList ++ ']' :: rest)) =
        none := rfl
    rw [bracketed, readAt?, start, dropPrefix?_append]
    simp [splitOnce_of_notMem (show ']' ∉ name.toList from plain)]
  | concat [], plain, depth + 1, long, rest => absurd rfl plain.1
  | concat (part :: parts), plain, depth + 1, long, rest => by
    obtain ⟨-, first, others⟩ := plain
    have called : write (concat (part :: parts)) ++ rest =
        concatStart ++ (part.write ++ (writeMore parts ++ rest)) := by
      simp [write, writeParts]
    -- The ways in which terms start differ, so the reader takes none of the earlier branches.
    have start : ∀ s, dropPrefix? ['\''] (concatStart ++ s) = none ∧
        dropPrefix? propertyStart (concatStart ++ s) = none :=
      fun s => ⟨rfl, rfl⟩
    -- What surrounds the parts is not empty, which is all that the bound on the depth needs.
    have room : part.write.length + (writeMore parts).length ≤ depth := by
      have start := concatStart_pos
      simp only [write, writeParts, List.length_append] at long
      omega
    rw [called, readAt?, (start _).1, (start _).2, dropPrefix?_append]
    simp only [readAt?_write part first depth (by omega),
      readMore?_writeMore parts others depth (by omega), Option.bind_some, Option.map_some]
  | integer part, plain, depth + 1, long, rest => by
    have called : write (integer part) ++ rest =
        integerStart ++ (part.write ++ ([')'] ++ rest)) := by
      simp [write]
    have start : ∀ s, dropPrefix? ['\''] (integerStart ++ s) = none ∧
        dropPrefix? propertyStart (integerStart ++ s) = none ∧
        dropPrefix? concatStart (integerStart ++ s) = none :=
      fun s => ⟨rfl, rfl, rfl⟩
    have room : part.write.length ≤ depth := by
      have start := integerStart_pos
      simp only [write, List.length_append] at long
      omega
    rw [called, readAt?, (start _).1, (start _).2.1, (start _).2.2, dropPrefix?_append]
    simp only [readAt?_write part plain depth room, dropPrefix?_append, Option.bind_some,
      Option.map_some]

theorem readMore?_writeMore : (parts : List Term) → PlainAll parts → (depth : Nat) →
    (writeMore parts).length ≤ depth →
    (rest : List Char) → readMore? depth (writeMore parts ++ rest) = some (parts, rest)
  | parts, _, 0, long, _ => by
    cases parts <;> simp [writeMore] at long
  | [], plain, depth + 1, long, rest => by
    rw [writeMore, readMore?, dropPrefix?_append]
  | part :: parts, plain, depth + 1, long, rest => by
    obtain ⟨first, others⟩ := plain
    have listed : writeMore (part :: parts) ++ rest =
        [',', ' '] ++ (part.write ++ (writeMore parts ++ rest)) := by
      simp [writeMore]
    have start : ∀ s, dropPrefix? [')'] ([',', ' '] ++ s) = none := fun s => rfl
    have room : part.write.length + (writeMore parts).length ≤ depth := by
      simp [writeMore] at long
      omega
    rw [listed, readMore?, start, dropPrefix?_append]
    simp only [readAt?_write part first depth (by omega),
      readMore?_writeMore parts others depth (by omega), Option.bind_some, Option.map_some]

end

/-- **A plain term is read back** from its text. -/
theorem read?_write {t : Term} (plain : t.Plain) : read? t.write = some t := by
  have whole := readAt?_write t plain t.write.length le_rfl []
  rw [List.append_nil] at whole
  rw [read?, whole]

end Term

/-! ## Settings -/

/-- The term that a setting holds, if it holds one. -/
def settingTerm? (setting : String) : Option Term :=
  match setting.toList with
  | '=' :: s => Term.read? s
  | _ => none

/-- The setting that holds a term. -/
def Term.setting (t : Term) : String :=
  String.ofList ('=' :: t.write)

/-- What the engine makes of a setting: it holds a term that joins two texts or more wherever it
joins any, and the term has the value. -/
def Evaluates (properties : String → Option Value) (setting : String) (value : Option Value) :
    Prop :=
  ∃ t, settingTerm? setting = some t ∧ t.Joined ∧ t.value? properties = value

/-- A setting is a term behind an equals sign. -/
theorem Term.toList_setting (t : Term) : t.setting.toList = '=' :: t.write :=
  String.toList_ofList

/-- The term of a setting is read back. -/
theorem settingTerm?_setting {t : Term} (plain : t.Plain) : settingTerm? t.setting = some t := by
  rw [settingTerm?, t.toList_setting]
  exact Term.read?_write plain

/-- **A setting evaluates to the value of the term that was written.** -/
theorem evaluates_setting {t : Term} (plain : t.Plain) (joined : t.Joined)
    (properties : String → Option Value) :
    Evaluates properties t.setting (t.value? properties) :=
  ⟨t, settingTerm?_setting plain, joined, rfl⟩

/-! ## Expressions -/

/-- The term of an operand. -/
def Operand.term : Operand → Term
  | text value => .text value
  | property name => .property name

/-- The term of an expression. -/
def Expression.term : Expression → Term
  | operand value => value.term
  | concat parts => .concat (parts.map Operand.term)

/-- An operand is written as its term is. -/
theorem Operand.toList_render (a : Operand) : a.render.toList = a.term.write := by
  cases a with
  | text value => simp [render, term, Term.write, String.toList_append]
  | property name =>
    simp only [render, term, Term.write, String.toList_append, List.append_assoc]
    rfl

/-- Operands are written with commas between them. -/
theorem writeParts_operands (parts : List Operand) :
    Term.writeParts (parts.map Operand.term) =
      (", ".intercalate (parts.map Operand.render)).toList ++ [')'] := by
  rw [String.toList_intercalate, List.map_map]
  cases parts with
  | nil => rfl
  | cons part parts =>
    rw [List.map_cons, Term.writeParts, List.map_cons, Function.comp_apply, part.toList_render]
    induction parts generalizing part with
    | nil => simp [Term.writeMore]
    | cons next parts ih =>
      rw [List.map_cons, Term.writeMore, ih next, List.map_cons, List.intercalate_cons_cons,
        Function.comp_apply, next.toList_render]
      simp

/-- Joined operands are written as a call. -/
theorem Expression.body_concat (parts : List Operand) :
    (concat parts).body =
      "string.concat(" ++ ", ".intercalate (parts.map Operand.render) ++ ")" := rfl

/-- **Expressions are written as their terms.** -/
theorem Expression.toList_body (e : Expression) : e.body.toList = e.term.write := by
  cases e with
  | operand value => exact value.toList_render
  | concat parts =>
    calc (concat parts).body.toList
      _ = "string.concat(".toList ++
            ((", ".intercalate (parts.map Operand.render)).toList ++ ")".toList) := by
        rw [body_concat]
        simp only [String.toList_append, List.append_assoc]
      _ = Term.concatStart ++ Term.writeParts (parts.map Operand.term) := by
        rw [writeParts_operands]
        rfl

/-- An expression is written as the setting of its term. -/
theorem Expression.render_eq (e : Expression) : e.render = e.term.setting := by
  rw [← String.toList_inj]
  simp only [render, String.toList_append, e.toList_body, Term.toList_setting]
  rfl

/-- An expression that is asked for as an integer is the setting of the integer of its term. -/
theorem Expression.renderInteger_eq (e : Expression) :
    e.renderInteger = (Term.integer e.term).setting := by
  have written : ("=string.integer(" ++ e.body ++ ")").toList =
      '=' :: (Term.integerStart ++ (e.term.write ++ [')'])) := by
    simp only [String.toList_append, e.toList_body, List.append_assoc]
    rfl
  rw [← String.toList_inj, Term.toList_setting]
  exact written

/-! ## Expressions of templates -/

namespace Term

section OfTemplate

variable (property : String → String) (t : Template)

/-- The term of a template: literals are texts, and `property` names the property of a variable. -/
def ofTemplate : Term :=
  (Expression.ofTemplate property t).term

/-- The term of a segment. -/
def ofSegment (seg : Segment) : Term :=
  (Operand.ofSegment property seg).term

/-- A template with a variable is that variable, or it has two segments or more. -/
theorem ofTemplate_cases (varies : ∃ name, name ∈ t.variableNames) :
    (∃ name, t.segments = [.placeholder name] ∧
        ofTemplate property t = .property (property name)) ∨
      (2 ≤ t.segments.length ∧
        ofTemplate property t = concat (t.segments.map (ofSegment property))) := by
  unfold ofTemplate Expression.ofTemplate
  split
  next name single => exact .inl ⟨name, single, rfl⟩
  next other =>
    refine .inr ⟨?_, by rw [Expression.term, List.map_map]; rfl⟩
    obtain ⟨name, mem⟩ := varies
    rw [Template.mem_variableNames] at mem
    match segments : t.segments with
    | [] =>
      rw [segments] at mem
      cases mem
    | [seg] =>
      rw [segments] at mem
      exact (other name (segments.trans (by rw [List.mem_singleton.1 mem]))).elim
    | _ :: _ :: _ => simp

variable {property t}

/-- The properties of segments are those of their variables, in order. -/
theorem namesAll_ofSegments (segments : List Segment) :
    namesAll (segments.map (ofSegment property)) =
      (segments.filterMap Segment.variableName?).map property := by
  induction segments with
  | nil => rfl
  | cons seg segments ih =>
    rw [List.map_cons, namesAll, ih]
    cases seg <;> rfl

/-- The term of a template refers to the properties of its variables. -/
theorem names_ofTemplate (varies : ∃ name, name ∈ t.variableNames) :
    (ofTemplate property t).names = t.variableNames.map property := by
  rcases ofTemplate_cases property t varies with ⟨name, single, eq⟩ | ⟨-, eq⟩
  · rw [eq, Template.variableNames, single]
    rfl
  · rw [eq, names, namesAll_ofSegments, Template.variableNames]

/-- Segments join nothing. -/
theorem joinedAll_ofSegments (segments : List Segment) :
    JoinedAll (segments.map (ofSegment property)) := by
  induction segments with
  | nil => trivial
  | cons seg segments ih => exact ⟨by cases seg <;> trivial, ih⟩

/-- What is joined for a template are two texts or more. -/
theorem joined_ofTemplate (varies : ∃ name, name ∈ t.variableNames) :
    (ofTemplate property t).Joined := by
  rcases ofTemplate_cases property t varies with ⟨name, -, eq⟩ | ⟨two, eq⟩
  · rw [eq]
    trivial
  · rw [eq]
    exact ⟨by rwa [List.length_map], joinedAll_ofSegments t.segments⟩

/-- Plain segments are plain together. -/
theorem plainAll_ofSegments {segments : List Segment}
    (plain : ∀ seg ∈ segments, (ofSegment property seg).Plain) :
    PlainAll (segments.map (ofSegment property)) := by
  induction segments with
  | nil => trivial
  | cons seg segments ih =>
    obtain ⟨head, tail⟩ := List.forall_mem_cons.1 plain
    exact ⟨head, ih tail⟩

/-- The term of a template is plain if its texts have no quotes and its properties no brackets. -/
theorem plain_ofTemplate (varies : ∃ name, name ∈ t.variableNames)
    (texts : ∀ text, .literal text ∈ t.segments → '\'' ∉ text.toList)
    (names : ∀ name ∈ t.variableNames, ']' ∉ (property name).toList) :
    (ofTemplate property t).Plain := by
  rcases ofTemplate_cases property t varies with ⟨name, single, eq⟩ | ⟨two, eq⟩
  · rw [eq]
    exact names name (Template.mem_variableNames.2 (by simp [single]))
  · rw [eq]
    refine ⟨fun none => ?_, plainAll_ofSegments fun seg mem => ?_⟩
    · rw [List.map_eq_nil_iff.1 none] at two
      cases two
    · cases seg with
      | literal text => exact texts text mem
      | placeholder name => exact names name (Template.mem_variableNames.2 mem)

/-- The texts of segments are the template filled in. -/
theorem texts?_ofSegments {properties : String → Option Value} {value : String → String}
    {segments : List Segment}
    (stored : ∀ name, .placeholder name ∈ segments →
      properties (property name) = some (.text (value name))) :
    texts? properties (segments.map (ofSegment property)) =
      some (segments.map (Segment.fill value)) := by
  induction segments with
  | nil => rfl
  | cons seg segments ih =>
    have tail := ih fun name mem => stored name (List.mem_cons_of_mem _ mem)
    have head : ((ofSegment property seg).value? properties).bind Value.text? =
        some (seg.fill value) := by
      cases seg with
      | literal text => rfl
      | placeholder name =>
        show (properties (property name)).bind Value.text? = _
        rw [stored name List.mem_cons_self]
        rfl
    rw [List.map_cons, texts?, head, tail]
    rfl

/-- **The term of a template evaluates to the template with its variables filled in**, if the
properties hold the values of the variables. -/
theorem value?_ofTemplate (varies : ∃ name, name ∈ t.variableNames)
    {properties : String → Option Value} {value : String → String}
    (stored : ∀ name ∈ t.variableNames,
      properties (property name) = some (.text (value name))) :
    (ofTemplate property t).value? properties = some (.text (t.render value)) := by
  rw [Template.render_eq]
  rcases ofTemplate_cases property t varies with ⟨name, single, eq⟩ | ⟨two, eq⟩
  · rw [eq, value?, stored name (Template.mem_variableNames.2 (by simp [single])), single]
    simp [Segment.fill, String.join]
  · have enough : ¬ (t.segments.map (ofSegment property)).length < 2 := by
      rw [List.length_map]
      omega
    rw [eq, value?, if_neg enough, texts?_ofSegments fun name mem =>
      stored name (Template.mem_variableNames.2 mem)]
    rfl

end OfTemplate
end Term

end EventGateway.Flogo
