import EventGateway.Proofs.TemplateRuns
import Mathlib.Data.List.Chain

/-!
# Templates and their texts

Writing a template with its variables in braces and reading it are inverse to each other, on the
texts that can be written (`WellFormed`) and on the lists of segments that can be read: no segment
is empty or contains a brace, and no two literals stand side by side.

Other texts can be read, but are written differently.  Reading forgets the braces that do not belong
to a variable, and it makes variables of runs that no brace opens; so a text may lose braces or gain
some.  What is written is well-formed in any case (`wellFormed_brackets`), which is why no other
text comes back.

## Main statements

* `brackets_scan` — a well-formed text is written as it was read.
* `scan_brackets` — segments are read as they were written.
* `bracketed_parse` — for which texts and which segments the round trip is the identity.
-/

namespace EventGateway.Text

/-- A text whose braces alternate, first an opening and last a closing one, with something inside
each pair. -/
def WellFormed (s : List Char) : Prop :=
  (∃ n, s.filter isBrace = (List.replicate n ['{', '}']).flatten) ∧ ¬ ['{', '}'] <:+: s

namespace Segment

/-- The characters of a segment, with a variable in braces. -/
def brackets : Segment → List Char
  | literal text => text.toList
  | placeholder name => '{' :: (name.toList ++ ['}'])

end Segment

/-- No opening brace comes right before a closing one. -/
abbrev Filled (s : List Char) : Prop :=
  s.IsChain fun a b => a = '{' → b ≠ '}'

/-- A text is filled if nowhere braces close right after opening. -/
theorem filled_iff {s : List Char} : Filled s ↔ ¬ ['{', '}'] <:+: s := by
  rw [Filled, List.isChain_iff_forall_rel_of_append_cons_cons]
  constructor
  · rintro filled ⟨before, after, eq⟩
    exact @filled '{' '}' before after (by simp [← eq]) rfl rfl
  · rintro apart a b before after eq rfl rfl
    exact apart ⟨before, after, by simp [eq]⟩

/-- A plain text has no opening brace. -/
theorem Plain.ne_opening {s : List Char} (plain : Plain s) {c : Char} (mem : c ∈ s) : c ≠ '{' := by
  rintro rfl
  cases plain _ mem

/-- A plain text is filled. -/
theorem Plain.filled {s : List Char} (plain : Plain s) : Filled s :=
  List.isChain_iff_forall_rel_of_append_cons_cons.2 fun a b before after eq opening =>
    absurd opening (plain.ne_opening (by simp [eq]))

namespace Template

/-! ## What is written -/

/-- The characters of a template with braces. -/
theorem toList_bracketed (t : Template) :
    t.bracketed.toList = t.segments.flatMap Segment.brackets := by
  have fill : ∀ seg : Segment,
      (seg.fill fun name => "\x7b" ++ name ++ "\x7d").toList = seg.brackets := by
    intro seg
    cases seg <;> simp [Segment.fill, Segment.brackets]
  rw [bracketed, render_eq, String.toList_join, List.flatMap_map]
  simp only [fill]

end Template

namespace Segment

variable {seg : Segment}

/-- A proper segment is filled. -/
theorem Proper.filled (proper : seg.Proper) : Filled seg.brackets := by
  obtain ⟨some, plain⟩ := proper
  cases seg with
  | literal text => exact plain.filled
  | placeholder name =>
    obtain ⟨c, chars, eq⟩ := List.exists_cons_of_ne_nil (String.toList_eq_nil_iff.not.2 some)
    rw [eq] at plain
    have inside : Filled ((c :: chars) ++ ['}']) :=
      plain.filled.append (.singleton _) fun c last _ _ opening =>
        absurd opening (plain.ne_opening (List.mem_of_getLast? last))
    rw [brackets, show name.toList = c :: chars from eq]
    refine .cons_cons (fun _ closing => ?_) inside
    subst closing
    cases plain _ List.mem_cons_self

/-- What is written of a segment does not end with an opening brace. -/
theorem Proper.getLast?_ne (proper : seg.Proper) : ∀ c ∈ seg.brackets.getLast?, c ≠ '{' := by
  intro c last
  cases seg with
  | literal text => exact proper.2.ne_opening (List.mem_of_getLast? last)
  | placeholder name =>
    rw [brackets, ← List.cons_append, List.getLast?_concat] at last
    obtain rfl : '}' = c := Option.some.inj last
    decide

/-- The braces of a proper segment are none or one pair. -/
theorem Proper.filter_isBrace (proper : seg.Proper) :
    seg.brackets.filter isBrace = [] ∨ seg.brackets.filter isBrace = ['{', '}'] := by
  cases seg with
  | literal text => exact .inl proper.2.filter_isBrace
  | placeholder name =>
    have plain : name.toList.filter isBrace = [] := proper.2.filter_isBrace
    exact .inr (by simp [brackets, plain, isBrace])

end Segment

namespace Template

/-- **What is written is well-formed.** -/
theorem wellFormed_brackets {segs : List Segment} (proper : ∀ seg ∈ segs, seg.Proper) :
    WellFormed (segs.flatMap Segment.brackets) := by
  rw [WellFormed, ← filled_iff]
  induction segs with
  | nil => exact ⟨⟨0, rfl⟩, .nil⟩
  | cons seg segs ih =>
    obtain ⟨first, rest⟩ := List.forall_mem_cons.1 proper
    obtain ⟨⟨n, braces⟩, filled⟩ := ih rest
    rw [List.flatMap_cons, List.filter_append, braces]
    refine ⟨?_, first.filled.append filled fun c last _ _ opening =>
      absurd opening (first.getLast?_ne c last)⟩
    rcases first.filter_isBrace with none | pair
    · exact ⟨n, by rw [none, List.nil_append]⟩
    · exact ⟨n + 1, by rw [pair, List.replicate_succ, List.flatten_cons]⟩

/-! ## What is read of a well-formed text -/

/-- A literal run is written as it is. -/
theorem brackets_literalRun (run : List Char) :
    (literalRun run).flatMap Segment.brackets = run := by
  cases run <;> simp [literalRun, Segment.brackets]

/-- A variable run is written between braces. -/
theorem brackets_variableRun {run : List Char} (some : run ≠ []) :
    (variableRun run).flatMap Segment.brackets = '{' :: (run ++ ['}']) := by
  cases run with
  | nil => exact absurd rfl some
  | cons c run => simp [variableRun, Segment.brackets]

/-- **A well-formed text is written as it was read.** -/
theorem brackets_scan {s : List Char} (h : WellFormed s) :
    (scan [] s).flatMap Segment.brackets = s := by
  obtain ⟨⟨n, braces⟩, filled⟩ := h
  obtain ⟨⟨closed, last⟩, cut⟩ := Cut.exists_isOf s
  rw [Cut.braces_of_isOf cut] at braces
  induction n generalizing s closed with
  | zero =>
    obtain rfl : closed = [] := List.map_eq_nil_iff.1 braces
    obtain rfl : last = s := cut.chars_eq
    rw [scan_last cut.plain_last, brackets_literalRun]
  | succ n ih =>
    -- The first two runs end at an opening and a closing brace.
    have pair : closed.map Prod.snd = '{' :: '}' :: (List.replicate n ['{', '}']).flatten := braces
    obtain ⟨⟨run, _⟩, tail, rfl, rfl, single⟩ := List.map_eq_cons_iff.1 pair
    obtain ⟨⟨name, _⟩, closed, rfl, rfl, others⟩ := List.map_eq_cons_iff.1 single
    obtain ⟨plain, -, after, rfl, cutAfter⟩ := Cut.isOf_cons_iff.1 cut
    obtain ⟨plainName, -, rest, rfl, cutRest⟩ := Cut.isOf_cons_iff.1 cutAfter
    have some : name ≠ [] := by
      rintro rfl
      exact filled ⟨run, rest, by simp⟩
    have inside : ¬ ['{', '}'] <:+: rest := fun inside =>
      filled (inside.trans ⟨run ++ '{' :: (name ++ ['}']), [], by simp⟩)
    rw [scan_opening plain, scan_closing plainName, List.flatMap_append, List.flatMap_append,
      brackets_literalRun, brackets_variableRun some, ih inside closed others cutRest]
    simp

/-- **Segments are read as they were written**, if no two literals stand side by side. -/
theorem scan_brackets {segs : List Segment} (proper : ∀ seg ∈ segs, seg.Proper)
    (apart : segs.IsChain fun a b => a.literalText? = none ∨ b.literalText? = none) :
    scan [] (segs.flatMap Segment.brackets) = segs := by
  induction segs with
  | nil => rfl
  | cons seg segs ih =>
    obtain ⟨⟨some, plain⟩, rest⟩ := List.forall_mem_cons.1 proper
    have read := ih rest apart.tail
    rw [List.flatMap_cons]
    cases seg with
    | placeholder name =>
      have plain : Plain name.toList := plain
      have inside : variableRun name.toList = [.placeholder name] := by
        simp [variableRun, show name ≠ "" from some]
      calc scan [] ('{' :: (name.toList ++ ['}']) ++ segs.flatMap Segment.brackets)
        _ = scan [] (name.toList ++ '}' :: segs.flatMap Segment.brackets) := by
          simp [scan, literalRun]
        _ = .placeholder name :: segs := by rw [scan_closing plain, read, inside]; rfl
    | literal text =>
      have plain : Plain text.toList := plain
      have alone : literalRun text.toList = [.literal text] := by
        simp [literalRun, show text ≠ "" from some]
      cases segs with
      | nil => rw [List.flatMap_nil, List.append_nil, Segment.brackets, scan_last plain, alone]
      | cons next segs =>
        cases next with
        | literal text' =>
          have adjacent := (List.isChain_cons_cons.1 apart).1
          rcases adjacent with eq | eq <;> cases eq
        | placeholder name =>
          -- The opening brace of the variable ends the run of the literal.
          rw [Segment.brackets, List.flatMap_cons, Segment.brackets, List.cons_append,
            scan_opening plain, alone, List.singleton_append, List.cons.injEq]
          exact ⟨rfl, read⟩

/-! ## The round trip -/

/-- **Reading and writing templates.**  What is written is well-formed, and a text is written as it
was read exactly if it is well-formed; so nothing changes the second time.  Segments that have texts
without braces, and no two literals side by side, are read as they were written. -/
theorem bracketed_parse :
    (∀ text : String,
      WellFormed (parse text).bracketed.toList ∧
      ((parse text).bracketed = text ↔ WellFormed text.toList) ∧
      (parse (parse text).bracketed).bracketed = (parse text).bracketed) ∧
    ∀ segs : List Segment,
      (∀ seg ∈ segs, seg.text ≠ "" ∧ ∀ c ∈ seg.text.toList, isBrace c = false) →
      (segs.IsChain fun a b => a.literalText? = none ∨ b.literalText? = none) →
      parse (ofSegments segs).bracketed = ofSegments segs := by
  have brackets : ∀ text : String,
      (parse text).bracketed.toList = (scan [] text.toList).flatMap Segment.brackets := fun text =>
    segments_parse_eq_scan text ▸ toList_bracketed (parse text)
  have written : ∀ text : String, WellFormed (parse text).bracketed.toList := fun text =>
    brackets text ▸ wellFormed_brackets fun _ mem => mem_scan_proper mem
  have same : ∀ text : String, WellFormed text.toList → (parse text).bracketed = text :=
    fun text h => String.toList_inj.1 ((brackets text).trans (brackets_scan h))
  refine ⟨fun text => ⟨written text, ⟨fun eq => eq ▸ written text, same text⟩,
    same _ (written text)⟩, fun segs proper apart => ?_⟩
  have read : scan [] (ofSegments segs).bracketed.toList = segs :=
    (congrArg (scan []) (toList_bracketed _)).trans (scan_brackets proper apart)
  rw [parse_eq_ofSegments, read]

/-- The address of a broker, as a template. -/
theorem address_parsed :
    parse (ofSegments [.literal "mqtt://", .placeholder "host", .placeholder "port",
        .literal "/"]).bracketed =
      ofSegments [.literal "mqtt://", .placeholder "host", .placeholder "port", .literal "/"] := by
  refine bracketed_parse.2 _ ?_ ?_
  · simp [Segment.text, isBrace]
  · simp [Segment.literalText?]

-- Other texts lose braces that belong to no variable, or gain some.
example :
    (parse "a\x7bb\x7bc\x7d").bracketed = "ab\x7bc\x7d" ∧
    (parse "a\x7d\x7bb").bracketed = "\x7ba\x7db" := by
  decide

end Template

end EventGateway.Text
