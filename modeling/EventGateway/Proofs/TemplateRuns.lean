import EventGateway.Proofs.Templates
import Mathlib.Data.List.Basic
import Mathlib.Logic.ExistsUnique

/-!
# The runs of a template

What a template says can be read off its text without going through it.  Every text is cut at its
braces in exactly one way into runs without braces (`Cut.IsOf`, `existsUnique_isOf`), and each run
that is not empty is one segment: a variable if a closing brace comes right after it, a literal if
an opening brace or the end of the text does.

## Main statements

* `scan_eq_of_isOf` — the segments of a text are those of its cut.
* `mem_scan_proper` — segments are neither empty nor contain braces.
* `segments_parse` — what a template says, for every text.
-/

namespace EventGateway.Text

/-- The characters that separate runs. -/
def isBrace (c : Char) : Bool :=
  c = '{' || c = '}'

/-- A text without braces. -/
def Plain (s : List Char) : Prop :=
  ∀ c ∈ s, isBrace c = false

/-- A plain text has no braces. -/
theorem Plain.filter_isBrace {s : List Char} (plain : Plain s) : s.filter isBrace = [] :=
  List.filter_eq_nil_iff.2 fun c mem => by simp [plain c mem]

/-- A text cut at some of its characters: the runs before them, each one with the character that
comes right after it, and the run at the end. -/
structure Cut where
  closed : List (List Char × Char)
  last : List Char

namespace Cut

/-- The text that is cut. -/
def chars (cut : Cut) : List Char :=
  cut.closed.flatMap (fun piece => piece.1 ++ [piece.2]) ++ cut.last

/-- A text is cut at its braces, and nowhere else. -/
structure IsOf (cut : Cut) (s : List Char) : Prop where
  chars_eq : cut.chars = s
  plain : ∀ piece ∈ cut.closed, Plain piece.1
  brace : ∀ piece ∈ cut.closed, isBrace piece.2 = true
  plain_last : Plain cut.last

/-- The runs in order, each one with what comes right after it: a character, or the end. -/
def pieces (cut : Cut) : List (List Char × Option Char) :=
  cut.closed.map (fun piece => (piece.1, some piece.2)) ++ [(cut.last, none)]

variable {cut : Cut} {s run : List Char} {b : Char}

/-- A plain text is cut nowhere. -/
theorem isOf_last (plain : Plain run) : IsOf ⟨[], run⟩ run :=
  ⟨rfl, by simp, by simp, plain⟩

/-- A cut with one more run in front is a cut of the text with that run and its brace in front. -/
theorem isOf_cons_iff {closed : List (List Char × Char)} {last : List Char} :
    IsOf ⟨(run, b) :: closed, last⟩ s ↔
      Plain run ∧ isBrace b = true ∧ ∃ rest, s = run ++ b :: rest ∧ IsOf ⟨closed, last⟩ rest := by
  constructor
  · intro h
    exact ⟨h.plain _ List.mem_cons_self, h.brace _ List.mem_cons_self, chars ⟨closed, last⟩,
      by simp [← h.chars_eq, chars], rfl, fun piece mem => h.plain _ (List.mem_cons_of_mem _ mem),
      fun piece mem => h.brace _ (List.mem_cons_of_mem _ mem), h.plain_last⟩
  · rintro ⟨plain, brace, rest, rfl, h⟩
    exact ⟨by simp [← h.chars_eq, chars], List.forall_mem_cons.2 ⟨plain, h.plain⟩,
      List.forall_mem_cons.2 ⟨brace, h.brace⟩, h.plain_last⟩

/-! ## Every text has one cut -/

/-- Every text can be cut at its braces. -/
theorem exists_isOf (s : List Char) : ∃ cut : Cut, cut.IsOf s := by
  induction s with
  | nil => exact ⟨⟨[], []⟩, isOf_last (by simp [Plain])⟩
  | cons c s ih =>
    obtain ⟨⟨closed, last⟩, h⟩ := ih
    by_cases brace : isBrace c = true
    · exact ⟨⟨([], c) :: closed, last⟩, isOf_cons_iff.2 ⟨by simp [Plain], brace, s, rfl, h⟩⟩
    · -- The character belongs to the first run of the rest.
      have longer : ∀ {run : List Char}, Plain run → Plain (c :: run) := fun plain =>
        List.forall_mem_cons.2 ⟨by simpa using brace, plain⟩
      cases closed with
      | nil =>
        obtain rfl : last = s := h.chars_eq
        exact ⟨⟨[], c :: last⟩, isOf_last (longer h.plain_last)⟩
      | cons piece closed =>
        obtain ⟨plain, brace, rest, rfl, tail⟩ := isOf_cons_iff.1 h
        exact ⟨⟨(c :: piece.1, piece.2) :: closed, last⟩,
          isOf_cons_iff.2 ⟨longer plain, brace, rest, rfl, tail⟩⟩

/-- The runs are what stands between the braces. -/
theorem runs_of_isOf (h : cut.IsOf s) :
    s.splitOnP isBrace = cut.closed.map Prod.fst ++ [cut.last] := by
  obtain ⟨closed, last⟩ := cut
  induction closed generalizing s with
  | nil =>
    obtain rfl : last = s := h.chars_eq
    exact List.splitOnP_eq_singleton h.plain_last
  | cons piece closed ih =>
    obtain ⟨plain, brace, rest, rfl, tail⟩ := isOf_cons_iff.1 h
    rw [List.splitOnP_append_cons_of_forall_mem plain _ brace, ih tail]
    rfl

/-- The characters at which a text is cut are its braces. -/
theorem braces_of_isOf (h : cut.IsOf s) : s.filter isBrace = cut.closed.map Prod.snd := by
  obtain ⟨closed, last⟩ := cut
  induction closed generalizing s with
  | nil =>
    obtain rfl : last = s := h.chars_eq
    exact h.plain_last.filter_isBrace
  | cons piece closed ih =>
    obtain ⟨plain, brace, rest, rfl, tail⟩ := isOf_cons_iff.1 h
    rw [List.filter_append, plain.filter_isBrace, List.filter_cons_of_pos brace, ih tail]
    rfl

/-- **Every text is cut at its braces in one way.** -/
theorem existsUnique_isOf (s : List Char) : ∃! cut : Cut, cut.IsOf s := by
  obtain ⟨cut, h⟩ := exists_isOf s
  refine ⟨cut, h, fun cut' h' => ?_⟩
  have braces : cut'.closed.map Prod.snd = cut.closed.map Prod.snd :=
    (braces_of_isOf h').symm.trans (braces_of_isOf h)
  obtain ⟨runs, last⟩ := List.append_inj' ((runs_of_isOf h').symm.trans (runs_of_isOf h)) rfl
  obtain ⟨closed, last'⟩ := cut
  obtain ⟨closed', _⟩ := cut'
  obtain rfl := List.head_eq_of_cons_eq last
  obtain rfl : closed' = closed := by
    rw [← List.zip_unzip closed', ← List.zip_unzip closed]
    simp only [List.unzip_fst, List.unzip_snd]
    rw [runs, braces]
  rfl

end Cut

namespace Segment

/-- The segment of a run, given what comes right after the run. -/
def ofRun? (run : List Char) (next : Option Char) : Option Segment :=
  if run = [] then none
  else if next = some '}' then some (.placeholder (String.ofList run))
  else some (.literal (String.ofList run))

/-- A run that no brace closes is literal. -/
theorem literalRun_eq {run : List Char} {next : Option Char} (h : next ≠ some '}') :
    Template.literalRun run = (ofRun? run next).toList := by
  cases run <;> simp [Template.literalRun, ofRun?, h]

/-- A run that a brace closes is a variable. -/
theorem variableRun_eq (run : List Char) :
    Template.variableRun run = (ofRun? run (some '}')).toList := by
  cases run <;> simp [Template.variableRun, ofRun?]

/-- The text of a segment is its run. -/
theorem text_ofRun? {run : List Char} {next : Option Char} {seg : Segment}
    (h : ofRun? run next = some seg) : seg.text = String.ofList run := by
  unfold ofRun? at h
  split_ifs at h <;> exact (Option.some.inj h) ▸ rfl

/-- A segment that can be written: it has a text, and no braces in it. -/
def Proper (seg : Segment) : Prop :=
  seg.text ≠ "" ∧ Plain seg.text.toList

/-- The segment of a plain run is proper. -/
theorem proper_of_ofRun? {run : List Char} {next : Option Char} {seg : Segment}
    (h : ofRun? run next = some seg) (plain : Plain run) : seg.Proper := by
  have text := text_ofRun? h
  have some : run ≠ [] := by
    rintro rfl
    cases h
  rw [Proper, text, String.toList_ofList]
  exact ⟨by simpa using some, plain⟩

end Segment

namespace Template

variable {run s : List Char}

/-- Reading a run only makes the run longer that is open. -/
theorem scan_of_plain (plain : Plain s) (run rest : List Char) :
    scan run (s ++ rest) = scan (s.reverse ++ run) rest := by
  induction s generalizing run with
  | nil => rfl
  | cons c s ih =>
    obtain ⟨noBrace, plain⟩ := List.forall_mem_cons.1 plain
    have neither : c ≠ '{' ∧ c ≠ '}' := by simpa [isBrace] using noBrace
    rw [List.cons_append, scan, if_neg neither.1, if_neg neither.2, ih plain, List.reverse_cons,
      List.append_assoc]
    rfl

/-- The run at the end. -/
theorem scan_last (plain : Plain run) : scan [] run = literalRun run := by
  simpa [scan] using scan_of_plain plain [] []

/-- A run in front of an opening brace. -/
theorem scan_opening (plain : Plain run) (rest : List Char) :
    scan [] (run ++ '{' :: rest) = literalRun run ++ scan [] rest := by
  simp [scan_of_plain plain, scan]

/-- A run in front of a closing brace. -/
theorem scan_closing (plain : Plain run) (rest : List Char) :
    scan [] (run ++ '}' :: rest) = variableRun run ++ scan [] rest := by
  simp [scan_of_plain plain, scan]

/-- **The segments of a text are those of its cut**, run by run. -/
theorem scan_eq_of_isOf {cut : Cut} (h : cut.IsOf s) :
    scan [] s = cut.pieces.filterMap fun piece => Segment.ofRun? piece.1 piece.2 := by
  obtain ⟨closed, last⟩ := cut
  induction closed generalizing s with
  | nil =>
    obtain rfl : last = s := h.chars_eq
    rw [scan_last h.plain_last, Segment.literalRun_eq (show none ≠ some '}' by simp)]
    simp [Cut.pieces, List.filterMap_eq_flatMap_toList]
  | cons piece closed ih =>
    obtain ⟨run, b⟩ := piece
    obtain ⟨plain, brace, rest, rfl, tail⟩ := Cut.isOf_cons_iff.1 h
    have first : scan [] (run ++ b :: rest) =
        (Segment.ofRun? run (some b)).toList ++ scan [] rest := by
      obtain rfl | rfl : b = '{' ∨ b = '}' := by simpa [isBrace] using brace
      · rw [scan_opening plain, Segment.literalRun_eq (show some '{' ≠ some '}' by decide)]
      · rw [scan_closing plain, Segment.variableRun_eq]
    rw [first, ih tail]
    simp [Cut.pieces, List.filterMap_eq_flatMap_toList]

/-- **Segments have texts without braces.** -/
theorem mem_scan_proper {seg : Segment} (mem : seg ∈ scan [] s) : seg.Proper := by
  obtain ⟨cut, h⟩ := Cut.exists_isOf s
  rw [scan_eq_of_isOf h] at mem
  obtain ⟨⟨run, next⟩, piece, ofRun⟩ := List.mem_filterMap.1 mem
  refine Segment.proper_of_ofRun? ofRun ?_
  rcases List.mem_append.1 piece with piece | piece
  · obtain ⟨closed, there, eq⟩ := List.mem_map.1 piece
    cases eq
    exact h.plain _ there
  · cases List.mem_singleton.1 piece
    exact h.plain_last

/-- The texts of the segments are the text without its braces. -/
theorem flatMap_text_scan (run s : List Char) :
    (scan run s).flatMap (fun seg => seg.text.toList) =
      run.reverse ++ s.filter (fun c => !isBrace c) := by
  have literal : ∀ run, (literalRun run).flatMap (fun seg => seg.text.toList) = run := by
    intro run
    cases run <;> simp [literalRun, Segment.text]
  have placeholder : ∀ run, (variableRun run).flatMap (fun seg => seg.text.toList) = run := by
    intro run
    cases run <;> simp [variableRun, Segment.text]
  induction s generalizing run with
  | nil => simp [scan, literal]
  | cons c s ih =>
    rw [scan]
    split_ifs with opening closing
    · simp [literal, ih, isBrace, opening]
    · simp [placeholder, ih, isBrace, closing]
    · simp [ih, isBrace, opening, closing]

/-- **What a template says.**  Its text is cut at the braces in one way, and its segments are those
of the runs, each with what comes right after it; the flag raised on the way tells whether one of
them is a variable.  So no segment is empty or contains a brace, and together they have the text
without its braces. -/
theorem segments_parse (text : String) :
    (∃! cut : Cut, cut.IsOf text.toList) ∧
    (∀ cut : Cut, cut.IsOf text.toList → (parse text).segments =
      cut.pieces.filterMap fun piece => Segment.ofRun? piece.1 piece.2) ∧
    ((parse text).hasVariable = true ↔ ∃ name, .placeholder name ∈ (parse text).segments) ∧
    (∀ seg ∈ (parse text).segments, seg.text ≠ "" ∧ ∀ c ∈ seg.text.toList, isBrace c = false) ∧
    String.join ((parse text).segments.map Segment.text) =
      String.ofList (text.toList.filter fun c => !isBrace c) := by
  have segments := segments_parse_eq_scan text
  refine ⟨Cut.existsUnique_isOf _, fun cut h => segments.trans (scan_eq_of_isOf h), ?_,
    fun seg mem => mem_scan_proper (segments ▸ mem), ?_⟩
  · rw [hasVariable_parse]
    exact exists_congr fun name => mem_variableNames
  · refine String.toList_inj.1 ?_
    rw [segments, String.toList_join, List.flatMap_map, String.toList_ofList]
    exact flatMap_text_scan [] text.toList

/-- A text with an opening brace too many, a run between two closing ones, and an empty pair. -/
def strayCut : Cut where
  closed := [("a".toList, '{'), ("b".toList, '{'), ("c".toList, '}'), ("d".toList, '}'), ([], '{'),
    ([], '}')]
  last := "e".toList

/-- A text with stray braces of every sort. -/
theorem strayCut_segments : strayCut.IsOf "a\x7bb\x7bc\x7dd\x7d\x7b\x7de".toList ∧
    (parse "a\x7bb\x7bc\x7dd\x7d\x7b\x7de").segments =
      [.literal "a", .literal "b", .placeholder "c", .placeholder "d", .literal "e"] := by
  have h : strayCut.IsOf "a\x7bb\x7bc\x7dd\x7d\x7b\x7de".toList :=
    ⟨by decide, by simp [strayCut, Plain, isBrace], by simp [strayCut, isBrace],
      by simp [strayCut, Plain, isBrace]⟩
  exact ⟨h, (segments_parse _).2.1 strayCut h⟩

end Template

end EventGateway.Text
