import EventGateway.Text.Port
import Mathlib.Tactic.SplitIfs

/-!
# Templates of texts that are put together

Reading a template goes through the text once, with the end of the run that is still open.  The
segments are a function of that run and the rest of the text (`segments_finish_foldl`), and the flag
that is raised on the way tells whether one of them is a variable (`hasVariable_parse`).  A text
that consists of two parts has the segments that the first part completes, and then those of the
second part read with the run that the first one leaves open (`scan_append`).  This is what relates
the port of a URL, which is cut out without regard to braces, to the URL as a whole.

## Main statements

* `segments_parse_eq_scan` — the segments, by recursion over the text.
* `hasVariable_parse` — the flag of a template that was read.
* `scan_append` — the segments of two texts in a row.
* `mem_of_mem_scan` — segments consist of characters of the text.
* `variableNames_ofPort` — the variables of the port stand side by side in the URL, but the first
  one may be the end of a variable, behind a colon.
-/

namespace EventGateway.Text

/-- The text of a literal or the name of a variable. -/
def Segment.text : Segment → String
  | literal text => text
  | placeholder name => name

/-- The text that stands for a segment. -/
def Segment.fill (value : String → String) : Segment → String
  | literal text => text
  | placeholder name => value name

namespace Template

/-- A template is rendered segment by segment. -/
theorem render_eq (value : String → String) (t : Template) :
    t.render value = String.join (t.segments.map (Segment.fill value)) := rfl

/-- The template of a list of segments. -/
def ofSegments (segments : List Segment) : Template :=
  ⟨segments, segments.any fun seg => seg.variableName?.isSome⟩

/-- The names of a template are those of its variables. -/
theorem mem_variableNames {t : Template} {name : String} :
    name ∈ t.variableNames ↔ .placeholder name ∈ t.segments := by
  constructor
  · intro mem
    obtain ⟨seg, seen, eq⟩ := List.mem_filterMap.1 mem
    cases seg with
    | literal text => cases eq
    | placeholder name' => exact Option.some.inj eq ▸ seen
  · intro mem
    exact List.mem_filterMap.2 ⟨_, mem, rfl⟩

/-! ## What the scanner does -/

/-- The literal of a run, unless the run is empty. -/
def literalRun (run : List Char) : List Segment :=
  if run.isEmpty then [] else [.literal (String.ofList run)]

/-- The variable of a run, unless the run is empty. -/
def variableRun (run : List Char) : List Segment :=
  if run.isEmpty then [] else [.placeholder (String.ofList run)]

/-- The segments of `rest`, where `run` is the end of a run that has already been read, last
character first. -/
def scan (run : List Char) : (rest : List Char) → List Segment
  | [] => literalRun run.reverse
  | c :: rest =>
    if c = '{' then literalRun run.reverse ++ scan [] rest
    else if c = '}' then variableRun run.reverse ++ scan [] rest
    else scan (c :: run) rest

namespace Scanner

/-- The flag is raised exactly if a variable has been read. -/
def Flagged (s : Scanner) : Prop :=
  s.hasVariable = true ↔ ∃ name, .placeholder name ∈ s.segments

variable {s : Scanner}

/-- What is pending becomes a literal. -/
theorem segments_flushLiteral (s : Scanner) :
    s.flushLiteral.segments = s.segments ++ literalRun s.pending.toList := by
  unfold flushLiteral literalRun
  by_cases none : s.pending = ""
  · simp [none]
  · simp [none, String.isEmpty_iff]

/-- What is pending becomes a variable. -/
theorem segments_flushVariable (s : Scanner) :
    s.flushVariable.segments = s.segments ++ variableRun s.pending.toList := by
  unfold flushVariable variableRun
  by_cases none : s.pending = ""
  · simp [none]
  · simp [none, String.isEmpty_iff]

theorem pending_flushLiteral (s : Scanner) : s.flushLiteral.pending = "" := by
  unfold flushLiteral
  split
  next none => exact String.isEmpty_iff.1 none
  next => rfl

theorem pending_flushVariable (s : Scanner) : s.flushVariable.pending = "" := by
  unfold flushVariable
  split
  next none => exact String.isEmpty_iff.1 none
  next => rfl

/-- **The segments of a run of the scanner**: those it starts with, and those of the text behind
the run that is open at the start. -/
theorem segments_finish_foldl (s : Scanner) (rest : List Char) :
    (rest.foldl push s).finish.segments = s.segments ++ scan s.pending.toList.reverse rest := by
  induction rest generalizing s with
  | nil => simp [finish, segments_flushLiteral, scan]
  | cons c rest ih =>
    rw [List.foldl_cons, ih, push, scan]
    split_ifs with opening closing
    · simp [segments_flushLiteral, pending_flushLiteral]
    · simp [segments_flushVariable, pending_flushVariable]
    · simp

/-- A literal is no variable. -/
theorem Flagged.flushLiteral (flagged : s.Flagged) : s.flushLiteral.Flagged := by
  unfold Scanner.flushLiteral
  split
  next => exact flagged
  next => simpa [Flagged] using flagged

/-- The flag stays right when a variable is added. -/
theorem Flagged.flushVariable (flagged : s.Flagged) : s.flushVariable.Flagged := by
  unfold Scanner.flushVariable
  split
  next => exact flagged
  next => simp [Flagged]

/-- One character keeps the flag right. -/
theorem Flagged.push (flagged : s.Flagged) (c : Char) : (s.push c).Flagged := by
  unfold Scanner.push
  split_ifs with opening closing
  · exact flagged.flushLiteral
  · exact flagged.flushVariable
  · exact flagged

/-- So does a text. -/
theorem Flagged.foldl (flagged : s.Flagged) (rest : List Char) :
    (rest.foldl Scanner.push s).Flagged := by
  induction rest generalizing s with
  | nil => exact flagged
  | cons c rest ih => exact ih (flagged.push c)

end Scanner

/-- **The segments of a text**, by recursion over the text. -/
theorem segments_parse_eq_scan (text : String) : (parse text).segments = scan [] text.toList := by
  simpa [parse, Scanner.start] using Scanner.segments_finish_foldl .start text.toList

/-- **The flag of a template that was read** tells whether it has a variable. -/
theorem hasVariable_parse {text : String} :
    (parse text).hasVariable = true ↔ ∃ name, name ∈ (parse text).variableNames := by
  have start : Scanner.start.Flagged := by simp [Scanner.Flagged, Scanner.start]
  simp only [mem_variableNames]
  exact (start.foldl text.toList).flushLiteral

/-- A template that was read is determined by its segments. -/
theorem parse_eq_ofSegments (text : String) : parse text = ofSegments (scan [] text.toList) := by
  have segments := segments_parse_eq_scan text
  have flag : (parse text).hasVariable =
      (parse text).segments.any fun seg => seg.variableName?.isSome := by
    rw [Bool.eq_iff_iff, hasVariable_parse, List.any_eq_true]
    simp only [Template.variableNames, List.mem_filterMap, Option.isSome_iff_exists]
    exact ⟨fun ⟨name, seg, mem, eq⟩ => ⟨seg, mem, name, eq⟩,
      fun ⟨seg, mem, name, eq⟩ => ⟨name, seg, mem, eq⟩⟩
  rw [ofSegments, ← segments, ← flag]

/-! ## What a part of a text completes and leaves open -/

/-- The segments that a text completes, after the end of a run, last character first. -/
def closed (run : List Char) : (s : List Char) → List Segment
  | [] => []
  | c :: s =>
    if c = '{' then literalRun run.reverse ++ closed [] s
    else if c = '}' then variableRun run.reverse ++ closed [] s
    else closed (c :: run) s

/-- The run that a text leaves open, last character first. -/
def pending (run : List Char) : (s : List Char) → List Char
  | [] => run
  | c :: s => if c = '{' ∨ c = '}' then pending [] s else pending (c :: run) s

/-- **The segments of two texts in a row.** -/
theorem scan_append (run a b : List Char) :
    scan run (a ++ b) = closed run a ++ scan (pending run a) b := by
  induction a generalizing run with
  | nil => rfl
  | cons c a ih =>
    rw [List.cons_append, scan, closed, pending]
    by_cases opening : c = '{'
    · rw [if_pos opening, if_pos opening, if_pos (.inl opening), ih, List.append_assoc]
    · by_cases closing : c = '}'
      · rw [if_neg opening, if_pos closing, if_neg opening, if_pos closing, if_pos (.inr closing),
          ih, List.append_assoc]
      · rw [if_neg opening, if_neg closing, if_neg opening, if_neg closing,
          if_neg (not_or.2 ⟨opening, closing⟩), ih]

/-- At the end, the run that is still open is a literal. -/
theorem scan_eq_closed (run s : List Char) :
    scan run s = closed run s ++ literalRun (pending run s).reverse := by
  rw [← List.append_nil s, scan_append, List.append_nil]
  rfl

/-! ## Segments of a text -/

theorem eq_of_mem_literalRun {run : List Char} {seg : Segment} (mem : seg ∈ literalRun run) :
    seg = .literal (String.ofList run) := by
  unfold literalRun at mem
  split at mem
  · cases mem
  · exact List.mem_singleton.1 mem

theorem eq_of_mem_variableRun {run : List Char} {seg : Segment} (mem : seg ∈ variableRun run) :
    seg = .placeholder (String.ofList run) := by
  unfold variableRun at mem
  split at mem
  · cases mem
  · exact List.mem_singleton.1 mem

/-- **Segments consist of characters of the text**, and of the run before it. -/
theorem mem_of_mem_scan {run s : List Char} {seg : Segment} (mem : seg ∈ scan run s) {c : Char}
    (hc : c ∈ seg.text.toList) : c ∈ run ∨ c ∈ s := by
  induction s generalizing run with
  | nil =>
    rw [eq_of_mem_literalRun mem] at hc
    exact .inl (by simpa [Segment.text] using hc)
  | cons b s ih =>
    -- Behind a brace the run starts anew, so only what follows can be in a segment.
    have rest : seg ∈ scan [] s → c ∈ run ∨ c ∈ b :: s := fun mem =>
      .inr (List.mem_cons_of_mem b ((ih mem).resolve_left List.not_mem_nil))
    rw [scan] at mem
    split_ifs at mem with opening closing
    · rcases List.mem_append.1 mem with mem | mem
      · rw [eq_of_mem_literalRun mem] at hc
        exact .inl (by simpa [Segment.text] using hc)
      · exact rest mem
    · rcases List.mem_append.1 mem with mem | mem
      · rw [eq_of_mem_variableRun mem] at hc
        exact .inl (by simpa [Segment.text] using hc)
      · exact rest mem
    · rcases ih mem with mem | mem
      · rcases List.mem_cons.1 mem with rfl | mem
        · exact .inr List.mem_cons_self
        · exact .inl mem
      · exact .inr (List.mem_cons_of_mem b mem)

/-- A template with a variable is not empty. -/
theorem isEmpty_of_mem_variableNames {t : Template} {name : String}
    (mem : name ∈ t.variableNames) : t.isEmpty = false :=
  List.isEmpty_eq_false_iff.2 (List.ne_nil_of_mem (mem_variableNames.1 mem))

/-! ## Variables of a part -/

/-- The names of segments in a row. -/
theorem variableNames_append (l l' : List Segment) :
    variableNames (ofSegments (l ++ l')) =
      variableNames (ofSegments l) ++ variableNames (ofSegments l') :=
  List.filterMap_append

/-- A literal run has no names. -/
theorem variableNames_literalRun (run : List Char) :
    variableNames (ofSegments (literalRun run)) = [] :=
  List.filterMap_eq_nil_iff.2 fun _ mem => eq_of_mem_literalRun mem ▸ rfl

/-- Only a run that a brace closes is a variable. -/
theorem variableNames_scan (run s : List Char) :
    variableNames (ofSegments (scan run s)) = variableNames (ofSegments (closed run s)) := by
  rw [scan_eq_closed, variableNames_append, variableNames_literalRun, List.append_nil]

/-- **What stands before the first brace can make the first variable longer**, or make one where
there was none, and nothing else.  The run of the whole text is `run ++ earlier`, that of the part
is `run`. -/
theorem variableNames_closed (run earlier s : List Char) :
    ∃ names, names <:+ variableNames (ofSegments (closed (run ++ earlier) s)) ∧
      (variableNames (ofSegments (closed run s)) = names ∨ ∃ first rest,
        variableNames (ofSegments (closed run s)) = first :: rest ∧
          names = (String.ofList earlier.reverse ++ first) :: rest) := by
  -- After the first brace both runs are empty.
  induction s generalizing run with
  | nil => exact ⟨[], List.suffix_rfl, .inl rfl⟩
  | cons c s ih =>
    simp only [closed]
    split_ifs with opening closing
    · refine ⟨_, List.suffix_rfl, .inl ?_⟩
      simp only [variableNames_append, variableNames_literalRun]
    · simp only [variableNames_append]
      by_cases none : run = []
      · refine ⟨_, List.suffix_append _ _, .inl ?_⟩
        rw [none]
        rfl
      · have short : variableRun run.reverse = [.placeholder (String.ofList run.reverse)] :=
          if_neg (by simpa using none)
        have long : variableRun (run ++ earlier).reverse =
            [.placeholder (String.ofList earlier.reverse ++ String.ofList run.reverse)] := by
          rw [← String.ofList_append, ← List.reverse_append]
          exact if_neg (by simp [none])
        exact ⟨_, List.suffix_rfl, .inr ⟨_, _, by rw [short]; rfl, by rw [long]; rfl⟩⟩
    · exact ih (c :: run)

/-! ## The port of a URL -/

/-- What follows the first colon ends the text. -/
theorem append_of_afterColon? {s text : List Char} (h : afterColon? s = some text) :
    ∃ before, before ++ ':' :: text = s := by
  obtain ⟨⟨before, after⟩, split, rfl⟩ := Option.map_eq_some_iff.1 h
  exact ⟨before, by simpa using append_of_splitOnce split⟩

/-- The text of the port ends the authority, behind a colon. -/
theorem append_of_portText? {s text : List Char} (h : portText? s = some text) :
    ∃ before, before ++ ':' :: text = s := by
  unfold portText? at h
  split at h
  next address =>
    obtain ⟨⟨host, rest⟩, split, h⟩ := Option.bind_eq_some_iff.1 h
    obtain ⟨before, eq⟩ := append_of_afterColon? h
    have whole := append_of_splitOnce split
    exact ⟨'[' :: (host ++ [']'] ++ before), by simp [← whole, ← eq]⟩
  next => exact append_of_afterColon? h

/-- What follows the scheme ends the URL. -/
theorem append_afterScheme (url : List Char) : ∃ scheme, scheme ++ afterScheme url = url := by
  unfold afterScheme
  split
  next scheme rest split =>
    exact ⟨scheme ++ [':', '/', '/'], append_of_splitOnce split⟩
  next => exact ⟨[], rfl⟩

/-- **The port of a URL is the template of a part of it**, behind a colon. -/
theorem ofPort_cases (url : String) :
    ofPort url = .empty ∨ ∃ before text after,
      before ++ ':' :: (text ++ after) = url.toList ∧ ofPort url = parse (String.ofList text) := by
  obtain ⟨scheme, eq⟩ := append_afterScheme url.toList
  unfold ofPort
  split
  next text port =>
    obtain ⟨host, whole⟩ := append_of_portText? port
    have cut := List.takeWhile_append_dropWhile (p := (· != '/')) (l := afterScheme url.toList)
    refine .inr ⟨scheme ++ host, text, (afterScheme url.toList).dropWhile (· != '/'), ?_, rfl⟩
    rw [← authority, ← whole] at cut
    calc (scheme ++ host) ++ ':' :: (text ++ (afterScheme url.toList).dropWhile (· != '/'))
      _ = scheme ++ (host ++ ':' :: text ++ (afterScheme url.toList).dropWhile (· != '/')) := by
        simp
      _ = url.toList := by rw [cut, eq]
  next => exact .inl rfl

/-- The flag of the template of a port tells whether it has a variable. -/
theorem hasVariable_ofPort {url : String} :
    (ofPort url).hasVariable = true ↔ ∃ name, name ∈ (ofPort url).variableNames := by
  rcases ofPort_cases url with none | ⟨before, text, after, -, port⟩
  · simp [none, empty, variableNames]
  · rw [port]
    exact hasVariable_parse

/-- Segments of the port consist of characters of the URL. -/
theorem mem_of_mem_ofPort {url : String} {seg : Segment} (mem : seg ∈ (ofPort url).segments)
    {c : Char} (hc : c ∈ seg.text.toList) : c ∈ url.toList := by
  rcases ofPort_cases url with none | ⟨before, text, after, whole, port⟩
  · rw [none] at mem
    cases mem
  · rw [port, segments_parse_eq_scan, String.toList_ofList] at mem
    have inside := (mem_of_mem_scan mem hc).resolve_left List.not_mem_nil
    rw [← whole]
    simp [inside]

/-- **Variables of the port.**  They stand side by side in the URL.  But the port is cut out without
regard to braces, so the first one may be what stands behind a colon in the name of a variable. -/
theorem variableNames_ofPort (url : String) :
    ∃ names, names <:+: (parse url).variableNames ∧
      ((ofPort url).variableNames = names ∨ ∃ start first rest,
        (ofPort url).variableNames = first :: rest ∧ names = (start ++ ":" ++ first) :: rest) := by
  rcases ofPort_cases url with none | ⟨before, text, after, whole, port⟩
  · exact ⟨[], List.nil_infix, .inl (by rw [none]; rfl)⟩
  · -- The URL is read up to the text of the port, then the text, and then the rest.
    have parts : (parse url).variableNames = variableNames (ofSegments (closed [] before)) ++
        variableNames (ofSegments (closed (':' :: pending [] before) text)) ++
          variableNames (ofSegments (scan (pending (':' :: pending [] before) text) after)) := by
      rw [parse_eq_ofSegments, ← whole, scan_append, scan, if_neg (by decide),
        if_neg (by decide), scan_append, ← variableNames_append, ← variableNames_append,
        List.append_assoc]
    have own : (ofPort url).variableNames = variableNames (ofSegments (closed [] text)) := by
      rw [port, parse_eq_ofSegments, String.toList_ofList, variableNames_scan]
    obtain ⟨names, suffix, names_eq⟩ :=
      variableNames_closed [] (':' :: pending [] before) text
    rw [own, parts]
    refine ⟨names, suffix.isInfix.trans (List.infix_append _ _ _), names_eq.imp_right ?_⟩
    rintro ⟨first, rest, port, longer⟩
    refine ⟨String.ofList (pending [] before).reverse, first, rest, port, ?_⟩
    rw [longer, List.reverse_cons, String.ofList_append]

/-- A variable of the port is one of the URL, or what stands behind a colon in the name of one. -/
theorem mem_variableNames_of_ofPort {url name : String} (mem : name ∈ (ofPort url).variableNames) :
    name ∈ (parse url).variableNames ∨
      ∃ start, start ++ ":" ++ name ∈ (parse url).variableNames := by
  obtain ⟨names, inside, rfl | ⟨start, first, rest, port, rfl⟩⟩ := variableNames_ofPort url
  · exact .inl (inside.subset mem)
  · rw [port] at mem
    rcases List.mem_cons.1 mem with rfl | later
    · exact .inr ⟨start, inside.subset List.mem_cons_self⟩
    · exact .inl (inside.subset (List.mem_cons_of_mem _ later))

end Template

end EventGateway.Text
