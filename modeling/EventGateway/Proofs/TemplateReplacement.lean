import EventGateway.Proofs.Templates
import Mathlib.Data.List.Forall2

/-!
# Templates with other characters

Reading a template only looks at braces.  So characters may be replaced in the text or in the
segments, as long as braces stay where they are and no others appear (`scan_map`), and it does not
matter whether that is done before a template is filled in or after it (`render_parse_map`).

Two ways to fill in the same template differ only where the values of variables do
(`forall₂_render`).
-/

namespace EventGateway.Text

/-- A replacement of characters that leaves braces where they are. -/
structure KeepsBraces (f : Char → Char) : Prop where
  opening : ∀ c, f c = '{' ↔ c = '{'
  closing : ∀ c, f c = '}' ↔ c = '}'

/-- A segment with other characters in its text. -/
def Segment.map (f : Char → Char) : Segment → Segment
  | literal text => literal (text.map f)
  | placeholder name => placeholder (name.map f)

namespace Template

/-! ## Reading -/

/-- A text is changed character by character. -/
theorem ofList_map (f : Char → Char) (s : List Char) :
    String.ofList (s.map f) = (String.ofList s).map f := by
  rw [← String.toList_inj, String.toList_map, String.toList_ofList, String.toList_ofList]

/-- A change of characters goes through a literal run. -/
theorem literalRun_map (f : Char → Char) (run : List Char) :
    literalRun (run.map f) = (literalRun run).map (Segment.map f) := by
  cases run with
  | nil => rfl
  | cons c run => exact congrArg (fun text => [Segment.literal text]) (ofList_map f (c :: run))

/-- A change of characters goes through a variable run. -/
theorem variableRun_map (f : Char → Char) (run : List Char) :
    variableRun (run.map f) = (variableRun run).map (Segment.map f) := by
  cases run with
  | nil => rfl
  | cons c run => exact congrArg (fun name => [Segment.placeholder name]) (ofList_map f (c :: run))

section Replacement

variable {f : Char → Char}

/-- **Characters may be replaced in the text or in its segments.** -/
theorem scan_map (keeps : KeepsBraces f) (run s : List Char) :
    scan (run.map f) (s.map f) = (scan run s).map (Segment.map f) := by
  induction s generalizing run with
  | nil => rw [List.map_nil, scan, scan, ← List.map_reverse, literalRun_map]
  | cons c s ih =>
    -- Behind a brace, both texts are read from an empty run.
    have fresh : scan [] (s.map f) = (scan [] s).map (Segment.map f) := ih []
    rw [List.map_cons, scan, scan, ← List.map_reverse]
    simp only [keeps.opening, keeps.closing]
    split_ifs with opening closing
    · rw [literalRun_map, fresh, List.map_append]
    · rw [variableRun_map, fresh, List.map_append]
    · exact ih (c :: run)

/-- **A change that leaves braces alone** goes through the scanner. -/
theorem segments_parse_map (keeps : KeepsBraces f) (text : String) :
    (parse (text.map f)).segments = (parse text).segments.map (Segment.map f) := by
  rw [segments_parse_eq_scan, segments_parse_eq_scan, String.toList_map]
  exact scan_map keeps [] text.toList

/-! ## Filling in -/

/-- **Characters may be replaced before a template is filled in or after it**, if the values of
variables agree to that. -/
theorem render_parse_map (keeps : KeepsBraces f) {value value' : String → String}
    (fill : ∀ name, value' (name.map f) = (value name).map f) (text : String) :
    (parse (text.map f)).render value' = ((parse text).render value).map f := by
  have segment : ∀ seg : Segment, (seg.map f).fill value' = (seg.fill value).map f := by
    intro seg
    cases seg with
    | literal text => rfl
    | placeholder name => exact fill name
  rw [render_eq, render_eq, segments_parse_map keeps, List.map_map, ← String.toList_inj]
  simp only [String.toList_join, String.toList_map, List.flatMap_map, List.map_flatMap,
    Function.comp_apply, segment]

end Replacement

/-- **What differs in two ways to fill in a template are the values of its variables.** -/
theorem forall₂_render {R : Char → Char → Prop} (same : ∀ c, R c c)
    {value value' : String → String}
    (fill : ∀ name, List.Forall₂ R (value name).toList (value' name).toList) (t : Template) :
    List.Forall₂ R (t.render value).toList (t.render value').toList := by
  have segment : ∀ seg : Segment,
      List.Forall₂ R (seg.fill value).toList (seg.fill value').toList := by
    intro seg
    cases seg with
    | literal text => exact List.forall₂_same.2 fun c _ => same c
    | placeholder name => exact fill name
  rw [render_eq, render_eq, String.toList_join, String.toList_join, List.flatMap_map,
    List.flatMap_map]
  induction t.segments with
  | nil => exact .nil
  | cons seg segments ih => exact List.rel_append (segment seg) ih

end Template

end EventGateway.Text
