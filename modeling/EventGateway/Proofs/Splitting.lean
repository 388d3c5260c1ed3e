import EventGateway.Text.Split
import Mathlib.Data.List.Infix

/-!
# The first occurrence of a separator

A text is cut at the first place where the separator stands.  So a text in which it does not stand
is not cut, and a text that is put together around it is cut there if it does not stand in the part
before.  The latter needs that no two occurrences of the separator overlap, which is so if its first
character does not occur in it again (`splitOnce_of_not_infix`).
-/

namespace EventGateway.Text

/-- A text without the separator is not cut. -/
theorem splitOnce_eq_none {separator s : List Char} (h : ¬ separator <:+: s) :
    splitOnce separator s = none := by
  cases found : splitOnce separator s with
  | none => rfl
  | some parts => exact absurd ⟨parts.1, parts.2, append_of_splitOnce found⟩ h

/-- A separator at the start leaves nothing before it. -/
theorem splitOnce_of_dropPrefix? {separator s rest : List Char}
    (h : dropPrefix? separator s = some rest) : splitOnce separator s = some ([], rest) := by
  cases s with
  | nil => rw [splitOnce, h]; rfl
  | cons c s => rw [splitOnce, h]

/-- **A text is cut behind a part in which the separator does not occur.** -/
theorem splitOnce_of_not_infix {c : Char} {separator : List Char} (single : c ∉ separator)
    {w : List Char} (h : ¬ c :: separator <:+: w) (s : List Char) :
    splitOnce (c :: separator) (w ++ (c :: separator ++ s)) = some (w, s) := by
  induction w with
  | nil => exact splitOnce_of_dropPrefix? (dropPrefix?_append (c :: separator) s)
  | cons d w ih =>
    have later : ¬ c :: separator <:+: w := fun inside => h (List.infix_cons inside)
    -- An occurrence at the start would end inside the part, or reach the separator behind it.
    have here : dropPrefix? (c :: separator) (d :: w ++ (c :: separator ++ s)) = none := by
      by_contra found
      obtain ⟨rest, found⟩ := Option.ne_none_iff_exists'.1 found
      have whole := append_of_dropPrefix? found
      rw [List.cons_append, List.cons_append] at whole
      obtain ⟨rfl, tail⟩ := List.cons_eq_cons.1 whole
      rcases List.append_eq_append_iff.1 tail with ⟨more, eq, -⟩ | ⟨more, eq, behind⟩
      · exact h ⟨[], more, by simp [eq]⟩
      · cases more with
        | nil => exact h ⟨[], [], by simp [eq]⟩
        | cons e more =>
          obtain ⟨rfl, -⟩ := List.cons_eq_cons.1 behind
          exact single (eq ▸ by simp)
    rw [List.cons_append, splitOnce]
    rw [List.cons_append] at here
    rw [here, ih later]
    rfl

/-- A text is cut at the first occurrence of a character. -/
theorem splitOnce_of_notMem {c : Char} {w : List Char} (h : c ∉ w) (s : List Char) :
    splitOnce [c] (w ++ c :: s) = some (w, s) :=
  splitOnce_of_not_infix List.not_mem_nil
    (fun inside => h ((List.singleton_infix_iff _ _).1 inside)) s

/-- A text that contains the separator is a first occurrence of it and what stands around. -/
theorem exists_first_infix {separator s : List Char} (nonempty : separator ≠ [])
    (h : separator <:+: s) :
    ∃ before rest, s = before ++ (separator ++ rest) ∧ ¬ separator <:+: before := by
  induction s with
  | nil => exact absurd (List.infix_nil.1 h) nonempty
  | cons c s ih =>
    by_cases start : separator <+: c :: s
    · obtain ⟨rest, eq⟩ := start
      exact ⟨[], rest, eq.symm, fun inside => nonempty (List.infix_nil.1 inside)⟩
    · obtain ⟨before, rest, rfl, first⟩ := ih ((List.infix_cons_iff.1 h).resolve_left start)
      refine ⟨c :: before, rest, rfl, fun inside => ?_⟩
      rcases List.infix_cons_iff.1 inside with here | later
      · exact start (here.trans (List.prefix_append (c :: before) _))
      · exact first later

/-- A text that contains the separator is cut, and what follows an occurrence of it stays at the
end. -/
theorem exists_splitOnce (separator w s : List Char) :
    ∃ b a, splitOnce separator (w ++ (separator ++ s)) = some (b, a) ∧ s <:+ a := by
  induction w with
  | nil =>
    exact ⟨[], s, splitOnce_of_dropPrefix? (dropPrefix?_append separator s), List.suffix_rfl⟩
  | cons c w ih =>
    cases here : dropPrefix? separator (c :: w ++ (separator ++ s)) with
    | some rest =>
      have whole : separator ++ rest = (c :: w ++ separator) ++ s := by
        rw [append_of_dropPrefix? here, List.append_assoc]
      have shorter : s.length ≤ rest.length := by
        have lengths := congrArg List.length whole
        simp only [List.length_append, List.length_cons] at lengths
        omega
      refine ⟨[], rest, splitOnce_of_dropPrefix? here, ?_⟩
      exact List.suffix_of_suffix_length_le ⟨_, whole.symm⟩ ⟨_, rfl⟩ shorter
    | none =>
      obtain ⟨b, a, found, suffix⟩ := ih
      rw [List.cons_append] at here
      refine ⟨c :: b, a, ?_, suffix⟩
      rw [List.cons_append, splitOnce, here, found]
      rfl

end EventGateway.Text
