/-!
# Cutting a text at a separator

`splitOnce` cuts a text at the first place where a separator stands.  What comes before, the
separator and what comes after give the text back.
-/

namespace EventGateway.Text

/-- The text after `start`, if the text begins with it. -/
def dropPrefix? : (start : List Char) → List Char → Option (List Char)
  | [], s => some s
  | _ :: _, [] => none
  | p :: ps, c :: cs => if p = c then dropPrefix? ps cs else none

/-- A prefix in front of a text is dropped. -/
theorem dropPrefix?_append (p s : List Char) : dropPrefix? p (p ++ s) = some s := by
  induction p with
  | nil => rfl
  | cons c cs ih => simp [dropPrefix?, ih]

/-- What is left after dropping a prefix is what follows it. -/
theorem append_of_dropPrefix? {p s r : List Char} (h : dropPrefix? p s = some r) : p ++ r = s := by
  induction p generalizing s with
  | nil => simpa [dropPrefix?] using h.symm
  | cons c cs ih =>
    cases s with
    | nil => simp [dropPrefix?] at h
    | cons d ds =>
      by_cases hc : c = d
      · subst hc
        simp only [dropPrefix?, if_pos] at h
        simp [ih h]
      · simp [dropPrefix?, hc] at h

/-- What stands before and after the first occurrence of `separator`, if there is one. -/
def splitOnce (separator : List Char) : List Char → Option (List Char × List Char)
  | [] => (dropPrefix? separator []).map fun rest => ([], rest)
  | c :: cs =>
    match dropPrefix? separator (c :: cs) with
    | some rest => some ([], rest)
    | none => (splitOnce separator cs).map fun (before, after) => (c :: before, after)

/-- The parts of a cut, with the separator between them, are the text. -/
theorem append_of_splitOnce {p s b a : List Char} (h : splitOnce p s = some (b, a)) :
    b ++ p ++ a = s := by
  induction s generalizing b with
  | nil =>
    obtain ⟨rest, hr, he⟩ := Option.map_eq_some_iff.1 h
    obtain ⟨rfl, rfl⟩ := Prod.mk.inj he
    simpa using append_of_dropPrefix? hr
  | cons c cs ih =>
    simp only [splitOnce] at h
    split at h
    next rest hr =>
      obtain ⟨rfl, rfl⟩ := Prod.mk.inj (Option.some.inj h)
      simpa using append_of_dropPrefix? hr
    next hn =>
      obtain ⟨⟨b', a'⟩, hs, he⟩ := Option.map_eq_some_iff.1 h
      obtain ⟨rfl, rfl⟩ := Prod.mk.inj he
      simpa using ih hs

end EventGateway.Text
