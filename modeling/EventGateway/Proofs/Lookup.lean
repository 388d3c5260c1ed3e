import EventGateway.Dict
import Mathlib.Data.String.Basic

/-!
# Look-ups in dictionaries

A look-up after an insertion, and look-ups against membership.  Keys ascend, so an entry is found as
soon as it is there.
-/

namespace EventGateway.Dict

variable {α : Type}

/-- Looking up a key in a list with one more entry in front. -/
theorem lookup_entry_cons (k k' : String) (value : α) (rest : List (String × α)) :
    ((k', value) :: rest).lookup k = if k = k' then some value else rest.lookup k := by
  rw [List.lookup_cons]
  by_cases eq : k = k'
  · simp [eq]
  · rw [beq_eq_false_iff_ne.2 eq, if_neg eq]

/-- An insertion is seen at its own key only. -/
theorem lookup_insertEntry (key k : String) (value : α) (entries : List (String × α)) :
    (insertEntry key value entries).lookup k =
      if k = key then some value else entries.lookup k := by
  induction entries with
  | nil => exact lookup_entry_cons k key value []
  | cons entry rest ih =>
    obtain ⟨k', v'⟩ := entry
    rw [insertEntry]
    by_cases lt : key < k'
    · rw [if_pos lt, lookup_entry_cons]
    · rw [if_neg lt]
      by_cases same : key = k'
      · rw [if_pos same, lookup_entry_cons, lookup_entry_cons, ← same]
        by_cases eq : k = key
        · rw [if_pos eq, if_pos eq]
        · rw [if_neg eq, if_neg eq, if_neg eq]
      · rw [if_neg same, lookup_entry_cons, lookup_entry_cons, ih]
        by_cases eq : k = k'
        · have ne : k ≠ key := fun h => same (h.symm.trans eq)
          rw [if_pos eq, if_neg ne, if_pos eq]
        · rw [if_neg eq, if_neg eq]

/-- **A look-up after an insertion** finds the new value under its key and the old ones
elsewhere. -/
@[simp] theorem find?_insert (d : Dict α) (key k : String) (value : α) :
    (d.insert key value).find? k = if k = key then some value else d.find? k :=
  lookup_insertEntry key k value d.entries

/-- An insertion of something that may be missing is seen at its own key only. -/
theorem find?_insert? (d : Dict α) (key k : String) (value : Option α) :
    (d.insert? key value).find? k = if k = key then value.or (d.find? k) else d.find? k := by
  cases value with
  | none => simp [insert?]
  | some value => by_cases eq : k = key <;> simp [insert?, eq]

/-- No two entries have the same key. -/
theorem nodup_keys (d : Dict α) : d.keys.Nodup := by
  refine List.Pairwise.imp (S := (· ≠ ·)) ?_ d.ascending
  rintro k _ lt rfl
  exact String.lt_irrefl k lt

/-- If no key occurs twice, every entry is found. -/
theorem lookup_of_mem {entries : List (String × α)} (nodup : (entries.map Prod.fst).Nodup)
    {k : String} {a : α} (mem : (k, a) ∈ entries) : entries.lookup k = some a := by
  induction entries with
  | nil => cases mem
  | cons entry rest ih =>
    obtain ⟨k', a'⟩ := entry
    obtain ⟨notMem, nodup⟩ := List.nodup_cons.1 nodup
    rw [lookup_entry_cons]
    rcases List.mem_cons.1 mem with eq | later
    · obtain ⟨rfl, rfl⟩ := Prod.mk.inj eq
      rw [if_pos rfl]
    · have ne : k ≠ k' := by
        rintro rfl
        exact notMem (List.mem_map.2 ⟨_, later, rfl⟩)
      rw [if_neg ne]
      exact ih nodup later

/-- An entry of a dictionary is what is found under its key. -/
theorem find?_of_mem {d : Dict α} {k : String} {a : α} (mem : (k, a) ∈ d.entries) :
    d.find? k = some a :=
  lookup_of_mem d.nodup_keys mem

/-- What is found is an entry. -/
theorem mem_of_lookup {κ : Type} [BEq κ] [LawfulBEq κ] {entries : List (κ × α)} {k : κ} {a : α}
    (h : entries.lookup k = some a) : (k, a) ∈ entries := by
  obtain ⟨before, after, split, -⟩ := List.lookup_eq_some_iff.1 h
  rw [split]
  exact List.mem_append_right _ List.mem_cons_self

/-- What is found under a key is an entry of the dictionary. -/
theorem mem_of_find? {d : Dict α} {k : String} {a : α} (h : d.find? k = some a) :
    (k, a) ∈ d.entries :=
  mem_of_lookup h

end EventGateway.Dict
