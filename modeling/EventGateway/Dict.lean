/-!
# Dictionaries

A dictionary holds values under texts, in ascending order of the texts.  The order is part of the
type, so two dictionaries with the same look-ups are equal, and whatever walks through one visits
its keys in ascending order.  Texts are compared code point by code point, which is also the order
of their bytes in UTF-8.
-/

namespace EventGateway

/-- Values under texts, ascending. -/
structure Dict (α : Type) where
  entries : List (String × α)
  ascending : (entries.map Prod.fst).Pairwise (· < ·) := by simp

namespace Dict

variable {α β : Type}

theorem ext {d e : Dict α} (h : d.entries = e.entries) : d = e := by
  cases d; cases e; cases h; rfl

/-- The dictionary without entries. -/
def empty : Dict α := ⟨[], by simp⟩

instance : EmptyCollection (Dict α) := ⟨empty⟩

instance : Inhabited (Dict α) := ⟨empty⟩

/-- The keys, ascending. -/
def keys (d : Dict α) : List String :=
  d.entries.map Prod.fst

/-- The values, in the order of their keys. -/
def values (d : Dict α) : List α :=
  d.entries.map Prod.snd

/-- How many entries there are. -/
def size (d : Dict α) : Nat :=
  d.entries.length

/-- Whether there are no entries. -/
def isEmpty (d : Dict α) : Bool :=
  d.entries.isEmpty

/-- The value under a key. -/
def find? (d : Dict α) (key : String) : Option α :=
  d.entries.lookup key

/-- Whether there is an entry for a key. -/
def contains (d : Dict α) (key : String) : Bool :=
  (d.find? key).isSome

/-- Puts an entry at its place in an ascending list, in the place of one with the same key. -/
def insertEntry (key : String) (value : α) : List (String × α) → List (String × α)
  | [] => [(key, value)]
  | entry :: rest =>
    if key < entry.1 then (key, value) :: entry :: rest
    else if key = entry.1 then (key, value) :: rest
    else entry :: insertEntry key value rest

/-- A key after an insertion was there before, or it is the one that is inserted. -/
theorem fst_mem_of_mem_insertEntry {key k : String} {value : α} {entries : List (String × α)}
    (h : k ∈ (insertEntry key value entries).map Prod.fst) :
    k = key ∨ k ∈ entries.map Prod.fst := by
  induction entries with
  | nil => exact .inl (List.mem_singleton.1 h)
  | cons entry rest ih =>
    rw [insertEntry] at h
    rw [List.map_cons, List.mem_cons]
    split at h
    · rw [List.map_cons, List.map_cons, List.mem_cons, List.mem_cons] at h
      exact h
    · split at h <;> rw [List.map_cons, List.mem_cons] at h
      · exact h.imp_right .inr
      · rcases h with h | h
        · exact .inr (.inl h)
        · exact (ih h).imp_right .inr

/-- Inserting an entry keeps the keys in order. -/
theorem insertEntry_ascending (key : String) (value : α) {entries : List (String × α)}
    (h : (entries.map Prod.fst).Pairwise (· < ·)) :
    ((insertEntry key value entries).map Prod.fst).Pairwise (· < ·) := by
  induction entries with
  | nil => simp [insertEntry]
  | cons entry rest ih =>
    obtain ⟨above, tail⟩ := List.pairwise_cons.1 h
    simp only [insertEntry]
    split
    next lt =>
      refine List.pairwise_cons.2 ⟨fun k hk => ?_, h⟩
      rcases List.mem_cons.1 hk with rfl | hk
      · exact lt
      · exact String.lt_trans lt (above k hk)
    next notLt =>
      split
      next eq => exact List.pairwise_cons.2 ⟨fun k hk => eq ▸ above k hk, tail⟩
      next ne =>
        refine List.pairwise_cons.2 ⟨fun k hk => ?_, ih tail⟩
        rcases fst_mem_of_mem_insertEntry hk with rfl | hk
        · exact Classical.byContradiction fun notGt =>
            ne (String.le_antisymm (String.not_lt.1 notGt) (String.not_lt.1 notLt))
        · exact above k hk

/-- The dictionary with `value` under `key`; a value that stood there before is given up. -/
def insert (d : Dict α) (key : String) (value : α) : Dict α :=
  ⟨insertEntry key value d.entries, insertEntry_ascending key value d.ascending⟩

/-- `insert` for a value that may be missing. -/
def insert? (d : Dict α) (key : String) (value : Option α) : Dict α :=
  match value with
  | some value => d.insert key value
  | none => d

/-- The dictionary of some pairs; of two with the same key the later one counts. -/
def ofList (pairs : List (String × α)) : Dict α :=
  pairs.foldl (fun d pair => d.insert pair.1 pair.2) empty

/-- Changes the values and keeps the keys. -/
def map (f : α → β) (d : Dict α) : Dict β where
  entries := d.entries.map fun (key, value) => (key, f value)
  ascending := by simpa [Function.comp_def] using d.ascending

/-- Changing the values keeps the keys. -/
theorem keys_map (f : α → β) (d : Dict α) : (d.map f).keys = d.keys := by
  simp [keys, map, Function.comp_def]

end Dict

end EventGateway
