import EventGateway.Proofs.Drafts
import EventGateway.Proofs.Lookup

/-!
# Parts of values

A part of a value stands at a place: the keys under which one gets to it from outside.  Parts may be
taken out, one after the other.  Parts at different keys have nothing to do with each other, so what
is left under a key is what was there without the parts at the places that begin with the key
(`withoutAll_object`).
-/

namespace EventGateway

/-- Changes the value under a key, or takes it out. -/
def Dict.alter {α : Type} (d : Dict α) (key : String) (f : α → Option α) : Dict α where
  entries := d.entries.filterMap fun entry =>
    if entry.1 = key then (f entry.2).map (entry.1, ·) else some entry
  ascending := by
    refine List.pairwise_map.2 (List.Pairwise.filterMap _ ?_ (List.pairwise_map.1 d.ascending))
    have keeps : ∀ (entry entry' : String × α),
        (if entry.1 = key then (f entry.2).map (entry.1, ·) else some entry) = some entry' →
        entry'.1 = entry.1 := by
      intro entry entry' eq
      split at eq
      · obtain ⟨value, -, rfl⟩ := Option.map_eq_some_iff.1 eq
        rfl
      · rw [Option.some.inj eq]
    intro a a' lt b hb b' hb'
    rw [keeps a b hb, keeps a' b' hb']
    exact lt

/-- Nothing is found under a key that no entry has. -/
theorem Dict.lookup_eq_none_iff {α : Type} {entries : List (String × α)} {key : String} :
    entries.lookup key = none ↔ key ∉ entries.map Prod.fst := by
  rw [List.lookup_eq_none_iff, List.mem_map]
  constructor
  · rintro apart ⟨entry, mem, eq⟩
    exact bne_iff_ne.1 (apart entry mem) eq.symm
  · exact fun absent entry mem => bne_iff_ne.2 fun eq => absent ⟨entry, mem, eq.symm⟩

/-- A change at one key is seen at this key only, in a list of entries. -/
theorem Dict.lookup_alter {α : Type} (key : String) (f : α → Option α) (k : String)
    {entries : List (String × α)} (nodup : (entries.map Prod.fst).Nodup) :
    (entries.filterMap fun entry =>
      if entry.1 = key then (f entry.2).map (entry.1, ·) else some entry).lookup k =
      if k = key then (entries.lookup k).bind f else entries.lookup k := by
  induction entries with
  | nil => simp
  | cons entry entries ih =>
    obtain ⟨k', value⟩ := entry
    obtain ⟨notMem, nodup⟩ := List.nodup_cons.1 nodup
    rw [List.filterMap_cons, lookup_entry_cons]
    by_cases here : k' = key
    · subst here
      -- The key does not come again, so it is found here or not at all.
      have later : entries.lookup k' = none := lookup_eq_none_iff.2 notMem
      rw [if_pos rfl]
      cases taken : f value with
      | none =>
        rw [Option.map_none, ih nodup]
        by_cases eq : k = k'
        · simp [eq, later, taken]
        · simp [eq]
      | some value' =>
        rw [Option.map_some, lookup_entry_cons, ih nodup]
        by_cases eq : k = k'
        · simp [eq, taken]
        · simp [eq]
    · rw [if_neg here, lookup_entry_cons, ih nodup]
      by_cases eq : k = k'
      · subst eq
        simp [here]
      · simp [eq]

/-- **A change at one key** is seen at this key only. -/
@[simp] theorem Dict.find?_alter {α : Type} (d : Dict α) (key : String) (f : α → Option α)
    (k : String) :
    (d.alter key f).find? k = if k = key then (d.find? k).bind f else d.find? k :=
  lookup_alter key f k d.nodup_keys

/-- A key is there if something is found at it. -/
theorem Dict.mem_keys_iff {α : Type} {d : Dict α} {key : String} :
    key ∈ d.keys ↔ (d.find? key).isSome := by
  constructor
  · intro mem
    obtain ⟨⟨k, value⟩, entry, rfl⟩ := List.mem_map.1 mem
    exact Option.isSome_of_eq_some (find?_of_mem entry)
  · intro some
    obtain ⟨value, found⟩ := Option.isSome_iff_exists.1 some
    exact List.mem_map_of_mem (mem_of_find? found)

namespace Value

/-- The part at a place. -/
def at? : (place : List String) → Value → Option Value
  | [], v => some v
  | key :: place, v => (v.members?.bind (·.find? key)).bind (at? place)

/-- A place inside an object leads through one of its members. -/
theorem at?_cons_eq_some {key : String} {place : List String} {v w : Value} :
    at? (key :: place) v = some w ↔ ∃ members part,
      v.members? = some members ∧ members.find? key = some part ∧ at? place part = some w := by
  rw [at?, Option.bind_eq_some_iff]
  simp only [Option.bind_eq_some_iff]
  exact ⟨fun ⟨part, ⟨members, object, found⟩, there⟩ => ⟨members, part, object, found, there⟩,
    fun ⟨members, part, object, found, there⟩ => ⟨part, ⟨members, object, found⟩, there⟩⟩

/-- The value without the part at a place, unless it is the part. -/
def without : (place : List String) → Value → Option Value
  | [], _ => none
  | key :: place, v =>
    match v.members? with
    | none => some v
    | some members => some (object (members.alter key (without place)))

/-- What is left without the parts at some places. -/
def withoutAll (v : Option Value) (places : List (List String)) : Option Value :=
  places.foldl (fun v place => v.bind (without place)) v

@[simp] theorem withoutAll_nil (v : Option Value) : withoutAll v [] = v := rfl

@[simp] theorem withoutAll_cons (v : Option Value) (place : List String)
    (places : List (List String)) :
    withoutAll v (place :: places) = withoutAll (v.bind (without place)) places := rfl

@[simp] theorem withoutAll_none (places : List (List String)) : withoutAll none places = none := by
  induction places with
  | nil => rfl
  | cons place places ih => exact ih

/-- An object is made of its members. -/
theorem eq_object_of_members? {v : Value} {members : Dict Value} (h : v.members? = some members) :
    v = object members := by
  obtain ⟨json, canonical⟩ := v
  cases json with
  | object written =>
    obtain rfl := Option.some.inj h
    exact ext (congrArg Json.object (map_json_ofMembers canonical.2).symm)
  | _ => cases h

/-- The places inside a key. -/
def inside (key : String) (places : List (List String)) : List (List String) :=
  places.filterMap fun
    | [] => none
    | k :: place => if k = key then some place else none

/-- A place is inside a member if it starts with its key. -/
theorem inside_cons_cons (key k : String) (place : List String) (places : List (List String)) :
    inside key ((k :: place) :: places) =
      if k = key then place :: inside key places else inside key places := by
  by_cases eq : k = key <;> simp [inside, eq]

/-- Places inside a member, list by list. -/
theorem inside_append (key : String) (places places' : List (List String)) :
    inside key (places ++ places') = inside key places ++ inside key places' :=
  List.filterMap_append

/-- Places that begin with another key are not inside. -/
theorem inside_eq_nil {key k : String} {places : List (List String)}
    (h : ∀ place ∈ places, ∃ rest, place = k :: rest) (ne : k ≠ key) : inside key places = [] := by
  refine List.filterMap_eq_nil_iff.2 fun place mem => ?_
  obtain ⟨rest, rfl⟩ := h place mem
  exact if_neg ne

/-- **Parts at different keys** have nothing to do with each other. -/
theorem withoutAll_object (members : Dict Value) {places : List (List String)}
    (proper : [] ∉ places) :
    ∃ left : Dict Value, withoutAll (some (object members)) places = some (object left) ∧
      ∀ key, left.find? key = withoutAll (members.find? key) (inside key places) := by
  induction places generalizing members with
  | nil => exact ⟨members, rfl, fun key => rfl⟩
  | cons place places ih =>
    rw [List.mem_cons, not_or] at proper
    obtain ⟨nonempty, proper⟩ := proper
    cases place with
    | nil => exact absurd rfl nonempty
    | cons k place =>
      obtain ⟨left, eq, found⟩ := ih (members.alter k (without place)) proper
      have first : (some (object members)).bind (without (k :: place)) =
          some (object (members.alter k (without place))) := by
        simp only [Option.bind_some, without, members?_object]
      refine ⟨left, by rw [withoutAll_cons, first, eq], fun key => ?_⟩
      rw [found, Dict.find?_alter, inside_cons_cons]
      by_cases here : key = k
      · rw [if_pos here, if_pos here.symm, withoutAll_cons]
      · rw [if_neg here, if_neg (Ne.symm here)]

/-- What is left under each key without the members under some keys. -/
theorem withoutAll_keys (members : Dict Value) (keys : List String) :
    ∃ left : Dict Value,
      withoutAll (some (object members)) (keys.map fun key => [key]) = some (object left) ∧
      ∀ key, left.find? key = if key ∈ keys then none else members.find? key := by
  have proper : [] ∉ keys.map fun key => [key] := by simp
  obtain ⟨left, eq, found⟩ := withoutAll_object members proper
  refine ⟨left, eq, fun key => ?_⟩
  rw [found]
  clear eq found
  -- A member is taken out whole, so it does not matter how often.
  induction keys with
  | nil => rfl
  | cons k keys ih =>
    rw [List.map_cons, inside_cons_cons]
    by_cases here : k = key
    · cases members.find? key <;> simp [here, without]
    · simp [here, Ne.symm here, ih]

end Value

end EventGateway
