import EventGateway.Compile.Context
import Mathlib.Data.List.Induction
import Mathlib.Data.List.Nodup

/-!
# Registries keep the first of each key

Properties, imports and methods are registered one after the other, and a registry keeps what comes
first under a key.  `firstOfEach` says this without a registry: from a list it takes the items whose
key has not come before.  A whole run of registrations adds exactly these items
(`foldl_register`), so everything that is to be known about a registry is a fact about
`firstOfEach`.

## Main statements

* `firstOfEach_append` — a run of two lists is the run of the first, then the run of the second
  after the keys of the first.
* `firstOfEach_flatMap_firstOfEach` — taking the first items early changes nothing later.
* `filter_firstOfEach` — under a key stands the first item of that key.
* `foldl_register` — a run of registrations adds the first item of each new key.
* `registries_keep_first` — what the registries of properties and of imports hold after any
  registrations.
-/

namespace EventGateway

section FirstOfEach

variable {α β : Type} (key : α → String)

/-- The items whose key is neither in `seen` nor that of an earlier item, in order. -/
def firstOfEach (seen : List String) : List α → List α
  | [] => []
  | a :: as =>
    if key a ∈ seen then firstOfEach seen as else a :: firstOfEach (key a :: seen) as

@[simp] theorem firstOfEach_nil (seen : List String) : firstOfEach key seen [] = [] := rfl

/-- An item whose key has been seen is left out. -/
theorem firstOfEach_cons_of_mem {seen : List String} {a : α} (h : key a ∈ seen) (as : List α) :
    firstOfEach key seen (a :: as) = firstOfEach key seen as := if_pos h

/-- An item with a new key is kept, and its key is seen from then on. -/
theorem firstOfEach_cons_of_notMem {seen : List String} {a : α} (h : key a ∉ seen)
    (as : List α) :
    firstOfEach key seen (a :: as) = a :: firstOfEach key (key a :: seen) as := if_neg h

/-- Only the set of the keys seen matters, and only as far as the list has these keys. -/
theorem firstOfEach_congr {seen seen' : List String} {as : List α}
    (h : ∀ a ∈ as, key a ∈ seen ↔ key a ∈ seen') :
    firstOfEach key seen as = firstOfEach key seen' as := by
  induction as generalizing seen seen' with
  | nil => rfl
  | cons a as ih =>
    have head := h a List.mem_cons_self
    have tail : ∀ b ∈ as, key b ∈ seen ↔ key b ∈ seen' :=
      fun b mem => h b (List.mem_cons_of_mem _ mem)
    by_cases old : key a ∈ seen
    · rw [firstOfEach_cons_of_mem key old, firstOfEach_cons_of_mem key (head.1 old), ih tail]
    · have new : key a ∉ seen' := fun mem => old (head.2 mem)
      rw [firstOfEach_cons_of_notMem key old, firstOfEach_cons_of_notMem key new, ih]
      intro b mem
      rw [List.mem_cons, List.mem_cons, tail b mem]

/-- Keys that the list does not have may be forgotten. -/
theorem firstOfEach_eq_of_disjoint {seen : List String} {as : List α}
    (h : ∀ a ∈ as, key a ∉ seen) : firstOfEach key seen as = firstOfEach key [] as :=
  firstOfEach_congr key fun a mem => iff_of_false (h a mem) List.not_mem_nil

/-- The keys of the first items are all keys of the list that have not been seen. -/
theorem mem_keys_firstOfEach {seen : List String} {as : List α} {k : String} :
    k ∈ (firstOfEach key seen as).map key ↔ k ∈ as.map key ∧ k ∉ seen := by
  induction as generalizing seen with
  | nil => simp
  | cons a as ih =>
    by_cases old : key a ∈ seen
    · rw [firstOfEach_cons_of_mem key old, ih, List.map_cons, List.mem_cons]
      refine ⟨fun ⟨mem, new⟩ => ⟨.inr mem, new⟩, ?_⟩
      rintro ⟨rfl | mem, new⟩
      · exact absurd old new
      · exact ⟨mem, new⟩
    · rw [firstOfEach_cons_of_notMem key old, List.map_cons, List.map_cons, List.mem_cons,
        List.mem_cons, ih, List.mem_cons]
      by_cases eq : k = key a
      · simp [eq, old]
      · simp [eq]

/-- No two of the first items have the same key. -/
theorem nodup_keys_firstOfEach (seen : List String) (as : List α) :
    ((firstOfEach key seen as).map key).Nodup := by
  induction as generalizing seen with
  | nil => simp
  | cons a as ih =>
    by_cases old : key a ∈ seen
    · rw [firstOfEach_cons_of_mem key old]
      exact ih seen
    · rw [firstOfEach_cons_of_notMem key old, List.map_cons, List.nodup_cons]
      refine ⟨fun mem => ?_, ih _⟩
      exact ((mem_keys_firstOfEach key).1 mem).2 List.mem_cons_self

/-- Adding the first items behind others keeps the keys apart. -/
theorem nodup_keys_append_firstOfEach {as : List α} (nodup : (as.map key).Nodup) (bs : List α) :
    ((as ++ firstOfEach key (as.map key) bs).map key).Nodup := by
  rw [List.map_append]
  refine nodup.append (nodup_keys_firstOfEach key _ _) fun k old new => ?_
  exact ((mem_keys_firstOfEach key).1 new).2 old

/-- **A run of two lists.**  What the second list adds depends on the first one only by the keys
that are taken. -/
theorem firstOfEach_append (seen : List String) (as bs : List α) :
    firstOfEach key seen (as ++ bs) =
      firstOfEach key seen as ++ firstOfEach key (as.map key ++ seen) bs := by
  induction as generalizing seen with
  | nil => rfl
  | cons a as ih =>
    rw [List.cons_append]
    by_cases old : key a ∈ seen
    · rw [firstOfEach_cons_of_mem key old, firstOfEach_cons_of_mem key old, ih]
      congr 1
      refine firstOfEach_congr key fun b _ => ?_
      simp only [List.map_cons, List.cons_append, List.mem_cons, List.mem_append]
      refine ⟨.inr, ?_⟩
      rintro (eq | mem)
      · exact .inr (eq ▸ old)
      · exact mem
    · rw [firstOfEach_cons_of_notMem key old, firstOfEach_cons_of_notMem key old, ih,
        List.cons_append]
      congr 2
      refine firstOfEach_congr key fun b _ => ?_
      simp only [List.map_cons, List.cons_append, List.mem_cons, List.mem_append]
      tauto

/-- A list without repeated keys, none of which has been seen, is taken whole. -/
theorem firstOfEach_eq_self {seen : List String} {as : List α} (nodup : (as.map key).Nodup)
    (new : ∀ a ∈ as, key a ∉ seen) : firstOfEach key seen as = as := by
  induction as generalizing seen with
  | nil => rfl
  | cons a as ih =>
    obtain ⟨notMem, nodup⟩ := List.nodup_cons.1 nodup
    rw [firstOfEach_cons_of_notMem key (new a List.mem_cons_self), ih nodup]
    intro b mem
    rw [List.mem_cons, not_or]
    exact ⟨fun eq => notMem (eq ▸ List.mem_map_of_mem mem), new b (List.mem_cons_of_mem _ mem)⟩

/-- Taking the first items twice is taking them once. -/
theorem firstOfEach_firstOfEach (seen : List String) (as : List α) :
    firstOfEach key seen (firstOfEach key [] as) = firstOfEach key seen as := by
  induction as using List.reverseRecOn with
  | nil => rfl
  | append_singleton as a ih =>
    rw [firstOfEach_append, firstOfEach_append, firstOfEach_append, ih]
    congr 1
    by_cases old : key a ∈ as.map key
    · have here : key a ∈ as.map key ++ [] := by simpa using old
      rw [firstOfEach_cons_of_mem key here, firstOfEach_nil, firstOfEach_nil,
        firstOfEach_cons_of_mem key (List.mem_append_left _ old), firstOfEach_nil]
    · have here : key a ∉ as.map key ++ [] := by simpa using old
      rw [firstOfEach_cons_of_notMem key here, firstOfEach_nil]
      refine firstOfEach_congr key fun b mem => ?_
      obtain rfl := List.mem_singleton.1 mem
      rw [List.mem_append, List.mem_append, mem_keys_firstOfEach]
      simp

/-- **Early selection is harmless.**  The first items of several lists in a row are those of the
first items of each. -/
theorem firstOfEach_flatMap_firstOfEach (seen : List String) (bs : List β) (f : β → List α) :
    firstOfEach key seen (bs.flatMap fun b => firstOfEach key [] (f b)) =
      firstOfEach key seen (bs.flatMap f) := by
  induction bs generalizing seen with
  | nil => rfl
  | cons b bs ih =>
    rw [List.flatMap_cons, List.flatMap_cons, firstOfEach_append, firstOfEach_append, ih,
      firstOfEach_firstOfEach]
    congr 1
    refine firstOfEach_congr key fun a _ => ?_
    rw [List.mem_append, List.mem_append, mem_keys_firstOfEach]
    simp

/-- Lists whose keys are apart from each other keep all their first items. -/
theorem firstOfEach_flatMap_of_disjoint {bs : List β} {f : β → List α}
    (apart : bs.Pairwise fun b b' => ∀ a ∈ f b, ∀ a' ∈ f b', key a ≠ key a') :
    firstOfEach key [] (bs.flatMap f) = bs.flatMap fun b => firstOfEach key [] (f b) := by
  induction bs with
  | nil => rfl
  | cons b bs ih =>
    obtain ⟨head, tail⟩ := List.pairwise_cons.1 apart
    have new : ∀ a ∈ bs.flatMap f, key a ∉ (f b).map key ++ [] := by
      intro a mem seen
      obtain ⟨b', mem', ha⟩ := List.mem_flatMap.1 mem
      obtain ⟨a', ha', eq⟩ := List.mem_map.1 (by simpa using seen)
      exact head b' mem' a' ha' a ha eq
    rw [List.flatMap_cons, List.flatMap_cons, firstOfEach_append, ← ih tail,
      firstOfEach_eq_of_disjoint key new]

/-- **What stands under a key** is the first item of that key. -/
theorem filter_firstOfEach (k : String) (as : List α) :
    (firstOfEach key [] as).filter (key · == k) = (as.find? (key · == k)).toList := by
  -- The keys seen grow along the list; all that matters about them is that `k` is not there.
  suffices h : ∀ seen : List String, k ∉ seen →
      (firstOfEach key seen as).filter (key · == k) = (as.find? (key · == k)).toList from
    h [] List.not_mem_nil
  induction as with
  | nil => intro seen _; rfl
  | cons a as ih =>
    intro seen new
    by_cases eq : key a = k
    · have noMore : (firstOfEach key (key a :: seen) as).filter (key · == k) = [] := by
        refine List.filter_eq_nil_iff.2 fun b mem => ?_
        have := ((mem_keys_firstOfEach key).1 (List.mem_map_of_mem mem)).2
        rw [List.mem_cons, not_or, eq] at this
        simpa using this.1
      rw [firstOfEach_cons_of_notMem key (eq ▸ new), List.filter_cons_of_pos (by simpa using eq),
        noMore, List.find?_cons_of_pos (by simpa using eq)]
      rfl
    · rw [List.find?_cons_of_neg (by simpa using eq)]
      by_cases old : key a ∈ seen
      · rw [firstOfEach_cons_of_mem key old, ih seen new]
      · rw [firstOfEach_cons_of_notMem key old, List.filter_cons_of_neg (by simpa using eq), ih]
        simpa [Ne.symm eq] using new

/-- The first item of a key is found as before. -/
theorem find?_firstOfEach (k : String) (as : List α) :
    (firstOfEach key [] as).find? (key · == k) = as.find? (key · == k) := by
  rw [← List.head?_filter, filter_firstOfEach]
  cases as.find? (key · == k) <;> rfl

/-- Items are left out, and the others keep their order. -/
theorem firstOfEach_sublist (seen : List String) (as : List α) :
    (firstOfEach key seen as).Sublist as := by
  induction as generalizing seen with
  | nil => exact List.Sublist.refl []
  | cons a as ih =>
    rw [firstOfEach]
    split
    · exact (ih seen).cons a
    · exact (ih (key a :: seen)).cons_cons a

end FirstOfEach

/-! ## Runs of registrations -/

/-- **A run of registrations** adds the first item of each new key, if one registration adds an item
whose key is not there yet and nothing else. -/
theorem foldl_register {σ α : Type} {key : α → String} (items : σ → List α) {register : σ → α → σ}
    (step : ∀ r a, items (register r a) =
      if key a ∈ (items r).map key then items r else items r ++ [a])
    (r : σ) (as : List α) :
    items (as.foldl register r) = items r ++ firstOfEach key ((items r).map key) as := by
  induction as generalizing r with
  | nil => simp
  | cons a as ih =>
    rw [List.foldl_cons, ih, step]
    by_cases taken : key a ∈ (items r).map key
    · rw [if_pos taken, firstOfEach_cons_of_mem key taken]
    · rw [if_neg taken, firstOfEach_cons_of_notMem key taken, List.append_assoc,
        List.singleton_append]
      congr 2
      -- The registry has the new key behind the others, the run has it in front of them.
      refine firstOfEach_congr key fun b _ => ?_
      simp [or_comm]

open Flogo (Property)

/-! ### Agreement -/

namespace Json

mutual

theorem same_refl : ∀ v : Json, v.same v = true
  | null => rfl
  | bool b => beq_self_eq_true b
  | number (.integer n) => beq_self_eq_true n
  | number (.float bits) => by
    show (bits == bits || (Number.isFloatZero bits && Number.isFloatZero bits)) = true
    rw [beq_self_eq_true, Bool.true_or]
  | text s => beq_self_eq_true s
  | list items => sameItems_refl items
  | object members => sameMembers_refl members

theorem sameItems_refl : ∀ items : List Json, sameItems items items = true
  | [] => rfl
  | v :: items => by rw [sameItems, same_refl v, sameItems_refl items]; rfl

theorem sameMembers_refl : ∀ members : List (String × Json), sameMembers members members = true
  | [] => rfl
  | (k, v) :: members => by
    rw [sameMembers, same_refl v, sameMembers_refl members, beq_self_eq_true]
    rfl

end

end Json

theorem Flogo.Property.agrees_refl (p : Property) : p.agrees p = true := by
  unfold agrees Value.same
  rw [Json.same_refl, beq_self_eq_true]
  rfl

namespace PropertyRegistry

/-- What is not found is not there. -/
theorem find?_eq_none_iff {r : PropertyRegistry} {name : String} :
    r.find? name = none ↔ name ∉ r.properties.map Property.name := by
  simp [find?, List.find?_eq_none]

/-- A property is added at the end, unless its name is taken. -/
theorem properties_insert (r : PropertyRegistry) (p : Property) :
    (r.insert p).properties =
      if p.name ∈ r.properties.map Property.name then r.properties else r.properties ++ [p] := by
  unfold insert register
  cases h : r.find? p.name with
  | none => rw [if_neg (find?_eq_none_iff.1 h)]
  | some kept =>
    have taken : p.name ∈ r.properties.map Property.name := by
      by_contra new
      rw [find?_eq_none_iff.2 new] at h
      cases h
    -- A second property that disagrees is a conflict, but the list of properties is the same.
    rw [if_pos taken]
    by_cases agree : kept.agrees p <;> simp [agree]

/-- **After many registrations** there is the first property of each name. -/
theorem properties_registerAll (r : PropertyRegistry) (ps : List Property) :
    (ps.foldl insert r).properties =
      r.properties ++ firstOfEach Property.name (r.properties.map Property.name) ps :=
  foldl_register properties properties_insert r ps

/-! ### Conflicts -/

/-- What is found under a name stays. -/
theorem find?_insert_of_some {r : PropertyRegistry} {name : String} {kept : Property}
    (h : r.find? name = some kept) (p : Property) : (r.insert p).find? name = some kept := by
  have old : (r.properties ++ [p]).find? (·.name == name) = some kept := by
    rw [List.find?_append, show r.properties.find? (·.name == name) = some kept from h]
    rfl
  unfold insert register
  split
  · exact old
  · split <;> exact h

/-- A property that is there stays. -/
theorem find?_registerAll_of_some {r : PropertyRegistry} {name : String} {kept : Property}
    (h : r.find? name = some kept) (ps : List Property) :
    (ps.foldl insert r).find? name = some kept := by
  induction ps generalizing r with
  | nil => exact h
  | cons p ps ih => exact ih (find?_insert_of_some h p)

/-- What stands under the name of a property that has just been registered. -/
theorem exists_find?_insert (r : PropertyRegistry) (p : Property) :
    ∃ kept, (r.insert p).find? p.name = some kept ∧ (kept = p ∨ r.find? p.name = some kept) := by
  cases found : r.find? p.name with
  | none =>
    have absent : r.properties.find? (·.name == p.name) = none := found
    refine ⟨p, ?_, .inl rfl⟩
    simp [insert, register, find?, absent]
  | some kept => exact ⟨kept, find?_insert_of_some found p, .inr rfl⟩

/-- The conflict of a property with the one that is kept, unless they agree. -/
def conflict? (kept p : Property) : Option Conflict :=
  if kept.agrees p then none else some ⟨p.name, kept.value, p.value⟩

/-- The conflict of a property with what stands under its name. -/
def conflictIn? (r : PropertyRegistry) (p : Property) : Option Conflict :=
  (r.find? p.name).bind (conflict? · p)

/-- A registration adds at most one conflict. -/
theorem conflicts_insert_eq (r : PropertyRegistry) (p : Property) :
    (r.insert p).conflicts = r.conflicts ++ ((r.insert p).conflictIn? p).toList := by
  obtain ⟨kept, found, source⟩ := exists_find?_insert r p
  unfold conflictIn?
  rw [found, Option.bind_some]
  unfold insert register conflict?
  cases h : r.find? p.name with
  | none =>
    obtain rfl | old := source
    · simp [Property.agrees_refl]
    · rw [h] at old
      cases old
  | some kept' =>
    have same : kept' = kept := by
      rw [find?_insert_of_some h p] at found
      exact Option.some.inj found
    subst same
    by_cases agree : kept'.agrees p = true <;> simp [agree]

/-- **The conflicts of a run** are those of its properties with what stands under their names in the
end: what is kept under a name never changes. -/
theorem conflicts_registerAll_eq (r : PropertyRegistry) (ps : List Property) :
    (ps.foldl insert r).conflicts =
      r.conflicts ++ ps.filterMap (ps.foldl insert r).conflictIn? := by
  induction ps generalizing r with
  | nil => simp
  | cons p ps ih =>
    obtain ⟨kept, found, -⟩ := exists_find?_insert r p
    have stays : (ps.foldl insert (r.insert p)).conflictIn? p =
        (r.insert p).conflictIn? p := by
      unfold conflictIn?
      rw [found, find?_registerAll_of_some found ps]
    rw [List.foldl_cons, ih, conflicts_insert_eq, List.filterMap_cons, stays]
    cases (r.insert p).conflictIn? p <;> simp

/-- **What stands under a name** is the first property of that name. -/
theorem find?_registerAll_eq (ps : List Property) (name : String) :
    (ps.foldl insert ∅).find? name = ps.find? (·.name == name) := by
  have properties : (ps.foldl insert ∅).properties = firstOfEach Property.name [] ps :=
    properties_registerAll ∅ ps
  rw [find?, properties]
  exact find?_firstOfEach Property.name name ps

/-- **There is a conflict** if some property does not agree with the first one of its name. -/
theorem conflicts_registerAll_ne_nil_iff {ps : List Property} :
    (ps.foldl insert ∅).conflicts ≠ [] ↔
      ∃ q ∈ ps, ∃ kept, ps.find? (·.name == q.name) = some kept ∧ kept.agrees q = false := by
  rw [conflicts_registerAll_eq]
  show ps.filterMap _ ≠ [] ↔ _
  constructor
  · intro some
    obtain ⟨conflict, mem⟩ := List.exists_mem_of_ne_nil _ some
    obtain ⟨q, mem, eq⟩ := List.mem_filterMap.1 mem
    obtain ⟨kept, found, eq⟩ := Option.bind_eq_some_iff.1 eq
    rw [find?_registerAll_eq] at found
    refine ⟨q, mem, kept, found, ?_⟩
    by_contra agree
    rw [conflict?, if_pos (Bool.not_eq_false _ ▸ agree)] at eq
    cases eq
  · rintro ⟨q, mem, kept, found, disagree⟩
    refine List.ne_nil_of_mem (List.mem_filterMap.2
      ⟨q, mem, (?_ : _ = some ⟨q.name, kept.value, q.value⟩)⟩)
    rw [conflictIn?, find?_registerAll_eq, found, Option.bind_some, conflict?, disagree]
    rfl

/-! ### Histories -/

/-- Whether there is a property of a name. -/
theorem contains_iff {r : PropertyRegistry} {name : String} :
    r.contains name = true ↔ name ∈ r.properties.map Property.name := by
  simp [contains]

/-- The flag of a registration tells whether the name has been free. -/
theorem flag_register (r : PropertyRegistry) (p : Property) :
    (r.register p).2 = true ↔ p.name ∉ r.properties.map Property.name := by
  rw [← find?_eq_none_iff, register]
  cases r.find? p.name with
  | none => simp
  | some kept => by_cases agree : kept.agrees p <;> simp [agree]

/-- The first registration of a name. -/
def first? (history : List Property) (name : String) : Option Property :=
  history.find? (·.name == name)

/-- What a registry holds that has been new before some registrations. -/
structure Logs (r : PropertyRegistry) (history : List Property) : Prop where
  /-- The registry holds the first property of each name, in order. -/
  properties : r.properties = firstOfEach Property.name [] history
  /-- The next registration is told to be new if no earlier one had the name, and only then. -/
  flag : ∀ p, (r.register p).2 = true ↔ ∀ q ∈ history, q.name ≠ p.name
  /-- A registration that is told to be new puts its property at the end; others leave the
  properties. -/
  register : ∀ p, (r.register p).1.properties =
    if (r.register p).2 then r.properties ++ [p] else r.properties
  /-- There is one message for each registration that does not agree with the first one of its name,
  in order; the first one agrees with itself. -/
  messages : r.messages = history.filterMap fun p => (first? history p.name).bind fun kept =>
    if kept.agrees p then none else some (Conflict.message ⟨p.name, kept.value, p.value⟩)
  contains : ∀ name, r.contains name = true ↔ ∃ p ∈ history, p.name = name
  find : ∀ name, r.find? name = first? history name

theorem logs_registerAll (history : List Property) : (history.foldl insert ∅).Logs history := by
  have properties : (history.foldl insert ∅).properties = firstOfEach Property.name [] history :=
    properties_registerAll ∅ history
  have contains : ∀ name, (history.foldl insert ∅).contains name = true ↔
      ∃ p ∈ history, p.name = name := by
    intro name
    rw [contains_iff, properties, mem_keys_firstOfEach, List.mem_map]
    simp
  refine ⟨properties, fun p => ?_, fun p => ?_, ?_, contains, find?_registerAll_eq history⟩
  · rw [flag_register, ← contains_iff, contains]
    simp
  · refine (properties_insert _ p).trans ?_
    simp only [flag_register, ite_not]
  · rw [messages, conflicts_registerAll_eq, List.map_append, List.map_filterMap]
    refine List.filterMap_congr fun p _ => ?_
    rw [conflictIn?, find?_registerAll_eq, Option.map_bind]
    refine congrArg _ (funext fun kept => ?_)
    rw [Function.comp_apply, conflict?]
    split <;> rfl

end PropertyRegistry

namespace ImportRegistry

/-- Whether there is an import of a key. -/
theorem contains_iff {r : ImportRegistry} {key : String} :
    r.contains key = true ↔ key ∈ r.imports.map Import.key := by
  simp [contains]

/-- An import is added at the end, unless its key is taken. -/
theorem imports_insert (r : ImportRegistry) (text : String) :
    (r.insert text).imports =
      if Import.key text ∈ r.imports.map Import.key then r.imports else r.imports ++ [text] := by
  unfold insert register
  by_cases taken : Import.key text ∈ r.imports.map Import.key
  · rw [if_pos (contains_iff.2 taken), if_pos taken]
  · rw [if_neg (mt contains_iff.1 taken), if_neg taken]

/-- **After many registrations** there is the first import of each key. -/
theorem imports_registerAll (r : ImportRegistry) (texts : List String) :
    (texts.foldl insert r).imports =
      r.imports ++ firstOfEach Import.key (r.imports.map Import.key) texts :=
  foldl_register imports imports_insert r texts

/-- The flag of a registration tells whether the key has been free. -/
theorem flag_register (r : ImportRegistry) (text : String) :
    (r.register text).2 = true ↔ Import.key text ∉ r.imports.map Import.key := by
  rw [← contains_iff, register]
  cases r.contains (Import.key text) <;> simp

/-- What a registry holds that has been new before some registrations. -/
structure Logs (r : ImportRegistry) (history : List String) : Prop where
  /-- The registry holds the first import of each key, in order. -/
  imports : r.imports = firstOfEach Import.key [] history
  /-- The next registration is told to be new if no earlier one had the key, and only then. -/
  flag : ∀ text, (r.register text).2 = true ↔
    ∀ earlier ∈ history, Import.key earlier ≠ Import.key text
  /-- A registration that is told to be new puts its import at the end; others leave the imports. -/
  register : ∀ text, (r.register text).1.imports =
    if (r.register text).2 then r.imports ++ [text] else r.imports
  contains : ∀ key, r.contains key = true ↔ ∃ text ∈ history, Import.key text = key

theorem logs_registerAll (history : List String) : (history.foldl insert ∅).Logs history := by
  have imports : (history.foldl insert ∅).imports = firstOfEach Import.key [] history :=
    imports_registerAll ∅ history
  have contains : ∀ key, (history.foldl insert ∅).contains key = true ↔
      ∃ text ∈ history, Import.key text = key := by
    intro key
    rw [contains_iff, imports, mem_keys_firstOfEach, List.mem_map]
    simp
  refine ⟨imports, fun text => ?_, fun text => ?_, contains⟩
  · rw [flag_register, ← contains_iff, contains]
    simp
  · refine (imports_insert _ text).trans ?_
    simp only [flag_register, ite_not]

end ImportRegistry

/-- **Registries are logs in which the first of each key counts**, whatever has been registered in
them. -/
theorem registries_keep_first (properties : List Property) (imports : List String) :
    (properties.foldl PropertyRegistry.insert ∅).Logs properties ∧
      (imports.foldl ImportRegistry.insert ∅).Logs imports :=
  ⟨PropertyRegistry.logs_registerAll properties, ImportRegistry.logs_registerAll imports⟩

/-- The third registration agrees with the first one, so only the second one is a conflict. -/
example : ([.integer "port" 1, .integer "port" 2, .integer "port" 1].foldl
    PropertyRegistry.insert ∅).messages =
      ["property port already declared with value 1, ignoring 2"] := by decide +kernel

/-- Adding names one after the other adds each new name once. -/
theorem addNames_eq (names added : List String) :
    added.foldl addName names = names ++ firstOfEach id names added := by
  have step : ∀ (names : List String) (name : String), addName names name =
      if id name ∈ names.map id then names else names ++ [name] := by
    intro names name
    rw [List.map_id, addName]
    by_cases taken : name ∈ names <;> simp [taken]
  have run := foldl_register (fun names => names) step names added
  rwa [List.map_id] at run

end EventGateway
