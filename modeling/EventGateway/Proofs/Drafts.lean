import EventGateway.Draft
import EventGateway.Proofs.Lookup
import Mathlib.Data.List.Forall2
import Mathlib.Data.List.Perm.Basic

/-!
# What drafts spell

Typed parts are written as JSON values and read from drafts.  A draft that comes from a JSON value
spells the value, but the entries of its maps may be in another order: that of the names instead of
that in which a writer lists its fields.  Reading does not depend on this order, so what is written
is read back from every draft that spells it.

`Reads read j a` is this property of one reader, one JSON value and one result.  It passes from the
parts of a list, a dictionary or a record to the whole, so each type of a document or a descriptor
needs one lemma, with one line for each of its fields.

## Main definitions

* `Draft.Spells` — a draft spells a JSON value.
* `Reads` — every draft that spells a JSON value is read as something.

## Main statements

* `Draft.exists_value_spells` — the canonical form of a JSON value spells it.
* `Reads.listOf`, `Reads.dictOf`, `reads_value` — lists, dictionaries and free-form values.
-/

namespace EventGateway

/-! ## Dictionaries of permuted entries -/

namespace Dict

variable {α : Type}

/-- A new key is inserted somewhere. -/
theorem perm_insertEntry {key : String} {value : α} {entries : List (String × α)}
    (new : key ∉ entries.map Prod.fst) :
    (insertEntry key value entries).Perm ((key, value) :: entries) := by
  induction entries with
  | nil => exact .refl _
  | cons entry rest ih =>
    obtain ⟨ne, new⟩ := not_or.1 (mt List.mem_cons.2 new)
    rw [insertEntry, if_neg ne]
    split
    · exact .refl _
    · exact ((ih new).cons entry).trans (.swap _ _ _)

/-- Pairs under different keys are the entries of their dictionary, in some order. -/
theorem perm_entries_ofList {pairs : List (String × α)} (nodup : (pairs.map Prod.fst).Nodup) :
    (ofList pairs).entries.Perm pairs := by
  suffices h : ∀ (pairs : List (String × α)) (d : Dict α),
      ((d.entries ++ pairs).map Prod.fst).Nodup →
      (pairs.foldl (fun d pair => d.insert pair.1 pair.2) d).entries.Perm (d.entries ++ pairs) from
    h pairs empty nodup
  intro pairs
  induction pairs with
  | nil =>
    intro d _
    rw [List.append_nil]
    exact .refl _
  | cons pair pairs ih =>
    intro d nodup
    -- The pair moves from the pairs that are left to the entries, so no key is used twice.
    have middle : (d.entries ++ pair :: pairs).Perm (pair :: d.entries ++ pairs) :=
      List.perm_middle
    have nodup' := (middle.map Prod.fst).nodup_iff.1 nodup
    have new : pair.1 ∉ d.entries.map Prod.fst := by
      rw [List.cons_append, List.map_cons, List.nodup_cons, List.map_append,
        List.mem_append, not_or] at nodup'
      exact nodup'.1.1
    have inserted : (d.insert pair.1 pair.2).entries.Perm (pair :: d.entries) :=
      perm_insertEntry new
    have grown := inserted.append_right pairs
    exact (ih _ ((grown.map Prod.fst).nodup_iff.2 nodup')).trans (grown.trans middle.symm)

/-- **The order of pairs does not matter** to their dictionary. -/
theorem ofList_eq_of_perm {pairs : List (String × α)} {d : Dict α} (perm : pairs.Perm d.entries) :
    ofList pairs = d := by
  have nodup : (pairs.map Prod.fst).Nodup := (perm.map Prod.fst).nodup_iff.2 d.nodup_keys
  have antisymm : ∀ x y : String × α, x ∈ (ofList pairs).entries → y ∈ d.entries → x.1 < y.1 →
      y.1 < x.1 → x = y :=
    fun x y _ _ lt gt => absurd (String.lt_trans lt gt) (String.lt_irrefl _)
  exact ext (((perm_entries_ofList nodup).trans perm).eq_of_pairwise antisymm
    (List.pairwise_map.1 (ofList pairs).ascending) (List.pairwise_map.1 d.ascending))

end Dict

/-! ## Drafts of JSON values -/

namespace Draft

/-- An entry under a text. -/
def keyed (entry : String × Draft) : Draft × Draft :=
  (text entry.1, entry.2)

theorem ofItems_eq_map (items : List Json) : ofItems items = items.map ofJson := by
  induction items with
  | nil => rfl
  | cons item items ih => rw [ofItems, ih, List.map_cons]

theorem ofMembers_eq_map (members : List (String × Json)) :
    ofMembers members = (members.map fun m => (m.1, ofJson m.2)).map keyed := by
  induction members with
  | nil => rfl
  | cons member members ih =>
    rw [ofMembers, ih, List.map_cons, List.map_cons]
    rfl

mutual

/-- A draft spells a JSON value: it is the value, with the entries of its maps in any order. -/
def Spells (d : Draft) : Json → Prop
  | .null => d = null
  | .bool value => d = bool value
  | .number value => d = number value
  | .text value => d = text value
  | .list items => ∃ parts, d = list parts ∧ SpellsItems parts items
  | .object members =>
    ∃ entries order : List (String × Draft),
      d = map (entries.map keyed) ∧ entries.Perm order ∧ SpellsMembers order members

/-- The parts of a list spell its items, in their order. -/
def SpellsItems : List Draft → List Json → Prop
  | [], [] => True
  | part :: parts, item :: items => Spells part item ∧ SpellsItems parts items
  | _, _ => False

/-- Named parts spell the members of an object, in their order. -/
def SpellsMembers : List (String × Draft) → List (String × Json) → Prop
  | [], [] => True
  | (name, part) :: parts, (name', value) :: members =>
    name = name' ∧ Spells part value ∧ SpellsMembers parts members
  | _, _ => False

end

theorem spellsItems_iff {parts : List Draft} {items : List Json} :
    SpellsItems parts items ↔ List.Forall₂ Spells parts items := by
  induction items generalizing parts with
  | nil => cases parts <;> simp [SpellsItems]
  | cons item items ih => cases parts <;> simp [SpellsItems, ih]

/-- A part spells a member: its name and its value. -/
def SpellsMember (part : String × Draft) (member : String × Json) : Prop :=
  part.1 = member.1 ∧ Spells part.2 member.2

theorem spellsMembers_iff {parts : List (String × Draft)} {members : List (String × Json)} :
    SpellsMembers parts members ↔ List.Forall₂ SpellsMember parts members := by
  induction members generalizing parts with
  | nil => cases parts <;> simp [SpellsMembers]
  | cons member members ih => cases parts <;> simp [SpellsMembers, SpellsMember, ih, and_assoc]

/-- A list is spelled item by item. -/
theorem spells_list {d : Draft} {items : List Json} :
    Spells d (.list items) ↔ ∃ parts, d = list parts ∧ List.Forall₂ Spells parts items := by
  simp only [Spells, spellsItems_iff]

/-- An object is spelled member by member, in any order. -/
theorem spells_object {d : Draft} {members : List (String × Json)} :
    Spells d (.object members) ↔ ∃ entries order : List (String × Draft),
      d = map (entries.map keyed) ∧ entries.Perm order ∧
        List.Forall₂ SpellsMember order members := by
  simp only [Spells, spellsMembers_iff]

/-- Parts have the names of the members that they spell. -/
theorem keys_eq_of_spellsMember {parts : List (String × Draft)} {members : List (String × Json)}
    (spelled : List.Forall₂ SpellsMember parts members) :
    parts.map Prod.fst = members.map Prod.fst := by
  induction spelled with
  | nil => rfl
  | cons first _ ih => rw [List.map_cons, List.map_cons, first.1, ih]

mutual

/-- A JSON value as a draft spells the value. -/
theorem spells_ofJson : (j : Json) → Spells (ofJson j) j
  | .null => rfl
  | .bool _ => rfl
  | .number _ => rfl
  | .text _ => rfl
  | .list items => ⟨_, rfl, spellsItems_ofItems items⟩
  | .object members =>
    ⟨_, _, congrArg map (ofMembers_eq_map members), .refl _, spellsMembers_ofMembers members⟩

theorem spellsItems_ofItems : (items : List Json) → SpellsItems (ofItems items) items
  | [] => trivial
  | item :: items => ⟨spells_ofJson item, spellsItems_ofItems items⟩

theorem spellsMembers_ofMembers : (members : List (String × Json)) →
    SpellsMembers (members.map fun m => (m.1, ofJson m.2)) members
  | [] => trivial
  | (_, value) :: members => ⟨rfl, spells_ofJson value, spellsMembers_ofMembers members⟩

end

/-- Entries with texts for keys can be read if their values can. -/
theorem entriesReadable_keyed (entries : List (String × Draft)) :
    entriesReadable (entries.map keyed) = entries.all fun entry => entry.2.isReadable := by
  induction entries with
  | nil => rfl
  | cons entry entries ih =>
    rw [List.map_cons, entriesReadable, ih]
    rfl

mutual

/-- What spells a JSON value is readable. -/
theorem isReadable_of_spells : (j : Json) → ∀ {d : Draft}, Spells d j → d.isReadable = true
  | .null, _, rfl => rfl
  | .bool _, _, rfl => rfl
  | .number _, _, rfl => rfl
  | .text _, _, rfl => rfl
  | .list items, d, spelled => by
    obtain ⟨parts, rfl, spelled⟩ := spelled
    exact itemsReadable_of_spells items spelled
  | .object members, d, spelled => by
    obtain ⟨entries, order, rfl, perm, spelled⟩ := spelled
    have readable := partsReadable_of_spells members spelled
    rw [isReadable, entriesReadable_keyed, List.all_eq_true]
    exact fun entry mem => readable entry (perm.mem_iff.1 mem)

theorem itemsReadable_of_spells : (items : List Json) → ∀ {parts : List Draft},
    SpellsItems parts items → itemsReadable parts = true
  | [], [], _ => rfl
  | item :: items, part :: parts, spelled => by
    rw [itemsReadable, isReadable_of_spells item spelled.1, itemsReadable_of_spells items spelled.2]
    rfl

theorem partsReadable_of_spells : (members : List (String × Json)) →
    ∀ {parts : List (String × Draft)}, SpellsMembers parts members →
      ∀ part ∈ parts, part.2.isReadable = true
  | [], [], _ => nofun
  | (_, value) :: members, (_, part) :: parts, spelled => by
    have first := isReadable_of_spells value spelled.2.1
    have others := partsReadable_of_spells members spelled.2.2
    exact List.forall_mem_cons.2 ⟨first, others⟩

end

/-- A draft of nothing spells `null` only. -/
theorem eq_null_of_spells {j : Json} (spelled : null.Spells j) : j = .null := by
  cases j with
  | null => rfl
  | list items =>
    obtain ⟨parts, eq, -⟩ := spelled
    cases eq
  | object members =>
    obtain ⟨entries, order, eq, -⟩ := spelled
    cases eq
  | _ => cases spelled

end Draft

/-! ## Readers -/

/-- A reader reads every draft that spells a JSON value as `a`. -/
def Reads {α : Type} (read : Draft → Option α) (j : Json) (a : α) : Prop :=
  ∀ d, d.Spells j → read d = some a

theorem reads_text (s : String) : Reads Draft.text? (.text s) s := by
  rintro d rfl
  rfl

section Walks

variable {α β : Type} {f : α → Option β}

/-- A walk finds something in each part, one after the other. -/
theorem mapM_eq_some_iff {as : List α} {bs : List β} :
    as.mapM f = some bs ↔ List.Forall₂ (fun a b => f a = some b) as bs := by
  induction as generalizing bs with
  | nil => cases bs <;> simp
  | cons a as ih =>
    rw [List.mapM_cons]
    cases bs with
    | nil => cases f a <;> cases as.mapM f <;> simp
    | cons b bs =>
      rw [List.forall₂_cons, ← ih]
      cases f a <;> cases as.mapM f <;> simp

/-- A walk in another order finds the same, in another order. -/
theorem exists_mapM_of_perm {as order : List α} {bs : List β} (perm : as.Perm order)
    (each : List.Forall₂ (fun a b => f a = some b) order bs) :
    ∃ cs, as.mapM f = some cs ∧ cs.Perm bs := by
  obtain ⟨cs, each, perm⟩ := List.perm_comp_forall₂ perm each
  exact ⟨cs, mapM_eq_some_iff.2 each, perm⟩

/-- What holds wherever a relation holds with a member of the second list. -/
theorem forall₂_imp_of_mem {R S : α → β → Prop} {as : List α} {bs : List β}
    (each : List.Forall₂ R as bs) (imp : ∀ a, ∀ b ∈ bs, R a b → S a b) : List.Forall₂ S as bs := by
  induction each with
  | nil => exact .nil
  | cons first _ ih =>
    refine .cons (imp _ _ List.mem_cons_self first) (ih ?_)
    exact fun a b mem => imp a b (List.mem_cons_of_mem _ mem)

end Walks

section Reads

variable {α : Type} {read : Draft → Option α} {write : α → Json}

/-- **A list is read back** if its items are. -/
theorem Reads.listOf {as : List α} (items : ∀ a ∈ as, Reads read (write a) a) :
    Reads (Draft.listOf? read) (.list (as.map write)) as := by
  intro d spelled
  obtain ⟨parts, rfl, each⟩ := Draft.spells_list.1 spelled
  rw [List.forall₂_map_right_iff] at each
  exact mapM_eq_some_iff.2 (forall₂_imp_of_mem each fun part a mem => items a mem part)

/-- Entries in some order under their keys, each read on its own. -/
theorem exists_mapM_of_spells {dict : Dict α}
    (values : ∀ e ∈ dict.entries, Reads read (write e.2) e.2)
    {entries order : List (String × Draft)} (perm : entries.Perm order)
    (each : List.Forall₂ Draft.SpellsMember order (dict.map write).entries) :
    ∃ pairs, entries.mapM (fun entry => (read entry.2).map (entry.1, ·)) = some pairs ∧
      Dict.ofList pairs = dict := by
  have found : List.Forall₂ (fun entry pair => (read entry.2).map (entry.1, ·) = some pair) order
      dict.entries := by
    refine forall₂_imp_of_mem (List.forall₂_map_right_iff.1 each) ?_
    rintro ⟨name, part⟩ ⟨key, a⟩ mem ⟨rfl, spelled⟩
    rw [values _ mem part spelled]
    rfl
  obtain ⟨pairs, read, perm⟩ := exists_mapM_of_perm perm found
  exact ⟨pairs, read, Dict.ofList_eq_of_perm perm⟩

/-- **A dictionary is read back** if its values are. -/
theorem Reads.dictOf {dict : Dict α} (values : ∀ e ∈ dict.entries, Reads read (write e.2) e.2) :
    Reads (Draft.dictOf? read) (.object (dict.map write).entries) dict := by
  intro d spelled
  obtain ⟨entries, order, rfl, perm, each⟩ := Draft.spells_object.1 spelled
  obtain ⟨pairs, found, eq⟩ := exists_mapM_of_spells values perm each
  rw [Draft.dictOf?, List.mapM_map]
  show (entries.mapM fun entry => (read entry.2).map (entry.1, ·)).map Dict.ofList = some dict
  rw [found, Option.map_some, eq]

end Reads

/-! ### Free-form values -/

namespace Draft

theorem items?_eq_mapM (parts : List Draft) : items? parts = parts.mapM value? := by
  induction parts with
  | nil => rfl
  | cons part parts ih =>
    rw [items?, ih, List.mapM_cons]
    cases part.value? <;> cases parts.mapM value? <;> rfl

/-- A list is read item by item. -/
theorem value?_list (parts : List Draft) :
    (list parts).value? = ((list parts).listOf? value?).map Value.list := by
  rw [value?, items?_eq_mapM]
  rfl

/-- Entries with texts for keys are read value by value. -/
theorem entries?_keyed (entries : List (String × Draft)) :
    entries? (entries.map keyed) =
      entries.mapM fun entry => (value? entry.2).map (entry.1, ·) := by
  induction entries with
  | nil => rfl
  | cons entry entries ih =>
    obtain ⟨name, part⟩ := entry
    show (part.value?.bind fun v => (entries? (entries.map keyed)).map ((name, v) :: ·)) = _
    rw [ih, List.mapM_cons]
    cases part.value? with
    | none => rfl
    | some v => cases entries.mapM fun entry => (value? entry.2).map (entry.1, ·) <;> rfl

end Draft

namespace Value

/-- Canonical items are those of a list of values. -/
theorem exists_list {items : List Json} (h : Json.CanonicalItems items) :
    ∃ values : List Value, values.map json = items := by
  induction items with
  | nil => exact ⟨[], rfl⟩
  | cons item items ih =>
    obtain ⟨values, rfl⟩ := ih h.2
    exact ⟨⟨item, h.1⟩ :: values, rfl⟩

/-- Members that are known to be canonical are the same members. -/
theorem map_json_ofMembers {members : List (String × Json)} (h : Json.CanonicalMembers members) :
    (ofMembers members h).map (fun (name, value) => (name, value.json)) = members := by
  induction members with
  | nil => rfl
  | cons member members ih => rw [ofMembers, List.map_cons, ih]

/-- The members of values are those values. -/
theorem ofMembers_map_json (entries : List (String × Value))
    (h : Json.CanonicalMembers (entries.map fun (name, value) => (name, value.json))) :
    ofMembers (entries.map fun (name, value) => (name, value.json)) h = entries := by
  induction entries with
  | nil => rfl
  | cons entry entries ih =>
    show (entry.1, _) :: ofMembers _ h.2 = _
    rw [ih]

/-- The members of an object are those that it is made of. -/
theorem members?_object (members : Dict Value) : (object members).members? = some members :=
  congrArg some (Dict.ext (ofMembers_map_json members.entries _))

theorem bool_injective : Function.Injective bool :=
  fun _ _ same => Json.bool.inj (congrArg json same)

end Value

mutual

/-- **A free-form value is read back.** -/
theorem reads_canonical : (j : Json) → (h : j.Canonical) → Reads Draft.value? j ⟨j, h⟩
  | .null, _ => by
    rintro d rfl
    rfl
  | .bool _, _ => by
    rintro d rfl
    rfl
  | .number _, finite => by
    rintro d rfl
    exact congrArg some (dif_pos finite)
  | .text _, _ => by
    rintro d rfl
    rfl
  | .list items, h => by
    intro d spelled
    obtain ⟨values, eq⟩ := Value.exists_list h
    have each : ∀ v ∈ values, Reads Draft.value? v.json v := fun v mem =>
      reads_items items v.json (eq ▸ List.mem_map_of_mem mem) v.canonical
    have found := Reads.listOf each d (by rwa [eq])
    obtain ⟨parts, rfl, -⟩ := Draft.spells_list.1 spelled
    rw [Draft.value?_list, found, Option.map_some]
    exact congrArg some (Value.ext (congrArg Json.list eq))
  | .object members, h => by
    intro d spelled
    obtain ⟨entries, order, rfl, perm, each⟩ := Draft.spells_object.1 spelled
    -- The members are the entries of a dictionary, so the order of the draft is forgotten.
    let dict : Dict Value := ⟨Value.ofMembers members h.2, by rw [Value.keys_ofMembers]; exact h.1⟩
    have listed : (dict.map Value.json).entries = members := Value.map_json_ofMembers h.2
    have values : ∀ e ∈ dict.entries, Reads Draft.value? e.2.json e.2 := by
      intro e mem
      have member : (e.1, e.2.json) ∈ (dict.map Value.json).entries := List.mem_map.2 ⟨e, mem, rfl⟩
      rw [listed] at member
      exact reads_members members _ member e.2.canonical
    obtain ⟨pairs, found, eq⟩ := exists_mapM_of_spells values perm (listed.symm ▸ each)
    rw [Draft.value?, Draft.entries?_keyed, found, Option.map_some, eq]
    exact congrArg some (Value.ext (congrArg Json.object listed))

theorem reads_items : (items : List Json) → ∀ item ∈ items, (h : item.Canonical) →
    Reads Draft.value? item ⟨item, h⟩
  | [] => nofun
  | item :: items =>
    List.forall_mem_cons.2 ⟨reads_canonical item, reads_items items⟩

theorem reads_members : (members : List (String × Json)) → ∀ member ∈ members,
    (h : member.2.Canonical) → Reads Draft.value? member.2 ⟨member.2, h⟩
  | [] => nofun
  | (_, value) :: members =>
    List.forall_mem_cons.2 ⟨reads_canonical value, reads_members members⟩

end

theorem reads_value (v : Value) : Reads Draft.value? v.json v :=
  reads_canonical v.json v.canonical

theorem reads_settings (settings : Dict Value) :
    Reads Draft.settings? (.object (Value.memberList settings)) settings := by
  intro d spelled
  rw [Draft.settings?, reads_value (.object settings) d spelled]
  exact Value.members?_object settings

/-! ### The canonical form -/

namespace Json

mutual

/-- Names are different in every object, and every number is finite.  Of two members with one name
only the later one would be in the canonical form. -/
def Regular : Json → Prop
  | number n => n.isFinite = true
  | list items => RegularItems items
  | object members => (members.map Prod.fst).Nodup ∧ RegularMembers members
  | _ => True

/-- All items are regular. -/
def RegularItems : List Json → Prop
  | [] => True
  | item :: items => Regular item ∧ RegularItems items

/-- The values of all members are regular. -/
def RegularMembers : List (String × Json) → Prop
  | [] => True
  | (_, value) :: members => Regular value ∧ RegularMembers members

end

@[simp] theorem regular_null : Regular null := trivial

@[simp] theorem regular_text (s : String) : Regular (text s) := trivial

@[simp] theorem regular_list {items : List Json} :
    Regular (list items) ↔ ∀ item ∈ items, item.Regular := by
  rw [Regular]
  induction items with
  | nil => simp [RegularItems]
  | cons item items ih => rw [RegularItems, ih, List.forall_mem_cons]

/-- Members are regular if their values are. -/
theorem regularMembers_iff {members : List (String × Json)} :
    RegularMembers members ↔ ∀ m ∈ members, m.2.Regular := by
  induction members with
  | nil => simp [RegularMembers]
  | cons member members ih => rw [RegularMembers, ih, List.forall_mem_cons]

@[simp] theorem regular_object {members : List (String × Json)} :
    Regular (object members) ↔ (members.map Prod.fst).Nodup ∧ ∀ m ∈ members, m.2.Regular := by
  rw [Regular, regularMembers_iff]

/-- What may be missing is regular if it is when it is there. -/
theorem regular_ofOption {α : Type} {write : α → Json} {value : Option α}
    (regular : ∀ a ∈ value, (write a).Regular) : (ofOption write value).Regular := by
  cases value with
  | none => exact regular_null
  | some a => exact regular a rfl

/-- A dictionary is written under different names. -/
theorem regular_dict {α : Type} {write : α → Json} {dict : Dict α}
    (regular : ∀ e ∈ dict.entries, (write e.2).Regular) :
    (object (dict.map write).entries).Regular := by
  refine regular_object.2 ⟨(dict.map write).nodup_keys, fun m mem => ?_⟩
  obtain ⟨e, listed, rfl⟩ := List.mem_map.1 mem
  exact regular e listed

mutual

/-- Canonical JSON is regular. -/
theorem Canonical.regular : (j : Json) → j.Canonical → j.Regular
  | .null, _ => trivial
  | .bool _, _ => trivial
  | .number _, finite => finite
  | .text _, _ => trivial
  | .list items, h => regularItems_of_canonical items h
  | .object members, h =>
    ⟨(⟨members, h.1⟩ : Dict Json).nodup_keys, regularMembers_of_canonical members h.2⟩

theorem regularItems_of_canonical : (items : List Json) → CanonicalItems items →
    RegularItems items
  | [], _ => trivial
  | item :: items, h => ⟨Canonical.regular item h.1, regularItems_of_canonical items h.2⟩

theorem regularMembers_of_canonical : (members : List (String × Json)) →
    CanonicalMembers members → RegularMembers members
  | [], _ => trivial
  | (_, value) :: members, h =>
    ⟨Canonical.regular value h.1, regularMembers_of_canonical members h.2⟩

end

end Json

@[simp] theorem Value.regular (v : Value) : v.json.Regular :=
  Json.Canonical.regular v.json v.canonical

namespace Draft

/-- A pair spells a member: its name, and its value as a draft. -/
def PairSpells (pair : String × Value) (member : String × Json) : Prop :=
  pair.1 = member.1 ∧ Spells (ofValue pair.2) member.2

/-- Values that spell items spell their list. -/
theorem spells_ofValue_list {values : List Value} {items : List Json}
    (each : List.Forall₂ (fun v item => Spells (ofValue v) item) values items) :
    Spells (ofValue (.list values)) (.list items) := by
  refine spells_list.2 ⟨_, rfl, ?_⟩
  rw [ofItems_eq_map, List.forall₂_map_left_iff, List.forall₂_map_left_iff]
  exact each

/-- Values that spell members spell their object, which puts names in order. -/
theorem spells_ofValue_object {pairs : List (String × Value)} {members : List (String × Json)}
    (nodup : (members.map Prod.fst).Nodup) (each : List.Forall₂ PairSpells pairs members) :
    Spells (ofValue (.object (Dict.ofList pairs))) (.object members) := by
  have parts : List.Forall₂ SpellsMember (pairs.map fun p => (p.1, ofValue p.2)) members :=
    List.forall₂_map_left_iff.2 each
  have names := keys_eq_of_spellsMember parts
  rw [List.map_map] at names
  have perm : (Dict.ofList pairs).entries.Perm pairs := Dict.perm_entries_ofList (names ▸ nodup)
  refine spells_object.2 ⟨_, _, congrArg map (ofMembers_eq_map _), ?_, parts⟩
  rw [Value.memberList, Dict.map, List.map_map]
  exact perm.map _

mutual

/-- **The canonical form** of a JSON value exists and spells the value. -/
theorem exists_value_spells : (j : Json) → j.Regular →
    ∃ v, (ofJson j).value? = some v ∧ (ofValue v).Spells j
  | .null, _ => ⟨.null, rfl, rfl⟩
  | .bool value, _ => ⟨.bool value, rfl, rfl⟩
  | .number n, finite => ⟨⟨.number n, finite⟩, congrArg some (dif_pos finite), rfl⟩
  | .text s, _ => ⟨.text s, rfl, rfl⟩
  | .list items, regular => by
    obtain ⟨values, found, each⟩ := exists_values_spell items regular
    refine ⟨.list values, ?_, spells_ofValue_list each⟩
    rw [ofJson, value?, found]
    rfl
  | .object members, regular => by
    obtain ⟨pairs, found, each⟩ := exists_pairs_spell members regular.2
    refine ⟨.object (Dict.ofList pairs), ?_, spells_ofValue_object regular.1 each⟩
    rw [ofJson, value?, found]
    rfl

theorem exists_values_spell : (items : List Json) → Json.RegularItems items →
    ∃ values, items? (ofItems items) = some values ∧
      List.Forall₂ (fun v item => Spells (ofValue v) item) values items
  | [], _ => ⟨[], rfl, .nil⟩
  | item :: items, regular => by
    obtain ⟨v, first, spelled⟩ := exists_value_spells item regular.1
    obtain ⟨values, others, each⟩ := exists_values_spell items regular.2
    refine ⟨v :: values, ?_, .cons spelled each⟩
    rw [ofItems, items?, first, others]
    rfl

theorem exists_pairs_spell : (members : List (String × Json)) → Json.RegularMembers members →
    ∃ pairs, entries? (ofMembers members) = some pairs ∧
      List.Forall₂ PairSpells pairs members
  | [], _ => ⟨[], rfl, .nil⟩
  | (name, value) :: members, regular => by
    obtain ⟨v, first, spelled⟩ := exists_value_spells value regular.1
    obtain ⟨pairs, others, each⟩ := exists_pairs_spell members regular.2
    refine ⟨(name, v) :: pairs, ?_, .cons ⟨rfl, spelled⟩ each⟩
    rw [ofMembers, entries?, first, others]
    rfl

end

end Draft

end EventGateway
