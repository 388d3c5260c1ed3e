import EventGateway.Proofs.Drafts

/-!
# Reading records

A record is read from the entries of a map, in any order, or from a list of its parts.  Two things
are known about it.  If the map spells the members that a writer lists, the parts of the record
spell these members, so that every field is read back; a record that keeps other fields is read with
exactly those that were written beside the declared ones.  And if the draft is a JSON value at all,
then the parts of the record are JSON values, and no field that it keeps has the name of a declared
one.  What is read from a JSON value therefore has properties that an arbitrary draft does not
guarantee (`Yields`): null, for one, is always a part that is not set.

## Main definitions

* `Field.Apart` — fields without a common name.
* `Record.Spells`, `Record.OfValue` — what is known about the parts of a record.
* `Yields` — a reader finds only things with some property in JSON values.

## Main statements

* `Draft.Spells.record`, `Draft.Spells.openRecord` — records are read back.
* `Record.Spells.required`, `Record.Spells.withDefault`, `Record.Spells.optional` — fields are.
* `Draft.IsValue.openRecord` — what a record keeps beside its fields has other names.
-/

namespace EventGateway

/-! ## Records that are written -/

/-- No two fields have a name in common. -/
def Field.Apart (declared : List Field) : Prop :=
  (declared.map Field.name).Nodup ∧
    ∀ f ∈ declared, declared.find? (·.hasName f.name) = some f
deriving Decidable

/-- The parts of a record spell members: there are these, and no others. -/
def Record.Spells (r : Record) (members : List (String × Json)) : Prop :=
  ∀ name, Option.Rel Draft.Spells (r.part? name) (members.lookup name)

/-- If no key occurs twice, exactly the entries are found. -/
theorem lookup_eq_some_iff_mem {α : Type} {entries : List (String × α)}
    (nodup : (entries.map Prod.fst).Nodup) {k : String} {a : α} :
    entries.lookup k = some a ↔ (k, a) ∈ entries := by
  refine ⟨fun h => ?_, Dict.lookup_of_mem nodup⟩
  obtain ⟨before, after, rfl, -⟩ := List.lookup_eq_some_iff.1 h
  exact List.mem_append_right _ List.mem_cons_self

/-- The order of entries does not matter to looking one up. -/
theorem lookup_eq_of_perm {α : Type} {entries order : List (String × α)}
    (nodup : (order.map Prod.fst).Nodup) (perm : entries.Perm order) (k : String) :
    entries.lookup k = order.lookup k := by
  have nodup' := (perm.map Prod.fst).nodup_iff.2 nodup
  refine Option.ext fun a => ?_
  rw [lookup_eq_some_iff_mem nodup, lookup_eq_some_iff_mem nodup', perm.mem_iff]

/-- What is found among parts spells what is found among members. -/
theorem rel_lookup_of_spells {parts : List (String × Draft)} {members : List (String × Json)}
    (each : List.Forall₂ Draft.SpellsMember parts members) (name : String) :
    Option.Rel Draft.Spells (parts.lookup name) (members.lookup name) := by
  induction each with
  | nil => exact .none
  | @cons part member _ _ first _ ih =>
    rw [Dict.lookup_entry_cons, Dict.lookup_entry_cons, first.1]
    split
    · exact .some first.2
    · exact ih

/-- Parts that spell members, in any order, make a record that spells them. -/
theorem exists_ofParts? {parts order : List (String × Draft)} {members : List (String × Json)}
    (nodup : (members.map Prod.fst).Nodup) (perm : parts.Perm order)
    (each : List.Forall₂ Draft.SpellsMember order members) :
    Record.ofParts? parts = some ⟨parts⟩ ∧ Record.Spells ⟨parts⟩ members := by
  rw [← Draft.keys_eq_of_spellsMember each] at nodup
  refine ⟨if_pos ((perm.map Prod.fst).nodup_iff.2 nodup), fun name => ?_⟩
  show Option.Rel Draft.Spells (parts.lookup name) _
  rw [lookup_eq_of_perm nodup perm]
  exact rel_lookup_of_spells each name

namespace Draft

variable {declared : List Field} {members : List (String × Json)} {d : Draft}

/-- A declared name names its field. -/
theorem exists_find?_of_mem (apart : Field.Apart declared) {name : String}
    (known : name ∈ declared.map Field.name) :
    ∃ f, declared.find? (·.hasName name) = some f ∧ f.name = name := by
  obtain ⟨f, mem, rfl⟩ := List.mem_map.1 known
  exact ⟨f, apart.2 f mem, rfl⟩

/-- Parts that spell declared members have declared names. -/
theorem known_of_spells {parts : List (String × Draft)}
    (each : List.Forall₂ SpellsMember parts members)
    (fields : (members.map Prod.fst).Sublist (declared.map Field.name)) :
    ∀ e ∈ parts, e.1 ∈ declared.map Field.name := by
  intro e mem
  have listed := List.mem_map_of_mem (f := Prod.fst) mem
  rw [keys_eq_of_spellsMember each] at listed
  exact fields.subset listed

/-- Entries with declared names are taken as they are. -/
theorem declaredParts?_keyed (apart : Field.Apart declared) {entries : List (String × Draft)}
    (known : ∀ e ∈ entries, e.1 ∈ declared.map Field.name) :
    Record.declaredParts? declared (entries.map keyed) = some entries := by
  induction entries with
  | nil => rfl
  | cons entry entries ih =>
    obtain ⟨name, part⟩ := entry
    obtain ⟨first, others⟩ := List.forall_mem_cons.1 known
    obtain ⟨f, found, rfl⟩ := exists_find?_of_mem apart first
    have field : Record.fieldOf? declared (text f.name) = some (some f) := congrArg some found
    show (Record.fieldOf? declared (text f.name)).bind _ = _
    rw [field, Option.bind_some]
    show (Record.declaredParts? declared (entries.map keyed)).map _ = _
    rw [ih others]
    rfl

/-- **A record is read** from a draft that spells some of its fields, in any order. -/
theorem Spells.record (spelled : d.Spells (.object members)) (declared : List Field)
    (apart : Field.Apart declared)
    (fields : (members.map Prod.fst).Sublist (declared.map Field.name)) :
    ∃ r, d.record? declared = some r ∧ r.Spells members := by
  obtain ⟨entries, order, rfl, perm, each⟩ := spells_object.1 spelled
  obtain ⟨made, spelled⟩ := exists_ofParts? (fields.nodup apart.1) perm each
  have known : ∀ e ∈ entries, e.1 ∈ declared.map Field.name := fun e mem =>
    known_of_spells each fields e (perm.mem_iff.1 mem)
  refine ⟨⟨entries⟩, ?_, spelled⟩
  rw [record?, declaredParts?_keyed apart known]
  exact made

/-- Entries with texts for keys are taken as they are. -/
theorem namedEntries?_keyed (entries : List (String × Draft)) :
    Record.namedEntries? (entries.map keyed) = some entries := by
  induction entries with
  | nil => rfl
  | cons entry entries ih =>
    show (Record.namedEntries? (entries.map keyed)).map _ = _
    rw [ih]
    rfl

/-- The part of a declared field, under the name of the field. -/
def field? (declared : List Field) (entry : String × Draft) : Option (String × Draft) :=
  (declared.find? (·.hasName entry.1)).map fun f => (f.name, entry.2)

/-- Whether an entry belongs to no declared field. -/
def isFree (declared : List Field) (entry : String × Draft) : Bool :=
  !declared.any (·.hasName entry.1)

/-- **An open record** is the declared entries, and the others as values. -/
theorem openRecord?_keyed (declared : List Field) (entries : List (String × Draft)) :
    (map (entries.map keyed)).openRecord? declared =
      (Record.ofParts? (entries.filterMap (field? declared))).bind fun r =>
        ((entries.filter (isFree declared)).mapM fun (entry : String × Draft) =>
          entry.2.value?.map (entry.1, ·)).bind fun pairs => some (r, Dict.ofList pairs) := by
  rw [openRecord?, namedEntries?_keyed]
  rfl

/-- Declared parts are kept, and they are not free. -/
theorem fields_of_known (apart : Field.Apart declared) {parts : List (String × Draft)}
    (known : ∀ e ∈ parts, e.1 ∈ declared.map Field.name) :
    parts.filterMap (field? declared) = parts ∧ parts.filter (isFree declared) = [] := by
  have kept : ∀ e ∈ parts, field? declared e = some e ∧ ¬ isFree declared e = true := by
    intro e mem
    obtain ⟨f, found, eq⟩ := exists_find?_of_mem apart (known e mem)
    have hasName := List.find?_some (p := fun x : Field => x.hasName e.1) found
    have named : declared.any (·.hasName e.1) = true :=
      List.any_eq_true.2 ⟨f, List.mem_of_find?_eq_some found, hasName⟩
    refine ⟨?_, ?_⟩
    · rw [field?, found, Option.map_some, eq]
    · rw [isFree, named]
      exact Bool.false_ne_true
  refine ⟨?_, List.filter_eq_nil_iff.2 fun e mem => (kept e mem).2⟩
  rw [List.filterMap_congr fun e mem => (kept e mem).1, List.filterMap_some]

/-- Other parts belong to no field. -/
theorem fields_of_free {parts : List (String × Draft)}
    (free : ∀ e ∈ parts, declared.any (·.hasName e.1) = false) :
    parts.filterMap (field? declared) = [] ∧ parts.filter (isFree declared) = parts := by
  have left : ∀ e ∈ parts, field? declared e = none ∧ isFree declared e = true := by
    intro e mem
    have unnamed := List.find?_eq_none.2 (List.any_eq_false.1 (free e mem))
    refine ⟨?_, ?_⟩
    · rw [field?, unnamed, Option.map_none]
    · rw [isFree, free e mem]
      rfl
  exact ⟨List.filterMap_eq_nil_iff.2 fun e mem => (left e mem).1,
    List.filter_eq_self.2 fun e mem => (left e mem).2⟩

/-- **A record that keeps other fields is read** with these. -/
theorem Spells.openRecord {others : Dict Value}
    (spelled : d.Spells (.object (members ++ Value.memberList others))) (declared : List Field)
    (apart : Field.Apart declared)
    (fields : (members.map Prod.fst).Sublist (declared.map Field.name))
    (free : ∀ k ∈ others.keys, declared.any (·.hasName k) = false) :
    ∃ r, d.openRecord? declared = some (r, others) ∧ r.Spells members := by
  obtain ⟨entries, order, rfl, perm, each⟩ := spells_object.1 spelled
  -- In the order of the members, the declared parts come first; the entries mix them up.
  have first := List.forall₂_take_append order members _ each
  have second := List.forall₂_drop_append order members _ each
  rw [← List.take_append_drop members.length order] at perm
  obtain ⟨known, notFree⟩ := fields_of_known apart (known_of_spells first fields)
  have others : ∀ e ∈ order.drop members.length, declared.any (·.hasName e.1) = false := by
    intro e mem
    have listed := List.mem_map_of_mem (f := Prod.fst) mem
    rw [keys_eq_of_spellsMember second, Value.memberList] at listed
    exact free e.1 (Dict.keys_map Value.json _ ▸ listed)
  obtain ⟨notKnown, free⟩ := fields_of_free others
  have knownPerm := perm.filterMap (field? declared)
  have freePerm := perm.filter (isFree declared)
  rw [List.filterMap_append, known, notKnown, List.append_nil] at knownPerm
  rw [List.filter_append, notFree, free, List.nil_append] at freePerm
  obtain ⟨made, spelled⟩ := exists_ofParts? (fields.nodup apart.1) knownPerm first
  obtain ⟨pairs, found, eq⟩ := exists_mapM_of_spells (fun e _ => reads_value e.2) freePerm second
  refine ⟨_, ?_, spelled⟩
  rw [openRecord?_keyed, made, Option.bind_some, found, Option.bind_some, eq]

end Draft

namespace Record

variable {r : Record} {members : List (String × Json)} {name : String} {α : Type}
  {read : Draft → Option α}

/-- A member that is there is spelled by a part. -/
theorem Spells.part (spelled : r.Spells members) {j : Json} (found : members.lookup name = some j) :
    ∃ d, r.part? name = some d ∧ d.Spells j := by
  have rel := spelled name
  rw [found] at rel
  generalize r.part? name = part at rel
  obtain @⟨d, j, spelled⟩ := rel
  exact ⟨d, rfl, spelled⟩

/-- **A field that is written is read back.** -/
theorem Spells.required (spelled : r.Spells members) (name : String) {j : Json}
    (found : members.lookup name = some j) {a : α} (reads : Reads read j a) :
    r.required name read = some a := by
  obtain ⟨d, part, spelled⟩ := spelled.part found
  rw [Record.required, part]
  exact reads d spelled

/-- A field that is there is read back, and its default does not matter. -/
theorem Spells.withDefault (spelled : r.Spells members) (name : String) {j : Json}
    (found : members.lookup name = some j) {a : α} (reads : Reads read j a) (default : α) :
    r.withDefault name default read = some a := by
  obtain ⟨d, part, spelled⟩ := spelled.part found
  rw [Record.withDefault, part]
  exact reads d spelled

/-- A field that is left out has its default. -/
theorem Spells.default (spelled : r.Spells members) (name : String)
    (missing : members.lookup name = none) (default : α) :
    r.withDefault name default read = some default := by
  have rel := spelled name
  rw [missing] at rel
  rw [Record.withDefault]
  generalize r.part? name = part at rel
  cases rel
  rfl

/-- **A field that may be unset is read back**, if nothing that is set is written as null. -/
theorem Spells.optional (spelled : r.Spells members) (name : String) {write : α → Json}
    {value : Option α}
    (found : members.lookup name = some (.ofOption write value))
    (reads : ∀ a ∈ value, write a ≠ .null ∧ Reads read (write a) a) :
    r.optional name read = some value := by
  obtain ⟨d, part, spelled⟩ := spelled.part found
  rw [Record.optional, part]
  cases value with
  | none =>
    obtain rfl := spelled
    rfl
  | some a =>
    obtain ⟨notNull, reads⟩ := reads a rfl
    have set : d ≠ .null := by
      rintro rfl
      exact notNull (Draft.eq_null_of_spells spelled)
    have eq := reads d spelled
    cases d <;> first | exact absurd rfl set | exact congrArg (Option.map some) eq

end Record

/-! ## Readers of JSON values -/

namespace Draft

/-- A draft is a JSON value. -/
def IsValue (d : Draft) : Prop :=
  ∃ v, d = ofValue v

/-- The items of a value are values. -/
theorem isValue_items {items : List Json} (h : Json.CanonicalItems items) :
    ∀ part ∈ ofItems items, part.IsValue := by
  induction items with
  | nil => nofun
  | cons item items ih => exact List.forall_mem_cons.2 ⟨⟨⟨item, h.1⟩, rfl⟩, ih h.2⟩

/-- The members of a value are values. -/
theorem isValue_members {members : List (String × Json)} (h : Json.CanonicalMembers members) :
    ∀ entry ∈ ofMembers members, entry.2.IsValue := by
  induction members with
  | nil => nofun
  | cons member members ih => exact List.forall_mem_cons.2 ⟨⟨⟨member.2, h.1⟩, rfl⟩, ih h.2⟩

/-- The items of a value that is a list are values. -/
theorem IsValue.of_mem_list {parts : List Draft} (h : (list parts).IsValue) :
    ∀ part ∈ parts, part.IsValue := by
  obtain ⟨⟨j, canonical⟩, eq⟩ := h
  cases j with
  | list items =>
    obtain rfl := Draft.list.inj eq
    exact isValue_items canonical
  | _ => cases eq

/-- The entries of a value that is an object are values. -/
theorem IsValue.of_mem_map {entries : List (Draft × Draft)} (h : (map entries).IsValue) :
    ∀ entry ∈ entries, entry.2.IsValue := by
  obtain ⟨⟨j, canonical⟩, eq⟩ := h
  cases j with
  | object members =>
    obtain rfl := Draft.map.inj eq
    exact isValue_members canonical.2
  | _ => cases eq

/-- Only null is read as null. -/
theorem IsValue.eq_null {d : Draft} (h : d.IsValue) (null : d.value? = some .null) :
    d = .null := by
  obtain ⟨v, rfl⟩ := h
  have eq := reads_value v _ (spells_ofJson v.json)
  rw [ofValue] at null
  rw [null] at eq
  obtain rfl := Option.some.inj eq
  rfl

end Draft

/-- Whatever a reader finds in a JSON value has some property. -/
def Yields {α : Type} (read : Draft → Option α) (P : α → Prop) : Prop :=
  ∀ d : Draft, d.IsValue → ∀ a, read d = some a → P a

section Yields

variable {α β : Type} {read : Draft → Option α} {P : α → Prop}

/-- What holds of each result holds of all. -/
theorem forall_of_mapM {f : β → Option α} {bs : List β} {as : List α} (h : bs.mapM f = some as)
    (each : ∀ b ∈ bs, ∀ a, f b = some a → P a) : ∀ a ∈ as, P a := by
  have found := mapM_eq_some_iff.1 h
  clear h
  induction found with
  | nil => nofun
  | cons first _ ih =>
    obtain ⟨step, each⟩ := List.forall_mem_cons.1 each
    exact List.forall_mem_cons.2 ⟨step _ first, ih each⟩

/-- A reader of lists yields what the reader of items does. -/
theorem Yields.listOf (yields : Yields read P) :
    Yields (Draft.listOf? read) fun as => ∀ a ∈ as, P a := by
  intro d value as h
  cases d with
  | list parts => exact forall_of_mapM h fun part mem => yields part (value.of_mem_list part mem)
  | _ => cases h

/-- The entries of a dictionary are among the pairs that it is made of. -/
theorem Dict.mem_of_mem_ofList {pairs : List (String × α)} {e : String × α}
    (mem : e ∈ (Dict.ofList pairs).entries) : e ∈ pairs := by
  suffices h : ∀ (pairs : List (String × α)) (d : Dict α),
      e ∈ (pairs.foldl (fun d pair => d.insert pair.1 pair.2) d).entries →
        e ∈ d.entries ∨ e ∈ pairs from
    (h pairs Dict.empty mem).resolve_left nofun
  intro pairs
  induction pairs with
  | nil => exact fun _ => .inl
  | cons pair pairs ih =>
    intro d mem
    rcases ih _ mem with old | new
    · have found := Dict.find?_of_mem old
      rw [Dict.find?_insert] at found
      split at found
      next eq =>
        have same : e = pair := Prod.ext eq (Option.some.inj found).symm
        exact .inr (same ▸ List.mem_cons_self)
      next => exact .inl (Dict.mem_of_find? found)
    · exact .inr (List.mem_cons_of_mem _ new)

/-- A reader of maps yields what the reader of values does. -/
theorem Yields.dictOf (yields : Yields read P) :
    Yields (Draft.dictOf? read) fun dict => ∀ e ∈ dict.entries, P e.2 := by
  intro d value dict h
  cases d with
  | map entries =>
    obtain ⟨pairs, found, rfl⟩ := Option.map_eq_some_iff.1 h
    have each : ∀ pair ∈ pairs, P pair.2 := by
      refine forall_of_mapM found fun entry mem pair eq => ?_
      obtain ⟨k, -, eq⟩ := Option.bind_eq_some_iff.1 eq
      obtain ⟨a, read, rfl⟩ := Option.map_eq_some_iff.1 eq
      exact yields entry.2 (value.of_mem_map entry mem) a read
    exact fun e mem => each e (Dict.mem_of_mem_ofList mem)
  | _ => cases h

end Yields

/-! ### Records of JSON values -/

/-- All parts of a record are JSON values. -/
def Record.OfValue (r : Record) : Prop :=
  ∀ x ∈ r.parts, x.2.IsValue

namespace Record

variable {α : Type} {r : Record} {read : Draft → Option α} {P : α → Prop}

/-- The parts of a record that was read off a value are values. -/
theorem OfValue.part (value : r.OfValue) {name : String} {part : Draft}
    (h : r.part? name = some part) : part.IsValue := by
  obtain ⟨before, after, split, -⟩ := List.lookup_eq_some_iff.1 h
  exact value (name, part) (split ▸ List.mem_append_right _ List.mem_cons_self)

/-- A field with a default is what its reader yields, or the default. -/
theorem OfValue.withDefault (value : r.OfValue) {name : String} {default a : α}
    (h : r.withDefault name default read = some a) (yields : Yields read P) (base : P default) :
    P a := by
  unfold Record.withDefault at h
  split at h
  next => exact Option.some.inj h ▸ base
  next part found => exact yields part (value.part found) a h

/-- A field that may be missing is what its reader yields. -/
theorem OfValue.optional (value : r.OfValue) {name : String} {x : Option α}
    (h : r.optional name read = some x) (yields : Yields read P) : ∀ a ∈ x, P a := by
  unfold Record.optional at h
  split at h
  next =>
    obtain rfl := Option.some.inj h
    nofun
  next =>
    obtain rfl := Option.some.inj h
    nofun
  next part _ found =>
    obtain ⟨b, read, rfl⟩ := Option.map_eq_some_iff.1 h
    intro a eq
    obtain rfl := Option.some.inj eq
    exact yields part (value.part found) _ read

/-- Null is read as a part that is not set. -/
theorem OfValue.optional_ne_null (value : r.OfValue) {name : String} {x : Option Value}
    (h : r.optional name Draft.value? = some x) : x ≠ some .null := by
  rintro rfl
  unfold Record.optional at h
  split at h
  next => cases h
  next => cases h
  next part notNull found =>
    obtain ⟨v, read, eq⟩ := Option.map_eq_some_iff.1 h
    obtain rfl := Option.some.inj eq
    exact notNull ((value.part found).eq_null read)

end Record

namespace Draft

variable {d : Draft} {declared : List Field} {r : Record}

/-- A record consists of its parts. -/
theorem eq_of_ofParts? {parts : List (String × Draft)} (h : Record.ofParts? parts = some r) :
    r = ⟨parts⟩ := by
  unfold Record.ofParts? at h
  split at h
  · exact (Option.some.inj h).symm
  · cases h

/-- The declared parts of a value are values. -/
theorem isValue_declaredParts {entries : List (Draft × Draft)}
    (value : ∀ e ∈ entries, e.2.IsValue) {parts : List (String × Draft)}
    (h : Record.declaredParts? declared entries = some parts) : ∀ x ∈ parts, x.2.IsValue := by
  induction entries generalizing parts with
  | nil =>
    obtain rfl := Option.some.inj h
    exact fun _ mem => absurd mem List.not_mem_nil
  | cons entry entries ih =>
    obtain ⟨first, others⟩ := List.forall_mem_cons.1 value
    obtain ⟨field, -, h⟩ := Option.bind_eq_some_iff.1 h
    cases field with
    | none => exact ih others h
    | some field =>
      obtain ⟨rest, tail, rfl⟩ := Option.map_eq_some_iff.1 h
      exact List.forall_mem_cons.2 ⟨first, ih others tail⟩

/-- A record that is read off a value has values for parts. -/
theorem IsValue.record (value : d.IsValue) (h : d.record? declared = some r) : r.OfValue := by
  cases d with
  | map entries =>
    obtain ⟨parts, found, h⟩ := Option.bind_eq_some_iff.1 h
    obtain rfl := eq_of_ofParts? h
    exact isValue_declaredParts value.of_mem_map found
  | list items =>
    rw [record?] at h
    split at h
    · obtain rfl := Option.some.inj h
      exact fun x mem => value.of_mem_list x.2 (List.of_mem_zip mem).2
    · cases h
  | _ => cases h

/-- The named entries of a value are values. -/
theorem isValue_namedEntries {entries : List (Draft × Draft)}
    (value : ∀ e ∈ entries, e.2.IsValue) {named : List (String × Draft)}
    (h : Record.namedEntries? entries = some named) : ∀ x ∈ named, x.2.IsValue := by
  induction entries generalizing named with
  | nil =>
    obtain rfl := Option.some.inj h
    exact fun _ mem => absurd mem List.not_mem_nil
  | cons entry entries ih =>
    obtain ⟨first, others⟩ := List.forall_mem_cons.1 value
    obtain ⟨name, -, h⟩ := Option.bind_eq_some_iff.1 h
    obtain ⟨rest, tail, rfl⟩ := Option.map_eq_some_iff.1 h
    exact List.forall_mem_cons.2 ⟨first, ih others tail⟩

/-- The names of declared fields are not among the other fields. -/
theorem IsValue.openRecord (value : d.IsValue) {others : Dict Value}
    (h : d.openRecord? declared = some (r, others)) :
    r.OfValue ∧ ∀ k ∈ others.keys, declared.any (·.hasName k) = false := by
  cases d with
  | map entries =>
    obtain ⟨named, found, h⟩ := Option.bind_eq_some_iff.1 h
    obtain ⟨record, made, h⟩ := Option.bind_eq_some_iff.1 h
    obtain ⟨pairs, walked, h⟩ := Option.bind_eq_some_iff.1 h
    obtain ⟨rfl, rfl⟩ := Prod.mk.inj (Option.some.inj h)
    have values := isValue_namedEntries value.of_mem_map found
    refine ⟨?_, ?_⟩
    · obtain rfl := eq_of_ofParts? made
      intro x mem
      obtain ⟨entry, listed, eq⟩ := List.mem_filterMap.1 mem
      obtain ⟨f, -, rfl⟩ := Option.map_eq_some_iff.1 eq
      exact values entry listed
    · intro k mem
      obtain ⟨e, listed, rfl⟩ := List.mem_map.1 mem
      have free : ∀ pair ∈ pairs, declared.any (·.hasName pair.1) = false := by
        refine forall_of_mapM walked fun entry mem pair eq => ?_
        obtain ⟨v, -, rfl⟩ := Option.map_eq_some_iff.1 eq
        exact (Bool.not_eq_eq_eq_not.1 (List.mem_filter.1 mem).2).trans rfl
      exact free e (Dict.mem_of_mem_ofList listed)
  | _ => cases h

end Draft

end EventGateway
