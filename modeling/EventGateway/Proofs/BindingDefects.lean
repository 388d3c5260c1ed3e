import EventGateway.Proofs.Irrelevance
import EventGateway.Proofs.ValueParts
import Mathlib.Data.Rat.Floor

/-!
# What is left out of binding information

Binding information is read in spite of its defects: what has another type or is not known is left
out.  Here it is said without the readers which parts these are.  Each section has a table of its
keys and their types (`Section.fields`), and the defects are listed from the tables (`defects`):
section by section, in each section first what is mistyped, in the order of the table, and then what
nobody knows, in ascending order.

Reading is the same as taking out the parts that are reported and reading what is left, which then
has no defects.  For a section this is a matter of its keys one by one: a key is left with its value
or it is taken out, and it is left if the reader takes it or passes it over (`Cleans`).

## Main statements

* `Number.truncate_eq` — integers are the numbers rounded toward zero, within 64 bits.
* `defects_read` — what is reported.
* `read_cleaned` — reading what is left.
* `decode_cleaned` — all of it, for binding information as a whole.
-/

namespace EventGateway

/-! ## Integers -/

namespace Number

/-- The rational number that a number stands for. -/
def value : Number → ℚ
  | integer n => n
  | float bits =>
    match Decimal.Binary.ofBits? bits with
    | none => 0
    | some x => (if Decimal.isNegative bits then -1 else 1) * (x.mantissa * 2 ^ x.exponent)

/-- The next integer toward zero. -/
def towardZero (q : ℚ) : ℤ :=
  if 0 ≤ q then ⌊q⌋ else ⌈q⌉

/-- Numerator and denominator stand for a whole number times a power. -/
theorem ratio_eq (n base : ℕ) (e : ℤ) :
    ((Decimal.ratio n base e).1 : ℚ) / (Decimal.ratio n base e).2 = n * base ^ e := by
  unfold Decimal.ratio
  split
  next nonneg =>
    obtain ⟨k, rfl⟩ := Int.eq_ofNat_of_zero_le nonneg
    simp
  next negative =>
    obtain ⟨k, hk⟩ := Int.eq_ofNat_of_zero_le (by omega : 0 ≤ -e)
    obtain rfl : e = -(k : ℤ) := by omega
    simp [div_eq_mul_inv]

/-- Rounding toward zero goes well with the sign. -/
theorem towardZero_neg (q : ℚ) : towardZero (-q) = -towardZero q := by
  unfold towardZero
  rcases lt_trichotomy q 0 with negative | rfl | positive
  · rw [if_pos (by linarith), if_neg (by linarith), Int.floor_neg]
  · simp
  · rw [if_neg (by linarith), if_pos (by linarith), Int.ceil_neg]

/-- Between whole numbers, rounding toward zero is their quotient. -/
theorem towardZero_div (num den : ℕ) : towardZero (num / den) = (num / den : ℕ) := by
  rw [towardZero, if_pos (by positivity), Rat.floor_natCast_div_natCast]
  rfl

/-- The integer part of a floating-point number. -/
theorem integerPart_eq (bits : UInt64) : integerPart bits = towardZero (value (.float bits)) := by
  rw [integerPart, value]
  cases Decimal.Binary.ofBits? bits with
  | none => simp [towardZero]
  | some x =>
    have whole : towardZero (x.mantissa * 2 ^ x.exponent) =
        ((Decimal.ratio x.mantissa 2 x.exponent).1 /
          (Decimal.ratio x.mantissa 2 x.exponent).2 : ℕ) := by
      rw [← towardZero_div, ratio_eq, Nat.cast_ofNat]
    cases Decimal.isNegative bits with
    | false => simp [whole]
    | true => simp [towardZero_neg, whole]

/-- Rounding keeps the order of magnitude. -/
theorem pow_log2_le_nearest {n : ℕ} (pos : n ≠ 0) : 2 ^ n.log2 ≤ nearest n := by
  have below : 2 ^ n.log2 ≤ n / 2 ^ (n.log2 - 52) * 2 ^ (n.log2 - 52) := by
    rcases Nat.lt_or_ge n.log2 52 with small | large
    · rw [Nat.sub_eq_zero_of_le small.le, pow_zero, Nat.div_one, Nat.mul_one]
      exact Nat.log2_self_le pos
    · have split : 2 ^ n.log2 = 2 ^ 52 * 2 ^ (n.log2 - 52) := by
        rw [← pow_add, Nat.add_sub_cancel' large]
      have digits : 2 ^ 52 ≤ n / 2 ^ (n.log2 - 52) := by
        rw [Nat.le_div_iff_mul_le (by positivity), ← split]
        exact Nat.log2_self_le pos
      exact split.le.trans (Nat.mul_le_mul_right _ digits)
  unfold nearest
  simp only [Nat.pow_eq]
  split
  · exact below
  · exact below.trans (Nat.mul_le_mul_right _ (Nat.le_succ _))

/-- An integer that is too large for 64 bits does not get small by rounding. -/
theorem le_nearest {n : ℕ} (large : 2 ^ 63 ≤ n) : 2 ^ 63 ≤ nearest n := by
  have pos : n ≠ 0 := by omega
  have log : 63 ≤ n.log2 := (Nat.le_log2 pos).2 large
  exact (Nat.pow_le_pow_right (by decide) log).trans (pow_log2_le_nearest pos)

/-- **Integers** are kept within the integers of 64 bits, however those outside are rounded. -/
theorem truncate_integer (n : ℤ) : truncate (.integer n) = clamp n := by
  have least : minInteger = -2 ^ 63 := rfl
  have greatest : maxInteger = 2 ^ 63 - 1 := rfl
  simp only [truncate, integer?, wholePart]
  split
  next within =>
    rw [Option.getD_some, clamp]
    omega
  next outside =>
    rw [Option.getD_none, clamp, clamp]
    have rounded := le_nearest (n := n.natAbs)
    rcases lt_trichotomy n 0 with negative | rfl | positive
    · rw [Int.sign_eq_neg_one_of_neg negative]
      omega
    · rw [least, greatest] at outside
      omega
    · rw [Int.sign_eq_one_of_pos positive]
      omega

/-- **Numbers as integers** are rounded toward zero, within the integers of 64 bits. -/
theorem truncate_eq (n : Number) : n.truncate = clamp (towardZero n.value) := by
  cases n with
  | integer n =>
    rw [truncate_integer, value, towardZero, Int.floor_intCast, Int.ceil_intCast, ite_self]
  | float bits => rw [truncate, integer?, Option.getD_none, wholePart, integerPart_eq]

end Number

namespace AsyncApi

/-! ## Defects -/

/-- The keys of a section that are known, with the types of their values. -/
def Section.fields : Section → List (String × Kind)
  | http => [("method", .string), ("headers", .stringMap), ("proxy", .string),
      ("timeout", .number), ("skipVerify", .boolean), ("useSystemCert", .boolean)]
  | mqtt => [("replyTopic", .string), ("qos", .number), ("store", .string),
      ("cleanSession", .boolean), ("skipVerify", .boolean), ("useSystemCert", .boolean)]
  | kafka => [("partitions", .string), ("offset", .number)]

/-- The defect of a field, if it is mistyped. -/
def fieldDefect? (part : Section) (members : Dict Value) (field : String × Kind) :
    Option Defect :=
  (members.find? field.1).bind fun value =>
    if value.isNull || field.2.admits value then none
    else some (.mistyped part field.1 field.2 value)

/-- The defects of the members of a section. -/
def memberDefects (part : Section) (members : Dict Value) : List Defect :=
  part.fields.filterMap (fieldDefect? part members) ++
    (members.keys.filter fun key => key ∉ part.fields.map Prod.fst).map (.unknownKey part)

/-- The defects of a section. -/
def sectionDefects (root : Dict Value) (part : Section) : List Defect :=
  match shown? root part.key with
  | none => []
  | some value =>
    match value.members? with
    | none => [.sectionNoObject part]
    | some members => memberDefects part members

/-- The defects of binding information. -/
def defects (raw : Option Value) : List Defect :=
  match raw.filter (!·.isNull) with
  | none => []
  | some value =>
    match value.members? with
    | none => [.noObject]
    | some root => [Section.http, .mqtt, .kafka].flatMap (sectionDefects root)

/-- Where the part stands that is left out. -/
def Defect.place : Defect → List String
  | noObject => []
  | sectionNoObject part => [part.key]
  | mistyped part key _ _ => [part.key, key]
  | unknownKey part key => [part.key, key]

/-- What is left of binding information without the parts that some defects are about. -/
def cleaned (raw : Option Value) (reported : List Defect) : Option Value :=
  Value.withoutAll raw (reported.map Defect.place)

/-! ## What is reported -/

/-- A map of texts is an object whose members are all texts. -/
theorem admits_stringMap_iff {v : Value} : Kind.stringMap.admits v = true ↔
    ∃ members, v.members? = some members ∧ ∀ value ∈ members.values, ∃ s, value.text? = some s := by
  show (stringMap? v).isSome = true ↔ _
  unfold stringMap?
  cases v.members? with
  | none => simp
  | some members => by_cases all : members.values.all (·.text?.isSome) = true <;>
      simp_all [Option.isSome_iff_exists]

/-- A value is read as a text if it is admitted as one. -/
theorem typed_text (v : Value) : v.text?.isSome = Kind.string.admits v := rfl

/-- A value is read as a truth value if it is admitted as one. -/
theorem typed_bool (v : Value) : v.bool?.isSome = Kind.boolean.admits v := rfl

/-- A value is read as an integer if it is admitted as a number. -/
theorem typed_integer (v : Value) : (integer? v).isSome = Kind.number.admits v :=
  Option.isSome_map

/-- A value is read as a map of texts if it is admitted as one. -/
theorem typed_stringMap (v : Value) : (stringMap? v).isSome = Kind.stringMap.admits v := rfl

section Keys

variable {α : Type} {part : Section} {members left : Dict Value} {key : String} {kind : Kind}
  {read : Value → Option α}

/-- What is reported of a key. -/
theorem readKey_snd (typed : ∀ v, (read v).isSome = kind.admits v) :
    (readKey part members key kind read).2 = (fieldDefect? part members (key, kind)).toList := by
  simp only [readKey, fieldDefect?]
  cases members.find? key with
  | none => rfl
  | some value =>
    have admits := typed value
    cases null : value.isNull <;> cases taken : read value <;> simp_all

/-- Whether a member of a section is left in it: it has a known key, and is null or of the right
type. -/
def Section.keeps (part : Section) (key : String) (v : Value) : Bool :=
  (part.fields.lookup key).any fun kind => v.isNull || kind.admits v

/-- One dictionary is what is left of another one in a section. -/
def Cleans (part : Section) (members left : Dict Value) : Prop :=
  ∀ key, left.find? key = (members.find? key).filter (part.keeps key)

/-- **A known key is read from what is left**, and nothing is reported. -/
theorem readKey_of_cleans (clean : Cleans part members left) (key : String)
    (known : part.fields.lookup key = some kind) (typed : ∀ v, (read v).isSome = kind.admits v) :
    readKey part left key kind read = ((readKey part members key kind read).1, []) := by
  unfold readKey
  rw [clean key]
  cases members.find? key with
  | none => rfl
  | some value =>
    have keeps : part.keeps key value = (value.isNull || (read value).isSome) := by
      rw [Section.keeps, known, Option.any_some, typed]
    cases null : value.isNull <;> cases taken : read value <;>
      simp [Option.filter, keeps, null, taken]

/-- What is left has no keys that nobody knows. -/
theorem unknownKeys_of_cleans (clean : Cleans part members left) :
    unknownKeys part left (part.fields.map Prod.fst) = [] := by
  refine List.map_eq_nil_iff.2 (List.filter_eq_nil_iff.2 fun key mem => ?_)
  obtain ⟨value, found⟩ := Option.isSome_iff_exists.1 (Dict.mem_keys_iff.1 mem)
  rw [clean key] at found
  obtain ⟨-, keeps⟩ := Option.filter_eq_some_iff.1 found
  obtain ⟨kind, known, -⟩ := (Option.any_eq_true _ _).1 keeps
  simpa using ⟨kind, Dict.mem_of_lookup known⟩

end Keys

/-! ## Sections -/

/-- A section is read from what is left of it as from itself, and its defects are reported. -/
structure Reports {α : Type} (part : Section) (read : Dict Value → α × List Defect) : Prop where
  defects : ∀ members, (read members).2 = memberDefects part members
  cleaned : ∀ members left, Cleans part members left → read left = ((read members).1, [])

/-- The reader of HTTP information reports what is wrong with its fields. -/
theorem HttpInfo.reports : Reports .http HttpInfo.read where
  defects members := by
    simp only [HttpInfo.read, readKey_snd typed_text, readKey_snd typed_stringMap,
      readKey_snd typed_integer, readKey_snd typed_bool]
    simp [memberDefects, List.filterMap_eq_flatMap_toList, Section.fields, unknownKeys]
  cleaned members left clean := by
    have unknown : unknownKeys .http left
        ["method", "headers", "proxy", "timeout", "skipVerify", "useSystemCert"] = [] :=
      unknownKeys_of_cleans clean
    simp only [HttpInfo.read, readKey_of_cleans clean "method" rfl typed_text,
      readKey_of_cleans clean "headers" rfl typed_stringMap,
      readKey_of_cleans clean "proxy" rfl typed_text,
      readKey_of_cleans clean "timeout" rfl typed_integer,
      readKey_of_cleans clean "skipVerify" rfl typed_bool,
      readKey_of_cleans clean "useSystemCert" rfl typed_bool, unknown, List.append_nil]

/-- The reader of MQTT information reports what is wrong with its fields. -/
theorem MqttInfo.reports : Reports .mqtt MqttInfo.read where
  defects members := by
    simp only [MqttInfo.read, readKey_snd typed_text, readKey_snd typed_integer,
      readKey_snd typed_bool]
    simp [memberDefects, List.filterMap_eq_flatMap_toList, Section.fields, unknownKeys]
  cleaned members left clean := by
    have unknown : unknownKeys .mqtt left
        ["replyTopic", "qos", "store", "cleanSession", "skipVerify", "useSystemCert"] = [] :=
      unknownKeys_of_cleans clean
    simp only [MqttInfo.read, readKey_of_cleans clean "replyTopic" rfl typed_text,
      readKey_of_cleans clean "qos" rfl typed_integer,
      readKey_of_cleans clean "store" rfl typed_text,
      readKey_of_cleans clean "cleanSession" rfl typed_bool,
      readKey_of_cleans clean "skipVerify" rfl typed_bool,
      readKey_of_cleans clean "useSystemCert" rfl typed_bool, unknown, List.append_nil]

/-- The reader of Kafka information reports what is wrong with its fields. -/
theorem KafkaInfo.reports : Reports .kafka KafkaInfo.read where
  defects members := by
    simp only [KafkaInfo.read, readKey_snd typed_text, readKey_snd typed_integer]
    simp [memberDefects, List.filterMap_eq_flatMap_toList, Section.fields, unknownKeys]
  cleaned members left clean := by
    have unknown : unknownKeys .kafka left ["partitions", "offset"] = [] :=
      unknownKeys_of_cleans clean
    simp only [KafkaInfo.read, readKey_of_cleans clean "partitions" rfl typed_text,
      readKey_of_cleans clean "offset" rfl typed_integer, unknown, List.append_nil]

/-- The keys of the members that are reported. -/
def reportedKeys (part : Section) (members : Dict Value) : List String :=
  (part.fields.filterMap fun field => (fieldDefect? part members field).map fun _ => field.1) ++
    members.keys.filter fun key => key ∉ part.fields.map Prod.fst

/-- The defects of a section are found at the keys that it reports, in their order. -/
theorem places_memberDefects (part : Section) (members : Dict Value) :
    (memberDefects part members).map Defect.place =
      (reportedKeys part members).map fun key => [part.key, key] := by
  have fields : ∀ field, (fieldDefect? part members field).map Defect.place =
      ((fieldDefect? part members field).map fun _ => field.1).map fun key => [part.key, key] := by
    intro field
    unfold fieldDefect?
    cases members.find? field.1 with
    | none => rfl
    | some value => rw [Option.bind_some]; split <;> rfl
  rw [memberDefects, reportedKeys, List.map_append, List.map_append, List.map_filterMap,
    List.map_filterMap, List.filterMap_congr fun field _ => fields field, List.map_map]
  rfl

/-- No section has two fields of one name. -/
theorem nodup_fields (part : Section) : (part.fields.map Prod.fst).Nodup := by
  cases part <;> decide

/-- A known key is reported if its value has another type. -/
theorem mem_mistypedKeys_iff {part : Section} {members : Dict Value} {key : String} :
    key ∈ part.fields.filterMap
        (fun field => (fieldDefect? part members field).map fun _ => field.1) ↔
      ∃ kind, part.fields.lookup key = some kind ∧
        ∃ value, members.find? key = some value ∧ (value.isNull || kind.admits value) = false := by
  rw [List.mem_filterMap]
  constructor
  · rintro ⟨⟨k, kind⟩, mem, eq⟩
    obtain ⟨defect, reported, rfl⟩ := Option.map_eq_some_iff.1 eq
    obtain ⟨value, found, reported⟩ := Option.bind_eq_some_iff.1 reported
    refine ⟨kind, Dict.lookup_of_mem (nodup_fields part) mem, value, found, ?_⟩
    by_contra good
    rw [if_pos (Bool.eq_true_of_not_eq_false good)] at reported
    cases reported
  · rintro ⟨kind, known, value, found, bad⟩
    refine ⟨(key, kind), Dict.mem_of_lookup known, ?_⟩
    rw [fieldDefect?, found, Option.bind_some, bad]
    rfl

/-- What is reported is what is not kept. -/
theorem mem_reportedKeys_iff {part : Section} {members : Dict Value} {key : String} :
    key ∈ reportedKeys part members ↔
      ∃ value, members.find? key = some value ∧ part.keeps key value = false := by
  rw [reportedKeys, List.mem_append, mem_mistypedKeys_iff, List.mem_filter, decide_eq_true_iff,
    ← Dict.lookup_eq_none_iff, Dict.mem_keys_iff, Option.isSome_iff_exists]
  unfold Section.keeps
  cases part.fields.lookup key <;> simp

/-- **The members of a section** without what is reported. -/
theorem exists_cleans (part : Section) (members : Dict Value) :
    ∃ left : Dict Value, Value.withoutAll (some (.object members))
        ((reportedKeys part members).map fun key => [key]) = some (.object left) ∧
      Cleans part members left := by
  obtain ⟨left, eq, found⟩ := Value.withoutAll_keys members (reportedKeys part members)
  refine ⟨left, eq, fun key => ?_⟩
  rw [found]
  by_cases reported : key ∈ reportedKeys part members
  · obtain ⟨value, there, drops⟩ := mem_reportedKeys_iff.1 reported
    rw [if_pos reported, there]
    simp [Option.filter, drops]
  · rw [if_neg reported]
    cases there : members.find? key with
    | none => rfl
    | some value =>
      have keeps : part.keeps key value = true := by
        by_contra drops
        exact reported (mem_reportedKeys_iff.2 ⟨value, there, Bool.eq_false_of_not_eq_true drops⟩)
      simp [Option.filter, keeps]

/-- What is reported of a section. -/
theorem readSection_snd {α : Type} {part : Section} {read : Dict Value → α × List Defect}
    (reports : Reports part read) (root : Dict Value) :
    (readSection part root read).2 = sectionDefects root part := by
  rw [readSection_eq, sectionDefects]
  cases shown? root part.key with
  | none => rfl
  | some value => cases object : value.members? <;> simp [object, reports.defects]

/-- **A section is read from what is left of it**, and nothing is reported. -/
theorem readSection_of_left {α : Type} {part : Section} {read : Dict Value → α × List Defect}
    (reports : Reports part read) {root left : Dict Value}
    (h : left.find? part.key = Value.withoutAll (root.find? part.key)
      (Value.inside part.key ((sectionDefects root part).map Defect.place))) :
    readSection part left read = ((readSection part root read).1, []) := by
  rw [sectionDefects] at h
  rw [readSection_eq, readSection_eq]
  obtain ⟨missing, shown⟩ | ⟨value, found, ⟨null, shown⟩ | ⟨set, shown⟩⟩ :=
    shown?_cases root part.key
  · rw [shown, missing] at h
    have shownLeft : shown? left part.key = none := by rw [shown?, h]; rfl
    rw [shown, shownLeft]
  · -- A `null` reports nothing, so it is left as it was and hidden again.
    rw [shown, found] at h
    have shownLeft : shown? left part.key = none := by
      rw [shown?, show left.find? part.key = some value from h]
      simp [Option.filter, null]
    rw [shown, shownLeft]
  · rw [shown, found] at h
    cases object : value.members? with
    | none =>
      -- What is no object is reported as a whole, and so it is gone as a whole.
      have gone : left.find? part.key = none := by
        rw [h]
        simp [object, Defect.place, Value.inside_cons_cons, Value.without]
      have shownLeft : shown? left part.key = none := by rw [shown?, gone]; rfl
      simp only [shown, shownLeft, object]
    | some members =>
      obtain ⟨members', eq, clean⟩ := exists_cleans part members
      have inside : ∀ keys : List String,
          Value.inside part.key (keys.map fun key => [part.key, key]) =
            keys.map fun key => [key] := by
        intro keys
        simp [Value.inside, List.filterMap_map]
      have there : left.find? part.key = some (.object members') := by
        rw [h, ← eq, Value.eq_object_of_members? object]
        simp only [Value.members?_object, places_memberDefects, inside]
      have shownLeft : shown? left part.key = some (.object members') := by
        rw [shown?, there]
        rfl
      simp only [shown, object, shownLeft, Value.members?_object, reports.cleaned _ _ clean]

/-! ## Binding information -/

/-- **What is reported**, in which order. -/
theorem defects_read (raw : Option Value) : (OperationBindings.read raw).2 = defects raw := by
  unfold OperationBindings.read defects
  cases raw with
  | none => rfl
  | some value =>
    cases null : value.isNull with
    | true => simp [Option.filter, null]
    | false =>
      cases object : value.members? with
      | none => simp [Option.filter, null, object]
      | some root =>
        simp [Option.filter, null, object, readSection_snd HttpInfo.reports,
          readSection_snd MqttInfo.reports, readSection_snd KafkaInfo.reports]

/-- The defects of a section are found inside it. -/
theorem place_of_mem_sectionDefects {root : Dict Value} {part : Section} {place : List String}
    (mem : place ∈ (sectionDefects root part).map Defect.place) :
    ∃ rest, place = part.key :: rest := by
  unfold sectionDefects at mem
  split at mem
  · cases mem
  · split at mem
    · exact ⟨[], List.mem_singleton.1 mem⟩
    · rw [places_memberDefects] at mem
      obtain ⟨key, -, rfl⟩ := List.mem_map.1 mem
      exact ⟨[key], rfl⟩

/-- The sections have nothing to do with each other. -/
theorem inside_places (root : Dict Value) (part : Section) :
    Value.inside part.key
        (([Section.http, .mqtt, .kafka].flatMap (sectionDefects root)).map Defect.place) =
      Value.inside part.key ((sectionDefects root part).map Defect.place) := by
  have other : ∀ part' : Section, part'.key ≠ part.key →
      Value.inside part.key ((sectionDefects root part').map Defect.place) = [] :=
    fun part' ne => Value.inside_eq_nil (fun _ mem => place_of_mem_sectionDefects mem) ne
  simp only [List.flatMap_cons, List.flatMap_nil, List.append_nil, List.map_append,
    Value.inside_append]
  cases part with
  | http => simp [other .mqtt (by decide), other .kafka (by decide)]
  | mqtt => simp [other .http (by decide), other .kafka (by decide)]
  | kafka => simp [other .http (by decide), other .mqtt (by decide)]

/-- What is left of an object, section by section. -/
theorem exists_cleaned (root : Dict Value) :
    ∃ left : Dict Value, cleaned (some (.object root))
        ([Section.http, .mqtt, .kafka].flatMap (sectionDefects root)) = some (.object left) ∧
      ∀ part : Section, left.find? part.key = Value.withoutAll (root.find? part.key)
        (Value.inside part.key ((sectionDefects root part).map Defect.place)) := by
  have proper : [] ∉
      ([Section.http, .mqtt, .kafka].flatMap (sectionDefects root)).map Defect.place := by
    rw [List.map_flatMap]
    intro mem
    obtain ⟨part, -, mem⟩ := List.mem_flatMap.1 mem
    obtain ⟨rest, eq⟩ := place_of_mem_sectionDefects mem
    cases eq
  obtain ⟨left, eq, found⟩ := Value.withoutAll_object root proper
  exact ⟨left, eq, fun part => by rw [found, inside_places]⟩

/-- **Reading what is left** gives the same, and nothing is reported. -/
theorem read_cleaned (raw : Option Value) :
    OperationBindings.read (cleaned raw (defects raw)) = ((OperationBindings.read raw).1, []) := by
  unfold defects
  cases raw with
  | none => rfl
  | some value =>
    cases null : value.isNull with
    | true => simp [Option.filter, null, cleaned, OperationBindings.read]
    | false =>
      cases object : value.members? with
      | none => simp [Option.filter, null, object, cleaned, Defect.place, Value.without,
          OperationBindings.read]
      | some root =>
        obtain ⟨left, eq, each⟩ := exists_cleaned root
        have there : cleaned (some value)
            ([Section.http, .mqtt, .kafka].flatMap (sectionDefects root)) =
            some (.object left) := by
          rw [Value.eq_object_of_members? object, eq]
        simp only [Option.filter, null, object, Bool.not_false, if_true, there,
          OperationBindings.read, isNull_of_members? (Value.members?_object left),
          Value.members?_object, readSection_of_left HttpInfo.reports (each .http),
          readSection_of_left MqttInfo.reports (each .mqtt),
          readSection_of_left KafkaInfo.reports (each .kafka)]
        rfl

/-! ## The integers of binding information -/

/-- The key of the integer of a section. -/
def Section.integerKey : Section → String
  | http => "timeout"
  | mqtt => "qos"
  | kafka => "offset"

/-- The integer of a section. -/
def OperationBindings.integerOf? (b : OperationBindings) : Section → Option Int
  | .http => b.http.bind HttpInfo.timeout
  | .mqtt => b.mqtt.bind MqttInfo.qos
  | .kafka => b.kafka.bind KafkaInfo.offset

/-- Each section has one field that holds a number. -/
theorem mem_fields_number_iff {part : Section} {key : String} :
    (key, Kind.number) ∈ part.fields ↔ key = part.integerKey := by
  cases part <;> simp [Section.fields, Section.integerKey]

/-- A number is read as the integer that is left of it. -/
theorem readKey_of_number (part : Section) {members : Dict Value} {key : String} {v : Value}
    {n : Number} (found : members.find? key = some v) (number : v.number? = some n) :
    (readKey part members key .number integer?).1 = some n.truncate := by
  have set : v.isNull = false := by
    obtain ⟨json, canonical⟩ := v
    cases json <;> first | rfl | cases number
  simp [readKey, found, set, integer?, number]

/-- **An integer of binding information** is what the number is rounded to. -/
theorem integerOf?_read {raw : Option Value} {part : Section} {v : Value} {n : Number}
    (there : raw.bind (Value.at? [part.key, part.integerKey]) = some v)
    (number : v.number? = some n) :
    (OperationBindings.read raw).1.integerOf? part = some n.truncate := by
  obtain ⟨value, rfl, there⟩ := Option.bind_eq_some_iff.1 there
  obtain ⟨root, inner, object, found, there⟩ := Value.at?_cons_eq_some.1 there
  obtain ⟨members, last, object', found', there⟩ := Value.at?_cons_eq_some.1 there
  obtain rfl : last = v := Option.some.inj there
  have sections : ∀ {α : Type} (read : Dict Value → α × List Defect),
      (readSection part root read).1 = some (read members).1 := by
    intro α read
    simp [readSection, found, isNull_of_members? object', object']
  have inside := readKey_of_number part found' number
  simp only [OperationBindings.read, isNull_of_members? object, object]
  cases part <;> simp only [OperationBindings.integerOf?, sections] <;> exact inside

/-! ## All of it -/

/-- Reads the binding information of an owner, with the texts of what is left out. -/
def OperationBindings.decode (owner : String) (raw : Option Value) :
    OperationBindings × List String :=
  ((OperationBindings.read raw).1, (OperationBindings.read raw).2.map (Defect.message owner))

/-- **Reading leaves out what it reports, and nothing else.**  Without the parts that are reported,
binding information is read as the same and nothing is reported.  What is reported are the defects
that the tables of the sections tell, in their order, where a map of texts has to be one throughout;
and an integer is what a number is rounded to, toward zero and within 64 bits. -/
theorem decode_cleaned (owner : String) (raw : Option Value) :
    OperationBindings.decode owner (cleaned raw (OperationBindings.read raw).2) =
      ((OperationBindings.decode owner raw).1, []) ∧
    (OperationBindings.read raw).2 = defects raw ∧
    (OperationBindings.decode owner raw).2 = (defects raw).map (Defect.message owner) ∧
    (∀ v, Kind.stringMap.admits v = true ↔ ∃ members, v.members? = some members ∧
      ∀ value ∈ members.values, ∃ s, value.text? = some s) ∧
    ∀ part key v n, (key, Kind.number) ∈ Section.fields part →
      raw.bind (Value.at? [part.key, key]) = some v → v.number? = some n →
      (OperationBindings.decode owner raw).1.integerOf? part =
        some (max (-2 ^ 63) (min (Number.towardZero n.value) (2 ^ 63 - 1))) := by
  refine ⟨?_, defects_read raw, ?_, fun v => admits_stringMap_iff, ?_⟩
  · rw [OperationBindings.decode, defects_read, read_cleaned]
    rfl
  · rw [OperationBindings.decode, defects_read]
  · intro part key v n field there number
    obtain rfl := mem_fields_number_iff.1 field
    have integer := integerOf?_read there number
    rw [Number.truncate_eq] at integer
    exact integer

/-- Binding information with a defect of each kind, and two integers that are cut. -/
def looseBindings : Value :=
  .object (Dict.ofList [
    ("amqp", .object (Dict.ofList [("exchange", .text "other")])),
    ("flogo-http", .object (Dict.ofList [("method", .null), ("timeout", .integer (2 ^ 64 - 1)),
      ("headers", .object (Dict.ofList [("Accept", .text "json"), ("Age", .integer 1)]))])),
    ("flogo-kafka", .text "none"),
    ("flogo-mqtt", .object (Dict.ofList [("replyTopic", .integer 7), ("retain", .null),
      ("qos", .number (.float 0xC007333333333333))]))])

/-- Binding information with defects of every sort, its messages, and the integers that are left. -/
theorem looseBindings_decoded :
    (OperationBindings.decode "here" (some looseBindings)).2 = [
      "here: flogo-http.headers should be a map of strings, found " ++
        "\x7b\"Accept\":\"json\",\"Age\":1\x7d; ignoring",
      "here: flogo-mqtt.replyTopic should be a string, found 7; ignoring",
      "here: unknown key flogo-mqtt.retain; ignoring",
      "here: flogo-kafka is not an object, ignoring"] ∧
    OperationBindings.decode "here"
        (cleaned (some looseBindings) (OperationBindings.read (some looseBindings)).2) =
      ((OperationBindings.decode "here" (some looseBindings)).1, []) ∧
    (OperationBindings.decode "here" (some looseBindings)).1.integerOf? .http =
      some (2 ^ 63 - 1) ∧
    (OperationBindings.decode "here" (some looseBindings)).1.integerOf? .mqtt = some (-2) := by
  obtain ⟨same, -, texts, -, integers⟩ := decode_cleaned "here" (some looseBindings)
  refine ⟨?_, same, ?_, ?_⟩
  · rw [texts]
    decide +kernel
  · rw [integers .http "timeout" _ _ (by decide) rfl rfl]
    decide +kernel
  · rw [integers .mqtt "qos" _ _ (by decide) rfl rfl]
    decide +kernel

end AsyncApi

end EventGateway
