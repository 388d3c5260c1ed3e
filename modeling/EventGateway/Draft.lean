import EventGateway.Json.Value

/-!
# Drafts

A draft is what a text says before any of its parts has been given a type.  Its maps keep every
entry in order, so that keys may repeat and need not be texts, and a part that no value can hold is
marked as unreadable instead of being an error at once: such a part does no harm where nobody reads
it.  The integer zero remembers a minus sign, with which it is no position of a field.

The second half of the module is the vocabulary in which the typed parts of documents and
descriptors are read.
-/

namespace EventGateway

/-- An untyped part of a document. -/
inductive Draft where
  | null
  | bool (value : Bool)
  | number (value : Number)
  /-- The integer zero behind a minus sign, which is zero as a value. -/
  | negativeZero
  | text (value : String)
  | list (items : List Draft)
  | map (entries : List (Draft × Draft))
  | unreadable
deriving Inhabited

namespace Draft

mutual

/-- A JSON value as a draft. -/
def ofJson : Json → Draft
  | .null => null
  | .bool value => bool value
  | .number value => number value
  | .text value => text value
  | .list items => list (ofItems items)
  | .object members => map (ofMembers members)

/-- The items of a list as drafts. -/
def ofItems : List Json → List Draft
  | [] => []
  | item :: items => ofJson item :: ofItems items

/-- The members of an object as drafts; their names are texts. -/
def ofMembers : List (String × Json) → List (Draft × Draft)
  | [] => []
  | (name, value) :: members => (text name, ofJson value) :: ofMembers members

end

/-- A value as a draft. -/
def ofValue (v : Value) : Draft :=
  ofJson v.json

/-- The text of a text. -/
def text? : Draft → Option String
  | text value => some value
  | _ => none

mutual

/-- A draft as a free-form value.  Keys have to be texts; of two entries with the same key the later
one counts. -/
def value? : Draft → Option Value
  | null => some .null
  | bool value => some (.bool value)
  | number value => some (.number value)
  | negativeZero => some (.number (.integer 0))
  | text value => some (.text value)
  | list items => (items? items).map .list
  | map entries => (entries? entries).map fun pairs => .object (Dict.ofList pairs)
  | unreadable => none

/-- The items of a list as values, if all are. -/
def items? : List Draft → Option (List Value)
  | [] => some []
  | item :: items => (value? item).bind fun v => (items? items).map (v :: ·)

/-- The entries of a map as members, if all keys are texts. -/
def entries? : List (Draft × Draft) → Option (List (String × Value))
  | [] => some []
  | (key, item) :: entries =>
    key.text?.bind fun k => (value? item).bind fun v => (entries? entries).map ((k, v) :: ·)

end

mutual

/-- Whether no part is unreadable. -/
def isReadable : Draft → Bool
  | list items => itemsReadable items
  | map entries => entriesReadable entries
  | unreadable => false
  | _ => true

/-- Whether all items can be read. -/
def itemsReadable : List Draft → Bool
  | [] => true
  | item :: items => isReadable item && itemsReadable items

/-- Whether all keys and values can be read. -/
def entriesReadable : List (Draft × Draft) → Bool
  | [] => true
  | (key, item) :: entries => isReadable key && isReadable item && entriesReadable entries

end

/-- A list whose items are all read by `read`. -/
def listOf? {α : Type} (read : Draft → Option α) : Draft → Option (List α)
  | list items => items.mapM read
  | _ => none

/-- A map under texts whose values are all read by `read`. -/
def dictOf? {α : Type} (read : Draft → Option α) : Draft → Option (Dict α)
  | map entries =>
    let pairs := entries.mapM fun (entry : Draft × Draft) =>
      entry.1.text?.bind fun k => (read entry.2).map (k, ·)
    pairs.map Dict.ofList
  | _ => none

/-- A map of free-form values. -/
def settings? (d : Draft) : Option (Dict Value) :=
  d.value?.bind Value.members?

end Draft

/-- A field that a record declares: its name, and other names that mean the same field. -/
structure Field where
  name : String
  others : List String := []
deriving DecidableEq, Repr

namespace Field

instance : Coe String Field := ⟨fun name => ⟨name, []⟩⟩

/-- Whether a field goes by a name. -/
def hasName (f : Field) (name : String) : Bool :=
  name == f.name || f.others.contains name

end Field

/-- The parts of a record under the names of its declared fields. -/
structure Record where
  parts : List (String × Draft)

namespace Record

/-- The part of a declared field. -/
def part? (r : Record) (name : String) : Option Draft :=
  r.parts.lookup name

/-- A field that has to be there. -/
def required {α : Type} (r : Record) (name : String) (read : Draft → Option α) : Option α :=
  (r.part? name).bind read

/-- A field that may be missing, but is not null. -/
def withDefault {α : Type} (r : Record) (name : String) (default : α) (read : Draft → Option α) :
    Option α :=
  match r.part? name with
  | none => some default
  | some part => read part

/-- A field that may be missing or null. -/
def optional {α : Type} (r : Record) (name : String) (read : Draft → Option α) :
    Option (Option α) :=
  match r.part? name with
  | none | some .null => some none
  | some part => (read part).map some

/-- The field that a key names: by name, or by position if the key is a natural number.  `none` if
the key can name no field, `some none` if it names one that is not declared. -/
def fieldOf? (declared : List Field) : (key : Draft) → Option (Option Field)
  | .text name => some (declared.find? (·.hasName name))
  | .number (.integer position) => if 0 ≤ position then some declared[position.toNat]? else none
  | _ => none

/-- The declared parts among the entries of a map. -/
def declaredParts? (declared : List Field) : List (Draft × Draft) → Option (List (String × Draft))
  | [] => some []
  | (key, part) :: entries =>
    (fieldOf? declared key).bind fun
      | some field => (declaredParts? declared entries).map ((field.name, part) :: ·)
      | none => declaredParts? declared entries

/-- A record with these parts, unless a field has two of them. -/
def ofParts? (parts : List (String × Draft)) : Option Record :=
  if (parts.map Prod.fst).Nodup then some ⟨parts⟩ else none

/-- The entries of a map under texts. -/
def namedEntries? : List (Draft × Draft) → Option (List (String × Draft))
  | [] => some []
  | (key, part) :: entries => key.text?.bind fun k => (namedEntries? entries).map ((k, part) :: ·)

end Record

namespace Draft

/-- Reads a record, which is a map or a list of its parts in the order of the declared fields.  In a
map, keys that are not declared are passed over; in a list, parts at the end may be missing. -/
def record? (declared : List Field) : Draft → Option Record
  | map entries => (Record.declaredParts? declared entries).bind Record.ofParts?
  | list items =>
    if items.length ≤ declared.length then some ⟨(declared.map Field.name).zip items⟩ else none
  | _ => none

/-- Reads a record that keeps what it does not declare: the declared parts, and all others under
their names. -/
def openRecord? (declared : List Field) : Draft → Option (Record × Dict Value)
  | map entries => do
    let named ← Record.namedEntries? entries
    let known := named.filterMap fun (name, part) =>
      (declared.find? (·.hasName name)).map fun f => (f.name, part)
    let others := named.filter fun (name, _) => !declared.any (·.hasName name)
    let record ← Record.ofParts? known
    let values ← others.mapM fun (name, part) => part.value?.map (name, ·)
    return (record, Dict.ofList values)
  | _ => none

end Draft

end EventGateway
