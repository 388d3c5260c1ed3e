import EventGateway.Dict
import EventGateway.Json.Printer

/-!
# Free-form values

A `Value` is a JSON value in canonical form: its objects are dictionaries, so the order in which
members were written is forgotten.  Free-form parts of documents and descriptors hold values.
-/

namespace EventGateway

/-- A JSON value in canonical form. -/
structure Value where
  json : Json
  canonical : json.Canonical

namespace Value

theorem ext {v w : Value} (h : v.json = w.json) : v = w := by
  cases v; cases w; cases h; rfl

/-- No value. -/
def null : Value := ⟨.null, trivial⟩

/-- A truth value. -/
def bool (value : Bool) : Value := ⟨.bool value, trivial⟩

/-- A text. -/
def text (value : String) : Value := ⟨.text value, trivial⟩

/-- An integer. -/
def integer (value : Int) : Value := ⟨.number (.integer value), rfl⟩

/-- A number; one that is not finite becomes null. -/
def number (value : Number) : Value :=
  if h : value.isFinite = true then ⟨.number value, h⟩ else null

instance : Inhabited Value := ⟨null⟩

/-- The items of a list of values are canonical. -/
theorem canonicalItems_map (items : List Value) : Json.CanonicalItems (items.map json) := by
  induction items with
  | nil => trivial
  | cons item items ih => exact ⟨item.canonical, ih⟩

/-- The members of a list of named values are canonical. -/
theorem canonicalMembers_map (members : List (String × Value)) :
    Json.CanonicalMembers (members.map fun (name, value) => (name, value.json)) := by
  induction members with
  | nil => trivial
  | cons member members ih => exact ⟨member.2.canonical, ih⟩

/-- A list of values. -/
def list (items : List Value) : Value :=
  ⟨.list (items.map json), canonicalItems_map items⟩

/-- The members of an object as JSON, ascending. -/
def memberList (members : Dict Value) : List (String × Json) :=
  (members.map json).entries

/-- An object; its members stand in the order of their names. -/
def object (members : Dict Value) : Value :=
  ⟨.object (memberList members), (members.map json).ascending, canonicalMembers_map members.entries⟩

/-- Canonical members as values. -/
def ofMembers : (members : List (String × Json)) → Json.CanonicalMembers members →
    List (String × Value)
  | [], _ => []
  | (name, value) :: members, h => (name, ⟨value, h.1⟩) :: ofMembers members h.2

/-- Members keep their names when their values are known to be canonical. -/
theorem keys_ofMembers {members : List (String × Json)} (h : Json.CanonicalMembers members) :
    (ofMembers members h).map Prod.fst = members.map Prod.fst := by
  induction members with
  | nil => rfl
  | cons member members ih => simp [ofMembers, ih h.2]

/-- The members of an object; other values have none. -/
def members? : Value → Option (Dict Value)
  | ⟨.object members, h⟩ => some ⟨ofMembers members h.2, by rw [keys_ofMembers]; exact h.1⟩
  | _ => none

/-- The text of a text. -/
def text? : Value → Option String
  | ⟨.text value, _⟩ => some value
  | _ => none

/-- The truth value, if it is one. -/
def bool? : Value → Option Bool
  | ⟨.bool value, _⟩ => some value
  | _ => none

/-- The number, if it is one. -/
def number? : Value → Option Number
  | ⟨.number value, _⟩ => some value
  | _ => none

/-- Whether there is no value. -/
def isNull : Value → Bool
  | ⟨.null, _⟩ => true
  | _ => false

/-- The same value, by `Json.same`. -/
def same (v w : Value) : Bool :=
  v.json.same w.json

/-- The compact text of a value. -/
def compact (v : Value) : String :=
  v.json.compact

end Value

end EventGateway
