import EventGateway.Json.Number

/-!
# JSON values

`Json` is a JSON value with the members of its objects in the order in which they are written.
`Json.Canonical` says when it is the one representative of what it means: members ascend by name,
and numbers are finite.
-/

namespace EventGateway

/-- A JSON value whose objects keep their members in written order. -/
inductive Json where
  | null
  | bool (value : Bool)
  | number (value : Number)
  | text (value : String)
  | list (items : List Json)
  | object (members : List (String × Json))
deriving Inhabited, Repr

namespace Json

/-- An integer. -/
def ofInt (n : Int) : Json :=
  number (.integer n)

/-- A value that may be missing; null stands for a missing one. -/
def ofOption {α : Type} (f : α → Json) : Option α → Json
  | none => null
  | some a => f a

/-- A list of texts. -/
def ofTexts (texts : List String) : Json :=
  list (texts.map text)

mutual

/-- The same value: numbers by `Number.same`, everything else part by part. -/
def same : Json → Json → Bool
  | null, null => true
  | bool a, bool b => a == b
  | number a, number b => a.same b
  | text a, text b => a == b
  | list a, list b => sameItems a b
  | object a, object b => sameMembers a b
  | _, _ => false

/-- Whether two lists have the same items in the same order. -/
def sameItems : List Json → List Json → Bool
  | [], [] => true
  | a :: as, b :: bs => same a b && sameItems as bs
  | _, _ => false

/-- Whether two objects have the same members in the same order. -/
def sameMembers : List (String × Json) → List (String × Json) → Bool
  | [], [] => true
  | (j, a) :: as, (k, b) :: bs => j == k && same a b && sameMembers as bs
  | _, _ => false

end

mutual

/-- Members ascend by name in every object, and every number is finite. -/
def Canonical : Json → Prop
  | number n => n.isFinite = true
  | list items => CanonicalItems items
  | object members => (members.map Prod.fst).Pairwise (· < ·) ∧ CanonicalMembers members
  | _ => True

/-- All items are canonical. -/
def CanonicalItems : List Json → Prop
  | [] => True
  | item :: items => Canonical item ∧ CanonicalItems items

/-- The values of all members are canonical. -/
def CanonicalMembers : List (String × Json) → Prop
  | [] => True
  | (_, value) :: members => Canonical value ∧ CanonicalMembers members

end

end Json

end EventGateway
