import EventGateway.Proofs.PlainPass
import Mathlib.Data.List.Nodup
import Std.Data.String.ToNat

/-!
# Names

Identifiers of triggers, resources and properties are put together from the name of a protocol, the
position of a server in decimal, and fixed or free texts.  Here is what keeps them apart: the names
of protocols differ in their first letter, so a text that starts with one determines it
(`Protocol.name_append_inj`), and positions in decimal are injective and consist of digits.  A
position can be read off a text as long as no digit comes next to it, at the start
(`serverLabel_append_inj`) or behind an underscore at the end (`append_position_inj`).
-/

namespace EventGateway

/-! ## Protocols and identifiers -/

namespace Protocol

/-- Every protocol is listed. -/
theorem mem_all (p : Protocol) : p ∈ all := by
  cases p <;> decide

/-- No protocol is listed twice. -/
theorem nodup_all : all.Nodup := by
  decide

/-- **The name of a protocol can be read off any text that starts with it.** -/
theorem name_append_inj {p q : Protocol} {s t : String} (h : p.name ++ s = q.name ++ t) :
    p = q ∧ s = t := by
  -- The first letters of the five names are different.
  have same : p = q := by
    have letter := congrArg (fun text => text.toList.head?) h
    cases p <;> cases q <;> first
      | rfl
      | (exfalso; simp [name, profile, String.toList_append] at letter)
  subst same
  exact ⟨rfl, String.append_right_inj p.name |>.1 h⟩

/-- **Names that start with their protocol are apart**, also behind a common text. -/
theorem apart_of_start {α : Type} {key : α → String} {items : Protocol → List α} {start : String}
    (own : ∀ p, ∀ a ∈ items p, ∃ rest, key a = start ++ (p.name ++ rest)) :
    all.Pairwise fun p q => ∀ a ∈ items p, ∀ b ∈ items q, key a ≠ key b := by
  refine nodup_all.imp fun {p q} ne a mem b mem' same => ?_
  obtain ⟨rest, eq⟩ := own p a mem
  obtain ⟨rest', eq'⟩ := own q b mem'
  rw [eq, eq'] at same
  exact ne (name_append_inj ((String.append_right_inj start).1 same)).1

/-- Names that start with their protocol do not repeat if those of each protocol do not. -/
theorem nodup_flatMap_all {names : Protocol → List String} {start : String}
    (each : ∀ p, (names p).Nodup)
    (own : ∀ p, ∀ name ∈ names p, ∃ rest, name = start ++ (p.name ++ rest)) :
    (all.flatMap names).Nodup := by
  refine List.nodup_flatMap.2 ⟨fun p _ => each p, ?_⟩
  refine (apart_of_start own).imp fun apart name mem mem' => ?_
  exact apart name mem name mem' rfl

/-- **Support has two tests that agree.**  A protocol is named by exactly the identifiers that stand
for it. -/
theorem isNamedBy_iff (p : Protocol) (identifier : String) :
    p.isNamedBy identifier = true ↔ (ofIdentifier? identifier).map Prod.fst = some p := by
  constructor
  · intro named
    rcases Bool.or_eq_true _ _ ▸ named with h | h <;> rw [eq_of_beq h] <;> cases p <;> decide
  · intro h
    obtain ⟨⟨q, secure⟩, found, rfl⟩ := Option.map_eq_some_iff.1 h
    obtain ⟨q', -, hq'⟩ := List.exists_of_findSome?_eq_some found
    by_cases plain : identifier = q'.profile.name
    · rw [if_pos plain] at hq'
      obtain ⟨rfl, -⟩ := Prod.mk.inj (Option.some.inj hq')
      simp [isNamedBy, Profile.isNamedBy, plain]
    · rw [if_neg plain] at hq'
      by_cases variant : identifier = q'.profile.secure
      · rw [if_pos variant] at hq'
        obtain ⟨rfl, -⟩ := Prod.mk.inj (Option.some.inj hq')
        simp [isNamedBy, Profile.isNamedBy, variant]
      · rw [if_neg variant] at hq'
        cases hq'

/-- An identifier names at most one protocol. -/
theorem eq_of_isNamedBy {p q : Protocol} {identifier : String}
    (hp : p.isNamedBy identifier = true) (hq : q.isNamedBy identifier = true) : p = q :=
  Option.some.inj (((isNamedBy_iff p _).1 hp).symm.trans ((isNamedBy_iff q _).1 hq))

/-- An identifier names nothing if it names none of the protocols. -/
theorem ofIdentifier?_eq_none_iff {identifier : String} :
    ofIdentifier? identifier = none ↔ ∀ p : Protocol, p.isNamedBy identifier = false := by
  constructor
  · intro h p
    rw [← Bool.not_eq_true, isNamedBy_iff, h]
    simp
  · intro h
    cases found : ofIdentifier? identifier with
    | none => rfl
    | some found' =>
      have named := (isNamedBy_iff found'.1 identifier).2 (by rw [found]; rfl)
      rw [h] at named
      cases named

end Protocol

/-! ## Identifiers with positions -/

/-- Different numbers are written differently. -/
theorem toString_injective {i j : Nat} (h : toString i = toString j) : i = j :=
  Nat.repr_injective h

/-- A position in decimal consists of digits. -/
theorem isDigit_of_mem_toString {i : Nat} {c : Char} (h : c ∈ (toString i).toList) :
    c.isDigit = true := by
  rw [Nat.toString_eq_repr, Nat.toList_repr] at h
  exact Nat.isDigit_of_mem_toDigits (by decide) (by decide) h

/-- A label tells protocol and position of its server: the name of a protocol has no digits. -/
theorem serverLabel_inj {p q : Protocol} {i j : Nat} (h : serverLabel p i = serverLabel q j) :
    p = q ∧ i = j := by
  obtain ⟨rfl, position⟩ := Protocol.name_append_inj h
  exact ⟨rfl, toString_injective position⟩

/-- The identifier of a server ends in a digit, that of an endpoint for sending does not. -/
theorem serverLabel_ne_publishName (p q : Protocol) (i : Nat) :
    serverLabel p i ≠ Gateway.publishName q.name := by
  intro h
  obtain ⟨-, position⟩ := Protocol.name_append_inj h
  have letter : 'P' ∈ (toString i).toList := by
    rw [position]
    decide
  exact absurd (isDigit_of_mem_toString letter) (by decide)

/-! ## Positions inside of texts -/

/-- Digits can be told from what follows them, unless that starts with a digit. -/
theorem digits_append_inj {ds es rest rest' : List Char} (digits : ∀ c ∈ ds, c.isDigit = true)
    (digits' : ∀ c ∈ es, c.isDigit = true) (ends : ∀ c ∈ rest.head?, c.isDigit = false)
    (ends' : ∀ c ∈ rest'.head?, c.isDigit = false) (h : ds ++ rest = es ++ rest') :
    ds = es ∧ rest = rest' := by
  have start : ∀ {l r : List Char}, (∀ c ∈ l, c.isDigit = true) →
      (∀ c ∈ r.head?, c.isDigit = false) → (l ++ r).takeWhile Char.isDigit = l := by
    intro l r hl hr
    rw [List.takeWhile_append_of_pos hl]
    cases r with
    | nil => simp
    | cons c r => simp [hr c rfl]
  have same : ds = es := by
    have taken := congrArg (List.takeWhile Char.isDigit) h
    rwa [start digits ends, start digits' ends'] at taken
  subst same
  exact ⟨rfl, List.append_cancel_left h⟩

/-- A position in front of something else can be read off, unless that starts with a digit. -/
theorem position_append_inj {i j : Nat} {s t : String}
    (ends : ∀ c ∈ s.toList.head?, c.isDigit = false)
    (ends' : ∀ c ∈ t.toList.head?, c.isDigit = false) (h : toString i ++ s = toString j ++ t) :
    i = j ∧ s = t := by
  have chars := congrArg String.toList h
  rw [String.toList_append, String.toList_append] at chars
  obtain ⟨positions, rests⟩ := digits_append_inj (fun _ => isDigit_of_mem_toString)
    (fun _ => isDigit_of_mem_toString) ends ends' chars
  exact ⟨toString_injective (String.toList_inj.1 positions), String.toList_inj.1 rests⟩

/-- **The server can be read off any text that starts with its label**, unless the rest starts with
a digit. -/
theorem serverLabel_append_inj {p q : Protocol} {i j : Nat} {s t : String}
    (ends : ∀ c ∈ s.toList.head?, c.isDigit = false)
    (ends' : ∀ c ∈ t.toList.head?, c.isDigit = false)
    (h : serverLabel p i ++ s = serverLabel q j ++ t) : p = q ∧ i = j ∧ s = t := by
  unfold serverLabel at h
  rw [String.append_assoc, String.append_assoc] at h
  obtain ⟨rfl, positions⟩ := Protocol.name_append_inj h
  exact ⟨rfl, position_append_inj ends ends' positions⟩

/-- **A position behind an underscore can be read off** the end of a text. -/
theorem append_position_inj {s t : String} {i j : Nat}
    (h : s ++ "_" ++ toString i = t ++ "_" ++ toString j) : s = t ∧ i = j := by
  have chars := congrArg (fun text => text.toList.reverse) h
  simp only [String.toList_append, List.reverse_append] at chars
  have digits : ∀ k : Nat, ∀ c ∈ (toString k).toList.reverse, c.isDigit = true :=
    fun k c mem => isDigit_of_mem_toString (List.mem_reverse.1 mem)
  have ends : ∀ u : String, ∀ c ∈ ("_".toList.reverse ++ u.toList.reverse).head?,
      c.isDigit = false := by
    intro u c mem
    obtain rfl := Option.some.inj mem
    decide
  -- Read from the end, the positions come first.
  obtain ⟨positions, rests⟩ := digits_append_inj (digits i) (digits j) (ends s) (ends t) chars
  have texts := List.append_cancel_left rests
  exact ⟨String.toList_inj.1 (List.reverse_injective texts),
    toString_injective (String.toList_inj.1 (List.reverse_injective positions))⟩

end EventGateway
