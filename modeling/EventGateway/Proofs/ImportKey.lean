import EventGateway.Proofs.Splitting
import EventGateway.Protocol.Profile
import EventGateway.Registry.Imports
import Mathlib.Data.String.Basic

/-!
# Keys of imports

The key of an import forgets its version.  A version that does not contain `:/` is forgotten
without a trace (`key_pinned`).  Any other version leaves its end behind (`key_pinned_of_cut`), but
it cannot hide the module at the start of the key (`module_isPrefix_key`) or the path at its end
(`sub_isSuffix_key`), and that is enough to tell modules apart.
-/

namespace EventGateway

namespace Import

/-! ## Keys of texts -/

/-- The characters of a key. -/
theorem toList_key (text : String) : (key text).toList = keyChars text.toList :=
  String.toList_ofList

/-- A text without version is its own key. -/
theorem keyChars_of_notMem {s : List Char} (h : '@' ∉ s) : keyChars s = s := by
  have plain : ¬ ['@'] <:+: s := fun inside => h ((List.singleton_infix_iff _ _).1 inside)
  unfold keyChars
  rw [Text.splitOnce_eq_none plain]

/-- What is left of a text with a version: the module and the part after `:/`. -/
theorem keyChars_at {module : List Char} (h : '@' ∉ module) (rest : List Char) :
    keyChars (module ++ '@' :: rest) =
      match Text.splitOnce [':', '/'] rest with
      | none => module
      | some (_, sub) => trimSlashes module ++ '/' :: sub := by
  cases below : Text.splitOnce [':', '/'] rest with
  | none => simp [keyChars, Text.splitOnce_of_notMem h, below]
  | some parts => simp [keyChars, Text.splitOnce_of_notMem h, below]

end Import

namespace ModulePath

/-- A module path that can be told from a version: it contains no `@`, and the module does not end
with a slash. -/
structure Plain (m : ModulePath) : Prop where
  module : '@' ∉ m.module.toList
  sub : ∀ sub ∈ m.sub, '@' ∉ sub.toList
  trim : Import.trimSlashes m.module.toList = m.module.toList

instance (m : ModulePath) : Decidable m.Plain :=
  decidable_of_iff ('@' ∉ m.module.toList ∧ (∀ sub ∈ m.sub, '@' ∉ sub.toList) ∧
    Import.trimSlashes m.module.toList = m.module.toList)
    ⟨fun ⟨module, sub, trim⟩ => ⟨module, sub, trim⟩, fun h => ⟨h.module, h.sub, h.trim⟩⟩

variable {m : ModulePath}

/-- What follows the version in an import. -/
def subChars (m : ModulePath) : List Char :=
  match m.sub with
  | none => []
  | some sub => ':' :: '/' :: sub.toList

/-- The version stands between the module and its part. -/
theorem toList_pinned (m : ModulePath) (version : String) :
    (m.pinned version).toList = m.module.toList ++ '@' :: (version.toList ++ m.subChars) := by
  obtain ⟨module, sub⟩ := m
  cases sub <;> simp [pinned, subChars]

/-- A plain reference has no version. -/
theorem Plain.notMem_reference (h : m.Plain) : '@' ∉ m.reference.toList := by
  obtain ⟨module, sub⟩ := m
  cases sub with
  | none => exact h.module
  | some sub =>
    have := h.module
    have := h.sub sub rfl
    simp_all [reference]

/-- A plain reference is its own key. -/
theorem key_reference (h : m.Plain) : Import.key m.reference = m.reference := by
  rw [← String.toList_inj, Import.toList_key, Import.keyChars_of_notMem h.notMem_reference]

/-- Behind a version without `:/` stands the path inside the module. -/
theorem splitOnce_subChars (m : ModulePath) {version : List Char}
    (clean : ¬ [':', '/'] <:+: version) :
    Text.splitOnce [':', '/'] (version ++ m.subChars) =
      m.sub.map fun sub => (version, sub.toList) := by
  unfold subChars
  cases m.sub with
  | none => rw [List.append_nil, Text.splitOnce_eq_none clean, Option.map_none]
  | some sub => exact Text.splitOnce_of_not_infix (by decide) clean sub.toList

/-- **A version without `:/` is forgotten without a trace.** -/
theorem key_pinned (h : m.Plain) {version : String} (clean : ¬ [':', '/'] <:+: version.toList) :
    Import.key (m.pinned version) = m.reference := by
  rw [← String.toList_inj, Import.toList_key, toList_pinned, Import.keyChars_at h.module,
    splitOnce_subChars m clean]
  obtain ⟨module, sub⟩ := m
  cases sub with
  | none => rfl
  | some sub => simp [reference, h.trim]

/-- **A version with `:/` leaves its end behind**, all that follows the first `:/`. -/
theorem key_pinned_of_cut (h : m.Plain) {before : String}
    (first : ¬ [':', '/'] <:+: before.toList) (rest : String) :
    Import.key (m.pinned (before ++ ":/" ++ rest)) =
      m.module ++ "/" ++ rest ++ String.ofList m.subChars := by
  have cut : Text.splitOnce [':', '/'] ((before ++ ":/" ++ rest).toList ++ m.subChars) =
      some (before.toList, rest.toList ++ m.subChars) := by
    simpa using Text.splitOnce_of_not_infix (by decide) first (rest.toList ++ m.subChars)
  rw [← String.toList_inj, Import.toList_key, toList_pinned, Import.keyChars_at h.module, cut]
  simp [h.trim]

/-- **Exactly the versions without `:/` are forgotten.** -/
theorem key_pinned_iff (h : m.Plain) {version : String} :
    Import.key (m.pinned version) = m.reference ↔ ¬ [':', '/'] <:+: version.toList := by
  refine ⟨fun same inside => ?_, key_pinned h⟩
  obtain ⟨before, rest, cut, first⟩ := Text.exists_first_infix (by simp) inside
  have whole : version = String.ofList before ++ ":/" ++ String.ofList rest := by
    rw [← String.toList_inj, cut]
    simp
  rw [whole, key_pinned_of_cut h (by simpa using first), ← String.toList_inj] at same
  -- What is left of the version makes the key longer than the reference.
  have longer := congrArg List.length same
  obtain ⟨module, sub⟩ := m
  cases sub with
  | none => simp [reference, subChars] at longer
  | some sub =>
    simp [reference, subChars] at longer
    omega

/-- **The key of an import starts with the module**, whatever the version. -/
theorem module_isPrefix_key (h : m.Plain) (version : Option String) :
    m.module.toList <+: (Import.key (m.importAt version)).toList := by
  cases version with
  | none =>
    rw [importAt, key_reference h]
    obtain ⟨module, sub⟩ := m
    cases sub <;> simp [reference]
  | some version =>
    rw [importAt, Import.toList_key, toList_pinned, Import.keyChars_at h.module]
    cases Text.splitOnce [':', '/'] (version.toList ++ m.subChars) with
    | none => exact List.prefix_rfl
    | some parts => exact ⟨_, by rw [h.trim]⟩

/-- **The key of an import ends with the path inside the module**, whatever the version. -/
theorem sub_isSuffix_key (h : m.Plain) {sub : String} (path : m.sub = some sub)
    (version : Option String) : sub.toList <:+ (Import.key (m.importAt version)).toList := by
  obtain ⟨module, sub'⟩ := m
  obtain rfl : sub' = some sub := path
  cases version with
  | none =>
    rw [importAt, key_reference h]
    exact ⟨module.toList ++ ['/'], by simp [reference]⟩
  | some version =>
    have cut : subChars ⟨module, some sub⟩ = [':', '/'] ++ sub.toList := rfl
    obtain ⟨before, after, found, suffix⟩ :=
      Text.exists_splitOnce [':', '/'] version.toList sub.toList
    rw [importAt, Import.toList_key, toList_pinned, Import.keyChars_at h.module, cut, found]
    exact suffix.trans ⟨Import.trimSlashes module.toList ++ ['/'], by simp⟩

end ModulePath

end EventGateway
