import EventGateway.Proofs.UsedModules

/-!
# Versions in the imports of a program

A protocol imports its trigger and its activity at the version that a server or the catalog names.
The program that holds the descriptor loads a module by the key of its import, and nothing checks
the version before it comes there.  The key is the reference of the module for exactly the versions
without `:/`; of any other version, what follows the first `:/` is taken for a path inside the
module and ends up in the source of the program.

## Main statements

* `versionInKey` — what the key of an import of a protocol takes from the version.
* `not_every_version_is_forgotten` — a version that becomes a part of the path that is loaded.
-/

namespace EventGateway

/-- A blank import tells the key of its import. -/
theorem blankImport_inj {text text' : String} :
    blankImport text = "\n\t_ \"" ++ text' ++ "\"" ↔ Import.key text = text' := by
  rw [blankImport, String.append_left_inj, String.append_right_inj]

/-- What the key of an import of a module, and the line of a program that loads it, take from the
version. -/
structure VersionInKey (m : ModulePath) : Prop where
  /-- An import without version is the reference of the module. -/
  unversioned : Import.key (m.importAt none) = m.reference
  /-- The versions without `:/` are forgotten, and no others. -/
  forgotten : ∀ v, Import.key (m.importAt (some v)) = m.reference ↔ CleanVersion v
  /-- Of other versions, what follows the first `:/` stays. -/
  left : ∀ start rest, CleanVersion start →
    Import.key (m.importAt (some (start ++ ":/" ++ rest))) =
      m.module ++ "/" ++ rest ++ String.ofList m.subChars
  /-- The program loads the module itself if the version is forgotten, and only then. -/
  loaded : ∀ version, blankImport (m.importAt version) = "\n\t_ \"" ++ m.reference ++ "\"" ↔
    ∀ v ∈ version, CleanVersion v

/-- **What imports take from their versions**, for the trigger and the activity of every protocol
and every version. -/
theorem versionInKey (p : Protocol) : ∀ m ∈ p.modules, VersionInKey m := by
  intro m mem
  have plain : m.Plain := plain_of_mem_modules mem
  have unversioned : Import.key (m.importAt none) = m.reference := ModulePath.key_reference plain
  have forgotten : ∀ v, Import.key (m.importAt (some v)) = m.reference ↔ CleanVersion v :=
    fun v => ModulePath.key_pinned_iff plain
  refine ⟨unversioned, forgotten, fun start rest clean => ?_, fun version => ?_⟩
  · exact ModulePath.key_pinned_of_cut plain clean rest
  · rw [blankImport_inj]
    cases version with
    | none => simp [unversioned]
    | some v => simp [forgotten v]

/-- The modules of eFTL are parts of one, and their imports hold the version in the middle. -/
theorem eftl_versionInKey :
    (⟨"github.com/project-flogo/eftl", some "trigger"⟩ : ModulePath) ∈ Protocol.eftl.modules ∧
      VersionInKey ⟨"github.com/project-flogo/eftl", some "trigger"⟩ ∧
      Import.key "github.com/project-flogo/eftl@v1.0.0:/trigger" =
        "github.com/project-flogo/eftl/trigger" ∧
      Import.key "github.com/project-flogo/eftl@v1.0.0:/old:/trigger" =
        "github.com/project-flogo/eftl/old:/trigger" := by
  have mem : (⟨"github.com/project-flogo/eftl", some "trigger"⟩ : ModulePath) ∈
      Protocol.eftl.modules := by decide
  have law := versionInKey .eftl _ mem
  exact ⟨mem, law, (law.forgotten "v1.0.0").2 (by decide), law.left "v1.0.0" "old" (by decide)⟩

/-- **A version may become a part of the path that is loaded**: one that names the path inside the
module a second time. -/
theorem not_every_version_is_forgotten :
    ¬ ∀ (p : Protocol) (v : String),
      Import.key (p.trigger.importAt (some v)) = p.trigger.reference := by
  intro all
  have same := all .eftl "v1.0.0:/trigger"
  revert same
  decide +kernel

end EventGateway
