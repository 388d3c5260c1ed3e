import EventGateway.Draft
import EventGateway.Fault
import EventGateway.Yaml.Shape

/-!
# The module catalog

The catalog gives the versions of the modules of every protocol.  A server may ask for other
versions.
-/

namespace EventGateway

/-- The versions of the modules of a protocol. -/
structure ModuleVersions where
  trigger : Option String := none
  activity : Option String := none
deriving DecidableEq, Repr

/-- Versions by the name of the protocol. -/
structure Catalog where
  protocols : Dict ModuleVersions := ∅

namespace ModuleVersions

/-- Reads the versions of the modules of a protocol. -/
def ofDraft? (d : Draft) : Option ModuleVersions := do
  let r ← d.record? ["trigger", "activity"]
  return {
    trigger := ← r.optional "trigger" Draft.text?
    activity := ← r.optional "activity" Draft.text? }

/-- The versions of the modules of a protocol as JSON. -/
def toJson (v : ModuleVersions) : Json :=
  .object [("trigger", .ofOption .text v.trigger), ("activity", .ofOption .text v.activity)]

end ModuleVersions

namespace Catalog

/-- The version of the format of catalogs. -/
def formatVersion : Nat := 1

/-- The versions that the catalog has for a protocol. -/
def versions? (c : Catalog) (protocol : String) : Option ModuleVersions :=
  c.protocols.find? protocol

/-- The version of the trigger module of a protocol. -/
def triggerVersion? (c : Catalog) (protocol : String) : Option String :=
  (c.versions? protocol).bind ModuleVersions.trigger

/-- The version of the activity module of a protocol. -/
def activityVersion? (c : Catalog) (protocol : String) : Option String :=
  (c.versions? protocol).bind ModuleVersions.activity

/-- What is expected of a catalog in a YAML text. -/
def shape : Yaml.Shape :=
  .record [("version", .natural),
    ("protocols", .entries (.record [("trigger", .optional .text), ("activity", .optional .text)]))]

/-- A number that is not below zero. -/
def natural? : Draft → Option Nat
  | .number (.integer n) => if 0 ≤ n then some n.toNat else none
  | _ => none

/-- The format version of a catalog, and the catalog. -/
def ofDraft? (d : Draft) : Option (Nat × Catalog) := do
  let r ← d.record? ["version", "protocols"]
  let version ← r.required "version" natural?
  let protocols ← r.withDefault "protocols" ∅ (Draft.dictOf? ModuleVersions.ofDraft?)
  return (version, ⟨protocols⟩)

/-- Reads a catalog, which has to be of the known format version. -/
def read (text : String) : Except Fault Catalog :=
  match (shape.readText? text).bind ofDraft? with
  | none => .error .catalogNotYaml
  | some (version, catalog) =>
    if version = formatVersion then .ok catalog else .error (.catalogVersion version)

/-- The catalog that is used unless another one is given. -/
def standard : Catalog :=
  ⟨Dict.ofList [
    ("http", ⟨some "v0.9.0-rc.1.0.20190509204259-4246269fb68e",
      some "v0.9.0-rc.1.0.20190509204259-4246269fb68e"⟩),
    ("mqtt", ⟨some "v0.0.0-20190523234742-2d7b115b701a",
      some "v0.0.0-20190523234742-2d7b115b701a"⟩),
    ("kafka", ⟨some "v0.9.1-0.20190603184501-d845e1d612f8",
      some "v0.9.1-0.20190516180541-534215f1b7ac"⟩),
    ("eftl", ⟨some "v0.0.0-20190709194620-9c397d37ddf5",
      some "v0.0.0-20190709194620-9c397d37ddf5"⟩),
    ("ws", ⟨some "v0.0.0-20190708195807-1d89e706e274", none⟩)]⟩

/-- The catalog as JSON, with the version of its format. -/
def toJson (c : Catalog) : Json :=
  .object [("version", .ofInt formatVersion),
    ("protocols", .object (c.protocols.map ModuleVersions.toJson).entries)]

end Catalog

end EventGateway
