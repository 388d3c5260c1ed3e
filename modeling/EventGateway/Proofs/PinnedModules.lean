import EventGateway.Proofs.UsedModules

/-!
# Modules are imported at one version

A module of the engine can be loaded at one version only, so all imports of parts of one module
should ask for the same one.  Imports are registered by key, and the key of an import holds the path
inside its module: two parts of one module have keys of their own, and each import brings its own
version.  There is one module with two parts, that of eFTL, where the trigger and the activity live
side by side, and there the versions may differ (`SplitVersions`).  Nowhere else can they.

## Main statements

* `ModulePath.moduleOf_importAt`, `ModulePath.versionOf?_importAt` — module and version can be read
  off an import.
* `imports_of_trigger_key`, `imports_of_activity_key` — what stands under the key of a module.
* `pinnedOnce_iff_of_compile` — when a compilation imports every module at one version.
-/

namespace EventGateway

open AsyncApi

/-! ## Module and version of an import -/

namespace Import

/-- What stands before the first `@`. -/
def moduleChars (s : List Char) : List Char :=
  match Text.splitOnce ['@'] s with
  | none => s
  | some (module, _) => module

/-- What stands between the first `@` and `:/`, or the end. -/
def versionChars? (s : List Char) : Option (List Char) :=
  match Text.splitOnce ['@'] s with
  | none => none
  | some (_, rest) =>
    match Text.splitOnce [':', '/'] rest with
    | none => some rest
    | some (version, _) => some version

/-- The module of an import, or the whole reference if it has no version. -/
def moduleOf (text : String) : String :=
  String.ofList (moduleChars text.toList)

/-- The version of an import, if it has one. -/
def versionOf? (text : String) : Option String :=
  (versionChars? text.toList).map String.ofList

end Import

/-- No module is imported at two versions. -/
def PinnedOnce (imports : List String) : Prop :=
  ∀ a ∈ imports, ∀ b ∈ imports, Import.moduleOf a = Import.moduleOf b →
    Import.versionOf? a = Import.versionOf? b

namespace ModulePath

variable {m : ModulePath}

/-- A reference has no version. -/
theorem splitOnce_reference (h : m.Plain) : Text.splitOnce ['@'] m.reference.toList = none := by
  refine Text.splitOnce_eq_none fun inside => ?_
  exact h.notMem_reference ((List.singleton_infix_iff _ _).1 inside)

/-- A pinned reference is cut at its version. -/
theorem splitOnce_pinned (h : m.Plain) (version : String) :
    Text.splitOnce ['@'] (m.pinned version).toList =
      some (m.module.toList, version.toList ++ m.subChars) := by
  rw [toList_pinned, Text.splitOnce_of_notMem h.module]

/-- **The module of an import** that has a version is that of its path. -/
theorem moduleOf_importAt (h : m.Plain) (version : Option String) :
    Import.moduleOf (m.importAt version) = if version.isSome then m.module else m.reference := by
  cases version with
  | none =>
    rw [importAt, Import.moduleOf, Import.moduleChars, splitOnce_reference h]
    exact String.ofList_toList
  | some version =>
    rw [importAt, Import.moduleOf, Import.moduleChars, splitOnce_pinned h]
    exact String.ofList_toList

/-- **The version of an import** is the one that was asked for. -/
theorem versionOf?_importAt (h : m.Plain) {version : Option String}
    (clean : ∀ v ∈ version, CleanVersion v) : Import.versionOf? (m.importAt version) = version := by
  cases version with
  | none =>
    rw [importAt, Import.versionOf?, Import.versionChars?, splitOnce_reference h]
    rfl
  | some version =>
    have plain := clean version rfl
    have before : Import.versionChars? (m.pinned version).toList = some version.toList := by
      simp only [Import.versionChars?, splitOnce_pinned h, splitOnce_subChars m plain]
      unfold subChars
      cases m.sub with
      | none => simp only [Option.map_none, List.append_nil]
      | some sub => simp only [Option.map_some]
    rw [importAt, Import.versionOf?, before, Option.map_some, String.ofList_toList]

end ModulePath

/-! ## The modules of the engine -/

/-- The parts of the engine that an application may import. -/
def engineModules : List ModulePath :=
  gatewayModules.map (⟨·, none⟩) ++ Protocol.all.flatMap Protocol.modules

theorem mem_engineModules {p : Protocol} {m : ModulePath} (mem : m ∈ p.modules) :
    m ∈ engineModules :=
  List.mem_append_right _ (List.mem_flatMap.2 ⟨p, p.mem_all, mem⟩)

/-- The modules of the engine are plain. -/
theorem plain_of_mem_engineModules {m : ModulePath} (mem : m ∈ engineModules) : m.Plain := by
  have gateway : ∀ m ∈ gatewayModules, (⟨m, none⟩ : ModulePath).Plain := by decide +kernel
  rcases List.mem_append.1 mem with mem | mem
  · obtain ⟨text, listed, rfl⟩ := List.mem_map.1 mem
    exact gateway text listed
  · obtain ⟨p, -, mem⟩ := List.mem_flatMap.1 mem
    exact plain_of_mem_modules mem

/-- A module that is all there is to a part has no other parts. -/
theorem reference_eq_of_module_eq :
    ∀ m ∈ engineModules, ∀ m' ∈ engineModules, m.module = m'.reference →
      m.reference = m'.reference := by
  decide +kernel

/-- The activity of eFTL, which is in the module of its trigger. -/
def eftlActivity : ModulePath :=
  ⟨"github.com/project-flogo/eftl", some "activity"⟩

theorem activity_eftl : Protocol.eftl.activity = some eftlActivity := rfl

/-- **Only eFTL has two parts in one module.** -/
theorem parts_of_module_eq :
    ∀ m ∈ engineModules, ∀ m' ∈ engineModules, m.module = m'.module →
      m.reference = m'.reference ∨
        (m = Protocol.eftl.trigger ∧ m' = eftlActivity) ∨
        m = eftlActivity ∧ m' = Protocol.eftl.trigger := by
  decide +kernel

/-- The parts of eFTL are used by its own pass only, the trigger to receive and the activity to
send. -/
theorem eftl_of_mem_passModules {d : Document} {role : Role} {p : Protocol} :
    (Protocol.eftl.trigger.reference ∈ passModules d role p →
        receives d role .eftl = true) ∧
      (eftlActivity.reference ∈ passModules d role p → sends d role .eftl = true) := by
  have all : ∀ p ∈ Protocol.all, ∀ inbound outbound : Bool, ∀ m ∈
      (if inbound then inboundModules p else []) ++ (if outbound then outboundModules p else []),
      (m = Protocol.eftl.trigger.reference → p = .eftl ∧ inbound = true) ∧
        (m = eftlActivity.reference → p = .eftl ∧ outbound = true) := by
    decide +kernel
  constructor
  · intro mem
    obtain ⟨rfl, able⟩ := (all p p.mem_all _ _ _ mem).1 rfl
    exact able
  · intro mem
    obtain ⟨rfl, able⟩ := (all p p.mem_all _ _ _ mem).2 rfl
    exact able

/-! ## Imports of a compilation -/

section Compilations

variable {d : Document} {o : Options} {p : Protocol} {m : ModulePath} {c : Compilation}

/-- An import of a pass is that of a part of the engine, at a clean version or at none. -/
theorem exists_importAt_of_pass (h : (pass o p d).result = .ok ()) (clean : CleanVersions d o)
    {text : String} (mem : text ∈ passImports d o p) :
    ∃ m ∈ engineModules, ∃ version, (∀ v ∈ version, CleanVersion v) ∧
      text = m.importAt version := by
  rcases List.mem_append.1 mem with mem | mem
  · obtain ⟨x, memServer, mem⟩ := List.mem_flatMap.1 mem
    rcases List.mem_append.1 mem with mem | mem
    · split at mem
      · obtain rfl := List.mem_singleton.1 mem
        exact ⟨_, mem_engineModules (trigger_mem_modules p), _,
          triggerVersion_clean h clean memServer, rfl⟩
      · cases mem
    · split at mem
      · obtain ⟨m, memActivity, rfl⟩ := List.mem_map.1 mem
        exact ⟨m, mem_engineModules (activity_mem_modules (Option.mem_toList.1 memActivity)), _,
          activityVersion_clean h clean memServer, rfl⟩
      · cases mem
  · -- The imports for microgateways have no version.
    have listed := List.mem_map_of_mem (f := fun m => (⟨m, none⟩ : ModulePath))
      (mem_gatewayModules mem)
    exact ⟨⟨text, none⟩, List.mem_append_left _ listed, none, by simp, rfl⟩

/-- An import of a compilation is that of a part of the engine, at a clean version or at none. -/
theorem exists_importAt_of_compile (h : compile d o = .ok c) (clean : CleanVersions d o)
    {text : String} (mem : text ∈ c.app.imports) :
    ∃ m ∈ engineModules, ∃ version, (∀ v ∈ version, CleanVersion v) ∧
      text = m.importAt version := by
  obtain ⟨all, -⟩ := compile_eq_ok_iff.1 h
  rw [(collects_of_compile h).imports] at mem
  obtain ⟨p, -, mem⟩ := List.mem_flatMap.1 ((firstOfEach_sublist _ _ _).mem mem)
  rw [imports_of_pass (all p)] at mem
  exact exists_importAt_of_pass (all p) clean mem

/-- Imports of a compilation with one key are one import. -/
theorem eq_of_key_eq (h : compile d o = .ok c) {a b : String} (ha : a ∈ c.app.imports)
    (hb : b ∈ c.app.imports) (eq : Import.key a = Import.key b) : a = b := by
  have nodup : (c.app.imports.map Import.key).Nodup := by
    rw [(collects_of_compile h).imports]
    exact nodup_keys_firstOfEach _ _ _
  exact List.inj_on_of_nodup_map nodup ha hb eq

variable {x : PlacedServer}

/-- **Under the key of a trigger module** stands the import for the first server, unless the module
is overtaken. -/
theorem imports_of_trigger_key (h : compile d o = .ok c) (clean : CleanVersions d o)
    (able : receives d o.role p = true) (first : (protocolServers p d).head? = some x)
    (free : overtaken d o.role p p.trigger = false) :
    c.app.imports.filter (Import.key · == p.trigger.reference) =
      [p.trigger.importAt (effectiveVersion x.1.2 "x-trigger-version"
        (o.catalog.triggerVersion? p.name))] := by
  obtain ⟨all, -⟩ := compile_eq_ok_iff.1 h
  have mem := List.mem_of_head? first
  have key : Import.key (triggerImport o.catalog p (endpointOf p d x).extensions) =
      p.trigger.reference :=
    ModulePath.key_importAt (plain_of_mem_modules (trigger_mem_modules p))
      (triggerVersion_clean (all p) clean mem)
  rw [imports_of_key h (trigger_mem_modules p) (find?_passImports_trigger able first key), free,
    ← (versions_endpointOf (all p) mem _).1]
  rfl

/-- **Under the key of an activity module** stands the import for the first server. -/
theorem imports_of_activity_key (h : compile d o = .ok c) (clean : CleanVersions d o)
    (able : sends d o.role p = true) (first : (protocolServers p d).head? = some x)
    (hm : p.activity = some m) :
    c.app.imports.filter (Import.key · == m.reference) =
      [m.importAt (effectiveVersion x.1.2 "x-activity-version"
        (o.catalog.activityVersion? p.name))] := by
  obtain ⟨all, -⟩ := compile_eq_ok_iff.1 h
  have mem := List.mem_of_head? first
  have key : Import.key (activityImport o.catalog p m (endpointOf p d x).extensions) =
      m.reference :=
    ModulePath.key_importAt (plain_of_mem_modules (activity_mem_modules hm))
      (activityVersion_clean (all p) clean mem)
  rw [imports_of_key h (activity_mem_modules hm) (find?_passImports_activity able first hm key),
    overtaken_activity d o.role hm, ← (versions_endpointOf (all p) mem _).2]
  rfl

/-- What is imported is used by some pass. -/
theorem mem_passModules_of_import (h : compile d o = .ok c) (clean : CleanVersions d o)
    {text : String} (mem : text ∈ c.app.imports) :
    ∃ p, Import.key text ∈ passModules d o.role p := by
  obtain ⟨all, -⟩ := compile_eq_ok_iff.1 h
  rw [(collects_of_compile h).imports] at mem
  obtain ⟨p, -, mem⟩ := List.mem_flatMap.1 ((firstOfEach_sublist _ _ _).mem mem)
  exact ⟨p, (mem_importKeys_of_pass (all p) clean _).1 (List.mem_map_of_mem mem)⟩

/-! ## Versions that split -/

/-- The version at which the trigger of eFTL is imported for a server. -/
def eftlTriggerVersion (o : Options) (x : PlacedServer) : Option String :=
  effectiveVersion x.1.2 "x-trigger-version" (o.catalog.triggerVersion? Protocol.eftl.name)

/-- The version at which the activity of eFTL is imported for a server. -/
def eftlActivityVersion (o : Options) (x : PlacedServer) : Option String :=
  effectiveVersion x.1.2 "x-activity-version" (o.catalog.activityVersion? Protocol.eftl.name)

/-- Messages are both received and sent by eFTL, and the first eFTL server has its trigger and its
activity at different versions. -/
structure SplitVersions (d : Document) (o : Options) : Prop where
  receives : receives d o.role .eftl = true
  sends : sends d o.role .eftl = true
  versions : ∃ x v w, (protocolServers .eftl d).head? = some x ∧
    eftlTriggerVersion o x = some v ∧ eftlActivityVersion o x = some w ∧ v ≠ w

/-- If one import stands under the key of a module, all imports with this key are at its version. -/
theorem only_of_filter_eq (plain : m.Plain) {version : Option String}
    (clean : ∀ v ∈ version, CleanVersion v) {imports : List String}
    (only : imports.filter (Import.key · == m.reference) = [m.importAt version]) :
    m.importAt version ∈ imports ∧
      ∀ text ∈ imports, Import.key text = m.reference → Import.versionOf? text = version := by
  refine ⟨List.mem_of_mem_filter (only ▸ List.mem_singleton_self _), fun text mem key => ?_⟩
  have found : text ∈ imports.filter (Import.key · == m.reference) :=
    List.mem_filter.2 ⟨mem, beq_iff_eq.2 key⟩
  rw [only] at found
  obtain rfl := List.mem_singleton.1 found
  exact ModulePath.versionOf?_importAt plain clean

/-- Where versions are clean, so is that of the eFTL trigger. -/
theorem eftlTriggerVersion_clean (clean : CleanVersions d o) (mem : x ∈ protocolServers .eftl d) :
    ∀ v ∈ eftlTriggerVersion o x, CleanVersion v :=
  clean.effective mem (by simp) fun _ named => clean.catalogVersions (.inl named)

/-- Where versions are clean, so is that of the eFTL activity. -/
theorem eftlActivityVersion_clean (clean : CleanVersions d o) (mem : x ∈ protocolServers .eftl d) :
    ∀ v ∈ eftlActivityVersion o x, CleanVersion v :=
  clean.effective mem (by simp) fun _ named => clean.catalogVersions (.inr named)

/-- The import of the trigger of eFTL, and the version that it is at. -/
theorem eftlTrigger_of_compile (h : compile d o = .ok c) (clean : CleanVersions d o)
    (able : receives d o.role .eftl = true) (first : (protocolServers .eftl d).head? = some x) :
    Protocol.eftl.trigger.importAt (eftlTriggerVersion o x) ∈ c.app.imports ∧
      ∀ text ∈ c.app.imports, Import.key text = Protocol.eftl.trigger.reference →
        Import.versionOf? text = eftlTriggerVersion o x := by
  have free : overtaken d o.role .eftl Protocol.eftl.trigger = false := by
    rw [overtaken_trigger]
    rfl
  exact only_of_filter_eq (plain_of_mem_modules (trigger_mem_modules _))
    (eftlTriggerVersion_clean clean (List.mem_of_head? first))
    (imports_of_trigger_key h clean able first free)

/-- The import of the activity of eFTL, and the version that it is at. -/
theorem eftlActivity_of_compile (h : compile d o = .ok c) (clean : CleanVersions d o)
    (able : sends d o.role .eftl = true) (first : (protocolServers .eftl d).head? = some x) :
    eftlActivity.importAt (eftlActivityVersion o x) ∈ c.app.imports ∧
      ∀ text ∈ c.app.imports, Import.key text = eftlActivity.reference →
        Import.versionOf? text = eftlActivityVersion o x :=
  only_of_filter_eq (plain_of_mem_modules (activity_mem_modules activity_eftl))
    (eftlActivityVersion_clean clean (List.mem_of_head? first))
    (imports_of_activity_key h clean able first activity_eftl)

/-- Trigger and activity of eFTL at two versions are a split. -/
theorem splitVersions_of_imports (h : compile d o = .ok c) (clean : CleanVersions d o)
    {a b : String} (ha : a ∈ c.app.imports) (hb : b ∈ c.app.imports)
    (trigger : Import.key a = Protocol.eftl.trigger.reference)
    (activity : Import.key b = eftlActivity.reference) {v w : String}
    (versionA : Import.versionOf? a = some v) (versionB : Import.versionOf? b = some w)
    (ne : v ≠ w) : SplitVersions d o := by
  have inbound : receives d o.role .eftl = true := by
    obtain ⟨p, mem⟩ := mem_passModules_of_import h clean ha
    exact eftl_of_mem_passModules.1 (trigger ▸ mem)
  have outbound : sends d o.role .eftl = true := by
    obtain ⟨p, mem⟩ := mem_passModules_of_import h clean hb
    exact eftl_of_mem_passModules.2 (activity ▸ mem)
  obtain ⟨x, first⟩ : ∃ x, (protocolServers .eftl d).head? = some x := by
    refine Option.ne_none_iff_exists'.1 fun none => ?_
    simp [receives, List.head?_eq_none_iff.1 none] at inbound
  have atTrigger := (eftlTrigger_of_compile h clean inbound first).2 a ha trigger
  have atActivity := (eftlActivity_of_compile h clean outbound first).2 b hb activity
  exact ⟨inbound, outbound, x, v, w, first, atTrigger.symm.trans versionA,
    atActivity.symm.trans versionB, ne⟩

/-- Imports of one module have one key, or they are those of trigger and activity of eFTL. -/
theorem key_cases_of_moduleOf_eq (h : compile d o = .ok c) (clean : CleanVersions d o)
    {a b : String} (ha : a ∈ c.app.imports) (hb : b ∈ c.app.imports)
    (same : Import.moduleOf a = Import.moduleOf b) :
    Import.key a = Import.key b ∨
      ∃ v w, Import.versionOf? a = some v ∧ Import.versionOf? b = some w ∧
        ((Import.key a = Protocol.eftl.trigger.reference ∧
            Import.key b = eftlActivity.reference) ∨
          (Import.key b = Protocol.eftl.trigger.reference ∧
            Import.key a = eftlActivity.reference)) := by
  obtain ⟨m, hm, v, cleanV, rfl⟩ := exists_importAt_of_compile h clean ha
  obtain ⟨m', hm', w, cleanW, rfl⟩ := exists_importAt_of_compile h clean hb
  have plain := plain_of_mem_engineModules hm
  have plain' := plain_of_mem_engineModules hm'
  rw [ModulePath.key_importAt plain cleanV, ModulePath.key_importAt plain' cleanW,
    ModulePath.versionOf?_importAt plain cleanV, ModulePath.versionOf?_importAt plain' cleanW]
  rw [ModulePath.moduleOf_importAt plain, ModulePath.moduleOf_importAt plain'] at same
  -- Only where both imports are pinned can two parts of one module be told apart.
  cases v with
  | none =>
    cases w with
    | none => exact .inl same
    | some w => exact .inl (reference_eq_of_module_eq m' hm' m hm same.symm).symm
  | some v =>
    cases w with
    | none => exact .inl (reference_eq_of_module_eq m hm m' hm' same)
    | some w =>
      rcases parts_of_module_eq m hm m' hm' same with eq | ⟨rfl, rfl⟩ | ⟨rfl, rfl⟩
      · exact .inl eq
      · exact .inr ⟨v, w, rfl, rfl, .inl ⟨rfl, rfl⟩⟩
      · exact .inr ⟨v, w, rfl, rfl, .inr ⟨rfl, rfl⟩⟩

/-- A split leads to two versions of the module of eFTL. -/
theorem not_pinnedOnce_of_splitVersions (h : compile d o = .ok c) (clean : CleanVersions d o)
    (split : SplitVersions d o) : ¬ PinnedOnce c.app.imports := by
  obtain ⟨inbound, outbound, x, v, w, first, trigger, activity, ne⟩ := split
  have importTrigger := (eftlTrigger_of_compile h clean inbound first).1
  have importActivity := (eftlActivity_of_compile h clean outbound first).1
  have plainTrigger := plain_of_mem_modules (trigger_mem_modules .eftl)
  have plainActivity := plain_of_mem_modules (activity_mem_modules activity_eftl)
  have mem := List.mem_of_head? first
  have sameModule :
      Import.moduleOf (Protocol.eftl.trigger.importAt (eftlTriggerVersion o x)) =
        Import.moduleOf (eftlActivity.importAt (eftlActivityVersion o x)) := by
    rw [ModulePath.moduleOf_importAt plainTrigger, ModulePath.moduleOf_importAt plainActivity,
      trigger, activity]
    rfl
  intro once
  have same := once _ importTrigger _ importActivity sameModule
  rw [ModulePath.versionOf?_importAt plainTrigger (eftlTriggerVersion_clean clean mem),
    ModulePath.versionOf?_importAt plainActivity (eftlActivityVersion_clean clean mem),
    trigger, activity] at same
  exact ne (Option.some.inj same)

/-- Nothing else leads to two versions of a module. -/
theorem pinnedOnce_of_not_splitVersions (h : compile d o = .ok c) (clean : CleanVersions d o)
    (joined : ¬ SplitVersions d o) : PinnedOnce c.app.imports := by
  intro a ha b hb same
  rcases key_cases_of_moduleOf_eq h clean ha hb same with key | ⟨v, w, atA, atB, parts⟩
  · rw [eq_of_key_eq h ha hb key]
  rw [atA, atB]
  by_contra apart
  have ne : v ≠ w := fun eq => apart (congrArg some eq)
  rcases parts with ⟨trigger, activity⟩ | ⟨trigger, activity⟩
  · exact joined (splitVersions_of_imports h clean ha hb trigger activity atA atB ne)
  · exact joined (splitVersions_of_imports h clean hb ha trigger activity atB atA ne.symm)

/-- **When modules are imported at one version.**  Unless a version contains `:/`, no module is
imported at two versions, except when eFTL is used in both directions and its first server has
trigger and activity at different versions. -/
theorem pinnedOnce_iff_of_compile (h : compile d o = .ok c) (clean : CleanVersions d o) :
    PinnedOnce c.app.imports ↔ ¬ SplitVersions d o :=
  ⟨fun once split => not_pinnedOnce_of_splitVersions h clean split once,
    pinnedOnce_of_not_splitVersions h clean⟩

end Compilations

/-! ## A module at two versions -/

/-- A document whose server asks for a version of the trigger of eFTL, and for none of the
activity. -/
def splitDocument : Document where
  asyncapi := "2.0.0"
  id := none
  info := { title := "split", version := "1.0.0" }
  servers := .list [plainServer "events" "events.example" "eftl" (Dict.ofList
    [("x-trigger-version", .text "v1.0.0")])]
  channels := Dict.ofList [("/door", plainChannel)]
  components := none

/-- The document asks for two versions of one module. -/
theorem splitVersions_splitDocument : SplitVersions splitDocument {} where
  receives := by decide +kernel
  sends := by decide +kernel
  versions := ⟨_, "v1.0.0", "v0.0.0-20190709194620-9c397d37ddf5", rfl, rfl, rfl, by decide⟩

/-- Both versions are clean. -/
theorem cleanVersions_splitDocument : CleanVersions splitDocument {} :=
  ⟨by decide +kernel, by decide +kernel⟩

theorem compile_splitDocument : ∃ c, compile splitDocument {} = .ok c := by
  have outcome : (compile splitDocument {}).toOption.map (fun _ => ()) = some () := by
    decide +kernel
  obtain ⟨c, hc, -⟩ := Trace.exists_ok_of_toOption outcome
  exact ⟨c, hc⟩

/-- Clean versions do not keep a module from being pinned twice. -/
theorem splitDocument_not_pinnedOnce :
    ∃ c, compile splitDocument {} = .ok c ∧ CleanVersions splitDocument {} ∧
      ¬ PinnedOnce c.app.imports := by
  obtain ⟨c, hc⟩ := compile_splitDocument
  have clean := cleanVersions_splitDocument
  refine ⟨c, hc, clean, fun once => ?_⟩
  exact (pinnedOnce_iff_of_compile hc clean).1 once splitVersions_splitDocument

/-- **A module may be imported at two versions**: the trigger and the activity of eFTL are parts of
one module, and each may have a version of its own. -/
theorem not_every_module_is_pinned_once :
    ¬ ∀ (d : Document) (o : Options) (c : Compilation), compile d o = .ok c →
      PinnedOnce c.app.imports := by
  intro all
  obtain ⟨c, hc⟩ := compile_splitDocument
  exact not_pinnedOnce_of_splitVersions hc cleanVersions_splitDocument splitVersions_splitDocument
    (all splitDocument {} c hc)

end EventGateway
