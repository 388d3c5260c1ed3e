import EventGateway.Proofs.Registry

/-!
# What a context takes up

Every part of a context is determined by one kind of emission.  Triggers, resources and warnings are
appended; properties, imports and methods go through a registry that keeps the first of each key.
Binding information is taken up once for an operation, and what repeats it changes nothing
(`absorb_bindings_of_isSome`).
-/

namespace EventGateway

open AsyncApi (Defect Direction OperationBindings)
open Flogo (Property Resource Trigger)

namespace Emission

/-- The property that is emitted, if it is one. -/
def property? : Emission → Option Property
  | property p => some p
  | _ => none

/-- The import that is emitted, if it is one. -/
def importing? : Emission → Option String
  | importing text => some text
  | _ => none

/-- The trigger that is emitted, if it is one. -/
def trigger? : Emission → Option Trigger
  | trigger t => some t
  | _ => none

/-- The resource that is emitted, if it is one. -/
def resource? : Emission → Option Resource
  | resource r => some r
  | _ => none

/-- The name of the method that is emitted, if it is one. -/
def method? : Emission → Option String
  | method name => some name
  | _ => none

/-- Whether an emission can be seen in the application or among the methods: everything but binding
information. -/
def isVisible : Emission → Bool
  | bindings .. => false
  | _ => true

/-- The warnings that an emission can lead to. -/
def warnings : Emission → List Warning
  | warning w => [w]
  | bindings channel direction _ defects => defects.map (.binding channel direction)
  | _ => []

end Emission

/-- Whatever is read off visible emissions can be read off after the others are left out. -/
theorem filterMap_visible {α : Type} {f : Emission → Option α}
    (h : ∀ e, e.isVisible = false → f e = none) (es : List Emission) :
    (es.filter Emission.isVisible).filterMap f = es.filterMap f := by
  rw [List.filterMap_filter]
  refine List.filterMap_congr fun e _ => ?_
  by_cases visible : e.isVisible = true
  · rw [if_pos visible]
  · rw [if_neg visible, h e (by simpa using visible)]

namespace Context

variable (c : Context) (e : Emission) (es : List Emission)

@[simp] theorem absorbAll_cons : c.absorbAll (e :: es) = (c.absorb e).absorbAll es := rfl

/-- Emissions are taken up one after the other. -/
theorem absorbAll_append (es' : List Emission) :
    c.absorbAll (es ++ es') = (c.absorbAll es).absorbAll es' := List.foldl_append

/-- **Every part of a context follows one kind of emission.**  If one emission changes a part by at
most one item, then a list of emissions changes it by the items of that kind, in order. -/
theorem part_absorbAll {σ α : Type} (part : Context → σ) {item? : Emission → Option α}
    {take : σ → α → σ} (step : ∀ c e, part (absorb c e) = (item? e).toList.foldl take (part c)) :
    part (c.absorbAll es) = (es.filterMap item?).foldl take (part c) := by
  induction es generalizing c with
  | nil => rfl
  | cons e es ih =>
    rw [absorbAll_cons, ih, step, List.filterMap_cons]
    cases item? e <;> rfl

/-- Triggers are put at the end. -/
theorem triggers_absorbAll :
    (c.absorbAll es).app.triggers = c.app.triggers ++ es.filterMap Emission.trigger? := by
  have step : ∀ c e, (absorb c e).app.triggers =
      e.trigger?.toList.foldl (fun ts t => ts ++ [t]) c.app.triggers := by
    intro c e
    cases e <;> simp [absorb, Emission.trigger?]
    split <;> rfl
  rw [part_absorbAll c es (fun c => c.app.triggers) step, List.foldl_append_eq_append,
    ← List.flatMap_def, List.flatMap_singleton']

/-- Resources are put at the end. -/
theorem resources_absorbAll :
    (c.absorbAll es).app.resources = c.app.resources ++ es.filterMap Emission.resource? := by
  have step : ∀ c e, (absorb c e).app.resources =
      e.resource?.toList.foldl (fun rs r => rs ++ [r]) c.app.resources := by
    intro c e
    cases e <;> simp [absorb, Emission.resource?]
    split <;> rfl
  rw [part_absorbAll c es (fun c => c.app.resources) step, List.foldl_append_eq_append,
    ← List.flatMap_def, List.flatMap_singleton']

/-- Properties go through the registry of properties, in order. -/
theorem properties_absorbAll :
    (c.absorbAll es).properties =
      (es.filterMap Emission.property?).foldl PropertyRegistry.insert c.properties := by
  refine part_absorbAll c es Context.properties fun c e => ?_
  cases e <;> simp [absorb, Emission.property?]
  split <;> rfl

/-- Imports go through the registry of imports, in order. -/
theorem imports_absorbAll :
    (c.absorbAll es).imports =
      (es.filterMap Emission.importing?).foldl ImportRegistry.insert c.imports := by
  refine part_absorbAll c es Context.imports fun c e => ?_
  cases e <;> simp [absorb, Emission.importing?]
  split <;> rfl

/-- Methods are added if they are new, in order. -/
theorem methods_absorbAll :
    (c.absorbAll es).methods = (es.filterMap Emission.method?).foldl addName c.methods := by
  refine part_absorbAll c es Context.methods fun c e => ?_
  cases e <;> simp [absorb, Emission.method?]
  split <;> rfl

/-- Warnings are never taken back. -/
theorem warnings_absorb : c.warnings <+: (c.absorb e).warnings := by
  cases e <;> simp only [absorb] <;> try exact List.prefix_rfl
  · exact List.prefix_append _ _
  · split
    · exact List.prefix_rfl
    · exact List.prefix_append _ _

/-- Warnings are only added at the end. -/
theorem warnings_absorbAll : c.warnings <+: (c.absorbAll es).warnings := by
  induction es generalizing c with
  | nil => exact List.prefix_rfl
  | cons e es ih => exact (warnings_absorb c e).trans (ih (c.absorb e))

/-- Every warning that is emitted is taken up. -/
theorem mem_warnings_absorbAll {w : Warning} (mem : .warning w ∈ es) :
    w ∈ (c.absorbAll es).warnings := by
  induction es generalizing c with
  | nil => cases mem
  | cons e es ih =>
    rcases List.mem_cons.1 mem with rfl | later
    · exact (warnings_absorbAll (c.absorb (.warning w)) es).subset
        (List.mem_append_right _ List.mem_cons_self)
    · exact ih (c.absorb e) later

/-- A warning was there before, or an emission leads to it. -/
theorem mem_warnings_absorb {w : Warning} (mem : w ∈ (c.absorb e).warnings) :
    w ∈ c.warnings ∨ w ∈ e.warnings := by
  cases e with
  | warning w' => exact List.mem_append.1 mem
  | bindings channel direction info defects =>
    simp only [absorb] at mem
    split at mem
    · exact .inl mem
    · exact List.mem_append.1 mem
  | _ => exact .inl mem

/-- A warning was there before, or one of the emissions gives it. -/
theorem mem_warnings_absorbAll_cases {w : Warning} (mem : w ∈ (c.absorbAll es).warnings) :
    w ∈ c.warnings ∨ ∃ e ∈ es, w ∈ e.warnings := by
  induction es generalizing c with
  | nil => exact .inl mem
  | cons e es ih =>
    rcases ih (c.absorb e) mem with before | ⟨e', mem', later⟩
    · rcases mem_warnings_absorb c e before with old | new
      · exact .inl old
      · exact .inr ⟨e, List.mem_cons_self, new⟩
    · exact .inr ⟨e', List.mem_cons_of_mem _ mem', later⟩

/-! ## The finished compilation -/

theorem triggers_finish : c.finish.app.triggers = c.app.triggers := rfl

theorem resources_finish : c.finish.app.resources = c.app.resources := rfl

theorem properties_finish : c.finish.app.properties = c.properties.properties := rfl

theorem imports_finish : c.finish.app.imports = c.imports.imports := rfl

theorem methods_finish : c.finish.methods = c.methods := rfl

/-- Conflicts of properties are reported after everything else. -/
theorem warnings_finish :
    c.finish.warnings = c.warnings ++ c.properties.conflicts.map .conflict := rfl

/-! ## Binding information -/

/-- What has binding information after an emission had it before or gets it from the emission. -/
theorem bindings?_absorb_cases {channel : String} {direction : Direction}
    {info : OperationBindings} (h : (c.absorb e).bindings? channel direction = some info) :
    c.bindings? channel direction = some info ∨
      ∃ defects, e = .bindings channel direction info defects := by
  cases e with
  | bindings channel' direction' info' defects =>
    simp only [absorb] at h
    split at h
    · exact .inl h
    · simp only [bindings?] at h ⊢
      rw [List.lookup_append] at h
      cases old : c.decoded.lookup (channel, direction) with
      | some info => exact .inl (by rw [old] at h; exact h)
      | none =>
        rw [old, Option.none_or, List.lookup_cons] at h
        by_cases same : ((channel, direction) == (channel', direction')) = true
        · obtain ⟨rfl, rfl⟩ := Prod.mk.inj (eq_of_beq same)
          rw [same] at h
          exact .inr ⟨defects, by rw [Option.some.inj h]⟩
        · rw [Bool.not_eq_true] at same
          rw [same] at h
          cases h
  | _ => exact .inl h

/-- Binding information for an operation that already has some changes nothing. -/
theorem absorb_bindings_of_isSome {channel : String} {direction : Direction}
    (h : (c.bindings? channel direction).isSome = true) (info : OperationBindings)
    (defects : List Defect) : c.absorb (.bindings channel direction info defects) = c :=
  if_pos h

end Context

end EventGateway
