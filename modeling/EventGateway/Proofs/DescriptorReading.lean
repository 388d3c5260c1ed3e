import EventGateway.Flogo.Codec
import EventGateway.Proofs.PrintedJsonReading
import EventGateway.Proofs.Records

/-!
# Reading descriptors

A descriptor holds everything that an application consists of: whatever the application is, what it
is written as is read back as the same application.  The fields that the writer leaves out, an empty
input of an action and empty settings of a service, are those that the reader fills with exactly
this default, so serializing after reading is a normal form.

Between the two there may be a JSON value, which orders members by name, or a text.  A text loses
something in two cases only.  One is the rounding of floating-point numbers, so the statement about
texts is about integers; the other is a limit of the reader, which does not open a list or object
below 127 others.

## Main statements

* `Flogo.App.reads` — an application is read from every draft that spells it.
* `Flogo.App.ofDraft?_toJson` — through a JSON value, and again after reading one.
* `Flogo.App.read?_descriptor` — through the text of the descriptor.
-/

namespace EventGateway.Flogo

/-! ## Settings -/

section Settings

variable {r : Record} {members : List (String × Json)}

/-- Settings that are left out if they are empty are read back. -/
theorem reads_settingsMember (fields : r.Spells members) (name : String) (settings : Settings)
    (found : members.lookup name = (settingsMember name settings).lookup name) :
    r.withDefault name ∅ Draft.settings? = some settings := by
  unfold settingsMember at found
  by_cases empty : settings.isEmpty = true
  · have none : settings = ∅ := Dict.ext (List.isEmpty_iff.1 empty)
    rw [if_pos empty] at found
    rw [none]
    exact fields.default name found ∅
  · rw [if_neg empty, List.lookup_cons_self] at found
    exact fields.withDefault name found (reads_settings settings) ∅

/-- Settings add at most one name. -/
theorem names_settingsMember (name : String) (settings : Settings) :
    ((settingsMember name settings).map Prod.fst).Sublist [name] := by
  unfold settingsMember
  split
  · exact List.nil_sublist _
  · exact .refl _

@[simp] theorem regular_settings (settings : Settings) : (Settings.toJson settings).Regular :=
  (Value.object settings).regular

/-- An object stays regular when settings are put at its end. -/
theorem regular_append_settingsMember {name : String} (settings : Settings)
    (nodup : (members.map Prod.fst ++ [name]).Nodup) (regular : ∀ m ∈ members, m.2.Regular) :
    (Json.object (members ++ settingsMember name settings)).Regular := by
  refine Json.regular_object.2 ⟨?_, fun m mem => ?_⟩
  · rw [List.map_append]
    exact ((names_settingsMember name settings).append_left _).nodup nodup
  · rcases List.mem_append.1 mem with mem | mem
    · exact regular m mem
    · unfold settingsMember at mem
      split at mem
      · cases mem
      · obtain rfl := List.mem_singleton.1 mem
        exact regular_settings settings

end Settings

/-! ## Parts of applications -/

/-- The name of a type is read as this type. -/
theorem DataType.reads (t : DataType) : Reads ofDraft? (.text t.name) t := by
  rintro d rfl
  cases t <;> rfl

namespace Property

theorem reads (p : Property) : Reads ofDraft? p.toJson p := by
  intro d spelled
  obtain ⟨r, record, fields⟩ := spelled.record ["name", "type", "value"] (by decide) (.refl _)
  have name := fields.required "name" rfl (reads_text p.name)
  have type := fields.required "type" rfl p.type.reads
  have value := fields.required "value" rfl (reads_value p.value)
  simp [ofDraft?, record, name, type, value]

/-- A property is written with distinct names and finite numbers. -/
theorem regular (p : Property) : p.toJson.Regular := by
  simp [toJson]

end Property

namespace Action

theorem reads (a : Action) : Reads ofDraft? a.toJson a := by
  intro d spelled
  obtain ⟨r, record, fields⟩ := spelled.record ["ref", "settings", "input"] (by decide)
    ((names_settingsMember "input" a.input).append_left ["ref", "settings"])
  have ref := fields.required "ref" rfl (reads_text a.ref)
  have settings := fields.withDefault "settings" rfl (reads_settings a.settings)
  have input := reads_settingsMember fields "input" a.input rfl
  simp [ofDraft?, record, ref, settings, input]

theorem regular (a : Action) : a.toJson.Regular := by
  exact regular_append_settingsMember a.input (by simp) (by simp)

end Action

namespace Handler

theorem reads (h : Handler) : Reads ofDraft? h.toJson h := by
  intro d spelled
  obtain ⟨r, record, fields⟩ := spelled.record ["settings", "actions"] (by decide) (.refl _)
  have settings := fields.withDefault "settings" rfl (reads_settings h.settings)
  have actions := fields.withDefault "actions" rfl (.listOf fun a _ => a.reads)
  simp [ofDraft?, record, settings, actions]

theorem regular (h : Handler) : h.toJson.Regular := by
  simp [toJson, Action.regular]

end Handler

namespace Trigger

theorem reads (t : Trigger) : Reads ofDraft? t.toJson t := by
  intro d spelled
  obtain ⟨r, record, fields⟩ :=
    spelled.record ["id", "ref", "settings", "handlers"] (by decide) (.refl _)
  have id := fields.required "id" rfl (reads_text t.id)
  have ref := fields.required "ref" rfl (reads_text t.ref)
  have settings := fields.withDefault "settings" rfl (reads_settings t.settings)
  have handlers := fields.withDefault "handlers" rfl (.listOf fun h _ => h.reads)
  simp [ofDraft?, record, id, ref, settings, handlers]

theorem regular (t : Trigger) : t.toJson.Regular := by
  simp [toJson, Handler.regular]

end Trigger

namespace Service

theorem reads (s : Service) : Reads ofDraft? s.toJson s := by
  intro d spelled
  obtain ⟨r, record, fields⟩ :=
    spelled.record ["name", "ref", "description", "settings"] (by decide)
      ((names_settingsMember "settings" s.settings).append_left ["name", "ref", "description"])
  have name := fields.required "name" rfl (reads_text s.name)
  have ref := fields.required "ref" rfl (reads_text s.ref)
  have description := fields.withDefault "description" rfl (reads_text s.description)
  have settings := reads_settingsMember fields "settings" s.settings rfl
  simp [ofDraft?, record, name, ref, description, settings]

theorem regular (s : Service) : s.toJson.Regular :=
  regular_append_settingsMember s.settings (by simp) (by simp)

end Service

namespace Step

theorem reads (s : Step) : Reads ofDraft? s.toJson s := by
  intro d spelled
  obtain ⟨r, record, fields⟩ := spelled.record ["service", "input"] (by decide) (.refl _)
  have service := fields.required "service" rfl (reads_text s.service)
  have input := fields.withDefault "input" rfl (reads_settings s.input)
  simp [ofDraft?, record, service, input]

theorem regular (s : Step) : s.toJson.Regular := by
  simp [toJson]

end Step

namespace Microgateway

theorem reads (m : Microgateway) : Reads ofDraft? m.toJson m := by
  intro d spelled
  obtain ⟨r, record, fields⟩ := spelled.record ["name", "steps", "services"] (by decide) (.refl _)
  have name := fields.required "name" rfl (reads_text m.name)
  have steps := fields.withDefault "steps" rfl (.listOf fun s _ => s.reads)
  have services := fields.withDefault "services" rfl (.listOf fun s _ => s.reads)
  simp [ofDraft?, record, name, steps, services]

theorem regular (m : Microgateway) : m.toJson.Regular := by
  simp [toJson, Step.regular, Service.regular]

end Microgateway

namespace Resource

theorem reads (x : Resource) : Reads ofDraft? x.toJson x := by
  intro d spelled
  obtain ⟨r, record, fields⟩ := spelled.record ["id", "data"] (by decide) (.refl _)
  have id := fields.required "id" rfl (reads_text x.id)
  have data := fields.required "data" rfl x.data.reads
  simp [ofDraft?, record, id, data]

/-- A descriptor is written with distinct names and finite numbers. -/
theorem regular (x : Resource) : x.toJson.Regular := by
  simp [toJson, Microgateway.regular]

end Resource

/-! ## Applications -/

namespace App

/-- **An application is read back** from every draft that spells it. -/
theorem reads (app : App) : Reads ofDraft? app.toJson app := by
  intro d spelled
  obtain ⟨r, record, fields⟩ := spelled.record
    ["name", "type", "version", "description", "appModel", "imports", "properties", "triggers",
      "resources"] (by decide) (.refl _)
  have name := fields.required "name" rfl (reads_text app.name)
  have type := fields.required "type" rfl (reads_text app.type)
  have version := fields.required "version" rfl (reads_text app.version)
  have description := fields.withDefault "description" rfl (reads_text app.description)
  have appModel := fields.required "appModel" rfl (reads_text app.appModel)
  have imports := fields.withDefault "imports" rfl (.listOf fun s _ => reads_text s)
  have properties := fields.withDefault "properties" rfl (.listOf fun p _ => p.reads)
  have triggers := fields.withDefault "triggers" rfl (.listOf fun t _ => t.reads)
  have resources := fields.withDefault "resources" rfl (.listOf fun x _ => x.reads)
  simp [ofDraft?, record, name, type, version, description, appModel, imports, properties, triggers,
    resources]

theorem regular (app : App) : app.toJson.Regular := by
  simp [toJson, Json.ofTexts, Property.regular, Trigger.regular, Resource.regular]

/-- The JSON value that an application is serialized to. -/
def value? (app : App) : Option Value :=
  (Draft.ofJson app.toJson).value?

/-- A descriptor is read back through a value. -/
theorem exists_value_reads (app : App) :
    ∃ v, app.value? = some v ∧ ofDraft? (.ofValue v) = some app := by
  obtain ⟨v, found, spelled⟩ := Draft.exists_value_spells app.toJson app.regular
  exact ⟨v, found, app.reads _ spelled⟩

/-- The text of a descriptor is read back, unless it is too deep. -/
theorem ofDraft?_read?_descriptor {app : App} (integral : app.toJson.Integral)
    (few : app.toJson.levels ≤ Json.maxDepth) :
    (Json.read? app.descriptor).bind ofDraft? = some app := by
  rw [descriptor, Json.read?_pretty integral, Json.kept_eq_ofJson _ few]
  exact app.reads _ (Draft.spells_ofJson app.toJson)

/-- **A descriptor reads back as the same application.**  The JSON value that an application is
serialized to is read as the application; whatever JSON value an application has been read from,
serializing it and reading once more gives it again; and if its numbers are integers of 64 bits and
no list or object stands below 127 others, the text of its descriptor is read as the application,
too. -/
theorem descriptor_reads_back (app : App) :
    (∃ v, app.value? = some v ∧ ofDraft? (.ofValue v) = some app) ∧
      (∀ w a, ofDraft? (.ofValue w) = some a →
        ∃ v, a.value? = some v ∧ ofDraft? (.ofValue v) = some a) ∧
      (app.toJson.Integral → app.toJson.levels ≤ Json.maxDepth →
        (Json.read? app.descriptor).bind ofDraft? = some app) :=
  ⟨app.exists_value_reads, fun _ a _ => a.exists_value_reads, ofDraft?_read?_descriptor⟩

end App

/-- Lists inside each other. -/
def nestedList : (depth : Nat) → Value
  | 0 => .null
  | depth + 1 => .list [nestedList depth]

/-- An application with a property that is nested so deep. -/
def nestedApp (depth : Nat) : App :=
  { App.new "nested" "a \"quoted\"\r\nname" "1.0.0" "1.1.0" with
    properties := [⟨"value", .string, nestedList depth⟩, .integer "least" Number.minInteger] }

/-- Nested lists hold no numbers but integers. -/
theorem integral_nestedList (depth : Nat) : (nestedList depth).json.Integral := by
  induction depth with
  | zero => trivial
  | succ depth ih => exact ⟨ih, trivial⟩

/-- The application with nested lists holds no numbers but integers. -/
theorem integral_nestedApp (depth : Nat) : (nestedApp depth).toJson.Integral := by
  have value := integral_nestedList depth
  have least : (Number.integer Number.minInteger).Integral :=
    ⟨Int.le_refl _, by decide⟩
  simp [nestedApp, App.new, App.toJson, Property.toJson, Property.integer, Value.integer,
    Json.ofTexts, Json.Integral, Json.IntegralItems, Json.IntegralMembers, value, least]

/-- An application that is nested as deeply as a reader goes is read back. -/
theorem nestedApp_reads_back :
    (nestedApp 124).toJson.Integral ∧ (nestedApp 124).toJson.levels ≤ Json.maxDepth ∧
      (Json.read? (nestedApp 124).descriptor).bind App.ofDraft? = some (nestedApp 124) := by
  have few : (nestedApp 124).toJson.levels ≤ Json.maxDepth := by decide +kernel
  exact ⟨integral_nestedApp 124, few,
    (App.descriptor_reads_back (nestedApp 124)).2.2 (integral_nestedApp 124) few⟩

/-- One level more, and the text is not read. -/
theorem deeperApp_unreadable :
    (nestedApp 125).toJson.Integral ∧
      (Json.read? (nestedApp 125).descriptor).bind App.ofDraft? = none := by
  have integral := integral_nestedApp 125
  refine ⟨integral, ?_⟩
  rw [App.descriptor, Json.read?_pretty integral]
  exact Option.isNone_iff_eq_none.1 (by decide +kernel)

end EventGateway.Flogo
