import EventGateway.Proofs.Irrelevance

/-!
# Lists in the place of maps

The servers of a document and the parameters of a channel may stand in a map under their names, or
in a list in which each carries its name.  A map that is written out as a list, in ascending order
of the names, is the same document to a compilation: the walk through the entries finds the same
names in the same order, hence at the same positions, and nobody looks at the name that an entry
carries itself.

## Main statements

* `servers_listed`, `parameters_listed` — the walk through a map that is written out as a list.
* `alike_listServers`, `alike_listParameters` — both layouts show a compilation the same.
* `compile_listed` — a compilation gives the same for both layouts.
-/

namespace EventGateway

open AsyncApi

/-! ## Writing out a map -/

/-- Changes the values by their keys and keeps the keys. -/
def Dict.mapWithKey {α β : Type} (f : String → α → β) (d : Dict α) : Dict β where
  entries := d.entries.map fun (key, value) => (key, f key value)
  ascending := by simpa [Function.comp_def] using d.ascending

namespace AsyncApi

/-- Writes a map as a list: its entries in ascending order, each of them with its name. -/
def Layout.listed {α : Type} (named : String → α → α) : Layout α → Layout α
  | list entries => list entries
  | map entries => list (entries.entries.map fun (name, entry) => named name entry)

/-- A server that carries a name. -/
def Server.named (name : String) (s : Server) : Server :=
  { s with name := some name }

/-- A parameter that carries a name. -/
def Parameter.named (name : String) (p : Parameter) : Parameter :=
  { p with name := some name }

namespace Document

/-- The document with its servers in a list. -/
def listServers (d : Document) : Document :=
  { d with servers := d.servers.listed Server.named }

/-- The document with the parameters of some channels in lists. -/
def listParameters (d : Document) (chosen : String → Bool) : Document :=
  { d with channels := d.channels.mapWithKey fun name c =>
      if chosen name then { c with parameters := c.parameters.listed Parameter.named } else c }

end Document

/-! ## Walks through entries -/

/-- Servers that carry their names are named by them. -/
theorem nameByPosition_named (position : Nat) (entries : List (String × Server)) :
    nameByPosition Server.name position (entries.map fun (name, s) => s.named name) =
      entries.map fun (name, s) => (name, s.named name) := by
  induction entries generalizing position with
  | nil => rfl
  | cons entry entries ih => exact congrArg (_ :: ·) (ih (position + 1))

/-- **Servers that are written out** are walked through under their names and in their order. -/
theorem servers_listed (entries : Dict Server) :
    ((Layout.map entries).listed Server.named).servers =
      entries.entries.map fun (name, s) => (name, s.named name) :=
  nameByPosition_named 0 entries.entries

/-- **Parameters that are written out** are walked through under their names and in their order; as
all of them have names, none is left out. -/
theorem parameters_listed (entries : Dict Parameter) :
    ((Layout.map entries).listed Parameter.named).parameters =
      entries.entries.map fun (name, p) => (name, p.named name) := by
  rw [Layout.listed, Layout.parameters, List.filterMap_map, ← List.filterMap_eq_map]
  rfl

/-- A walk finds the same names in both layouts, and entries that are related if an entry is related
to itself and to the one that carries its name. -/
theorem forall₂_listed {α : Type} {named : String → α → α} {walk : Layout α → List (String × α)}
    (unwritten : ∀ entries, walk (.map entries) = entries.entries)
    (written : ∀ entries, walk ((Layout.map entries).listed named) =
      entries.entries.map fun (name, a) => (name, named name a))
    {R : α → α → Prop} (same : ∀ a, R a a) (carries : ∀ name a, R a (named name a))
    (l : Layout α) :
    List.Forall₂ (fun x x' => x'.1 = x.1 ∧ R x.2 x'.2) (walk l) (walk (l.listed named)) := by
  cases l with
  | list entries => exact List.forall₂_same.2 fun x _ => ⟨rfl, same x.2⟩
  | map entries =>
    rw [unwritten, written, List.forall₂_map_right_iff]
    exact List.forall₂_same.2 fun x _ => ⟨rfl, carries x.1 x.2⟩

/-! ## Likeness -/

/-- A server is like itself with a name written into it. -/
theorem Server.alike_named (name : String) (s : Server) : s.Alike (s.named name) :=
  ⟨rfl, fun _ _ => ⟨rfl, rfl, rfl, rfl, fun _ _ => rfl⟩⟩

theorem Server.alike_refl (s : Server) : s.Alike s :=
  ⟨rfl, fun _ _ => ⟨rfl, rfl, rfl, rfl, fun _ _ => rfl⟩⟩

theorem Operation.alike_refl (o? : Option Operation) : Option.Rel Operation.Alike o? o? := by
  cases o? with
  | none => exact .none
  | some o => exact .some (.inl rfl)

theorem Channel.alike_refl (c : Channel) : c.Alike c where
  parameters := List.forall₂_same.2 fun _ _ => ⟨rfl, fun _ _ => rfl⟩
  subscribe := Operation.alike_refl _
  publish := Operation.alike_refl _

/-- A channel shows the same with its parameters in a list. -/
theorem Channel.alike_listed (c : Channel) :
    c.Alike { c with parameters := c.parameters.listed Parameter.named } where
  parameters := forall₂_listed (fun _ => rfl) parameters_listed (fun _ _ _ => rfl)
    (fun _ _ _ _ => rfl) c.parameters
  subscribe := Operation.alike_refl _
  publish := Operation.alike_refl _

namespace Document

/-- **A map of servers** may be written as a list. -/
theorem alike_listServers (d : Document) : d.Alike d.listServers where
  id := rfl
  info := rfl
  components := rfl
  servers := forall₂_listed (fun _ => rfl) servers_listed Server.alike_refl Server.alike_named
    d.servers
  channels := List.forall₂_same.2 fun x _ => ⟨rfl, x.2.alike_refl⟩

/-- **Maps of parameters** may be written as lists. -/
theorem alike_listParameters (d : Document) (chosen : String → Bool) :
    d.Alike (d.listParameters chosen) where
  id := rfl
  info := rfl
  components := rfl
  servers := List.forall₂_same.2 fun x _ => ⟨rfl, x.2.alike_refl⟩
  channels := by
    refine List.forall₂_map_right_iff.2 (List.forall₂_same.2 fun x _ => ⟨rfl, ?_⟩)
    show x.2.Alike (if chosen x.1 then _ else x.2)
    split
    · exact x.2.alike_listed
    · exact x.2.alike_refl

end Document

end AsyncApi

/-! ## Compilations -/

/-- **Both layouts are compiled alike.**  Whatever the options are, a document whose servers stand
in a map ends with the same fault, or has the same application, the same methods and the same
warnings, as with its servers written out as a list; and so does a document with the parameters of
any channels written out. -/
theorem compile_listed (d : Document) (o : Options) :
    compile d.listServers o = compile d o ∧
      ∀ chosen, compile (d.listParameters chosen) o = compile d o := by
  have servers : startContext d.listServers o = startContext d o := by
    rw [startContext, unsupportedServers_of_alike d.alike_listServers]
    rfl
  exact ⟨compile_congr servers fun p => pass_of_alike d.alike_listServers o p, fun chosen =>
    compile_congr rfl fun p => pass_of_alike (d.alike_listParameters chosen) o p⟩

/-! ## A document in the layout of maps -/

/-- A document with a map of servers and, at its channel, a map of parameters. -/
def mappedDocument : Document where
  asyncapi := "2.0.0"
  id := none
  info := { title := "mapped", version := "1.0.0" }
  servers := .map (Dict.ofList [("queue", plainServer "" "queue" "amqp"),
    ("broker", plainServer "" "broker:1883" "mqtt")])
  channels := Dict.ofList [("/rooms/\x7broom\x7d", { plainChannel with
    parameters := .map (Dict.ofList
      [("room", ⟨none, none, none, Dict.ofList [("x-multilevel", .bool true)]⟩)]) })]
  components := none

/-- Names in warnings, positions in identifiers and look-ups of parameters are the same in the
layout of lists. -/
example :
    let listed := (mappedDocument.listServers).listParameters fun _ => true
    [mappedDocument, listed].map (fun d => (compile d {}).toOption.map fun c =>
        (c.warnings.map Warning.message, c.app.triggers.map fun t =>
          (t.id, t.handlers.map fun h => (h.settings.find? "topic").bind Value.text?))) =
      List.replicate 2 (some (["server queue: protocol amqp is not supported, skipping"],
        [("mqtt0", [some "rooms/#room"]), ("mqttPublish", [none])])) := by
  decide +kernel

end EventGateway
