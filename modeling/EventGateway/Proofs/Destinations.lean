import EventGateway.Compile.Topic
import EventGateway.Proofs.SecuritySettings
import EventGateway.Proofs.TemplateReplacement
import Mathlib.Data.List.DropRight

/-!
# Destinations of channels

A channel has one topic, but where its messages are received and where they are sent, the
destination is made from the topic in different ways: pieces are joined before or after parameters
are written with colons, and MQTT marks parameters in two ways.  Both sides agree on every topic,
whatever braces and slashes are in it.  For Kafka this is because reading a template only looks at
braces, so that a point in the place of a slash changes neither the runs nor what they become.

## Main definitions

* `TopicLaw` — what can be said about the topic of a channel below a base.
* `Endpoint.DestinationsAgree` — what the destinations of an endpoint are.

## Main statements

* `colonParams_joinTopic` — joining pieces and writing parameters with colons commute.
* `destinations_of_channel` — the topic of every channel, and the destinations made from it.
-/

namespace EventGateway

open Flogo (Settings)
open Text (KeepsBraces Template)

/-! ## Topics -/

/-- A text of slashes. -/
def slashes (n : Nat) : String :=
  String.ofList (List.replicate n '/')

/-- Slashes are dropped at both ends. -/
theorem trimSlashes_eq (s : List Char) :
    trimSlashes s = (s.dropWhile (· == '/')).rdropWhile (· == '/') := rfl

/-- Slashes at the start do not matter. -/
theorem trimSlashes_start (n : Nat) (s : List Char) :
    trimSlashes (List.replicate n '/' ++ s) = trimSlashes s := by
  have slash : ∀ c ∈ List.replicate n '/', (c == '/') = true := fun c mem =>
    beq_iff_eq.2 (List.eq_of_mem_replicate mem)
  rw [trimSlashes_eq, trimSlashes_eq, List.dropWhile_append_of_pos slash]

/-- Slashes at the end do not matter. -/
theorem trimSlashes_end (s : List Char) (n : Nat) :
    trimSlashes (s ++ List.replicate n '/') = trimSlashes s := by
  induction n with
  | zero => rw [List.replicate_zero, List.append_nil]
  | succ n ih =>
    rw [List.replicate_succ', ← List.append_assoc, ← ih, trimSlashes_eq, trimSlashes_eq,
      List.dropWhile_append]
    split_ifs with empty
    · -- There are only slashes before the last one.
      rw [List.isEmpty_iff.1 empty]
      rfl
    · exact List.rdropWhile_concat_pos _ _ _ rfl

/-- **Slashes at the ends do not count.** -/
theorem trimSlashes_slashes (m n : Nat) (s : String) :
    trimSlashes (slashes m ++ s ++ slashes n).toList = trimSlashes s.toList := by
  simp only [slashes, String.toList_append, String.toList_ofList]
  rw [trimSlashes_end, trimSlashes_start]

/-- A topic starts with a slash. -/
theorem exists_topicChars (channel : List Char) (base : Option (List Char)) :
    ∃ rest, topicChars channel base = '/' :: rest := by
  unfold topicChars
  split
  next rest => exact ⟨rest, rfl⟩
  next => split <;> exact ⟨_, rfl⟩

/-- A topic ends with its channel. -/
theorem suffix_topicChars (channel : List Char) (base : Option (List Char)) :
    channel <:+ topicChars channel base := by
  unfold topicChars
  split
  next => exact List.suffix_rfl
  next =>
    split
    next => exact List.suffix_cons '/' channel
    next => exact List.suffix_cons '/' channel
    next base _ _ => exact ⟨'/' :: base ++ ['/'], by simp⟩

/-- A topic sees its base without slashes at the ends. -/
theorem topicChars_congr (channel : List Char) {base base' : List Char}
    (h : trimSlashes base = trimSlashes base') :
    topicChars channel (some base) = topicChars channel (some base') := by
  unfold topicChars
  simp only [Option.map_some, h]

/-- The characters of a topic. -/
theorem toList_resolveTopic (channel : String) (base : Option String) :
    (resolveTopic channel base).toList = topicChars channel.toList (base.map String.toList) :=
  String.toList_ofList

/-- A topic starts with a slash. -/
theorem exists_resolveTopic (channel : String) (base : Option String) :
    ∃ relative, resolveTopic channel base = "/" ++ relative := by
  obtain ⟨rest, start⟩ := exists_topicChars channel.toList (base.map String.toList)
  refine ⟨String.ofList rest, ?_⟩
  rw [← String.toList_inj, toList_resolveTopic, start]
  simp

/-- What starts with a slash is a topic, below whatever base. -/
theorem resolveTopic_slash (relative : String) (base : Option String) :
    resolveTopic ("/" ++ relative) base = "/" ++ relative := by
  rw [← String.toList_inj, toList_resolveTopic, String.toList_append]
  rfl

/-- What can be said about the topic of a channel below a base. -/
structure TopicLaw (channel : String) (base : Option String) : Prop where
  slash : ∃ relative, resolveTopic channel base = "/" ++ relative
  /-- The topic ends with the name of the channel. -/
  ends : channel.toList <:+ (resolveTopic channel base).toList
  /-- A topic is its own topic, below whatever base. -/
  again : ∀ other, resolveTopic (resolveTopic channel base) other = resolveTopic channel base
  /-- Slashes around the base do not matter. -/
  around : ∀ b, base = some b → ∀ m n,
    resolveTopic channel (some (slashes m ++ b ++ slashes n)) = resolveTopic channel base

/-- **Every topic** obeys the law of topics. -/
theorem topicLaw (channel : String) (base : Option String) : TopicLaw channel base := by
  obtain ⟨relative, slash⟩ := exists_resolveTopic channel base
  refine ⟨⟨relative, slash⟩, ?_, fun other => ?_, fun b eq m n => ?_⟩
  · rw [toList_resolveTopic]
    exact suffix_topicChars _ _
  · rw [slash]
    exact resolveTopic_slash relative other
  · rw [eq, ← String.toList_inj, toList_resolveTopic, toList_resolveTopic]
    exact topicChars_congr _ (trimSlashes_slashes m n b)

/-! ## Pieces of a topic -/

/-- A character of a topic whose pieces are separated by another character than the slash. -/
def replaceSlash (delimiter c : Char) : Char :=
  if c = '/' then delimiter else c

/-- Joining the segments of a topic replaces its slashes. -/
theorem joinTopic_eq (delimiter : Char) (topic : String) :
    joinTopic delimiter topic = topic.map (replaceSlash delimiter) := by
  rw [← String.toList_inj, String.toList_map, joinTopic, String.toList_ofList]
  rfl

/-- A character in front of the first piece is in front of the whole. -/
theorem intercalate_modifyHead (delimiter c : Char) {pieces : List (List Char)}
    (some : pieces ≠ []) :
    [delimiter].intercalate (pieces.modifyHead (c :: ·)) = c :: [delimiter].intercalate pieces := by
  cases pieces with
  | nil => exact absurd rfl some
  | cons piece pieces => cases pieces <;> simp [List.intercalate_cons_cons]

/-- Replacing slashes is joining the pieces between them. -/
theorem map_replaceSlash (delimiter : Char) (s : List Char) :
    s.map (replaceSlash delimiter) = [delimiter].intercalate (s.splitOn '/') := by
  induction s with
  | nil => rfl
  | cons c s ih =>
    have some : s.splitOnP (· == '/') ≠ [] := List.splitOn_ne_nil '/' s
    rw [List.splitOn_eq_splitOnP] at ih ⊢
    rw [List.splitOnP_cons_eq_if_modifyHead, List.map_cons, ih]
    split_ifs with slash
    · rw [List.intercalate_cons_of_ne_nil some, replaceSlash, if_pos (beq_iff_eq.1 slash)]
      rfl
    · rw [intercalate_modifyHead delimiter c some, replaceSlash, if_neg (beq_iff_eq.not.1 slash)]

/-- The segments between slashes, joined by another character. -/
theorem toList_joinTopic (delimiter : Char) (topic : String) :
    (joinTopic delimiter topic).toList = [delimiter].intercalate (topic.toList.splitOn '/') := by
  rw [joinTopic_eq, String.toList_map, map_replaceSlash]

/-- Replacing slashes leaves braces alone, unless they are put in. -/
theorem keepsBraces_replaceSlash {delimiter : Char} (opening : delimiter ≠ '{')
    (closing : delimiter ≠ '}') : KeepsBraces (replaceSlash delimiter) := by
  constructor <;> intro c <;> unfold replaceSlash <;> split_ifs with slash
  · subst slash
    exact iff_of_false opening (by decide)
  · rfl
  · subst slash
    exact iff_of_false closing (by decide)
  · rfl

/-- **Pieces may be joined before parameters are written with colons, or after it.** -/
theorem colonParams_joinTopic {delimiter : Char} (opening : delimiter ≠ '{')
    (closing : delimiter ≠ '}') (text : String) :
    (Template.parse (joinTopic delimiter text)).colonParams =
      joinTopic delimiter (Template.parse text).colonParams := by
  rw [joinTopic_eq, joinTopic_eq]
  refine Template.render_parse_map (keepsBraces_replaceSlash opening closing) (fun name => ?_) text
  rw [← String.toList_inj]
  simp [replaceSlash]

/-! ## Markers of parameters -/

/-- The text of a template with a marker in front of each variable. -/
def Text.Template.marked (marker : String → Char) (t : Template) : String :=
  t.render fun name => String.singleton (marker name) ++ name

/-- Two markings of a template differ at the markers only. -/
theorem Text.Template.forall₂_marked {R : Char → Char → Prop} (same : ∀ c, R c c)
    {marker marker' : String → Char} (markers : ∀ name, R (marker name) (marker' name))
    (t : Template) : List.Forall₂ R (t.marked marker).toList (t.marked marker').toList := by
  refine forall₂_render same (fun name => ?_) t
  rw [String.toList_append, String.toList_append, String.toList_singleton, String.toList_singleton]
  exact .cons (markers name) (List.forall₂_same.2 fun c _ => same c)

/-- The first parameter with a name stands for several levels of a topic. -/
def Endpoint.IsMultilevel (e : Endpoint) (name : String) : Prop :=
  ∃ before p after, e.parameters = before ++ p :: after ∧ (∀ q ∈ before, q.name ≠ name) ∧
    p.name = name ∧ p.isMultilevel = true

/-- How an MQTT handler marks a parameter. -/
def Mqtt.levelMarker (e : Endpoint) (name : String) : Char :=
  if ((e.parameter? name).map (·.isMultilevel)).getD false then '#' else '+'

/-- A wildcard is a marker and the name of the parameter. -/
theorem Mqtt.wildcard_eq (e : Endpoint) (name : String) :
    wildcard e name = String.singleton (levelMarker e name) ++ name := by
  unfold wildcard levelMarker
  split <;> rfl

/-- Whether a parameter stands for several levels is what the first one of its name says. -/
theorem Endpoint.isMultilevel_iff (e : Endpoint) (name : String) :
    e.IsMultilevel name ↔ ((e.parameter? name).map (·.isMultilevel)).getD false = true := by
  constructor
  · rintro ⟨before, p, after, split, earlier, named, multilevel⟩
    have found : e.parameter? name = some p :=
      List.find?_eq_some_iff_append.2 ⟨beq_iff_eq.2 named, before, after, split, fun q mem => by
        simpa using earlier q mem⟩
    rw [found]
    exact multilevel
  · intro multilevel
    cases found : e.parameter? name with
    | none =>
      rw [found] at multilevel
      cases multilevel
    | some p =>
      rw [found] at multilevel
      obtain ⟨named, before, after, split, earlier⟩ := List.find?_eq_some_iff_append.1 found
      exact ⟨before, p, after, split, fun q mem => by simpa using earlier q mem,
        beq_iff_eq.1 named, multilevel⟩

/-- The marker tells whether a parameter stands for several levels. -/
theorem Mqtt.levelMarker_cases (e : Endpoint) (name : String) :
    levelMarker e name = '#' ∧ e.IsMultilevel name ∨
      levelMarker e name = '+' ∧ ¬ e.IsMultilevel name := by
  rw [e.isMultilevel_iff, levelMarker]
  split
  next multilevel => exact .inl ⟨rfl, multilevel⟩
  next single => exact .inr ⟨rfl, single⟩

/-! ## Destinations in settings -/

section Settings

variable (e : Endpoint)

/-- The topic of a Kafka handler has points for slashes. -/
theorem Kafka.find?_topic_handler :
    (handler e).find? "topic" = some (.text (joinTopic '.' e.relativeTopic)) := by
  unfold handler
  split <;> simp [Dict.find?_insert?]

/-- The topic of a Kafka service has points for slashes and colons for braces. -/
theorem Kafka.find?_topic_service : (service e).find? "topic" =
    some (.text (joinTopic '.' (Template.parse e.relativeTopic).colonParams)) := by
  simp [service]

/-- The destination of an eFTL handler has underscores for slashes. -/
theorem Eftl.find?_dest_handler :
    (handler e).find? "dest" = some (.text (joinTopic '_' e.relativeTopic)) := by
  simp [handler, destination]

/-- The destination of an eFTL service is that of its handler. -/
theorem Eftl.find?_dest_service :
    (service e).find? "dest" = some (.text (joinTopic '_' e.relativeTopic)) := by
  simp [service, destination]

/-- The topic of an MQTT handler has wildcards for parameters. -/
theorem Mqtt.find?_topic_handler : (handler e).find? "topic" =
    some (.text ((Template.parse e.relativeTopic).marked (levelMarker e))) := by
  have marked : wildcard e = fun name => String.singleton (levelMarker e name) ++ name :=
    funext (wildcard_eq e)
  rw [Template.marked, ← marked]
  unfold handler
  split <;> simp [Dict.find?_insert?]

/-- The topic of an MQTT service has colons in front of parameters. -/
theorem Mqtt.find?_topic_service : (service e).find? "topic" =
    some (.text ((Template.parse e.relativeTopic).marked fun _ => ':')) := by
  have other : "topic" ∉ securityKeys := by decide
  show _ = some (Value.text (Template.parse e.relativeTopic).colonParams)
  unfold service addCredentials
  split <;> split <;> simp [TlsPolicy.find?_addFlat _ _ other, Dict.find?_insert?]

end Settings

/-- What the destinations of an endpoint are, if its topic is a slash and `relative`. -/
structure Endpoint.DestinationsAgree (e : Endpoint) (relative : String) : Prop where
  kafkaHandler : (Protocol.kafka.handlerSettings e).find? "topic" =
    some (.text (relative.map (replaceSlash '.')))
  /-- A Kafka service has the topic of the handler, with parameters behind colons. -/
  kafkaService : (Protocol.kafka.serviceSettings e).find? "topic" =
    some (.text (Template.parse (relative.map (replaceSlash '.'))).colonParams)
  eftlHandler : (Protocol.eftl.handlerSettings e).find? "dest" =
    some (.text (relative.map (replaceSlash '_')))
  eftlService : (Protocol.eftl.serviceSettings e).find? "dest" =
    some (.text (relative.map (replaceSlash '_')))
  /-- Both topics of MQTT are the same template, with one marker or another. -/
  mqttHandler : (Protocol.mqtt.handlerSettings e).find? "topic" =
    some (.text ((Template.parse relative).marked (Mqtt.levelMarker e)))
  mqttService : (Protocol.mqtt.serviceSettings e).find? "topic" =
    some (.text ((Template.parse relative).marked fun _ => ':'))
  mqttMarker : ∀ name, Mqtt.levelMarker e name = '#' ∧ e.IsMultilevel name ∨
    Mqtt.levelMarker e name = '+' ∧ ¬ e.IsMultilevel name
  /-- Character by character, they differ at the markers only. -/
  mqttElsewhere : List.Forall₂ (fun c c' => c = c' ∨ (c = '#' ∨ c = '+') ∧ c' = ':')
    ((Template.parse relative).marked (Mqtt.levelMarker e)).toList
    ((Template.parse relative).marked fun _ => ':').toList

/-- The relative topic is what follows the first slash. -/
theorem Endpoint.relativeTopic_of_topic {e : Endpoint} {relative : String}
    (topic : e.topic = "/" ++ relative) : e.relativeTopic = relative := by
  have start : e.topic.toList = '/' :: relative.toList := by
    rw [topic, String.toList_append]
    rfl
  rw [relativeTopic, start]
  exact String.ofList_toList

/-- **The destinations of handler and service agree** wherever a topic starts with a slash. -/
theorem destinationsAgree {e : Endpoint} {relative : String} (topic : e.topic = "/" ++ relative) :
    e.DestinationsAgree relative := by
  obtain rfl : e.relativeTopic = relative := e.relativeTopic_of_topic topic
  refine ⟨?_, ?_, ?_, ?_, Mqtt.find?_topic_handler e, Mqtt.find?_topic_service e,
    Mqtt.levelMarker_cases e, ?_⟩
  · rw [← joinTopic_eq]
    exact Kafka.find?_topic_handler e
  · rw [← joinTopic_eq, colonParams_joinTopic (by decide) (by decide)]
    exact Kafka.find?_topic_service e
  · rw [← joinTopic_eq]
    exact Eftl.find?_dest_handler e
  · rw [← joinTopic_eq]
    exact Eftl.find?_dest_service e
  · refine Template.forall₂_marked (fun c => .inl rfl) (fun name => .inr ⟨?_, rfl⟩) _
    exact (Mqtt.levelMarker_cases e name).imp And.left And.left

/-- **Where the messages of a channel are received and where they are sent.**  The topic of a
channel is the same below its base with or without slashes around, and its own topic.  Destinations
are made from it by joining its pieces, which commutes with writing parameters with colons, and so
both sides agree. -/
theorem destinations_of_channel (channel : String) (base : Option String) :
    TopicLaw channel base ∧
    (∀ delimiter topic,
      (joinTopic delimiter topic).toList = [delimiter].intercalate (topic.toList.splitOn '/')) ∧
    (∀ topic, (Template.parse (joinTopic '.' topic)).colonParams =
      joinTopic '.' (Template.parse topic).colonParams) ∧
    ∀ e : Endpoint, e.topic = resolveTopic channel base →
      ∃ relative, e.topic = "/" ++ relative ∧ e.DestinationsAgree relative := by
  have law := topicLaw channel base
  refine ⟨law, toList_joinTopic, colonParams_joinTopic (by decide) (by decide), fun e topic => ?_⟩
  obtain ⟨relative, slash⟩ := law.slash
  exact ⟨relative, topic.trans slash, destinationsAgree (topic.trans slash)⟩

/-- An endpoint whose topic has an empty piece, a slash in a parameter and braces without a partner,
and two parameters of one name. -/
def strayEndpoint : Endpoint where
  protocol := "mqtt"
  serverIndex := 0
  url := "=$property[mqtt0URL]"
  topic := "/plant/halls//\x7bhall/room\x7d\x7d+\x7bx"
  parameters := [⟨"hall/room", some true⟩, ⟨"hall/room", some false⟩]

/-- A topic with stray braces, as both sides write it. -/
theorem strayEndpoint_destinations :
    strayEndpoint.topic =
      resolveTopic "halls//\x7bhall/room\x7d\x7d+\x7bx" (some "//plant/") ∧
    (Protocol.kafka.handlerSettings strayEndpoint).find? "topic" =
      some (.text "plant.halls..\x7bhall.room\x7d\x7d+\x7bx") ∧
    (Protocol.kafka.serviceSettings strayEndpoint).find? "topic" =
      some (.text "plant.halls..:hall.room+x") ∧
    (Protocol.mqtt.handlerSettings strayEndpoint).find? "topic" =
      some (.text "plant/halls//#hall/room+x") ∧
    (Protocol.mqtt.serviceSettings strayEndpoint).find? "topic" =
      some (.text "plant/halls//:hall/room+x") := by
  have topic : strayEndpoint.topic =
      resolveTopic "halls//\x7bhall/room\x7d\x7d+\x7bx" (some "//plant/") := by decide +kernel
  obtain ⟨-, -, -, agree⟩ :=
    destinations_of_channel "halls//\x7bhall/room\x7d\x7d+\x7bx" (some "//plant/")
  obtain ⟨relative, slash, destinations⟩ := agree strayEndpoint topic
  have known : strayEndpoint.topic =
      "/" ++ "plant/halls//\x7bhall/room\x7d\x7d+\x7bx" := by decide +kernel
  obtain rfl : "plant/halls//\x7bhall/room\x7d\x7d+\x7bx" = relative :=
    (String.append_right_inj "/").1 (known.symm.trans slash)
  have evaluated {text text' : String} (eq : text = text') :
      some (Value.text text) = some (Value.text text') := congrArg (some ∘ Value.text) eq
  exact ⟨topic, destinations.kafkaHandler.trans (evaluated (by decide +kernel)),
    destinations.kafkaService.trans (evaluated (by decide +kernel)),
    destinations.mqttHandler.trans (evaluated (by decide +kernel)),
    destinations.mqttService.trans (evaluated (by decide +kernel))⟩

end EventGateway
