import EventGateway.Fault

/-!
# Binding information of operations

An operation may carry binding information for HTTP, MQTT and Kafka, each in a section of its own.
Reading it never fails: a part of another type, or one that nobody knows, is left out and reported
as a defect.  Null stands for a missing part.
-/

namespace EventGateway.AsyncApi

/-- A section of binding information. -/
inductive Section where
  | http
  | mqtt
  | kafka
deriving DecidableEq, Repr

/-- The key of a section. -/
def Section.key : Section → String
  | http => "flogo-http"
  | mqtt => "flogo-mqtt"
  | kafka => "flogo-kafka"

/-- A part of binding information that is left out. -/
inductive Defect where
  /-- The binding information itself is no object. -/
  | noObject
  | sectionNoObject (part : Section)
  | mistyped (part : Section) (key : String) (expected : Kind) (found : Value)
  | unknownKey (part : Section) (key : String)

/-- The text of a defect in the binding information of some owner. -/
def Defect.message (owner : String) : Defect → String
  | noObject => owner ++ ": binding info is not an object, ignoring"
  | sectionNoObject part => owner ++ ": " ++ part.key ++ " is not an object, ignoring"
  | mistyped part key expected found =>
    owner ++ ": " ++ part.key ++ "." ++ key ++ " should be " ++ expected.describe ++
      ", found " ++ found.compact ++ "; ignoring"
  | unknownKey part key => owner ++ ": unknown key " ++ part.key ++ "." ++ key ++ "; ignoring"

/-- What the HTTP section says. -/
structure HttpInfo where
  method : Option String := none
  headers : Option (Dict String) := none
  proxy : Option String := none
  timeout : Option Int := none
  skipVerify : Option Bool := none
  useSystemCert : Option Bool := none

/-- What the MQTT section says. -/
structure MqttInfo where
  replyTopic : Option String := none
  qos : Option Int := none
  store : Option String := none
  cleanSession : Option Bool := none
  skipVerify : Option Bool := none
  useSystemCert : Option Bool := none
deriving DecidableEq, Repr

/-- What the Kafka section says. -/
structure KafkaInfo where
  partitions : Option String := none
  offset : Option Int := none
deriving DecidableEq, Repr

/-- The sections of an operation. -/
structure OperationBindings where
  http : Option HttpInfo := none
  mqtt : Option MqttInfo := none
  kafka : Option KafkaInfo := none

/-- A number without its fraction. -/
def integer? (v : Value) : Option Int :=
  v.number?.map Number.truncate

/-- An object whose members are all texts. -/
def stringMap? (v : Value) : Option (Dict String) :=
  v.members?.bind fun members =>
    if members.values.all (·.text?.isSome) then some (members.map fun value => value.text?.getD "")
    else none

/-- Reads one key of a section, with the defect if its value is of another type. -/
def readKey {α : Type} (part : Section) (members : Dict Value) (key : String) (expected : Kind)
    (read : Value → Option α) : Option α × List Defect :=
  match members.find? key with
  | none => (none, [])
  | some value =>
    if value.isNull then (none, [])
    else
      match read value with
      | some a => (some a, [])
      | none => (none, [.mistyped part key expected value])

/-- The keys of a section that are not known, ascending. -/
def unknownKeys (part : Section) (members : Dict Value) (known : List String) : List Defect :=
  (members.keys.filter fun key => !known.contains key).map (.unknownKey part)

/-- Reads the HTTP section. -/
def HttpInfo.read (members : Dict Value) : HttpInfo × List Defect :=
  let (method, d₁) := readKey .http members "method" .string Value.text?
  let (headers, d₂) := readKey .http members "headers" .stringMap stringMap?
  let (proxy, d₃) := readKey .http members "proxy" .string Value.text?
  let (timeout, d₄) := readKey .http members "timeout" .number integer?
  let (skipVerify, d₅) := readKey .http members "skipVerify" .boolean Value.bool?
  let (useSystemCert, d₆) := readKey .http members "useSystemCert" .boolean Value.bool?
  let known := ["method", "headers", "proxy", "timeout", "skipVerify", "useSystemCert"]
  ({ method, headers, proxy, timeout, skipVerify, useSystemCert },
    d₁ ++ d₂ ++ d₃ ++ d₄ ++ d₅ ++ d₆ ++ unknownKeys .http members known)

/-- Reads the MQTT section. -/
def MqttInfo.read (members : Dict Value) : MqttInfo × List Defect :=
  let (replyTopic, d₁) := readKey .mqtt members "replyTopic" .string Value.text?
  let (qos, d₂) := readKey .mqtt members "qos" .number integer?
  let (store, d₃) := readKey .mqtt members "store" .string Value.text?
  let (cleanSession, d₄) := readKey .mqtt members "cleanSession" .boolean Value.bool?
  let (skipVerify, d₅) := readKey .mqtt members "skipVerify" .boolean Value.bool?
  let (useSystemCert, d₆) := readKey .mqtt members "useSystemCert" .boolean Value.bool?
  let known := ["replyTopic", "qos", "store", "cleanSession", "skipVerify", "useSystemCert"]
  ({ replyTopic, qos, store, cleanSession, skipVerify, useSystemCert },
    d₁ ++ d₂ ++ d₃ ++ d₄ ++ d₅ ++ d₆ ++ unknownKeys .mqtt members known)

/-- Reads the Kafka section. -/
def KafkaInfo.read (members : Dict Value) : KafkaInfo × List Defect :=
  let (partitions, d₁) := readKey .kafka members "partitions" .string Value.text?
  let (offset, d₂) := readKey .kafka members "offset" .number integer?
  ({ partitions, offset }, d₁ ++ d₂ ++ unknownKeys .kafka members ["partitions", "offset"])

/-- Reads a section of the binding information, if it is there. -/
def readSection {α : Type} (part : Section) (root : Dict Value)
    (read : Dict Value → α × List Defect) : Option α × List Defect :=
  match root.find? part.key with
  | none => (none, [])
  | some value =>
    if value.isNull then (none, [])
    else
      match value.members? with
      | none => (none, [.sectionNoObject part])
      | some members =>
        let (info, defects) := read members
        (some info, defects)

/-- Reads binding information. -/
def OperationBindings.read (raw : Option Value) : OperationBindings × List Defect :=
  match raw with
  | none => ({}, [])
  | some value =>
    if value.isNull then ({}, [])
    else
      match value.members? with
      | none => ({}, [.noObject])
      | some root =>
        let (http, d₁) := readSection .http root HttpInfo.read
        let (mqtt, d₂) := readSection .mqtt root MqttInfo.read
        let (kafka, d₃) := readSection .kafka root KafkaInfo.read
        ({ http, mqtt, kafka }, d₁ ++ d₂ ++ d₃)

end EventGateway.AsyncApi
