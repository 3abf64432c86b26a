import Txing.Library.GoAny
import Txing.Library.Interleaving

/-! The projection of Sparkplug messages into the `sparkplug` named shadow (`internal/witness/witness.go`), as
programs over the calls to AWS. -/

namespace Txing.Witness.ShadowProjection
open Txing.Library

def sparkplugNamespace : String := "spBv1.0"
def rigKindAttribute : String := "rigType"

def replaceMetricsMessageTypes : List String := ["DBIRTH", "NBIRTH"]
def mergeMetricsMessageTypes : List String := ["DDATA", "NDATA"]
def clearMetricsMessageTypes : List String := ["DDEATH", "NDEATH"]

def commandResultMetricKeys : List String :=
  ["redconCommandId", "redconCommandObservedAt", "redconCommandSeq", "redconCommandStatus", "redconCommandTarget",
    "redconCommandMessage"]

structure SparkplugMessage where
  groupID : String
  messageType : String
  edgeNodeID : String
  deviceID : Option String := none
  seq : Option Int64 := none
  sparkplugTimestamp : Option Int64 := none
  metrics : AnyMap := .nil

structure ThingDescription where
  thingTypeName : Option String := none
  attributes : String → String := fun _ => ""

inductive ShadowCall where
  | describeThing (thingName : String)
  | getSparkplugShadow (thingName : String)
  | updateSparkplugShadow (thingName : String) (reported : AnyMap)

/-- A shadow that does not exist is `none`; of one that does, the reported section is kept. -/
def ShadowReply : ShadowCall → Type
  | .describeThing _ => Except String ThingDescription
  | .getSparkplugShadow _ => Except String (Option AnyMap)
  | .updateSparkplugShadow _ _ => Except String Unit

abbrev Projecting := ExceptT String (Process ShadowCall ShadowReply)

def int64PtrValue : Option Int64 → Any
  | none => .nil
  | some value => .int64 value

/-- `BuildReportedPayload`, with these metrics. -/
def reportedPayload (message : SparkplugMessage) (metrics : AnyMap) (observedAt : Int64) : AnyMap :=
  let topic : AnyMap := .cons "namespace" (.string sparkplugNamespace) <| .cons "groupId" (.string message.groupID) <|
    .cons "messageType" (.string message.messageType) <| .cons "edgeNodeId" (.string message.edgeNodeID) .nil
  let topic := message.deviceID.elim topic fun deviceID => topic.assign "deviceId" (.string deviceID)
  .cons "topic" (.map topic) <|
    .cons "payload" (.map <| .cons "timestamp" (int64PtrValue message.sparkplugTimestamp) <|
      .cons "seq" (int64PtrValue message.seq) <| .cons "metrics" (.map metrics) .nil) <|
    .cons "projection" (.map (.cons "observedAt" (.int64 observedAt) .nil)) .nil

def describeThing (thingName : String) : Projecting ThingDescription :=
  .mk (Process.ask (ShadowCall.describeThing thingName))

def getSparkplugShadow (thingName : String) : Projecting (Option AnyMap) :=
  .mk (Process.ask (ShadowCall.getSparkplugShadow thingName))

def updateSparkplugShadow (thingName : String) (reported : AnyMap) : Projecting Unit :=
  .mk (Process.ask (ShadowCall.updateSparkplugShadow thingName reported))

def quoted (text : String) : String := "\"" ++ text ++ "\""

def checkTown (message : SparkplugMessage) (town : ThingDescription) : Except String Unit :=
  if town.thingTypeName = some "town" then .ok ()
  else .error ("Sparkplug group id " ++ quoted message.groupID ++ " does not identify a town thing")

def checkRig (message : SparkplugMessage) (rig : ThingDescription) : Except String String :=
  if rig.attributes "kind" ≠ rigKindAttribute then
    .error ("Sparkplug edge node id " ++ quoted message.edgeNodeID ++ " does not identify a rig thing")
  else if rig.attributes "townId" ≠ message.groupID then
    .error ("Rig thing " ++ quoted message.edgeNodeID ++ " is not assigned to town " ++ quoted message.groupID)
  else .ok message.edgeNodeID

def resolveThingName (message : SparkplugMessage) : Projecting String :=
  match message.deviceID with
  | some deviceID => return deviceID
  | none => do
    let town ← describeThing message.groupID
    let _ ← ExceptT.mk (pure (checkTown message town))
    let rig ← describeThing message.edgeNodeID
    ExceptT.mk (pure (checkRig message rig))

/-- The type assertion to a map, on an entry. -/
def mapAt (key : String) (entries : AnyMap) : Option AnyMap :=
  match entries.lookup key with
  | some (.map inner) => some inner
  | _ => none

def reportedMetricsFromShadow (reported : AnyMap) : Option AnyMap :=
  (mapAt "payload" reported).bind (mapAt "metrics")

def numberAsFloat64 : Any → Option Rat
  | .int64 value => some (Library.float64 value.toInt)
  | .float64 value => some value
  | _ => none

def metricValuesEqual (left right : Any) : Bool :=
  match left, right with
  | .nil, .nil => true
  | .nil, _ => false
  | _, .nil => false
  | left, right =>
    match numberAsFloat64 left with
    | some leftNumber => numberAsFloat64 right = some leftNumber
    | none =>
      match left, right with
      | .bool leftValue, .bool rightValue => leftValue = rightValue
      | .bool _, _ => false
      | .string leftValue, .string rightValue => leftValue = rightValue
      | .string _, _ => false
      | left, right => left.sprint = right.sprint

mutual

/-- One entry of `metricPatchIsNoop`, against the current value. -/
def valueIsNoop (current : Any) : Any → Bool
  | .map patch =>
    match current with
    | .map current => metricPatchIsNoop current patch
    | _ => false
  | .nil => metricValuesEqual current .nil
  | .bool value => metricValuesEqual current (.bool value)
  | .int64 value => metricValuesEqual current (.int64 value)
  | .float64 value => metricValuesEqual current (.float64 value)
  | .string value => metricValuesEqual current (.string value)
  | .slice items => metricValuesEqual current (.slice items)

def metricPatchIsNoop (current : AnyMap) : AnyMap → Bool
  | .nil => true
  | .cons key value rest =>
    ((current.lookup key).any fun currentValue => valueIsNoop currentValue value) && metricPatchIsNoop current rest

end

def hasCommandResult (metrics : AnyMap) : Bool := commandResultMetricKeys.any fun key => (metrics.lookup key).isSome

/-- `prepared[key] = nil` unless the key is there. -/
def clearUnlessSet (key : String) (prepared : AnyMap) : AnyMap :=
  if (prepared.lookup key).isSome then prepared else prepared.assign key .nil

/-- The previous command result is cleared by a message that has one. -/
def prepareMetricPatchForMerge (metrics : AnyMap) : AnyMap :=
  if hasCommandResult metrics then
    clearUnlessSet "redconCommandTarget" (clearUnlessSet "redconCommandMessage" (metrics.assign "commands" .nil))
  else metrics

def replaceMetrics (thingName : String) (reported : AnyMap) : Projecting Unit := do
  updateSparkplugShadow thingName (.cons "payload" (.map (.cons "metrics" .nil .nil)) .nil)
  updateSparkplugShadow thingName reported

/-- A patch that changes no metric is not sent. -/
def mergeMetrics (thingName : String) (message : SparkplugMessage) (observedAt : Int64) : Projecting Unit := do
  let preparedPatch := prepareMetricPatchForMerge message.metrics
  let currentShadow ← getSparkplugShadow thingName
  if (currentShadow.bind reportedMetricsFromShadow).any fun current => metricPatchIsNoop current preparedPatch then
    return ()
  else updateSparkplugShadow thingName (reportedPayload message preparedPatch observedAt)

def projectSparkplugMessage (message : SparkplugMessage) (observedAt : Int64) : Projecting String := do
  let thingName ← resolveThingName message
  if message.messageType ∈ replaceMetricsMessageTypes ∨ message.messageType ∈ clearMetricsMessageTypes then
    replaceMetrics thingName (reportedPayload message message.metrics observedAt)
    return thingName
  else if message.messageType ∈ mergeMetricsMessageTypes then
    mergeMetrics thingName message observedAt
    return thingName
  else return "ignored"

/-- The registry and the reported section of each shadow. -/
structure Aws where
  things : String → Option ThingDescription
  shadows : String → Fields

def Aws.write (aws : Aws) (thingName : String) (reported : Fields) : Aws :=
  { aws with shadows := Function.update aws.shadows thingName reported }

theorem Aws.write_self (aws : Aws) (thingName : String) : aws.write thingName (aws.shadows thingName) = aws := by
  rw [Aws.write, Function.update_eq_self]

/-- An update is merged into the shadow. A shadow with a number that cannot be parsed cannot be read. -/
def Aws.serve (aws : Aws) : (request : ShadowCall) → Option String → Aws × ShadowReply request
  | .describeThing _, some failure => (aws, .error failure)
  | .describeThing thingName, none =>
    (aws, (aws.things thingName).elim (.error "describe AWS IoT thing") .ok)
  | .getSparkplugShadow _, some failure => (aws, .error failure)
  | .getSparkplugShadow thingName, none =>
    (aws, if (aws.shadows thingName).parses then .ok (some (aws.shadows thingName).unmarshal)
      else .error "decode sparkplug shadow payload")
  | .updateSparkplugShadow _ _, some failure => (aws, .error failure)
  | .updateSparkplugShadow thingName reported, none =>
    (aws.write thingName ((aws.shadows thingName).merge reported.marshal), .ok ())

end Txing.Witness.ShadowProjection
