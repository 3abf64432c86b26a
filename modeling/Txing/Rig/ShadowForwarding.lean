import Txing.Library.Json
import Txing.Library.Reaction
import Txing.Rig.Protocol

/-! Named-shadow updates on their way from the Thread adapter to the cloud. The adapter (`internal/thread/runtime.go`)
sends an update over IPC unless it has sent the same one before, and the manager
(`cmd/txing-sparkplug-manager/main.go`) publishes it unless it has published the same one before. -/

namespace Txing.Rig.ShadowForwarding
open Txing.Library Protocol

def serviceName : String := "_txing-coap._udp"
def threadShadowName : String := "thread"
def powerShadowName : String := "power"
def nodeRedconActive : UInt8 := 1
def nodeRedconCommandable : UInt8 := 4

structure DeviceState where
  thingName : String
  protocolVersion : String
  batteryMV : Option Int64
  serviceInstance : String
  host : String
  address : String
  port : UInt16

/-- A payload is the document that its bytes say: `json.Marshal` has written them, and `compactJSON` leaves such
bytes as they are. -/
structure ShadowUpdate where
  topic : String
  payload : Json
  deriving DecidableEq

def updateTopic (thingName shadowName : String) : String :=
  "$aws/things/" ++ thingName ++ "/shadow/name/" ++ shadowName ++ "/update"

def powerShadowUpdateTopic (thingName : String) : String := updateTopic thingName powerShadowName

def buildShadowUpdate (thingName shadowName : String) (reported : Fields) : Except String ShadowUpdate := do
  validateSegment thingName "thingName"
  validateSegment shadowName "shadowName"
  let state := Fields.cons "reported" (.object reported) .nil
  return ⟨updateTopic thingName shadowName, .object (.cons "state" (.object state) .nil)⟩

def threadReported (state : DeviceState) : Fields :=
  .cons "address" (.string state.address) <| .cons "host" (.string state.host) <| .cons "online" (.bool true) <|
    .cons "port" (.number state.port.toNat) <| .cons "protocolVersion" (.string state.protocolVersion) <|
    .cons "service" (.string serviceName) <| .cons "serviceInstance" (.string state.serviceInstance) .nil

def powerReported (state : DeviceState) : Fields :=
  .cons "batteryMv" (state.batteryMV.elim .null fun batteryMV => .number batteryMV.toInt) .nil

def shadowUpdatesFromState (state : DeviceState) : Except String (List ShadowUpdate) := do
  let threadUpdate ← buildShadowUpdate state.thingName threadShadowName (threadReported state)
  let powerUpdate ← buildShadowUpdate state.thingName powerShadowName (powerReported state)
  return [threadUpdate, powerUpdate]

def offlineShadowUpdate (thingName : String) : Except String ShadowUpdate :=
  buildShadowUpdate thingName threadShadowName (.cons "online" (.bool false) .nil)

def batteryMVChangedMoreThanTenPercent (previous current : Int64) : Bool :=
  if previous ≤ 0 then current ≠ previous
  else
    let difference := previous - current
    (if difference < 0 then -difference else difference) * 100 > previous * 10

/-- A call of `publishState` or `publishOffline` that holds `publishMu`: what it still has to go through, and what it
has published. -/
structure Publication where
  state : Option DeviceState
  left : List ShadowUpdate
  publishBattery : Bool
  published : List String

structure Adapter where
  shadowPayloads : GoMap String Json
  lastBatteryMV : GoMap String Int64
  publication : Option Publication
  /-- The last call was a `publishState` that returned without an error. -/
  completed : Bool

namespace Adapter
variable (adapter : Adapter)

def shouldPublishBatteryMV (thingName : String) (batteryMV : Int64) : Bool :=
  (adapter.lastBatteryMV.lookup thingName).all fun previous => batteryMVChangedMoreThanTenPercent previous batteryMV

def filterBatteryShadowUpdate (state : DeviceState) (updates : List ShadowUpdate) : List ShadowUpdate × Bool :=
  if state.batteryMV.all fun batteryMV => adapter.shouldPublishBatteryMV state.thingName batteryMV then (updates, true)
  else (updates.filter fun update => update.topic ≠ powerShadowUpdateTopic state.thingName, false)

/-- From the point on at which the capability state has been published. -/
def publishState (state : DeviceState) : Adapter :=
  match shadowUpdatesFromState state with
  | .error _ => { adapter with completed := false }
  | .ok updates =>
    let filtered := adapter.filterBatteryShadowUpdate state updates
    { adapter with completed := false, publication := some ⟨some state, filtered.1, filtered.2, []⟩ }

def publishOffline (thingName : String) : Adapter :=
  match offlineShadowUpdate thingName with
  | .error _ => { adapter with completed := false }
  | .ok update => { adapter with completed := false, publication := some ⟨none, [update], false, []⟩ }

def rememberBattery (publication : Publication) : GoMap String Int64 :=
  match publication.state with
  | some state =>
    if publication.publishBattery && powerShadowUpdateTopic state.thingName ∈ publication.published then
      match state.batteryMV with
      | none => adapter.lastBatteryMV.erase state.thingName
      | some batteryMV => adapter.lastBatteryMV.insert state.thingName batteryMV
    else adapter.lastBatteryMV
  | none => adapter.lastBatteryMV

def finish (publication : Publication) : Adapter :=
  { adapter with
    lastBatteryMV := adapter.rememberBattery publication
    publication := none
    completed := publication.state.isSome }

end Adapter

structure Manager where
  nodeRedcon : UInt8
  nodeMQTT : Bool
  connected : Bool
  shadowPayloads : GoMap String Json

namespace Manager
variable (manager : Manager)

def currentNodeRedcon : UInt8 := if manager.nodeRedcon = 0 then nodeRedconActive else manager.nodeRedcon

def active : Bool := manager.currentNodeRedcon ≠ nodeRedconCommandable

def rememberShadowPayload (update : ShadowUpdate) : Manager :=
  { manager with shadowPayloads := manager.shadowPayloads.insert update.topic update.payload }

def clearShadowPayloads (thingName : String) : Manager :=
  { manager with
    shadowPayloads := GoMap.keep (fun topic _ =>
      !("$aws/things/" ++ thingName ++ "/shadow/name/").toList.isPrefixOf topic.toList) manager.shadowPayloads }

end Manager

def isThingShadowUpdateTopic (topic : String) : Bool :=
  "$aws/things/".toList.isPrefixOf topic.toList && match (topic.toList.splitOn '/').map String.ofList with
  | [aws, things, thingName, shadow, name, shadowName, update] =>
    aws = "$aws" && things = "things" && thingName ≠ "" && shadow = "shadow" && name = "name" && shadowName ≠ "" &&
      update = "update"
  | _ => false

/-- An update on the IPC connection, with the number of the call that has sent it. -/
structure Message where
  update : ShadowUpdate
  call : ℕ

/-- The adapter, the updates that the manager has not handled yet, the manager, and the last payload that the cloud
got for each topic. `calls` counts the calls of the adapter, and `spoiled` says that an update of the latest one was
not handled as it should be. -/
structure Line where
  adapter : Adapter
  inFlight : List Message
  manager : Manager
  cloud : GoMap String Json
  calls : ℕ
  spoiled : Bool

/-- How a publish with QoS 1 ends. The last two return an error; after `unacknowledged` the payload has reached the
cloud all the same. -/
inductive Outcome where
  | acknowledged
  | refused
  | unacknowledged
  deriving DecidableEq

/-- What may happen. A `failure` is the error that the call to the IPC connection returns, or for a whole call the
error before its first shadow update. -/
inductive Event where
  | publishState (state : DeviceState) (failure : Option String)
  | publishOffline (thingName : String) (failure : Option String)
  | publishUpdate (failure : Option String)
  | handleIPCMessage (outcome : Outcome)
  | setNodeRedcon (redcon : UInt8)
  | connectNodeMQTT
  | connection (connected : Bool)
  | clearShadowPayloads (thingName : String)

namespace Line
variable (line : Line)

/-- A call takes the lock; another one waits until it is free. -/
def call (adapter : Adapter) : Line :=
  if line.adapter.publication.isSome then line else { line with adapter, calls := line.calls + 1, spoiled := false }

/-- One turn of the loop of `publishShadowUpdates`, or the end of the call. -/
def publishUpdate (failure : Option String) : Line :=
  match line.adapter.publication with
  | none => line
  | some publication =>
    match publication.left with
    | [] => { line with adapter := line.adapter.finish publication }
    | update :: left =>
      if line.adapter.shadowPayloads.lookup update.topic = some update.payload then
        { line with adapter := { line.adapter with publication := some { publication with left } } }
      else if failure.isSome then { line with adapter := { line.adapter with publication := none } }
      else
        { line with
          adapter := { line.adapter with
            shadowPayloads := line.adapter.shadowPayloads.insert update.topic update.payload
            publication := some { publication with left, published := update.topic :: publication.published } }
          inFlight := line.inFlight ++ [⟨update, line.calls⟩] }

def drop (message : Message) : Line := { line with spoiled := line.spoiled || message.call = line.calls }

def deliver (update : ShadowUpdate) : Line := { line with cloud := line.cloud.insert update.topic update.payload }

def publishShadowUpdate (message : Message) (outcome : Outcome) : Line :=
  let update := message.update
  if line.manager.shadowPayloads.lookup update.topic = some update.payload then line
  else if !line.manager.nodeMQTT then line.drop message
  else match if line.manager.connected then outcome else .refused with
    | .refused => line.drop message
    | .unacknowledged => (line.drop message).deliver update
    | .acknowledged => { line.deliver update with manager := line.manager.rememberShadowPayload update }

/-- Messages on other topics do not concern the shadows. -/
def handleIPCMessage (outcome : Outcome) : Line :=
  match line.inFlight with
  | [] => line
  | message :: rest =>
    let line := { line with inFlight := rest }
    if !line.manager.active then line.drop message
    else if isThingShadowUpdateTopic message.update.topic then line.publishShadowUpdate message outcome
    else line

end Line

def forwarding : Reaction Line Event Unit := fun line event =>
  (match event with
  | .publishState state failure =>
    line.call (if failure.isSome then { line.adapter with completed := false } else line.adapter.publishState state)
  | .publishOffline thingName failure =>
    line.call (if failure.isSome then { line.adapter with completed := false } else line.adapter.publishOffline thingName)
  | .publishUpdate failure => line.publishUpdate failure
  | .handleIPCMessage outcome => line.handleIPCMessage outcome
  | .setNodeRedcon nodeRedcon => { line with manager := { line.manager with nodeRedcon } }
  | .connectNodeMQTT => { line with manager := { line.manager with nodeMQTT := true, connected := true } }
  | .connection connected => { line with manager := { line.manager with connected } }
  | .clearShadowPayloads thingName => { line with manager := line.manager.clearShadowPayloads thingName }, [])

def fresh : Line := ⟨⟨∅, ∅, none, false⟩, [], ⟨0, false, false, ∅⟩, ∅, 0, false⟩

end Txing.Rig.ShadowForwarding
