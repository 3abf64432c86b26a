import Txing.Library.Interleaving
import Txing.Rig.SparkplugManager

/-! The goroutines of the Sparkplug manager (`main.go`): its main loop with the publication ticks, the
inventory refreshes and the IPC messages, and the MQTT callback that handles node commands. Both work on the
same devices, call by call. -/

namespace Txing.Rig.ManagerGoroutines
open Txing.Library Protocol DeviceState DeviceSession SparkplugManager

/-- A device stays an object of its own after it is dropped from the map, for as long as a goroutine holds it.
A method call on a missing session ends the process. -/
structure Manager where
  devices : GoMap String ℕ
  objects : List ManagedDevice
  nodeRedcon : NodeRedcon
  deviceRebirthPending : Bool
  crashed : Bool

def startedManager : Manager := ⟨∅, [], .unset, true, false⟩

inductive Published where
  | ok
  | failed
  | panicked
  deriving DecidableEq

inductive ManagerCall where
  | currentNodeRedcon
  | setNodeRedcon (redcon : NodeRedcon)
  | nodeReconnected
  | retryNodeReconnect
  | subscribeNodeCommands
  | subscribeActiveNodeWork
  | unsubscribeActiveNodeWork
  | publishNodeBirth (redcon : UInt8)
  | requestRebirth
  | takeRebirth
  | loadInventory
  | enlist (device : InventoryDevice)
  | deviceSnapshot
  | disconnectRemoved (object : ℕ)
  | deleteDevice (thingName : String)
  | publishInventory (loaded : LoadedInventory)
  | rangeDevices
  | deviceNamed (thingName : String)
  | deviceReconnected (object : ℕ)
  | hasMQTT (object : ℕ)
  | resetPublication (object : ℕ)
  | decidePublication (object : ℕ)
  | connectDevice (thingName : String)
  | setMQTT (object : ℕ)
  | nextSeq (object : ℕ)
  | nowMS
  | publish (object : ℕ) (kind : MessageType) (payload : Sparkplug.Payload)
  | disconnectDeviceMQTT (object : ℕ)
  | lockedDevices
  | observeState (object : ℕ) (state : CapabilityState)
  | snapshotRedcon (object : ℕ)

def ManagerReply : ManagerCall → Type
  | .currentNodeRedcon => UInt8
  | .nodeReconnected => Bool
  | .subscribeNodeCommands => Option String
  | .subscribeActiveNodeWork => Option String
  | .publishNodeBirth _ => Bool
  | .takeRebirth => Bool
  | .loadInventory => Except String LoadedInventory
  | .deviceSnapshot => List (String × ℕ)
  | .rangeDevices => List String
  | .deviceNamed _ => Option ℕ
  | .deviceReconnected _ => Bool
  | .hasMQTT _ => Bool
  | .decidePublication _ => DevicePublication
  | .connectDevice _ => Bool
  | .nextSeq _ => UInt64
  | .nowMS => UInt64
  | .publish _ _ _ => Published
  | .lockedDevices => List ℕ
  | .snapshotRedcon _ => UInt8
  | _ => Unit

/-- What the clock, the registry and the MQTT connections answer, and the order of a `range`. -/
structure ManagerAnswer where
  holds : Bool := false
  error : Option String := none
  nowMS : UInt64 := 0
  order : RangeOrder := .asStored
  loaded : Except String LoadedInventory := .error ""
  visits : List String := []
  publish : PublishOutcome := .ok

namespace Manager
variable (m : Manager)

def currentNodeRedcon : UInt8 :=
  match m.nodeRedcon with
  | .commandable => nodeRedconCommandable
  | _ => nodeRedconActive

def changeObject (object : ℕ) (change : ManagedDevice → ManagedDevice) : Manager :=
  { m with objects := m.objects.modify object change }

def hasMQTT (object : ℕ) : Bool := m.objects[object]?.any (·.mqtt.isSome)

def enlist (device : InventoryDevice) : Manager :=
  match m.devices.lookup device.thingName with
  | none => { m with
      devices := m.devices.insert device.thingName m.objects.length
      objects := m.objects ++ [ManagedDevice.new device] }
  | some object => m.changeObject object fun d => { d with state := d.state.replaceInventory device }

def decidePublication (object : ℕ) (answer : ManagerAnswer) : Manager × DevicePublication :=
  match m.objects[object]? with
  | none => (m, .none)
  | some d =>
    let decided := d.state.decidePublication answer.order answer.nowMS
    (m.changeObject object fun d => { d with state := decided.1 }, decided.2)

def publish (object : ℕ) (outcome : PublishOutcome) : Manager × Published :=
  if m.hasMQTT object then (m, if outcome = .ok then .ok else .failed)
  else ({ m with crashed := true }, .panicked)

def seqOf (object : ℕ) : UInt64 := (m.objects[object]?.map (·.seq)).getD 0

def snapshotRedcon (object : ℕ) (answer : ManagerAnswer) : UInt8 :=
  (m.objects[object]?.map fun d => (d.state.snapshot answer.order answer.nowMS).publishedRedcon).getD 4

/-- The names that a `range` visits: the keys in any order, and names that may be added while it runs. -/
def rangeDevices (visits : List String) : List String := (visits ++ m.devices.keys).eraseDups

def serve : (request : ManagerCall) → ManagerAnswer → Manager × ManagerReply request
  | .currentNodeRedcon, _ => (m, m.currentNodeRedcon)
  | .setNodeRedcon redcon, _ => ({ m with nodeRedcon := redcon }, ())
  | .nodeReconnected, answer => (m, answer.holds)
  | .retryNodeReconnect, _ => (m, ())
  | .subscribeNodeCommands, answer => (m, answer.error)
  | .subscribeActiveNodeWork, answer => (m, answer.error)
  | .unsubscribeActiveNodeWork, _ => (m, ())
  | .publishNodeBirth _, answer => (m, answer.holds)
  | .requestRebirth, _ => ({ m with deviceRebirthPending := true }, ())
  | .takeRebirth, _ => ({ m with deviceRebirthPending := false }, m.deviceRebirthPending)
  | .loadInventory, answer => (m, answer.loaded)
  | .enlist device, _ => (m.enlist device, ())
  | .deviceSnapshot, _ => (m, m.devices.entries.map fun entry => (entry.1, entry.2))
  | .disconnectRemoved _, _ => (m, ())
  | .deleteDevice thingName, _ => ({ m with devices := m.devices.erase thingName }, ())
  | .publishInventory _, _ => (m, ())
  | .rangeDevices, answer => (m, m.rangeDevices answer.visits)
  | .deviceNamed thingName, _ => (m, m.devices.lookup thingName)
  | .deviceReconnected object, answer => (m, m.hasMQTT object && answer.holds)
  | .hasMQTT object, _ => (m, m.hasMQTT object)
  | .resetPublication object, _ => (m.changeObject object (·.resetPublication), ())
  | .decidePublication object, answer => m.decidePublication object answer
  | .connectDevice _, answer => (m, answer.holds)
  | .setMQTT object, _ => (m.changeObject object fun d => { d with mqtt := some newConnectedDeviceMQTT }, ())
  | .nextSeq object, _ => (m.changeObject object (·.nextSeq), m.seqOf object)
  | .nowMS, answer => (m, answer.nowMS)
  | .publish object _ _, answer => m.publish object answer.publish
  | .disconnectDeviceMQTT object, _ => (m.changeObject object fun d => d.disconnectDeviceMQTT.1, ())
  | .lockedDevices, _ => (m, m.devices.entries.map (·.2))
  | .observeState object state, _ =>
    (m.changeObject object fun d => { d with state := (d.state.observeState state).1 }, ())
  | .snapshotRedcon object, answer => (m, m.snapshotRedcon object answer)

end Manager

inductive Panic where
  | nilSession

abbrev Work := ExceptT Panic (Process ManagerCall ManagerReply)

def ask (request : ManagerCall) : Work (ManagerReply request) := ExceptT.lift (Process.ask request)

section tick
variable (object : ℕ) (thingName : String)

def ensureDeviceMQTT : Work Bool := do
  let inSession : Bool ← ask (.hasMQTT object)
  if inSession then return true
  else
    let connected : Bool ← ask (.connectDevice thingName)
    if connected then do
      let _ ← ask (.setMQTT object)
      return true
    else return false

def publishOn (kind : MessageType) (payload : Sparkplug.Payload) : Work Bool := do
  let published : Published ← ask (.publish object kind payload)
  match published with
  | .ok => return true
  | .failed => return false
  | .panicked => throw .nilSession

def publishDeviceReport (kind : MessageType) (redcon : UInt8) (metrics : List Sparkplug.Metric) : Work Bool := do
  let seq : UInt64 ← ask (.nextSeq object)
  let timestamp : UInt64 ← ask .nowMS
  match Sparkplug.buildDeviceReportPayload redcon seq timestamp metrics with
  | .error _ => return false
  | .ok payload => publishOn object kind payload

def publishDeviceDeath : Work Bool := do
  let seq : UInt64 ← ask (.nextSeq object)
  let timestamp : UInt64 ← ask .nowMS
  publishOn object .ddeath (Sparkplug.buildDeviceDeathPayload seq timestamp)

def resetPublication : Work Unit := ask (.resetPublication object)

def orReset (program : Work Bool) : Work Unit := do
  let done ← program
  if done then return () else resetPublication object

def publishDeath : Work Unit := do
  let published ← publishDeviceDeath object
  if published then ask (.disconnectDeviceMQTT object) else resetPublication object

/-- The switch over the kinds of publication in `publishDeviceState`. -/
def carryOut : DevicePublication → Work Unit
  | .none => return ()
  | .birth redcon metrics => do
    let ensured ← ensureDeviceMQTT object thingName
    if ensured then orReset object (publishDeviceReport object .dbirth redcon metrics)
    else resetPublication object
  | .data redcon metrics => do
    let inSession : Bool ← ask (.hasMQTT object)
    if inSession then orReset object (publishDeviceReport object .ddata redcon metrics)
    else resetPublication object
  | .death => do
    let ensured ← ensureDeviceMQTT object thingName
    if ensured then publishDeath object else resetPublication object

/-- A reconnected device, or all devices after the node has, start over. -/
def startOver (needed : Bool) : Work Unit := if needed then resetPublication object else return ()

def tickObject (rebirthAll : Bool) : Work Unit := do
  let reconnected : Bool ← ask (.deviceReconnected object)
  let inSession : Bool ← ask (.hasMQTT object)
  startOver object (inSession && (rebirthAll || reconnected))
  let publication : DevicePublication ← ask (.decidePublication object)
  carryOut object thingName publication

end tick

def tickDevices (rebirthAll : Bool) : List String → Work Unit
  | [] => return ()
  | thingName :: rest => do
    let found : Option ℕ ← ask (.deviceNamed thingName)
    match found with
    | none => tickDevices rebirthAll rest
    | some object => do
      tickObject object thingName rebirthAll
      tickDevices rebirthAll rest

def publishDevices : Work Unit := do
  let redcon : UInt8 ← ask .currentNodeRedcon
  if redcon = nodeRedconCommandable then return ()
  else
    let rebirthAll : Bool ← ask .takeRebirth
    let thingNames : List String ← ask .rangeDevices
    tickDevices rebirthAll thingNames

def publishNodeBirthAndRebirth (redcon : UInt8) : Work Bool := do
  let published : Bool ← ask (.publishNodeBirth redcon)
  if published then do
    let _ ← ask .requestRebirth
    return true
  else return false

def publishNodeOnline : Work Bool := do
  let failed : Option String ← ask .subscribeNodeCommands
  match failed with
  | some _ => return false
  | none => do
    let redcon : UInt8 ← ask .currentNodeRedcon
    if redcon = nodeRedconCommandable then publishNodeBirthAndRebirth redcon
    else
      let failed : Option String ← ask .subscribeActiveNodeWork
      match failed with
      | some _ => return false
      | none => publishNodeBirthAndRebirth redcon

def publishDeviceState : Work Unit := do
  let reconnected : Bool ← ask .nodeReconnected
  if reconnected then do
    let online ← publishNodeOnline
    if online then publishDevices else ask .retryNodeReconnect
  else publishDevices

section inventory
variable (loaded : LoadedInventory)

def enlistDevices : List InventoryDevice → Work Unit
  | [] => return ()
  | device :: rest => do
    let _ ← ask (.enlist device)
    enlistDevices rest

def dropDevices : List (String × ℕ) → Work Unit
  | [] => return ()
  | (thingName, object) :: rest => do
    if RuntimeState.listed loaded thingName then dropDevices rest
    else
      let _ ← ask (.disconnectRemoved object)
      let _ ← ask (.deleteDevice thingName)
      dropDevices rest

def applyInventory : Work Unit := do
  enlistDevices loaded.devices
  let snapshot : List (String × ℕ) ← ask .deviceSnapshot
  dropDevices loaded snapshot
  ask (.publishInventory loaded)

end inventory

def refreshInventory : Work Unit := do
  let redcon : UInt8 ← ask .currentNodeRedcon
  if redcon = nodeRedconCommandable then return ()
  else
    let loaded : Except String LoadedInventory ← ask .loadInventory
    match loaded with
    | .error _ => return ()
    | .ok loaded => applyInventory loaded

def inventoryTick : Work Unit := do
  let redcon : UInt8 ← ask .currentNodeRedcon
  if redcon = nodeRedconCommandable then return () else refreshInventory

section messages
variable (thingName : String)

def observeCapabilityState (state : CapabilityState) : Work Unit := do
  let found : Option ℕ ← ask (.deviceNamed thingName)
  match found with
  | none => return ()
  | some object => ask (.observeState object state)

def reportMetrics (object : ℕ) (metrics : List Sparkplug.Metric) : Work Unit := do
  let redcon : UInt8 ← ask (.snapshotRedcon object)
  let _ ← publishDeviceReport object .ddata redcon metrics
  return ()

def reportCommandResult (result : CapabilityCommandResult) : Work Unit := do
  let found : Option ℕ ← ask (.deviceNamed thingName)
  match found with
  | none => return ()
  | some object => do
    let inSession : Bool ← ask (.hasMQTT object)
    match inSession, commandResultMetrics result with
    | true, .ok metrics => reportMetrics object metrics
    | _, _ => return ()

end messages

inductive MainTurn where
  | publishTick
  | inventoryTick
  | capabilityState (thingName : String) (decoded : Except String CapabilityState)
  | commandResult (thingName : String) (decoded : Except String CapabilityCommandResult)

def handleCapabilityState (thingName : String) (decoded : Except String CapabilityState) : Work Unit := do
  let redcon : UInt8 ← ask .currentNodeRedcon
  if redcon = nodeRedconCommandable then return ()
  else match decodeCapabilityState decoded with
    | .error _ => return ()
    | .ok state => observeCapabilityState thingName state

def handleCommandResult (thingName : String) (decoded : Except String CapabilityCommandResult) : Work Unit := do
  let redcon : UInt8 ← ask .currentNodeRedcon
  if redcon = nodeRedconCommandable then return ()
  else match decodeCapabilityCommandResult decoded with
    | .error _ => return ()
    | .ok result => reportCommandResult thingName result

def MainTurn.work : MainTurn → Work Unit
  | .publishTick => publishDeviceState
  | .inventoryTick => ManagerGoroutines.inventoryTick
  | .capabilityState thingName decoded => handleCapabilityState thingName decoded
  | .commandResult thingName decoded => handleCommandResult thingName decoded

def tearDown : List ℕ → Work Unit
  | [] => return ()
  | object :: rest => do
    let _ ← ask (.disconnectDeviceMQTT object)
    resetPublication object
    tearDown rest

def teardownActiveNodeWork : Work Unit := do
  let _ ← ask .unsubscribeActiveNodeWork
  let objects : List ℕ ← ask .lockedDevices
  tearDown objects

def publishNodeBirth (redcon : UInt8) : Work Unit := do
  let _ ← ask (.publishNodeBirth redcon)
  return ()

def enterNodeRedconCommandable : Work Unit := do
  teardownActiveNodeWork
  let _ ← ask (.setNodeRedcon .commandable)
  publishNodeBirth nodeRedconCommandable

def publishNodeFailure : Work Unit := do
  let redcon : UInt8 ← ask .currentNodeRedcon
  publishNodeBirth redcon

def enterNodeRedconActive : Work Unit := do
  let failed : Option String ← ask .subscribeActiveNodeWork
  match failed with
  | some _ => publishNodeFailure
  | none => do
    let _ ← ask (.setNodeRedcon .active)
    publishNodeBirth nodeRedconActive
    refreshInventory

def handleNodeCommand (decoded : Except String Sparkplug.Payload) : Work Unit :=
  match decoded.toOption.bind Sparkplug.decodeRedconCommand with
  | none => return ()
  | some command =>
    if command.value = nodeRedconActive then enterNodeRedconActive
    else if command.value = nodeRedconCommandable then enterNodeRedconCommandable
    else publishNodeFailure

inductive Goroutine where
  | mainLoop
  | callback
  deriving DecidableEq

def Input : Goroutine → Type
  | .mainLoop => MainTurn
  | .callback => Except String Sparkplug.Payload

def goroutines : Site Manager ManagerAnswer Input ManagerReply (Except Panic Unit) where
  serve := Manager.serve
  program
    | .mainLoop, turn => turn.work.run
    | .callback, decoded => (handleNodeCommand decoded).run

abbrev ManagerPool := Pool Manager Input ManagerReply (Except Panic Unit)

def startedPool : ManagerPool := ⟨startedManager, fun _ => none⟩

end Txing.Rig.ManagerGoroutines
