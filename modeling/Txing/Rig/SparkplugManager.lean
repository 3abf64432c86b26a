import Txing.Library.Projection
import Txing.Rig.DeviceTurns

/-! The Sparkplug manager (`main.go`): the inventory refresh, the publication loop, the IPC messages
of the adapters and the commands from the broker, over all managed devices. What MQTT and the
registry answer is part of the event; a node command is handled between two turns of the loop. -/

namespace Txing.Rig.SparkplugManager
open Txing.Library Protocol DeviceSession

def managerID : String := "dev.txing.rig.SparkplugManager"
def nodeBDSeq : UInt64 := 1
def nodeRedconActive : UInt8 := 1
def nodeRedconCommandable : UInt8 := 4

structure LoadedInventory where
  rigType : String
  devices : List InventoryDevice

def LoadedInventory.deepEqual (left right : LoadedInventory) : Bool :=
  left.rigType == right.rigType && left.devices.length == right.devices.length &&
    (left.devices.zip right.devices).all fun pair => pair.1.deepEqual pair.2

/-- The values that the node's REDCON is ever set to, and the one before. -/
inductive NodeRedcon where
  | unset
  | active
  | commandable
  deriving DecidableEq, Repr

structure RuntimeState where
  rigID : String
  devices : GoMap String ManagedDevice
  nodeReconnect : MqttReconnectState
  deviceRebirthPending : Bool
  lastInventory : Option LoadedInventory
  inventorySeq : UInt64
  nodeSeq : UInt64
  commandSeq : UInt64
  nodeRedcon : NodeRedcon

/-- What the calls on the node's client return; an error of a subscription is its text. -/
structure NodeTurn where
  commandsError : Option String
  workError : Option String
  publish : PublishOutcome
  builtAtMS : UInt64

inductive ManagerEvent where
  | capabilityState (thingName : String) (decoded : Except String CapabilityState)
  | commandResult (thingName : String) (decoded : Except String CapabilityCommandResult) (turn : ReportTurn)
  | dcmd (thingName : String) (decoded : Except String Sparkplug.Payload) (dueAtMS nowMS : UInt64)
  | ncmd (decoded : Except String Sparkplug.Payload) (node : NodeTurn) (loaded : Except String LoadedInventory)
      (nowMS : UInt64)
  | inventoryTick (loaded : Except String LoadedInventory) (nowMS : UInt64)
  | publishTick (node : NodeTurn) (ticks : String → DeviceTick)
  | net (thingName : String) (event : NetEvent)
  | nodeConnection

inductive ManagerOutput where
  | wire (thingName : String) (event : WireEvent)
  | nodeSubscribeFailed (error : String)
  | nodeBirth (payload : Sparkplug.Payload) (outcome : PublishOutcome)
  | inventory (inventory : Inventory)
  | command (command : CapabilityCommand)

def wireOf (thingName : String) : ManagerOutput → Option WireEvent
  | .wire name event => if name = thingName then some event else none
  | _ => none

def decodeCapabilityState (decoded : Except String CapabilityState) : Except String CapabilityState := do
  let state ← decoded
  state.validate
  return state

def decodeCapabilityCommandResult (decoded : Except String CapabilityCommandResult) :
    Except String CapabilityCommandResult := do
  let result ← decoded
  result.validate
  return result

def commandFromDCMD (thingName : String) (decoded : Sparkplug.Payload) (commandID : String) (nowMS : UInt64)
    (deadlineMS : Option UInt64) : Except String (Option CapabilityCommand) :=
  match Sparkplug.decodeRedconCommand decoded with
  | none => .ok none
  | some command => do
    let command ← newCapabilityCommand commandID thingName command.value "sparkplug-dcmd" nowMS
      (command.seq.getD 0) deadlineMS
    return some command

def wires (visits : List (String × WireEvent)) : List ManagerOutput :=
  visits.map fun visit => .wire visit.1 visit.2

namespace RuntimeState
variable (s : RuntimeState)

def currentNodeRedcon : UInt8 :=
  match s.nodeRedcon with
  | .unset => nodeRedconActive
  | .active => nodeRedconActive
  | .commandable => nodeRedconCommandable

def commandable : Bool := s.currentNodeRedcon == nodeRedconCommandable

def atDevice (thingName : String) (f : ManagedDevice → ManagedDevice × List WireEvent) :
    RuntimeState × List ManagerOutput :=
  match s.devices.lookup thingName with
  | none => (s, [])
  | some d => ({ s with devices := s.devices.insert thingName (f d).1 }, (f d).2.map (.wire thingName))

def eachDevice (f : String → ManagedDevice → ManagedDevice × List WireEvent) : RuntimeState × List ManagerOutput :=
  ({ s with devices := GoMap.mapValues (fun name d => (f name d).1) s.devices },
    wires (GoMap.visits (fun name d => (f name d).2) s.devices))

def nextNodeSeq : RuntimeState := { s with nodeSeq := (s.nodeSeq + 1) % 256 }

def publishNodeBirth (redcon : UInt8) (metrics : List Sparkplug.Metric) (node : NodeTurn) :
    RuntimeState × List ManagerOutput × Bool :=
  match Sparkplug.buildNodeBirthPayloadWithMetrics redcon nodeBDSeq s.nodeSeq node.builtAtMS metrics with
  | .error _ => (s.nextNodeSeq, [], false)
  | .ok payload => (s.nextNodeSeq, [.nodeBirth payload node.publish], node.publish = .ok)

def publishNodeOnline (node : NodeTurn) : RuntimeState × List ManagerOutput × Bool :=
  match node.commandsError, if s.commandable then none else node.workError with
  | some error, _ => (s, [.nodeSubscribeFailed error], false)
  | none, some error => (s, [.nodeSubscribeFailed error], false)
  | none, none =>
    match s.publishNodeBirth s.currentNodeRedcon [] node with
    | (s, outputs, false) => (s, outputs, false)
    | (s, outputs, true) => ({ s with deviceRebirthPending := true }, outputs, true)

/-- The first loop of `refreshInventory`. -/
def enlist (devices : GoMap String ManagedDevice) (device : InventoryDevice) : GoMap String ManagedDevice :=
  match devices.lookup device.thingName with
  | none => devices.insert device.thingName (ManagedDevice.new device)
  | some d => devices.insert device.thingName { d with state := d.state.replaceInventory device }

def listed (loaded : LoadedInventory) (thingName : String) : Bool :=
  loaded.devices.any fun device => device.thingName = thingName

/-- Both loops: the listed devices are taken over, the others are disconnected and dropped. -/
def refreshDevices (loaded : LoadedInventory) : RuntimeState × List ManagerOutput :=
  let enlisted := loaded.devices.foldl enlist s.devices
  ({ s with devices := GoMap.keep (fun name _ => listed loaded name) enlisted },
    wires (GoMap.visits (fun name d => if listed loaded name then [] else d.disconnectDeviceMQTT.2) enlisted))

/-- The rest: a changed inventory goes to the adapters. -/
def publishInventory (loaded : LoadedInventory) (nowMS : UInt64) : RuntimeState × List ManagerOutput :=
  if s.lastInventory.any (·.deepEqual loaded) then (s, [])
  else
    let inventory := newInventory managerID loaded.devices s.inventorySeq nowMS
    let s := { s with inventorySeq := s.inventorySeq + 1 }
    match inventory.validate with
    | .error _ => (s, [])
    | .ok () => ({ s with lastInventory := some loaded }, [.inventory inventory])

def refreshInventory (loaded : Except String LoadedInventory) (nowMS : UInt64) : RuntimeState × List ManagerOutput :=
  if s.commandable then (s, [])
  else match loaded with
    | .error _ => (s, [])
    | .ok loaded =>
      let refreshed := s.refreshDevices loaded
      let published := refreshed.1.publishInventory loaded nowMS
      (published.1, refreshed.2 ++ published.2)

def publishDevices (ticks : String → DeviceTick) : RuntimeState × List ManagerOutput :=
  if s.commandable then (s, [])
  else { s with deviceRebirthPending := false }.eachDevice fun name d =>
    d.publishDeviceState s.deviceRebirthPending (ticks name)

def publishDeviceState (node : NodeTurn) (ticks : String → DeviceTick) : RuntimeState × List ManagerOutput :=
  if s.nodeReconnect.pending then
    match { s with nodeReconnect.pending := false }.publishNodeOnline node with
    | (s, outputs, false) => ({ s with nodeReconnect.pending := true }, outputs)
    | (s, outputs, true) =>
      let (s, wire) := s.publishDevices ticks
      (s, outputs ++ wire)
  else s.publishDevices ticks

def handleDCMD (thingName : String) (decoded : Except String Sparkplug.Payload) (dueAtMS nowMS : UInt64) :
    RuntimeState × List ManagerOutput :=
  if s.commandable then (s, [])
  else
    let s := { s with commandSeq := s.commandSeq + 1 }
    let commandID := "dcmd-" ++ thingName ++ "-" ++ toString s.commandSeq.toNat
    match decoded with
    | .error _ => (s, [])
    | .ok payload =>
      match commandFromDCMD thingName payload commandID nowMS (some dueAtMS) with
      | .ok (some command) => (s, [.command command])
      | _ => (s, [])

/-- `int32(seq)` keeps the low 32 bits. -/
def nodeCommandResultMetrics (command : Sparkplug.DecodedCommand) (status message : String) : List Sparkplug.Metric :=
  [⟨"redconCommandStatus", .string status⟩,
    ⟨"redconCommandSeq", .int32 (Int32.ofNat (command.seq.getD 0).toNat)⟩,
    ⟨"redconCommandId", .string ("ncmd-" ++ s.rigID ++ "-" ++ toString s.commandSeq.toNat)⟩,
    ⟨"redconCommandTarget", .int32 (Int32.ofNat command.value.toNat)⟩] ++
  if message ≠ "" then [⟨"redconCommandMessage", .string message⟩] else []

def teardownActiveNodeWork : RuntimeState × List ManagerOutput :=
  s.eachDevice fun _ d => (d.disconnectDeviceMQTT.1.resetPublication, d.disconnectDeviceMQTT.2)

def enterNodeRedconCommandable (command : Sparkplug.DecodedCommand) (node : NodeTurn) :
    RuntimeState × List ManagerOutput :=
  let torn := s.teardownActiveNodeWork
  let asleep := { torn.1 with nodeRedcon := .commandable }
  let birth := asleep.publishNodeBirth nodeRedconCommandable
    (asleep.nodeCommandResultMetrics command "succeeded" "") node
  (birth.1, torn.2 ++ birth.2.1)

def enterNodeRedconActive (command : Sparkplug.DecodedCommand) (node : NodeTurn)
    (loaded : Except String LoadedInventory) (nowMS : UInt64) : RuntimeState × List ManagerOutput :=
  match node.workError with
  | some error =>
    let birth := s.publishNodeBirth s.currentNodeRedcon (s.nodeCommandResultMetrics command "failed" error) node
    (birth.1, .nodeSubscribeFailed error :: birth.2.1)
  | none =>
    let active := { s with nodeRedcon := .active }
    let birth := active.publishNodeBirth nodeRedconActive
      (active.nodeCommandResultMetrics command "succeeded" "") node
    let refreshed := birth.1.refreshInventory loaded nowMS
    (refreshed.1, birth.2.1 ++ refreshed.2)

def handleNodeCommand (decoded : Except String Sparkplug.Payload) (node : NodeTurn)
    (loaded : Except String LoadedInventory) (nowMS : UInt64) : RuntimeState × List ManagerOutput :=
  match decoded.toOption.bind Sparkplug.decodeRedconCommand with
  | none => (s, [])
  | some command =>
    let s := { s with commandSeq := s.commandSeq + 1 }
    if command.value = nodeRedconActive then s.enterNodeRedconActive command node loaded nowMS
    else if command.value = nodeRedconCommandable then s.enterNodeRedconCommandable command node
    else
      let birth := s.publishNodeBirth s.currentNodeRedcon
        (s.nodeCommandResultMetrics command "failed" "rig supports REDCON 1 and 4 only") node
      (birth.1, birth.2.1)

end RuntimeState

/-- One event of the main loop or of an MQTT callback. -/
def manager : Reaction RuntimeState ManagerEvent ManagerOutput := fun s event =>
  match event with
  | .capabilityState thingName decoded =>
    if s.commandable then (s, [])
    else match decodeCapabilityState decoded with
      | .error _ => (s, [])
      | .ok state => s.atDevice thingName fun d => ({ d with state := (d.state.observeState state).1 }, [])
  | .commandResult thingName decoded turn =>
    if s.commandable then (s, [])
    else match decodeCapabilityCommandResult decoded with
      | .error _ => (s, [])
      | .ok result => s.atDevice thingName fun d => d.reportResult result turn
  | .dcmd thingName decoded dueAtMS nowMS => s.handleDCMD thingName decoded dueAtMS nowMS
  | .ncmd decoded node loaded nowMS => s.handleNodeCommand decoded node loaded nowMS
  | .inventoryTick loaded nowMS => s.refreshInventory loaded nowMS
  | .publishTick node ticks => s.publishDeviceState node ticks
  | .net thingName event => s.atDevice thingName fun d => d.onNet event
  | .nodeConnection => ({ s with nodeReconnect := s.nodeReconnect.onConnection }, [])

/-- The manager once `connectNodeMQTT` has announced the node. -/
def connectedManager (rigID : String) : RuntimeState :=
  { rigID := rigID, devices := ∅, nodeReconnect := ⟨false, false⟩, deviceRebirthPending := true,
    lastInventory := none, inventorySeq := 0, nodeSeq := 1, commandSeq := 0, nodeRedcon := .unset }

end Txing.Rig.SparkplugManager
