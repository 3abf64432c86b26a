import Txing.Library.Reaction
import Txing.Rig.DeviceState

/-! One managed device of the Sparkplug manager (`main.go`): its publication state, its MQTT client
and what both put on the wire. The network is free to lose and restore the client's session at any
time, also while the manager publishes, and the `OnConnection` callbacks of a client run late. -/

namespace Txing.Rig.DeviceSession
open Txing.Library Protocol DeviceState

structure MqttReconnectState where
  connected : Bool
  pending : Bool
  deriving DecidableEq

def MqttReconnectState.onConnection (r : MqttReconnectState) : MqttReconnectState :=
  if r.connected then { r with pending := true } else { r with connected := true }

/-- A device's MQTT client with its reconnect state; the manager sets and drops the two together.
`callbacks` counts the `OnConnection` calls that were started, one for each time the session came
up, and have not run. The first to run is the one that sets `connected`. -/
structure DeviceClient where
  up : Bool
  callbacks : ℕ
  reconnect : MqttReconnectState
  first_due : reconnect.connected = false → 0 < callbacks

def newConnectedDeviceMQTT : DeviceClient := ⟨true, 1, ⟨false, false⟩, fun _ => Nat.one_pos⟩

inductive MessageType where
  | dbirth
  | ddata
  | ddeath
  deriving DecidableEq, Repr

/-- A publish that returns an error may have been delivered. -/
inductive PublishOutcome where
  | ok
  | failed (delivered : Bool)
  deriving DecidableEq, Repr

def PublishOutcome.delivered : PublishOutcome → Bool
  | .ok => true
  | .failed delivered => delivered

/-- A connect that fails may have had a session whose loss delivers the will. -/
inductive ConnectOutcome where
  | ok
  | failed (will : Bool)
  deriving DecidableEq, Repr

/-- What happens on one device's MQTT connection: the manager's calls with their outcomes, and the
losses of its session, which deliver the `DDEATH` will. A clean `Disconnect` delivers no will. -/
inductive WireEvent where
  | opened
  | refused (will : Bool)
  | message (kind : MessageType) (payload : Sparkplug.Payload) (outcome : PublishOutcome)
  | lost
  | closed
  deriving DecidableEq

def WireEvent.fails : WireEvent → Bool
  | .refused _ => true
  | .message _ _ (.failed _) => true
  | _ => false

def WireEvent.acked : WireEvent → Bool
  | .message _ _ .ok => true
  | _ => false

inductive NetEvent where
  | lost
  | restored
  | signalled
  deriving DecidableEq, Repr

namespace DeviceClient
variable (client : DeviceClient)

def onNet : NetEvent → DeviceClient × List WireEvent
  | .lost => if client.up then ({ client with up := false }, [.lost]) else (client, [])
  | .restored =>
    if client.up then (client, [])
    else (⟨true, client.callbacks + 1, client.reconnect, fun _ => Nat.succ_pos _⟩, [])
  | .signalled =>
    if client.callbacks = 0 then (client, [])
    else (⟨client.up, client.callbacks - 1, client.reconnect.onConnection, by
      unfold MqttReconnectState.onConnection
      split <;> simp_all⟩, [])

def onNets (client : DeviceClient) : List NetEvent → DeviceClient × List WireEvent
  | [] => (client, [])
  | event :: rest =>
    let (next, wire) := client.onNet event
    let (last, more) := next.onNets rest
    (last, wire ++ more)

def clearPending : DeviceClient :=
  ⟨client.up, client.callbacks, { client.reconnect with pending := false }, client.first_due⟩

/-- Every loss of the session is followed by a reconnect whose signal the manager has consumed:
no callback is due but perhaps that of the first connection. -/
def Settled : Prop :=
  client.up = true ∧ client.reconnect.pending = false ∧
    client.callbacks = if client.reconnect.connected then 0 else 1

instance (client : DeviceClient) : Decidable client.Settled :=
  inferInstanceAs (Decidable (client.up = true ∧ client.reconnect.pending = false ∧
    client.callbacks = if client.reconnect.connected then 0 else 1))

/-- A publish needs the session; its outcome is otherwise up to the broker. -/
def publish (outcome : PublishOutcome) : PublishOutcome :=
  if client.up then outcome else .failed false

end DeviceClient

structure ManagedDevice where
  state : DeviceRuntimeState
  mqtt : Option DeviceClient
  seq : UInt64

/-- What one turn of the publication loop meets at this device: the clock, the order of its map,
and what the connect, the publish and the session do. -/
structure DeviceTick where
  order : RangeOrder
  decidedAtMS : UInt64
  builtAtMS : UInt64
  connect : ConnectOutcome
  beforePublish : List NetEvent
  publish : PublishOutcome
  afterPublish : List NetEvent

structure ReportTurn where
  order : RangeOrder
  nowMS : UInt64
  builtAtMS : UInt64
  publish : PublishOutcome

def resultMetrics (result : CapabilityCommandResult) : List Sparkplug.Metric :=
  [⟨"redconCommandStatus", .string result.status⟩,
    ⟨"redconCommandSeq", .int32 (Int32.ofNat result.seq.toNat)⟩,
    ⟨"redconCommandId", .string result.commandID⟩] ++
  (match result.redcon with
    | some redcon => [⟨"redconCommandTarget", .int32 (Int32.ofNat redcon.toNat)⟩]
    | none => []) ++
  match result.message with
    | some text => if text ≠ "" then [⟨"redconCommandMessage", .string text⟩] else []
    | none => []

def commandResultMetrics (result : CapabilityCommandResult) : Except String (List Sparkplug.Metric) := do
  result.validate
  if result.seq.toNat > 2 ^ 31 - 1 then .error "command result seq exceeds Int32" else .ok (resultMetrics result)

namespace ManagedDevice
variable (d : ManagedDevice)

def new (inventory : InventoryDevice) : ManagedDevice := ⟨newDeviceRuntimeState inventory, none, 0⟩

def resetPublication : ManagedDevice := { d with state := d.state.resetPublication }

def nextSeq : ManagedDevice := { d with seq := (d.seq + 1) % 256 }

/-- `ensureDeviceMQTT`; the last component says whether it returned no error. -/
def ensureDeviceMQTT (connect : ConnectOutcome) : ManagedDevice × List WireEvent × Bool :=
  match d.mqtt, connect with
  | some _, _ => (d, [], true)
  | none, .ok => ({ d with mqtt := some newConnectedDeviceMQTT }, [.opened], true)
  | none, .failed will => (d, [.refused will], false)

def disconnectDeviceMQTT : ManagedDevice × List WireEvent :=
  match d.mqtt with
  | none => (d, [])
  | some _ => ({ d with mqtt := none }, [.closed])

def transmit (tick : DeviceTick) (kind : MessageType) (payload : Sparkplug.Payload) :
    ManagedDevice × List WireEvent × Bool :=
  match d.mqtt with
  | none => (d, [], false)
  | some client =>
    let (before, earlier) := client.onNets tick.beforePublish
    let outcome := before.publish tick.publish
    let (after, later) := before.onNets tick.afterPublish
    ({ d with mqtt := some after }, earlier ++ .message kind payload outcome :: later, outcome = .ok)

def publishDeviceReport (tick : DeviceTick) (kind : MessageType) (redcon : UInt8)
    (metrics : List Sparkplug.Metric) : ManagedDevice × List WireEvent × Bool :=
  match Sparkplug.buildDeviceReportPayload redcon d.seq tick.builtAtMS metrics with
  | .error _ => (d.nextSeq, [], false)
  | .ok payload => d.nextSeq.transmit tick kind payload

def publishDeviceDeath (tick : DeviceTick) : ManagedDevice × List WireEvent × Bool :=
  d.nextSeq.transmit tick .ddeath (Sparkplug.buildDeviceDeathPayload d.seq tick.builtAtMS)

def orReset : ManagedDevice × List WireEvent × Bool → ManagedDevice × List WireEvent
  | (d, wire, ok) => (if ok then d else d.resetPublication, wire)

/-- The switch over the kinds of publication in `publishDeviceState`. -/
def carryOut (tick : DeviceTick) : DevicePublication → ManagedDevice × List WireEvent
  | .none => (d, [])
  | .birth redcon metrics =>
    match d.ensureDeviceMQTT tick.connect with
    | (d, opening, false) => (d.resetPublication, opening)
    | (d, opening, true) =>
      let (d, wire) := orReset (d.publishDeviceReport tick .dbirth redcon metrics)
      (d, opening ++ wire)
  | .data redcon metrics =>
    match d.mqtt with
    | none => (d.resetPublication, [])
    | some _ => orReset (d.publishDeviceReport tick .ddata redcon metrics)
  | .death =>
    match d.ensureDeviceMQTT tick.connect with
    | (d, opening, false) => (d.resetPublication, opening)
    | (d, opening, true) =>
      match d.publishDeviceDeath tick with
      | (d, wire, false) => (d.resetPublication, opening ++ wire)
      | (d, wire, true) =>
        let (d, closing) := d.disconnectDeviceMQTT
        (d, opening ++ wire ++ closing)

/-- What precedes the decision: the reconnect signal is consumed, and it or a rebirth of all
devices makes an open client start over. -/
def prepare (rebirthAll : Bool) : ManagedDevice :=
  match d.mqtt with
  | none => d
  | some client =>
    let cleared := { d with mqtt := some client.clearPending }
    if rebirthAll || client.reconnect.pending then cleared.resetPublication else cleared

/-- One pass of the device loop in `publishDeviceState`. -/
def publishDeviceState (rebirthAll : Bool) (tick : DeviceTick) : ManagedDevice × List WireEvent :=
  let d := d.prepare rebirthAll
  let decided := d.state.decidePublication tick.order tick.decidedAtMS
  { d with state := decided.1 }.carryOut tick decided.2

/-- The command-result branch of `handleIPCMessage`: its own way to a `DDATA`, past the
publication memory. -/
def reportResult (result : CapabilityCommandResult) (turn : ReportTurn) : ManagedDevice × List WireEvent :=
  match d.mqtt, commandResultMetrics result with
  | some client, .ok metrics =>
    let redcon := (d.state.snapshot turn.order turn.nowMS).publishedRedcon
    match Sparkplug.buildDeviceReportPayload redcon d.seq turn.builtAtMS metrics with
    | .error _ => (d.nextSeq, [])
    | .ok payload => (d.nextSeq, [.message .ddata payload (client.publish turn.publish)])
  | _, _ => (d, [])

def onNet (event : NetEvent) : ManagedDevice × List WireEvent :=
  match d.mqtt with
  | none => (d, [])
  | some client => ({ d with mqtt := some (client.onNet event).1 }, (client.onNet event).2)

end ManagedDevice

inductive DeviceMove where
  | enlist (inventory : InventoryDevice)
  | discharge
  | observe (state : CapabilityState)
  | report (result : CapabilityCommandResult) (turn : ReportTurn)
  | tick (rebirthAll : Bool) (tick : DeviceTick)
  | teardown
  | net (event : NetEvent)

def ManagedDevice.move (d : ManagedDevice) : DeviceMove → Option ManagedDevice × List WireEvent
  | .enlist inventory => (some { d with state := d.state.replaceInventory inventory }, [])
  | .discharge => (none, d.disconnectDeviceMQTT.2)
  | .observe state => (some { d with state := (d.state.observeState state).1 }, [])
  | .report result turn => ((d.reportResult result turn).1, (d.reportResult result turn).2)
  | .tick rebirthAll tick => ((d.publishDeviceState rebirthAll tick).1, (d.publishDeviceState rebirthAll tick).2)
  | .teardown => (d.disconnectDeviceMQTT.1.resetPublication, d.disconnectDeviceMQTT.2)
  | .net event => ((d.onNet event).1, (d.onNet event).2)

/-- A device that is not managed only reacts to being enlisted. -/
def device : Reaction (Option ManagedDevice) DeviceMove WireEvent
  | some d, move => d.move move
  | none, .enlist inventory => (some (ManagedDevice.new inventory), [])
  | none, _ => (none, [])

end Txing.Rig.DeviceSession
