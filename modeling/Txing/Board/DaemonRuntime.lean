import Txing.Board.MavlinkControl
import Txing.Library.Reaction

/-! The daemon's runtime loop on a board with the MAVLink capability: bridge events
(`HandleMAVLinkBridgeEvent`) and watchdog ticks (`TickWatchdogs`). Both run on one loop, so a
run is a list of inputs, each with the clock it reads and the answers the loop gets. -/

namespace Txing.Board.DaemonRuntime
open Txing.Library MavlinkFrame MavlinkControl

structure MAVLinkTarget where
  systemID : UInt32
  componentID : UInt32
  deriving DecidableEq, Repr

structure MAVLinkError where
  code : String
  message : String
  deriving DecidableEq, Repr

structure MAVLinkRuntimeStatus where
  linkState : String
  heartbeatFresh : Bool
  target : Option MAVLinkTarget
  armed : Bool
  mode : Option String
  errors : List MAVLinkError
  deriving DecidableEq, Repr

/-- The owner as the status shows it: its lease end is not published. -/
structure PublishedOwner where
  sessionID : String
  actor : String
  epoch : UInt64
  leaseTtlMs : UInt64
  deriving DecidableEq, Repr

structure MAVLinkStatusPayload where
  available : Bool
  linkState : String
  heartbeatFresh : Bool
  target : Option MAVLinkTarget
  armed : Bool
  mode : Option String
  connected : UInt32
  observers : UInt32
  activeControl : Option PublishedOwner
  errors : List MAVLinkError
  deriving DecidableEq, Repr

def defaultMAVLinkActiveTTLMillis : UInt64 := 5000
def defaultMAVLinkWatchdogMillis : UInt64 := 500

def millisecond : Duration := 1000000

def MAVLinkRuntimeStatus.statusPayload (s : MAVLinkRuntimeStatus) (control : MAVLinkControlState)
    (controlKVSReady : Bool) : MAVLinkStatusPayload :=
  let linkState := if s.linkState = "" then "unavailable" else s.linkState
  { available := controlKVSReady && linkState == "ready" && s.heartbeatFresh
    linkState := linkState
    heartbeatFresh := s.heartbeatFresh
    target := s.target
    armed := s.armed
    mode := s.mode
    connected := control.peerCounts.1
    observers := control.peerCounts.2
    activeControl := control.active.map fun owner =>
      ⟨owner.sessionID, owner.actor, owner.epoch, defaultMAVLinkActiveTTLMillis⟩
    errors := s.errors }

/-- The flight transport is either attached or nil; the MCP server keeps its own state. -/
structure RuntimeState where
  mcpEnabled : Bool
  mavlink : MAVLinkControlState
  mavlinkStatus : MAVLinkRuntimeStatus
  mavlinkKVSReady : Bool
  mavlinkKVSError : String
  mavlinkFlight : Bool
  capabilitySeq : UInt64

/-- `NewRuntimeState` with the flight client `RunConnectedRuntime` attaches. -/
def connectedRuntime (mcpEnabled : Bool) : RuntimeState where
  mcpEnabled := mcpEnabled
  mavlink := newMAVLinkControlState (defaultMAVLinkActiveTTLMillis.toNat * millisecond)
    (defaultMAVLinkWatchdogMillis.toNat * millisecond)
  mavlinkStatus := ⟨"starting", false, none, false, none, []⟩
  mavlinkKVSReady := false
  mavlinkKVSError := ""
  mavlinkFlight := true
  capabilitySeq := 0

/-- The calls the loop makes: answers to the bridge, calls of the flight transport, and publishes. -/
inductive RuntimeCall where
  | openResult (sessionID : String)
  | controlResponse (response : ControlResponse)
  | frameResult (error : Option String)
  | closeResult
  | sendFrame (frame : Bytes) (error : Option String)
  | requestSafeState (reason : String) (requestDisarm : Bool)
  | requestNeutral (reason : String)
  | publishRetainedStatus (payload : MAVLinkStatusPayload)
  | publishShadow (payload : MAVLinkStatusPayload)
  | publishCapabilities (mavlinkAvailable : Bool) (seq : UInt64)
  | stopMotion
  | publishMCPStatus
  deriving DecidableEq, Repr

/-- `SendFrame` answers with the error the event carries; the MCP half of a tick is what its
server and its motion controller report. -/
inductive RuntimeEvent where
  | openPeer
  | control (sessionID : String) (json : DecodedText)
  | frame (sessionID : String) (epoch : UInt64) (frame : Bytes) (sendError : Option String)
  | close (sessionID reason : String)
  | kvsReady (ready : Bool) (error : String)
  | flightStatus (status : MAVLinkRuntimeStatus)
  | telemetry (frame : Bytes)
  | tick (mcpCleared motionChanged : Bool)

/-- One turn of the loop. `publishes` is how many publishes succeed before one fails. -/
structure RuntimeInput where
  observedAtMS : UInt64
  publishes : Nat
  event : RuntimeEvent

def RuntimeEvent.isTick : RuntimeEvent → Bool
  | .tick _ _ => true
  | _ => false

namespace RuntimeState
variable (s : RuntimeState)

def mavlinkAvailable : Bool :=
  s.mavlinkKVSReady && s.mavlinkStatus.linkState == "ready" && s.mavlinkStatus.heartbeatFresh

def mavlinkStatusPayload : MAVLinkStatusPayload :=
  let status := if s.mavlinkKVSError ≠ "" then
      { s.mavlinkStatus with
        errors := s.mavlinkStatus.errors ++ [⟨"control_kvs_unavailable", s.mavlinkKVSError⟩] }
    else s.mavlinkStatus
  status.statusPayload s.mavlink s.mavlinkKVSReady

/-- The retained status and then the shadow; the second is only sent after the first succeeded. -/
def publishMAVLinkStatus (publishes : Nat) : List RuntimeCall :=
  [.publishRetainedStatus s.mavlinkStatusPayload, .publishShadow s.mavlinkStatusPayload].take (publishes + 1)

def publishCapabilities : RuntimeState × List RuntimeCall :=
  ({ s with capabilitySeq := s.capabilitySeq + 1 },
    [.publishCapabilities s.mavlinkAvailable (s.capabilitySeq + 1)])

def requestMAVLinkSafeState (reason : String) (requestDisarm : Bool) : List RuntimeCall :=
  if s.mavlinkFlight then [.requestSafeState reason requestDisarm] else []

def requestMAVLinkNeutral (reason : String) : List RuntimeCall :=
  if s.mavlinkFlight then [.requestNeutral reason] else []

end RuntimeState

/-- What the event switch leaves for the end of the handler; no safe state is due for `""`. -/
structure Handled where
  state : RuntimeState
  calls : List RuntimeCall
  publishStatus : Bool
  safeReason : String
  safeDisarm : Bool

def handledFrame (s : RuntimeState) (sessionID : String) (epoch : UInt64) (frame : Bytes)
    (sendError : Option String) (observedAtMS : UInt64) : RuntimeState × List RuntimeCall :=
  match s.mavlink.authorizeControlFrame sessionID epoch frame observedAtMS with
  | (control, .error error) => ({ s with mavlink := control }, [.frameResult (some error.message)])
  | (control, .ok ()) =>
    if s.mavlinkFlight = false then
      ({ s with mavlink := control }, [.frameResult (some "MAVLink local transport is unavailable")])
    else match sendError with
      | some error => ({ s with mavlink := control }, [.sendFrame frame (some error), .frameResult (some error)])
      | none => ({ s with mavlink := control.recordAcceptedControlFrame frame observedAtMS },
          [.sendFrame frame none, .frameResult none])

def handleEvent (s : RuntimeState) (event : RuntimeEvent) (observedAtMS : UInt64) : Handled :=
  match event with
  | .openPeer =>
    let (control, peer) := s.mavlink.openPeer
    ⟨{ s with mavlink := control }, [.openResult peer.sessionID], true, "", false⟩
  | .control sessionID json =>
    let (control, result) := s.mavlink.handleControlMessage sessionID json observedAtMS
    ⟨{ s with mavlink := control }, [.controlResponse result.response], result.statusChanged,
      if result.safeRequired then "MAVLink active control released" else "", result.safeRequired⟩
  | .frame sessionID epoch frame sendError =>
    let (state, calls) := handledFrame s sessionID epoch frame sendError observedAtMS
    ⟨state, calls, false, "", false⟩
  | .close sessionID _ =>
    let (control, wasActive) := s.mavlink.closePeer sessionID
    ⟨{ s with mavlink := control }, [.closeResult], true,
      if wasActive then "MAVLink active peer closed" else "", wasActive⟩
  | .kvsReady ready error =>
    let errorMessage := if ready then "" else trimSpace error
    if s.mavlinkKVSReady ≠ ready ∨ s.mavlinkKVSError ≠ errorMessage then
      ⟨{ s with mavlinkKVSReady := ready, mavlinkKVSError := errorMessage }, [], true, "", false⟩
    else ⟨s, [], false, "", false⟩
  | .flightStatus status =>
    if s.mavlinkStatus ≠ status then ⟨{ s with mavlinkStatus := status }, [], true, "", false⟩
    else ⟨s, [], false, "", false⟩
  | .telemetry frame => ⟨{ s with mavlink := s.mavlink.broadcastTelemetry frame }, [], false, "", false⟩
  | .tick _ _ => ⟨s, [], false, "", false⟩

/-- The end of `HandleMAVLinkBridgeEvent`: the safe-state request first, then the publishes. -/
def Handled.finish (handled : Handled) (publishes : Nat) : RuntimeState × List RuntimeCall :=
  let s := handled.state
  let safe := if handled.safeReason ≠ "" then s.requestMAVLinkSafeState handled.safeReason handled.safeDisarm else []
  if handled.publishStatus then
    if 2 ≤ publishes then
      let (published, capabilities) := s.publishCapabilities
      (published, handled.calls ++ safe ++ s.publishMAVLinkStatus publishes ++ capabilities)
    else (s, handled.calls ++ safe ++ s.publishMAVLinkStatus publishes)
  else (s, handled.calls ++ safe)

def handleMAVLinkBridgeEvent (s : RuntimeState) (event : RuntimeEvent) (observedAtMS : UInt64) (publishes : Nat) :
    RuntimeState × List RuntimeCall :=
  (handleEvent s event observedAtMS).finish publishes

/-- A change in the MCP half ends the tick before the MAVLink half. -/
def tickWatchdogs (s : RuntimeState) (mcpCleared motionChanged : Bool) (observedAtMS : UInt64) (publishes : Nat) :
    RuntimeState × List RuntimeCall :=
  if s.mcpEnabled && (mcpCleared || motionChanged) then
    (s, (if mcpCleared then [.stopMotion] else []) ++ [.publishMCPStatus])
  else match s.mavlink.clearExpired observedAtMS with
    | (control, true) =>
      let s := { s with mavlink := control }
      (s, s.requestMAVLinkSafeState "MAVLink active-control lease expired" true ++ s.publishMAVLinkStatus publishes)
    | (control, false) =>
      match control.watchdogExpired observedAtMS with
      | (control, true) =>
        let s := { s with mavlink := control }
        (s, s.requestMAVLinkNeutral "MAVLink drive-input watchdog expired")
      | (control, false) => ({ s with mavlink := control }, [])

def runtime : Reaction RuntimeState RuntimeInput RuntimeCall := fun s input =>
  match input.event with
  | .tick mcpCleared motionChanged => tickWatchdogs s mcpCleared motionChanged input.observedAtMS input.publishes
  | event => handleMAVLinkBridgeEvent s event input.observedAtMS input.publishes

def Clocked (inputs : List RuntimeInput) : Prop :=
  inputs.Pairwise fun earlier later => earlier.observedAtMS ≤ later.observedAtMS

instance (inputs : List RuntimeInput) : Decidable (Clocked inputs) :=
  inferInstanceAs (Decidable (inputs.Pairwise _))

end Txing.Board.DaemonRuntime
