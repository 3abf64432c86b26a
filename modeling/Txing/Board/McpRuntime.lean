import Mathlib.Data.List.Infix
import Txing.Board.MavlinkControl
import Txing.Library.GoNumber
import Txing.Library.Json
import Txing.Library.Reaction

/-! The MCP half of the daemon's runtime loop (`runtime.go`): one controller with a lease, the tools that
drive the motors through the hardware worker, and the events that end a controller's turn. -/

namespace Txing.Board.McpRuntime
open Txing.Library
open MavlinkControl (Duration durationMillis)

def defaultMCPActiveTTLMillis : UInt64 := 5000
def mcpTransportMQTT : String := "mqtt-jsonrpc"
def mcpTransportWebRTCDataChannel : String := "webrtc-datachannel"

structure ActiveControlState where
  sessionID : String
  actor : Option String
  transport : String
  sinceMS : UInt64
  expiresAtMS : UInt64
  epoch : UInt64
  deriving DecidableEq, Repr

structure McpServer where
  active : Option ActiveControlState
  nextEpoch : UInt64
  activeTTL : Duration

namespace McpServer
variable (s : McpServer)

def clearExpired (nowMS : UInt64) : McpServer × Bool :=
  match s.active with
  | some active => if active.expiresAtMS ≤ nowMS then ({ s with active := none }, true) else (s, false)
  | none => (s, false)

/-- A new epoch begins with each controller. -/
def install (sessionID : String) (actor : Option String) (transport : String) (nowMS : UInt64) : McpServer :=
  { s with
    nextEpoch := s.nextEpoch + 1
    active := some ⟨sessionID, actor, transport, nowMS, nowMS + durationMillis s.activeTTL, s.nextEpoch + 1⟩ }

def activate (sessionID : String) (actor : Option String) (transport : String) (takeover : Bool) (nowMS : UInt64) :
    McpServer × Bool × Except String (Option ActiveControlState) :=
  let (s, stopRequired) := s.clearExpired nowMS
  match s.active with
  | some active =>
    if active.sessionID ≠ sessionID then
      if takeover = false then (s, stopRequired, .error "active control busy")
      else
        let s := s.install sessionID actor transport nowMS
        (s, true, .ok s.active)
    else (s, stopRequired, .ok s.active)
  | none =>
    let s := s.install sessionID actor transport nowMS
    (s, stopRequired, .ok s.active)

def clearActive : McpServer × Bool :=
  match s.active with
  | none => (s, false)
  | some _ => ({ s with active := none }, true)

def closeSession (sessionID : String) : McpServer × Bool :=
  match s.active with
  | some active => if active.sessionID = sessionID then s.clearActive else (s, false)
  | none => (s, false)

def ensureActive (sessionID : String) (epoch nowMS : UInt64) : McpServer × Except String ActiveControlState :=
  let s := (s.clearExpired nowMS).1
  match s.active with
  | none => (s, .error "no active control")
  | some active =>
    if active.sessionID ≠ sessionID then (s, .error "no active control")
    else if active.epoch ≠ epoch then (s, .error "stale active control epoch")
    else (s, .ok active)

def renewActive (sessionID : String) (epoch nowMS : UInt64) : McpServer × Except String ActiveControlState :=
  match s.ensureActive sessionID epoch nowMS with
  | (s, .error error) => (s, .error error)
  | (s, .ok active) =>
    let renewed := { active with expiresAtMS := nowMS + durationMillis s.activeTTL }
    ({ s with active := some renewed }, .ok renewed)

def releaseActive (sessionID : String) (epoch nowMS : UInt64) : McpServer × Except String Bool :=
  match s.ensureActive sessionID epoch nowMS with
  | (s, .error error) => (s, .error error)
  | (s, .ok _) => ({ s with active := none }, .ok true)

end McpServer

structure VideoRuntimeState where
  available : Bool
  ready : Bool
  status : String
  viewerConnected : Bool
  lastError : Option String
  updatedAtMS : UInt64
  deriving DecidableEq, Repr

def videoRuntimeStarting (observedAtMS : UInt64) : VideoRuntimeState :=
  ⟨true, false, "starting", false, none, observedAtMS⟩

inductive VideoWorkerEventKind where
  | starting
  | ready
  | viewerConnected
  | mcpDataChannelOpen
  | mcpDataChannelClosed
  | mcpDataChannelError
  | error
  | stopped
  deriving DecidableEq, Repr

structure VideoWorkerEvent where
  kind : VideoWorkerEventKind
  connected : Bool := false
  sessionID : String := ""
  detail : String := ""

def VideoRuntimeState.applyEvent (s : VideoRuntimeState) (event : VideoWorkerEvent) (observedAtMS : UInt64) :
    VideoRuntimeState :=
  match event.kind with
  | .starting => videoRuntimeStarting observedAtMS
  | .ready =>
    { s with available := true, ready := true, status := "ready", lastError := none, updatedAtMS := observedAtMS }
  | .viewerConnected => { s with viewerConnected := event.connected, updatedAtMS := observedAtMS }
  | .error =>
    let detail := if trimSpace event.detail = "" then "board video worker reported an error" else event.detail
    { s with
      available := true, ready := false, status := "error", lastError := some detail, updatedAtMS := observedAtMS }
  | .stopped => videoRuntimeStarting observedAtMS
  | _ => { s with updatedAtMS := observedAtMS }

structure Vector3 where
  x : Rat
  y : Rat
  z : Rat
  deriving DecidableEq

structure Twist where
  linear : Vector3
  angular : Vector3
  deriving DecidableEq

structure DriveState where
  leftSpeed : Int32
  rightSpeed : Int32
  sequence : UInt64
  deriving DecidableEq

/-- What the hardware worker answers in one turn: each of its three calls is made at most once. -/
structure HardwareClient where
  status : Except String (Bool × DriveState)
  applyVelocity : Except String DriveState
  stop : Except String DriveState

/-- `RobotState`, with what the tools return of it. -/
structure RobotStateReport where
  activeHeldByCaller : Bool
  activeControl : Option ActiveControlState
  motion : DriveState
  video : VideoRuntimeState
  deriving DecidableEq

def McpServer.robotState (s : McpServer) (callerSessionID : String) (motion : DriveState) (video : VideoRuntimeState) :
    RobotStateReport :=
  ⟨s.active.any fun active => active.sessionID = callerSessionID, s.active, motion, video⟩

inductive Tool where
  | getState
  | activate
  | renewActive
  | releaseActive
  | publish
  | stop
  | getRobotState
  deriving DecidableEq, Repr

def toolNamed : String → Option Tool
  | "control.get_state" => some .getState
  | "control.activate" => some .activate
  | "control.renew_active" => some .renewActive
  | "control.release_active" => some .releaseActive
  | "cmd_vel.publish" => some .publish
  | "cmd_vel.stop" => some .stop
  | "robot.get_state" => some .getRobotState
  | _ => none

inductive ToolResult where
  | control (report : RobotStateReport)
  | active (active : Option ActiveControlState) (activeTtlMs : UInt64)
  | released (motion : DriveState)
  | motion (motion : DriveState) (report : RobotStateReport)
  | robot (report : RobotStateReport)
  deriving DecidableEq

structure JSONRPCError where
  code : Int64
  message : String
  deriving DecidableEq

inductive JSONRPCResult where
  | serverInfo
  | tools
  | tool (result : ToolResult)
  deriving DecidableEq

structure JSONRPCResponse where
  id : Json
  outcome : Except JSONRPCError JSONRPCResult
  deriving DecidableEq

/-- The calls of a turn: of the hardware worker, answers to a session, and publishes. -/
inductive RuntimeCall where
  | getStatus
  | applyVelocity (twist : Twist) (deadlineUnixMS : UInt64)
  | stop
  | respond (sessionID : String) (response : JSONRPCResponse)
  | publishMCPStatus (active : Option ActiveControlState)
  | publishMCPDiscovery (transport : String) (active : Option ActiveControlState)
  | publishVideo (video : VideoRuntimeState)
  | publishCapabilities
  deriving DecidableEq

structure RuntimeState where
  thingID : String
  mcpEnabled : Bool
  videoEnabled : Bool
  mcp : McpServer
  driveState : DriveState
  video : VideoRuntimeState

def newRuntimeState (thingID : String) (mcpEnabled videoEnabled : Bool) : RuntimeState where
  thingID := thingID
  mcpEnabled := mcpEnabled
  videoEnabled := videoEnabled
  mcp := ⟨none, 0, defaultMCPActiveTTLMillis.toNat * 1000000⟩
  driveState := ⟨0, 0, 0⟩
  video := videoRuntimeStarting 0

namespace RuntimeState
variable (s : RuntimeState) (hardware : HardwareClient)

/-- The controller keeps the last motion that the worker has confirmed. -/
def withMotion (answer : Except String DriveState) : RuntimeState :=
  match answer with
  | .ok motion => { s with driveState := motion }
  | .error _ => s

def stopIfRequired (required : Bool) : RuntimeState × List RuntimeCall :=
  if required then (s.withMotion hardware.stop, [.stop]) else (s, [])

/-- `RefreshStatus`, and whether the motion changed. -/
def refreshStatus : RuntimeState × Bool :=
  match hardware.status with
  | .error _ => (s, false)
  | .ok (_, motion) => ({ s with driveState := motion }, s.driveState ≠ motion)

def mcpTransportMode : String :=
  if s.videoEnabled && s.video.ready then mcpTransportWebRTCDataChannel else mcpTransportMQTT

def robotState (sessionID : String) : RobotStateReport := s.mcp.robotState sessionID s.driveState s.video

end RuntimeState

def parseEpochArgument (arguments : Fields) : Except String UInt64 :=
  match arguments.lookup "epoch" with
  | some (.number value) =>
    if value < 0 ∨ value ≠ float64 ((float64ToUint64 value).toNat : Rat) then .error "active control epoch is required"
    else .ok (float64ToUint64 value)
  | _ => .error "active control epoch is required"

structure ToolOutcome where
  state : RuntimeState
  calls : List RuntimeCall
  result : Except String ToolResult

section tools
variable (s : RuntimeState) (hardware : HardwareClient) (sessionID : String) (arguments : Fields) (observedAtMS : UInt64)

def refused (error : String) : ToolOutcome := ⟨s, [], .error error⟩

def controlActivate : ToolOutcome :=
  let actor := (arguments.text "actor").bind fun value => if trimSpace value ≠ "" then some (trimSpace value) else none
  let takeover := (arguments.flag "takeover").getD false
  match s.mcp.activate sessionID actor s.mcpTransportMode takeover observedAtMS with
  | (mcp, _, .error error) => ⟨{ s with mcp := mcp }, [], .error error⟩
  | (mcp, stopRequired, .ok active) =>
    let (s, calls) := { s with mcp := mcp }.stopIfRequired hardware stopRequired
    ⟨s, calls, .ok (.active active defaultMCPActiveTTLMillis)⟩

def controlRenewActive (epoch : UInt64) : ToolOutcome :=
  match s.mcp.renewActive sessionID epoch observedAtMS with
  | (mcp, .error error) => ⟨{ s with mcp := mcp }, [], .error error⟩
  | (mcp, .ok active) => ⟨{ s with mcp := mcp }, [], .ok (.active (some active) defaultMCPActiveTTLMillis)⟩

def controlReleaseActive (epoch : UInt64) : ToolOutcome :=
  match s.mcp.releaseActive sessionID epoch observedAtMS with
  | (mcp, .error error) => ⟨{ s with mcp := mcp }, [], .error error⟩
  | (mcp, .ok stopRequired) =>
    let (s, calls) := { s with mcp := mcp }.stopIfRequired hardware stopRequired
    ⟨s, calls, .ok (.released s.driveState)⟩

/-- `twist` is what decoding the argument into a `Twist` yields. -/
def cmdVelPublish (twist : Except String Twist) (epoch : UInt64) : ToolOutcome :=
  match s.mcp.ensureActive sessionID epoch observedAtMS with
  | (mcp, .error error) => ⟨{ s with mcp := mcp }, [], .error error⟩
  | (mcp, .ok active) =>
    let s := { s with mcp := mcp }
    if (arguments.lookup "twist").isNone then ⟨s, [], .error "cmd_vel.publish requires twist"⟩
    else match twist with
      | .error error => ⟨s, [], .error ("parse cmd_vel twist: " ++ error)⟩
      | .ok twist =>
        let calls := [RuntimeCall.applyVelocity twist active.expiresAtMS]
        match hardware.applyVelocity with
        | .error error => ⟨s, calls, .error error⟩
        | .ok motion => ⟨{ s with driveState := motion }, calls,
            .ok (.motion motion ({ s with driveState := motion }.robotState sessionID))⟩

def cmdVelStop (epoch : UInt64) : ToolOutcome :=
  match s.mcp.ensureActive sessionID epoch observedAtMS with
  | (mcp, .error error) => ⟨{ s with mcp := mcp }, [], .error error⟩
  | (mcp, .ok _) =>
    let s := { s with mcp := mcp }
    match hardware.stop with
    | .error error => ⟨s, [.stop], .error error⟩
    | .ok motion => ⟨{ s with driveState := motion }, [.stop],
        .ok (.motion motion ({ s with driveState := motion }.robotState sessionID))⟩

/-- The four tools that only the controller may use, which has to name its epoch. -/
def withEpoch (tool : UInt64 → ToolOutcome) : ToolOutcome :=
  match parseEpochArgument arguments with
  | .error error => refused s error
  | .ok epoch => tool epoch

def handleMCPTool (name : String) (twist : Except String Twist) : ToolOutcome :=
  match toolNamed name with
  | some .getState => ⟨s, [], .ok (.control (s.robotState sessionID))⟩
  | some .activate => controlActivate s hardware sessionID arguments observedAtMS
  | some .renewActive => withEpoch s arguments fun epoch => controlRenewActive s sessionID observedAtMS epoch
  | some .releaseActive => withEpoch s arguments fun epoch => controlReleaseActive s hardware sessionID observedAtMS epoch
  | some .publish => withEpoch s arguments fun epoch => cmdVelPublish s hardware sessionID arguments observedAtMS twist epoch
  | some .stop => withEpoch s arguments fun epoch => cmdVelStop s hardware sessionID observedAtMS epoch
  | some .getRobotState =>
    let s := (s.refreshStatus hardware).1
    ⟨s, [.getStatus], .ok (.robot (s.robotState sessionID))⟩
  | none => refused s ("unknown MCP tool " ++ name)

end tools

def toolErrorToJSONRPCError (message : String) : JSONRPCError :=
  let contains (text : String) : Bool := text.toList <:+: message.toList
  if contains "no active control" then ⟨-32011, message⟩
  else if contains "active control busy" then ⟨-32012, message⟩
  else if contains "stale active control epoch" then ⟨-32013, message⟩
  else ⟨-32602, message⟩

structure Request where
  fields : Fields
  twist : Except String Twist

structure Handled where
  state : RuntimeState
  calls : List RuntimeCall
  response : Option JSONRPCResponse
  updatesStatus : Bool

section requests
variable (s : RuntimeState) (hardware : HardwareClient) (sessionID : String) (observedAtMS : UInt64)

def paramsOf (request : Request) : Fields := (request.fields.object "params").getD .nil

def argumentsOf (request : Request) : Fields := ((paramsOf request).object "arguments").getD .nil

def toolName (request : Request) : String := ((paramsOf request).text "name").getD ""

def handleMCPToolCall (request : Request) : RuntimeState × List RuntimeCall × Except JSONRPCError JSONRPCResult :=
  if trimSpace (toolName request) = "" then (s, [], .error ⟨-32602, "MCP tools/call requires a tool name"⟩)
  else
    let outcome := handleMCPTool s hardware sessionID (argumentsOf request) observedAtMS (toolName request) request.twist
    (outcome.state, outcome.calls, (outcome.result.map .tool).mapError toolErrorToJSONRPCError)

def mcpRequestUpdatesStatus (method : String) (request : Request) : Bool :=
  method = "tools/call" &&
    (toolNamed (toolName request)).any fun tool => tool ∈ [Tool.activate, .renewActive, .releaseActive]

def handleMCPJSONRPCRequest (request : Request) : Handled :=
  match request.fields.text "method" with
  | none =>
    ⟨s, [], some ⟨(request.fields.lookup "id").getD .null, .error ⟨-32600, "invalid request"⟩⟩, false⟩
  | some method =>
    match request.fields.lookup "id" with
    | none => ⟨s, [], none, false⟩
    | some id =>
      match method with
      | "initialize" => ⟨s, [], some ⟨id, .ok .serverInfo⟩, false⟩
      | "tools/list" => ⟨s, [], some ⟨id, .ok .tools⟩, false⟩
      | "tools/call" =>
        let (s, calls, outcome) := handleMCPToolCall s hardware sessionID observedAtMS request
        ⟨s, calls, some ⟨id, outcome⟩, mcpRequestUpdatesStatus method request⟩
      | _ => ⟨s, [], some ⟨id, .error ⟨-32601, "method not found"⟩⟩, false⟩

/-- The answer and then the status; an error of the first publish spares the second. -/
def Handled.finish (handled : Handled) (answered : Bool) : RuntimeState × List RuntimeCall :=
  (handled.state, handled.calls ++ handled.response.toList.map (.respond sessionID) ++
    if handled.updatesStatus && answered then [.publishMCPStatus handled.state.mcp.active] else [])

end requests

def validTopicSegment (value : String) : Bool :=
  trimSpace value ≠ "" && !value.toList.any (· ∈ ['/', '#', '+'])

def parseMCPSessionC2STopic (thingName topic : String) : Option String :=
  let opening := ("txings/" ++ thingName ++ "/mcp/session/").toList
  let tail := "/c2s".toList
  let suffix := topic.toList.drop opening.length
  let sessionID := String.ofList (suffix.take (suffix.length - tail.length))
  if validTopicSegment thingName = false ∨ topic.toList.length ≤ opening.length + tail.length ∨
      topic.toList.take opening.length ≠ opening ∨ suffix.drop (suffix.length - tail.length) ≠ tail ∨
      validTopicSegment sessionID = false then none
  else some sessionID

inductive RuntimeEvent where
  | mcpOpen (sessionID : String)
  | mcpRequest (sessionID : String) (request : Except String Request)
  | mcpClose (sessionID : String)
  | mqttDisconnected
  | mqttPublish (topic : String) (request : Except String Request)
  | video (event : VideoWorkerEvent)
  | tick

/-- One turn of the loop. `publishes` is how many publishes succeed before one fails. -/
structure RuntimeInput where
  observedAtMS : UInt64
  publishes : ℕ
  hardware : HardwareClient
  event : RuntimeEvent

def RuntimeEvent.isTick : RuntimeEvent → Bool
  | .tick => true
  | _ => false

section handlers
variable (s : RuntimeState) (hardware : HardwareClient) (observedAtMS : UInt64) (publishes : ℕ)

/-- A change in the MCP half ends the tick; otherwise its MAVLink half follows. -/
def tickWatchdogs : RuntimeState × List RuntimeCall :=
  if s.mcpEnabled then
    let (mcp, changed) := s.mcp.clearExpired observedAtMS
    let (s, stopped) := { s with mcp := mcp }.stopIfRequired hardware changed
    let (s, motionChanged) := s.refreshStatus hardware
    (s, stopped ++ .getStatus :: if changed || motionChanged then [.publishMCPStatus s.mcp.active] else [])
  else (s, [])

def handleMCPPublish (topic : String) (request : Except String Request) : RuntimeState × List RuntimeCall :=
  match parseMCPSessionC2STopic s.thingID topic, request with
  | some sessionID, .ok request =>
    if s.mcpTransportMode = mcpTransportWebRTCDataChannel then
      (s, [.respond sessionID ⟨(request.fields.lookup "id").getD .null,
        .error ⟨-32000, "MCP is available only over WebRTC data channel while video is ready"⟩⟩])
    else (handleMCPJSONRPCRequest s hardware sessionID observedAtMS request).finish sessionID (1 ≤ publishes)
  | _, _ => (s, [])

def handleMQTTEvent (event : RuntimeEvent) : RuntimeState × List RuntimeCall :=
  if s.mcpEnabled then
    match event with
    | .mqttDisconnected => { s with mcp := { s.mcp with active := none } }.stopIfRequired hardware true
    | .mqttPublish topic request => handleMCPPublish s hardware observedAtMS publishes topic request
    | _ => (s, [])
  else (s, [])

def VideoWorkerEvent.endedSession (event : VideoWorkerEvent) : Option String :=
  match event.kind with
  | .mcpDataChannelClosed => some event.sessionID
  | .mcpDataChannelError => if trimSpace event.sessionID ≠ "" then some event.sessionID else none
  | _ => none

def closeMCPSession (sessionID : String) : RuntimeState × List RuntimeCall × Bool :=
  let (mcp, closed) := s.mcp.closeSession sessionID
  let (s, calls) := { s with mcp := mcp }.stopIfRequired hardware closed
  (s, calls, closed)

/-- The MCP part of `HandleVideoEvent`: the stop, and the publishes that follow it. -/
def handleVideoMCP (event : VideoWorkerEvent) (previousTransport : String) :
    RuntimeState × List RuntimeCall × List RuntimeCall :=
  let (s, stopped, changed) :=
    match event.endedSession with
    | some sessionID => closeMCPSession s hardware sessionID
    | none => (s, [], false)
  (s, stopped, (if previousTransport ≠ s.mcpTransportMode then
      [.publishMCPDiscovery s.mcpTransportMode s.mcp.active] else []) ++
    if changed then [.publishMCPStatus s.mcp.active] else [])

def handleVideoEvent (event : VideoWorkerEvent) : RuntimeState × List RuntimeCall :=
  if s.videoEnabled then
    let previousTransport := s.mcpTransportMode
    let s := { s with video := s.video.applyEvent event observedAtMS }
    let (s, stopped, published) := if s.mcpEnabled then handleVideoMCP s hardware event previousTransport else (s, [], [])
    (s, stopped ++ (published ++ [RuntimeCall.publishVideo s.video, .publishCapabilities]).take (publishes + 1))
  else (s, [])

def handleMCPIPCEvent (event : RuntimeEvent) : RuntimeState × List RuntimeCall :=
  if s.mcpEnabled then
    match event with
    | .mcpRequest sessionID (.error error) =>
      (s, [.respond sessionID ⟨.null, .error ⟨-32700, "parse error: " ++ error⟩⟩])
    | .mcpRequest sessionID (.ok request) =>
      (handleMCPJSONRPCRequest s hardware sessionID observedAtMS request).finish sessionID true
    | .mcpClose sessionID =>
      let (s, calls, closed) := closeMCPSession s hardware sessionID
      (s, calls ++ if closed then [.publishMCPStatus s.mcp.active] else [])
    | _ => (s, [])
  else (s, [])

end handlers

def runtime : Reaction RuntimeState RuntimeInput RuntimeCall := fun s input =>
  match input.event with
  | .tick => tickWatchdogs s input.hardware input.observedAtMS
  | .video event => handleVideoEvent s input.hardware input.observedAtMS input.publishes event
  | .mqttDisconnected | .mqttPublish _ _ =>
    handleMQTTEvent s input.hardware input.observedAtMS input.publishes input.event
  | .mcpOpen _ | .mcpRequest _ _ | .mcpClose _ => handleMCPIPCEvent s input.hardware input.observedAtMS input.event

def Clocked (inputs : List RuntimeInput) : Prop :=
  inputs.Pairwise fun earlier later => earlier.observedAtMS ≤ later.observedAtMS

instance (inputs : List RuntimeInput) : Decidable (Clocked inputs) :=
  inferInstanceAs (Decidable (inputs.Pairwise _))

end Txing.Board.McpRuntime
