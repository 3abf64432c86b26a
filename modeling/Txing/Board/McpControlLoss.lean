import Txing.Board.McpRuntime

/-! The loss of MCP control reaches the motors: a controller that goes leaves a stop behind, unless a tool
call found its lease expired and cleared it silently. -/

namespace Txing.Board.McpControlLoss
open Txing.Library McpRuntime

/-- A controller is known by its session and epoch; a renewal does not change it. -/
def controller (s : RuntimeState) : Option (String × UInt64) := s.mcp.active.map fun active => (active.sessionID, active.epoch)

def leaseExpired (s : McpServer) (nowMS : UInt64) : Bool := s.active.any fun active => active.expiresAtMS ≤ nowMS

def usesControl (request : Request) : Bool :=
  request.fields.text "method" = some "tools/call" && (request.fields.lookup "id").isSome &&
    (toolNamed (toolName request)).any (· ∈ [Tool.renewActive, .releaseActive, .publish, .stop]) &&
    (parseEpochArgument (argumentsOf request)).isOk

/-- The request that the turn serves; one over MQTT is turned away while video is ready. -/
def servedRequest (s : RuntimeState) : RuntimeEvent → Option Request
  | .mcpRequest _ (.ok request) => some request
  | .mqttPublish topic (.ok request) =>
    if (parseMCPSessionC2STopic s.thingID topic).isSome ∧ s.mcpTransportMode ≠ mcpTransportWebRTCDataChannel then
      some request
    else none
  | _ => none

/-- A tool call comes after the lease has expired and before a tick has noticed. -/
def clearsSilently (s : RuntimeState) (input : RuntimeInput) : Bool :=
  s.mcpEnabled && leaseExpired s.mcp input.observedAtMS && (servedRequest s input.event).any usesControl

def LosesController (s : RuntimeState) (input : RuntimeInput) : Prop :=
  controller s ≠ none ∧ controller (runtime.next s input) ≠ controller s

instance (s : RuntimeState) (input : RuntimeInput) : Decidable (LosesController s input) :=
  inferInstanceAs (Decidable (_ ∧ _))

/-- Between each loss and the end of the next tick the motors are stopped. -/
def EveryLossStopped (s : RuntimeState) (inputs : List RuntimeInput) : Prop :=
  ∀ before input between tick after, inputs = before ++ input :: (between ++ tick :: after) →
    LosesController (runtime.run s before) input →
    (∀ other ∈ between, other.event.isTick = false) → tick.event.isTick = true →
    RuntimeCall.stop ∈ runtime.trace (runtime.run s before) (input :: (between ++ [tick]))

section server
variable (s : McpServer) (nowMS : UInt64)

theorem clearExpired_eq :
    s.clearExpired nowMS = if leaseExpired s nowMS then ({ s with active := none }, true) else (s, false) := by
  unfold McpServer.clearExpired leaseExpired
  cases s.active with
  | none => rfl
  | some active =>
    simp only [Option.any_some, decide_eq_true_eq]

theorem ensureActive_of_expired (sessionID : String) (epoch : UInt64) (expired : leaseExpired s nowMS = true) :
    s.ensureActive sessionID epoch nowMS = ({ s with active := none }, .error "no active control") := by
  unfold McpServer.ensureActive
  rw [clearExpired_eq, if_pos expired]

theorem ensureActive_of_current (sessionID : String) (epoch : UInt64) (current : leaseExpired s nowMS = false) :
    (∃ error, s.ensureActive sessionID epoch nowMS = (s, .error error)) ∨
      ∃ active, s.active = some active ∧ s.ensureActive sessionID epoch nowMS = (s, .ok active) := by
  unfold McpServer.ensureActive
  rw [clearExpired_eq, current]
  simp only [Bool.false_eq_true, if_false]
  cases held : s.active with
  | none => exact Or.inl ⟨_, rfl⟩
  | some active =>
    simp only
    split
    · exact Or.inl ⟨_, rfl⟩
    split
    · exact Or.inl ⟨_, rfl⟩
    · exact Or.inr ⟨active, rfl, rfl⟩

end server

def Loud (s after : RuntimeState) (calls : List RuntimeCall) : Prop :=
  s.mcp.active = none ∨ controller after = controller s ∨ RuntimeCall.stop ∈ calls

section loud
variable {s after : RuntimeState} {calls : List RuntimeCall}

theorem Loud.of_kept (kept : after.mcp = s.mcp) : Loud s after calls :=
  Or.inr (Or.inl (by rw [controller, controller, kept]))

theorem Loud.of_stopped (stopped : RuntimeCall.stop ∈ calls) : Loud s after calls := Or.inr (Or.inr stopped)

theorem Loud.append (loud : Loud s after calls) (more : List RuntimeCall) : Loud s after (calls ++ more) := by
  rcases loud with free | kept | stopped
  · exact Or.inl free
  · exact Or.inr (Or.inl kept)
  · exact .of_stopped (List.mem_append_left _ stopped)

end loud

section tools
variable (s : RuntimeState) (hardware : HardwareClient) (sessionID : String) (arguments : Fields) (now : UInt64)

theorem withMotion_mcp (answer : Except String DriveState) : (s.withMotion answer).mcp = s.mcp := by
  cases answer <;> rfl

theorem stopIfRequired_mcp (required : Bool) : (s.stopIfRequired hardware required).1.mcp = s.mcp := by
  cases required with
  | false => rfl
  | true => exact withMotion_mcp s hardware.stop

theorem refreshStatus_mcp : (s.refreshStatus hardware).1.mcp = s.mcp := by
  unfold RuntimeState.refreshStatus
  cases hardware.status <;> rfl

theorem activate_cases (server : McpServer) (actor : Option String) (transport : String) (takeover : Bool) :
    (∃ stop answer, server.activate sessionID actor transport takeover now = (server, stop, answer)) ∨
      server.active = none ∨
      ∃ after active, server.activate sessionID actor transport takeover now = (after, true, .ok active) := by
  unfold McpServer.activate
  rw [clearExpired_eq]
  cases expired : leaseExpired server now with
  | true => exact Or.inr (Or.inr ⟨_, _, rfl⟩)
  | false =>
    simp only [Bool.false_eq_true, if_false]
    cases held : server.active with
    | none => exact Or.inr (Or.inl rfl)
    | some active =>
      simp only
      split
      · split
        · exact Or.inl ⟨_, _, rfl⟩
        · exact Or.inr (Or.inr ⟨_, _, rfl⟩)
      · exact Or.inl ⟨_, _, rfl⟩

theorem controlActivate_loud :
    Loud s (controlActivate s hardware sessionID arguments now).state
      (controlActivate s hardware sessionID arguments now).calls := by
  unfold controlActivate
  simp only
  rcases activate_cases sessionID now s.mcp _ s.mcpTransportMode ((arguments.flag "takeover").getD false) with
    ⟨stop, answer, same⟩ | free | ⟨after, active, taken⟩
  · rw [same]
    cases answer with
    | error error => exact .of_kept rfl
    | ok active => exact .of_kept (stopIfRequired_mcp ..)
  · exact Or.inl free
  · rw [taken]
    exact .of_stopped (List.mem_singleton_self _)

variable (current : leaseExpired s.mcp now = false) (epoch : UInt64)
include current

theorem controlRenewActive_loud :
    Loud s (controlRenewActive s sessionID now epoch).state (controlRenewActive s sessionID now epoch).calls := by
  unfold controlRenewActive McpServer.renewActive
  rcases ensureActive_of_current s.mcp now sessionID epoch current with ⟨error, refused⟩ | ⟨active, held, granted⟩
  · rw [refused]
    exact .of_kept rfl
  · rw [granted]
    exact Or.inr (Or.inl (by simp [controller, held]))

theorem controlReleaseActive_loud :
    Loud s (controlReleaseActive s hardware sessionID now epoch).state
      (controlReleaseActive s hardware sessionID now epoch).calls := by
  unfold controlReleaseActive McpServer.releaseActive
  rcases ensureActive_of_current s.mcp now sessionID epoch current with ⟨error, refused⟩ | ⟨active, held, granted⟩
  · rw [refused]
    exact .of_kept rfl
  · rw [granted]
    exact .of_stopped (List.mem_singleton_self _)

theorem cmdVelPublish_loud (twist : Except String Twist) :
    Loud s (cmdVelPublish s hardware sessionID arguments now twist epoch).state
      (cmdVelPublish s hardware sessionID arguments now twist epoch).calls := by
  unfold cmdVelPublish
  rcases ensureActive_of_current s.mcp now sessionID epoch current with ⟨error, refused⟩ | ⟨active, held, granted⟩
  · rw [refused]
    exact .of_kept rfl
  · rw [granted]
    apply Loud.of_kept
    simp only
    split
    · rfl
    cases twist with
    | error error => rfl
    | ok twist => cases hardware.applyVelocity <;> rfl

theorem cmdVelStop_loud :
    Loud s (cmdVelStop s hardware sessionID now epoch).state (cmdVelStop s hardware sessionID now epoch).calls := by
  unfold cmdVelStop
  rcases ensureActive_of_current s.mcp now sessionID epoch current with ⟨error, refused⟩ | ⟨active, held, granted⟩
  · rw [refused]
    exact .of_kept rfl
  · rw [granted]
    apply Loud.of_kept
    cases hardware.stop <;> rfl

end tools

section requests
variable (s : RuntimeState) (hardware : HardwareClient) (sessionID : String) (now : UInt64) (request : Request)

theorem withEpoch_loud (arguments : Fields) (tool : UInt64 → ToolOutcome)
    (loud : ∀ epoch, parseEpochArgument arguments = .ok epoch → Loud s (tool epoch).state (tool epoch).calls) :
    Loud s (withEpoch s arguments tool).state (withEpoch s arguments tool).calls := by
  unfold withEpoch
  cases parsed : parseEpochArgument arguments with
  | error error => exact .of_kept rfl
  | ok epoch => exact loud epoch parsed

theorem handleMCPTool_loud (arguments : Fields) (name : String) (twist : Except String Twist)
    (fine : leaseExpired s.mcp now = true → (parseEpochArgument arguments).isOk = true →
      (toolNamed name).any (· ∈ [Tool.renewActive, .releaseActive, .publish, .stop]) = false) :
    Loud s (handleMCPTool s hardware sessionID arguments now name twist).state
      (handleMCPTool s hardware sessionID arguments now name twist).calls := by
  have current : ∀ tool ∈ [Tool.renewActive, .releaseActive, .publish, .stop], toolNamed name = some tool →
      ∀ epoch, parseEpochArgument arguments = .ok epoch → leaseExpired s.mcp now = false := by
    intro tool listed named epoch parsed
    cases expired : leaseExpired s.mcp now with
    | false => rfl
    | true =>
      have refused := fine expired (by rw [parsed]; rfl)
      rw [named] at refused
      simp only [Option.any_some, decide_eq_false_iff_not] at refused
      exact absurd listed refused
  unfold handleMCPTool
  cases named : toolNamed name with
  | none => exact .of_kept rfl
  | some tool =>
    have lease := fun listed => current tool listed named
    cases tool with
    | getState => exact .of_kept rfl
    | activate => exact controlActivate_loud s hardware sessionID arguments now
    | renewActive =>
      exact withEpoch_loud s arguments _ fun epoch parsed =>
        controlRenewActive_loud s sessionID now (lease (by decide) epoch parsed) epoch
    | releaseActive =>
      exact withEpoch_loud s arguments _ fun epoch parsed =>
        controlReleaseActive_loud s hardware sessionID now (lease (by decide) epoch parsed) epoch
    | publish =>
      exact withEpoch_loud s arguments _ fun epoch parsed =>
        cmdVelPublish_loud s hardware sessionID arguments now (lease (by decide) epoch parsed) epoch twist
    | stop =>
      exact withEpoch_loud s arguments _ fun epoch parsed =>
        cmdVelStop_loud s hardware sessionID now (lease (by decide) epoch parsed) epoch
    | getRobotState => exact .of_kept (refreshStatus_mcp s hardware)

theorem handleMCPToolCall_loud
    (fine : leaseExpired s.mcp now = true → (parseEpochArgument (argumentsOf request)).isOk = true →
      (toolNamed (toolName request)).any (· ∈ [Tool.renewActive, .releaseActive, .publish, .stop]) = false) :
    Loud s (handleMCPToolCall s hardware sessionID now request).1
      (handleMCPToolCall s hardware sessionID now request).2.1 := by
  unfold handleMCPToolCall
  split
  · exact .of_kept rfl
  · exact handleMCPTool_loud s hardware sessionID now _ _ _ fine

theorem handleMCPJSONRPCRequest_call {id : Json} (asked : request.fields.text "method" = some "tools/call")
    (identified : request.fields.lookup "id" = some id) :
    handleMCPJSONRPCRequest s hardware sessionID now request =
      ⟨(handleMCPToolCall s hardware sessionID now request).1, (handleMCPToolCall s hardware sessionID now request).2.1,
        some ⟨id, (handleMCPToolCall s hardware sessionID now request).2.2⟩,
        mcpRequestUpdatesStatus "tools/call" request⟩ := by
  unfold handleMCPJSONRPCRequest
  rw [asked, identified]
  generalize handleMCPToolCall s hardware sessionID now request = called
  rfl

theorem handleMCPJSONRPCRequest_other
    (other : request.fields.text "method" ≠ some "tools/call" ∨ request.fields.lookup "id" = none) :
    (handleMCPJSONRPCRequest s hardware sessionID now request).state = s := by
  unfold handleMCPJSONRPCRequest
  split
  next => rfl
  next method asked =>
    split
    next => rfl
    next id identified =>
      split
      · rfl
      · rfl
      · exact absurd other (by simp [asked, identified])
      · rfl

theorem handleMCPJSONRPCRequest_loud (fine : (leaseExpired s.mcp now && usesControl request) = false) :
    Loud s (handleMCPJSONRPCRequest s hardware sessionID now request).state
      (handleMCPJSONRPCRequest s hardware sessionID now request).calls := by
  by_cases asked : request.fields.text "method" = some "tools/call"
  · cases identified : request.fields.lookup "id" with
    | none =>
      have same := handleMCPJSONRPCRequest_other s hardware sessionID now request (Or.inr identified)
      exact .of_kept (by rw [same])
    | some id =>
      have called := handleMCPJSONRPCRequest_call s hardware sessionID now request asked identified
      have loud := handleMCPToolCall_loud s hardware sessionID now request (by
        intro expired parsed
        rw [expired, usesControl, decide_eq_true asked, identified, parsed] at fine
        simpa only [Bool.true_and, Option.isSome_some, Bool.and_true] using fine)
      rw [called]
      dsimp only
      exact loud
  · have same := handleMCPJSONRPCRequest_other s hardware sessionID now request (Or.inl asked)
    exact .of_kept (by rw [same])

theorem finish_loud (handled : Handled) (answered : Bool) (loud : Loud s handled.state handled.calls) :
    Loud s (handled.finish sessionID answered).1 (handled.finish sessionID answered).2 :=
  (loud.append _).append _

end requests

section turns
variable (s : RuntimeState)

theorem closeSession_cases (server : McpServer) (sessionID : String) :
    server.closeSession sessionID = (server, false) ∨ (server.closeSession sessionID).2 = true := by
  unfold McpServer.closeSession
  cases held : server.active with
  | none => exact Or.inl rfl
  | some active =>
    simp only
    split
    · unfold McpServer.clearActive
      rw [held]
      exact Or.inr rfl
    · exact Or.inl rfl

variable (hardware : HardwareClient)

theorem closeMCPSession_loud (sessionID : String) :
    Loud s (closeMCPSession s hardware sessionID).1 (closeMCPSession s hardware sessionID).2.1 := by
  unfold closeMCPSession
  rcases closeSession_cases s.mcp sessionID with same | closed
  · rw [same]
    exact .of_kept rfl
  · apply Loud.of_stopped
    simp only [closed]
    exact List.mem_singleton_self _

theorem tickWatchdogs_loud (now : UInt64) :
    Loud s (tickWatchdogs s hardware now).1 (tickWatchdogs s hardware now).2 := by
  unfold tickWatchdogs
  split
  · rw [clearExpired_eq]
    cases leaseExpired s.mcp now with
    | true => exact .of_stopped (List.mem_append_left _ (List.mem_singleton_self _))
    | false => exact .of_kept (refreshStatus_mcp s hardware)
  · exact .of_kept rfl

theorem handleVideoEvent_loud (now : UInt64) (publishes : ℕ) (event : VideoWorkerEvent) :
    Loud s (handleVideoEvent s hardware now publishes event).1 (handleVideoEvent s hardware now publishes event).2 := by
  unfold handleVideoEvent
  split
  · apply Loud.append
    simp only
    split
    · unfold handleVideoMCP
      cases event.endedSession with
      | none => exact .of_kept rfl
      | some sessionID =>
        exact closeMCPSession_loud { s with video := s.video.applyEvent event now } hardware sessionID
    · exact .of_kept rfl
  · exact .of_kept rfl

theorem turn_loud (input : RuntimeInput) (audible : clearsSilently s input = false) :
    Loud s (runtime.next s input) (runtime.emits s input) := by
  obtain ⟨now, publishes, hardware, event⟩ := input
  cases event with
  | tick => exact tickWatchdogs_loud s hardware now
  | video event => exact handleVideoEvent_loud s hardware now publishes event
  | mcpOpen sessionID =>
    show Loud s (handleMCPIPCEvent s hardware now (.mcpOpen sessionID)).1 _
    unfold handleMCPIPCEvent
    split <;> exact .of_kept rfl
  | mcpClose sessionID =>
    show Loud s (handleMCPIPCEvent s hardware now (.mcpClose sessionID)).1
      (handleMCPIPCEvent s hardware now (.mcpClose sessionID)).2
    unfold handleMCPIPCEvent
    split
    · exact (closeMCPSession_loud s hardware sessionID).append _
    · exact .of_kept rfl
  | mcpRequest sessionID request =>
    show Loud s (handleMCPIPCEvent s hardware now (.mcpRequest sessionID request)).1
      (handleMCPIPCEvent s hardware now (.mcpRequest sessionID request)).2
    unfold handleMCPIPCEvent
    split
    next enabled =>
      cases request with
      | error error => exact .of_kept rfl
      | ok request =>
        apply finish_loud
        apply handleMCPJSONRPCRequest_loud
        simpa [clearsSilently, servedRequest, enabled] using audible
    next => exact .of_kept rfl
  | mqttDisconnected =>
    show Loud s (handleMQTTEvent s hardware now publishes .mqttDisconnected).1
      (handleMQTTEvent s hardware now publishes .mqttDisconnected).2
    unfold handleMQTTEvent
    split
    · exact .of_stopped (List.mem_singleton_self _)
    · exact .of_kept rfl
  | mqttPublish topic request =>
    show Loud s (handleMQTTEvent s hardware now publishes (.mqttPublish topic request)).1
      (handleMQTTEvent s hardware now publishes (.mqttPublish topic request)).2
    unfold handleMQTTEvent
    split
    next enabled =>
      simp only
      unfold handleMCPPublish
      split
      next sessionID request parsed =>
        split
        next => exact .of_kept rfl
        next open_ =>
          apply finish_loud
          apply handleMCPJSONRPCRequest_loud
          simpa [clearsSilently, servedRequest, enabled, parsed, open_] using audible
      next => exact .of_kept rfl
    next => exact .of_kept rfl

end turns

section silent
variable (s : RuntimeState) (hardware : HardwareClient) (sessionID : String) (now : UInt64) (request : Request)

def released (s : RuntimeState) : RuntimeState := { s with mcp := { s.mcp with active := none } }

theorem toolNamed_nonblank {name : String} {tool : Tool} (named : toolNamed name = some tool) : trimSpace name ≠ "" := by
  unfold toolNamed at named
  split at named
  all_goals first | decide | cases named

theorem handleMCPTool_silent {arguments : Fields} {name : String} {tool : Tool} {epoch : UInt64}
    (twist : Except String Twist) (expired : leaseExpired s.mcp now = true)
    (parsed : parseEpochArgument arguments = .ok epoch) (named : toolNamed name = some tool)
    (listed : tool ∈ [Tool.renewActive, .releaseActive, .publish, .stop]) :
    handleMCPTool s hardware sessionID arguments now name twist = ⟨released s, [], .error "no active control"⟩ := by
  have cleared := ensureActive_of_expired s.mcp now sessionID epoch expired
  unfold handleMCPTool withEpoch
  rw [named, parsed]
  cases tool with
  | renewActive => simp only [controlRenewActive, McpServer.renewActive, cleared, released]
  | releaseActive => simp only [controlReleaseActive, McpServer.releaseActive, cleared, released]
  | publish => simp only [cmdVelPublish, cleared, released]
  | stop => simp only [cmdVelStop, cleared, released]
  | _ => exact absurd listed (by decide)

theorem request_silent (expired : leaseExpired s.mcp now = true) (uses : usesControl request = true) (answered : Bool) :
    let turn := (handleMCPJSONRPCRequest s hardware sessionID now request).finish sessionID answered
    turn.1 = released s ∧ RuntimeCall.stop ∉ turn.2 := by
  simp only [usesControl, Bool.and_eq_true, decide_eq_true_eq] at uses
  obtain ⟨⟨⟨asked, identified⟩, tools⟩, parses⟩ := uses
  obtain ⟨id, identified⟩ := Option.isSome_iff_exists.mp identified
  obtain ⟨tool, named, listed⟩ := (Option.any_eq_true _ _).mp tools
  cases parsed : parseEpochArgument (argumentsOf request) with
  | error error =>
    rw [parsed] at parses
    cases parses
  | ok epoch =>
    have quiet := handleMCPTool_silent s hardware sessionID now request.twist expired parsed named
      (of_decide_eq_true listed)
    have called : handleMCPToolCall s hardware sessionID now request =
        (released s, [], .error (toolErrorToJSONRPCError "no active control")) := by
      unfold handleMCPToolCall
      rw [if_neg (toolNamed_nonblank named), quiet]
      rfl
    rw [handleMCPJSONRPCRequest_call s hardware sessionID now request asked identified, called]
    generalize toolErrorToJSONRPCError "no active control" = error
    refine ⟨rfl, ?_⟩
    unfold Handled.finish
    cases mcpRequestUpdatesStatus "tools/call" request && answered <;> simp

variable (input : RuntimeInput)

theorem turn_silent (silent : clearsSilently s input = true) :
    (runtime.next s input).mcp.active = none ∧ RuntimeCall.stop ∉ runtime.emits s input := by
  obtain ⟨now, publishes, hardware, event⟩ := input
  simp only [clearsSilently, Bool.and_eq_true] at silent
  obtain ⟨⟨enabled, expired⟩, served⟩ := silent
  obtain ⟨request, served, uses⟩ := (Option.any_eq_true _ _).mp served
  have quiet := fun sessionID => request_silent s hardware sessionID now request expired uses
  cases event with
  | mcpRequest sessionID given =>
    cases given with
    | error error => cases served
    | ok given =>
      cases served
      simp only [Reaction.next, Reaction.emits, runtime, handleMCPIPCEvent, enabled, if_true]
      exact ⟨by rw [(quiet sessionID true).1]; rfl, (quiet sessionID true).2⟩
  | mqttPublish topic given =>
    cases given with
    | error error => cases served
    | ok given =>
      simp only [servedRequest, Option.ite_none_right_eq_some] at served
      obtain ⟨⟨parses, transport⟩, same⟩ := served
      cases same
      obtain ⟨sessionID, parsed⟩ := Option.isSome_iff_exists.mp parses
      have turn : runtime s ⟨now, publishes, hardware, .mqttPublish topic (.ok request)⟩ =
          (handleMCPJSONRPCRequest s hardware sessionID now request).finish sessionID (1 ≤ publishes) := by
        show handleMQTTEvent s hardware now publishes (.mqttPublish topic (.ok request)) = _
        unfold handleMQTTEvent
        rw [if_pos enabled]
        show handleMCPPublish s hardware now publishes topic (.ok request) = _
        unfold handleMCPPublish
        rw [parsed]
        exact if_neg transport
      unfold Reaction.next Reaction.emits
      rw [turn]
      exact ⟨by rw [(quiet sessionID _).1]; rfl, (quiet sessionID _).2⟩
  | _ => cases served

theorem silent_loses (silent : clearsSilently s input = true) : LosesController s input := by
  have gone : controller (runtime.next s input) = none := by
    rw [controller, (turn_silent s input silent).1]
    rfl
  simp only [clearsSilently, leaseExpired, Bool.and_eq_true] at silent
  obtain ⟨active, held, -⟩ := (Option.any_eq_true _ _).mp silent.1.2
  have held : controller s = some (active.sessionID, active.epoch) := by rw [controller, held]; rfl
  rw [LosesController, gone, held]
  simp

theorem tick_quiet (ticks : input.event.isTick = true) (free : s.mcp.active = none) :
    RuntimeCall.stop ∉ runtime.emits s input := by
  obtain ⟨now, publishes, hardware, event⟩ := input
  cases event with
  | tick =>
    have current : leaseExpired s.mcp now = false := by rw [leaseExpired, free]; rfl
    simp only [Reaction.emits, runtime, tickWatchdogs, clearExpired_eq, current]
    split
    · simp only [Bool.false_eq_true, if_false, Bool.false_or, RuntimeState.stopIfRequired, List.nil_append,
        List.mem_cons, reduceCtorEq, false_or]
      split <;> simp
    · simp
  | _ => cases ticks

end silent

/-- With no silent clearing on the way every loss stops the motors. The condition cannot be spared: a silent
clearing followed by a tick stops nothing. -/
theorem everyLossStopped_of_audible (s : RuntimeState) :
    (∀ inputs, runtime.Along (fun s input => clearsSilently s input = false) s inputs → EveryLossStopped s inputs) ∧
    (∀ input tick, clearsSilently s input = true → tick.event.isTick = true →
      ¬ EveryLossStopped s [input, tick]) := by
  constructor
  · rintro inputs along before input between tick after rfl ⟨held, lost⟩ - -
    have audible := ((runtime.along_append).mp along).2.1
    apply List.mem_append_left
    rcases turn_loud (runtime.run s before) input audible with free | kept | stopped
    · exact absurd (by rw [controller, free]; rfl) held
    · exact absurd kept lost
    · exact stopped
  · intro input tick silent ticks stopped
    have made := stopped [] input [] tick [] rfl (silent_loses s input silent) (by simp) ticks
    obtain ⟨free, quiet⟩ := turn_silent s input silent
    simp only [Reaction.run_nil, List.nil_append, Reaction.trace_cons, Reaction.trace_nil, List.append_nil,
      List.mem_append] at made
    exact made.elim quiet (tick_quiet _ tick ticks free)

section runs

def willing : HardwareClient := ⟨.ok (true, ⟨0, 0, 0⟩), .ok ⟨40, 40, 1⟩, .ok ⟨0, 0, 2⟩⟩

def toolCall (name : String) (arguments : Fields) (twist : Except String Twist) : Request where
  fields := .cons "method" (.string "tools/call") <| .cons "id" (.number 1) <|
    .cons "params" (.object (.cons "name" (.string name) <| .cons "arguments" (.object arguments) .nil)) .nil
  twist := twist

def forward : Twist := ⟨⟨1, 0, 0⟩, ⟨0, 0, 0⟩⟩

def drive : Request :=
  toolCall "cmd_vel.publish" (.cons "epoch" (.number 1) <| .cons "twist" (.object .nil) .nil) (.ok forward)

def driving : List RuntimeInput :=
  [⟨20, 3, willing, .mcpRequest "one" (.ok (toolCall "control.activate" .nil (.error "")))⟩,
    ⟨30, 3, willing, .mcpRequest "one" (.ok drive)⟩, ⟨5000, 3, willing, .tick⟩]

def lateTick : RuntimeInput := ⟨5100, 3, willing, .tick⟩

def lateDrive : RuntimeInput := ⟨5050, 3, willing, .mcpRequest "one" (.ok drive)⟩

def unit : RuntimeState := newRuntimeState "unit-1" true false

theorem driving_expiry_stopped :
    LosesController (runtime.run unit driving) lateTick ∧ EveryLossStopped unit (driving ++ [lateTick]) ∧
      ¬ EveryLossStopped (runtime.run unit driving) [lateDrive, lateTick] :=
  ⟨by decide +kernel, (everyLossStopped_of_audible unit).1 _ (by decide +kernel),
    (everyLossStopped_of_audible _).2 _ _ (by decide +kernel) rfl⟩

/-- The late call is refused and clears the lease, and the next tick finds nothing to stop. -/
theorem lateDrive_unstopped :
    Clocked (driving ++ [lateDrive, lateTick]) ∧ unit.mcp.active = none ∧
      .applyVelocity forward 5020 ∈ runtime.trace unit driving ∧
      ¬ EveryLossStopped unit (driving ++ [lateDrive, lateTick]) := by
  refine ⟨by decide, rfl, by decide +kernel, ?_⟩
  intro stopped
  have made := stopped driving lateDrive [] lateTick [] rfl (by decide +kernel) (by simp) rfl
  revert made
  decide +kernel

end runs

end Txing.Board.McpControlLoss
