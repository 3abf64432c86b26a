import Txing.Board.MavlinkService

/-! What the absence of an error from `EnterSafeState` says about the frames that were written. -/

namespace Txing.Board.SafeConfirmation
open MavlinkFrame DaemonRuntime MavlinkService

section frames
variable (sequence other : UInt32) (target : MAVLinkTarget)

/-- The neutral frame is a well-formed `MANUAL_CONTROL` message without steering and throttle. -/
theorem parse_neutral : parseMAVLinkV2Frame (buildManualControlFrame sequence target 0 0) =
    .ok ⟨mavlinkManualControlMessageID, manualControlPayload target 0 0⟩ :=
  parse_buildFrame sequence _ _ 243 rfl (show 11 ≤ 255 by decide)

theorem parse_command (first second : UInt32) (command : UInt16) :
    parseMAVLinkV2Frame (buildFrame sequence mavlinkCommandLongMessageID (commandPayload target first second command)) =
      .ok ⟨mavlinkCommandLongMessageID, commandPayload target first second command⟩ :=
  parse_buildFrame sequence _ _ 152 rfl (show 33 ≤ 255 by decide)

private theorem neutral_ne_command (first second : UInt32) (command : UInt16) :
    buildManualControlFrame sequence target 0 0 ≠
      buildFrame other mavlinkCommandLongMessageID (commandPayload target first second command) := by
  intro same
  have parsed := parse_neutral sequence target
  rw [same, parse_command, Except.ok.injEq, ParsedMAVLinkFrame.mk.injEq] at parsed
  exact absurd parsed.1 (by decide)

private theorem hold_ne_disarm :
    buildModeFrame sequence target mavlinkModeHold ≠ buildArmDisarmFrame other target false := by
  intro same
  have parsed := parse_command sequence target (float32Bits mavlinkCustomModeEnabledBaseMode)
    (float32Bits mavlinkModeHold) mavlinkCommandDoSetMode
  unfold buildModeFrame buildArmDisarmFrame at same
  rw [same, parse_command, Except.ok.injEq, ParsedMAVLinkFrame.mk.injEq] at parsed
  have commands : mavlinkCommandComponentArmDisarm.toUInt8 = mavlinkCommandDoSetMode.toUInt8 :=
    congrArg (fun payload : Bytes => payload.getD 28 0) parsed.2
  exact absurd commands (by decide)

end frames

/-- The neutral frame, the Hold frame and, if asked for, the disarm frame for the known target. -/
def SafeStateWritten (view : ServiceView) (requestDisarm : Bool) (written : List Bytes) : Prop :=
  ∃ target, view.target = some target ∧
    buildManualControlFrame view.neutral.sequence target 0 0 ∈ written ∧
    buildModeFrame view.hold.sequence target mavlinkModeHold ∈ written ∧
    (requestDisarm = true → buildArmDisarmFrame view.disarm.sequence target false ∈ written)

def Confirms (view : ServiceView) (call : CallView) (reason : String) (requestDisarm : Bool) : Prop :=
  (enterSafeState view call reason requestDisarm).1 = none →
    SafeStateWritten view requestDisarm (enterSafeState view call reason requestDisarm).2

def CallFails (call : CallView) : Prop :=
  call.contextError ≠ none ∨ call.callError ≠ none ∨ call.statusError ≠ none

/-- The service knows a target and has, for each frame, a transport that takes it. -/
def Writable (view : ServiceView) (requestDisarm : Bool) : Prop :=
  view.target ≠ none ∧ view.neutral.transport = some none ∧ view.hold.transport = some none ∧
    (requestDisarm = true → view.disarm.transport = some none)

theorem mem_sendFrame {view : SendView} {frame other : Bytes} :
    other ∈ (sendFrame view frame).2 ↔ other = frame ∧ view.transport = some none := by
  unfold sendFrame
  split
  next absent => simp [absent]
  next error failing => simp [failing]
  next working => simp [working]

theorem mem_written {view : ServiceView} {target : MAVLinkTarget} (known : view.target = some target)
    {reason : String} {requestDisarm : Bool} {frame : Bytes} :
    frame ∈ (serviceEnterSafeState view ⟨reason, requestDisarm, true⟩).2 ↔
      (frame = buildManualControlFrame view.neutral.sequence target 0 0 ∧ view.neutral.transport = some none) ∨
      (frame = buildModeFrame view.hold.sequence target mavlinkModeHold ∧ view.hold.transport = some none) ∨
      (requestDisarm = true ∧ frame = buildArmDisarmFrame view.disarm.sequence target false ∧
        view.disarm.transport = some none) := by
  cases requestDisarm <;>
    simp [serviceEnterSafeState, known, mem_sendFrame]

theorem safeStateWritten_iff (view : ServiceView) (reason : String) (requestDisarm : Bool) :
    SafeStateWritten view requestDisarm (serviceEnterSafeState view ⟨reason, requestDisarm, true⟩).2 ↔
      Writable view requestDisarm := by
  constructor
  · intro written
    obtain ⟨target, known, neutral, hold, disarm⟩ := written
    rw [mem_written known] at neutral hold disarm
    refine ⟨by simp [known], ?_, ?_, fun asked => ?_⟩
    · rcases neutral with own | ⟨same, _⟩ | ⟨_, same, _⟩
      · exact own.2
      · exact absurd same (neutral_ne_command _ _ _ _ _ _)
      · exact absurd same (neutral_ne_command _ _ _ _ _ _)
    · rcases hold with ⟨same, _⟩ | own | ⟨_, same, _⟩
      · exact absurd same.symm (neutral_ne_command _ _ _ _ _ _)
      · exact own.2
      · exact absurd same (hold_ne_disarm _ _ _)
    · rcases disarm asked with ⟨same, _⟩ | ⟨same, _⟩ | ⟨_, own⟩
      · exact absurd same.symm (neutral_ne_command _ _ _ _ _ _)
      · exact absurd same.symm (hold_ne_disarm _ _ _)
      · exact own.2
  · intro writable
    obtain ⟨known, neutral, hold, disarm⟩ := writable
    obtain ⟨target, known⟩ := Option.ne_none_iff_exists'.mp known
    refine ⟨target, known, ?_, ?_, fun asked => ?_⟩
    · exact (mem_written known).mpr (Or.inl ⟨rfl, neutral⟩)
    · exact (mem_written known).mpr (Or.inr (Or.inl ⟨rfl, hold⟩))
    · exact (mem_written known).mpr (Or.inr (Or.inr ⟨asked, rfl, disarm asked⟩))

theorem error_none_iff (view : ServiceView) (call : CallView) (reason : String) (requestDisarm : Bool) :
    (enterSafeState view call reason requestDisarm).1 = none ↔ ¬ CallFails call := by
  unfold enterSafeState loopEnterSafeState CallFails
  cases call.contextError <;> cases call.callError <;> cases call.statusError <;> simp

/-- The confirmation is worth something exactly when the call fails, or all its writes succeed. -/
theorem confirms_iff (view : ServiceView) (call : CallView) (reason : String) (requestDisarm : Bool) :
    Confirms view call reason requestDisarm ↔ CallFails call ∨ Writable view requestDisarm := by
  by_cases fails : CallFails call
  · exact iff_of_true (fun quiet => absurd fails ((error_none_iff view call reason requestDisarm).mp quiet))
      (Or.inl fails)
  · have quiet := (error_none_iff view call reason requestDisarm).mpr fails
    have all : (enterSafeState view call reason requestDisarm).2 =
        (serviceEnterSafeState view ⟨reason, requestDisarm, true⟩).2 := by
      unfold CallFails at fails
      push Not at fails
      simp [enterSafeState, fails]
    unfold Confirms
    rw [all, or_iff_right fails, ← safeStateWritten_iff view reason]
    exact ⟨fun confirmed => confirmed quiet, fun written _ => written⟩

/-- No heartbeat seen yet: the service has a transport but no target. -/
def targetlessService : ServiceView :=
  ⟨none, ⟨1, some none⟩, ⟨2, some none⟩, ⟨3, some none⟩, false⟩

def undisturbedCall : CallView := ⟨none, none, true, none⟩

/-- The service answers `target_unavailable`, nothing is written, and the caller hears of no error. -/
theorem targetlessService_confirmed :
    (serviceEnterSafeState targetlessService ⟨"MAVLink daemon shutdown", true, true⟩).1.errors =
        [⟨"target_unavailable", "flight-controller target is unavailable"⟩] ∧
      ¬ Confirms targetlessService undisturbedCall "MAVLink daemon shutdown" true := by
  constructor
  · decide
  intro confirmed
  obtain ⟨target, known, _⟩ := confirmed (by decide)
  cases known

end Txing.Board.SafeConfirmation
