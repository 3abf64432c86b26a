import Txing.Board.DaemonRuntime

/-! What one turn of the runtime loop can do to the lease and to the drive-input watchdog,
said once for all inputs. -/

namespace Txing.Board.LeaseSteps
open Txing.Library MavlinkFrame MavlinkControl DaemonRuntime
open MAVLinkControlState (activate_cases dropActive leaseExpired live_active live_of_current live_of_expired
  recordAcceptedControlFrame release_cases renew_cases)

/-- The part of the control state that says who drives and when input last came. -/
structure Lease where
  active : Option MAVLinkActiveControl
  lastAcceptedAtMS : UInt64
  watchdogTripped : Bool
  deriving DecidableEq, Repr

def leaseOf (s : RuntimeState) : Lease := ⟨s.mavlink.active, s.mavlink.lastAcceptedAtMS, s.mavlink.watchdogTripped⟩

def unowned : Lease := ⟨none, 0, false⟩

def stops : RuntimeCall → Bool
  | .requestSafeState _ _ => true
  | .requestNeutral _ => true
  | _ => false

/-- A safe-state request, which always asks for Hold, that also asks for disarming. -/
def holdsAndDisarms : RuntimeCall → Bool
  | .requestSafeState _ requestDisarm => requestDisarm
  | _ => false

variable {call : RuntimeCall}

theorem stops_of_holdsAndDisarms (safe : holdsAndDisarms call = true) : stops call = true := by
  cases call <;> first | rfl | cases safe

def onlyClears (control : MAVLinkControlState) (sessionID : String) : LeaseCall → Bool
  | .activate _ _ => decide (sessionID ∉ control.peers)
  | .renew _ => true
  | .release _ => true

/-- The handler finds the lease run out, clears it, and makes nothing of that: `EnsureActive` and
`Activate` drop the answer of `ClearExpired`. -/
def clearsSilently (s : RuntimeState) (input : RuntimeInput) : Bool :=
  s.mavlink.leaseExpired input.observedAtMS &&
    match input.event with
    | .frame _ _ _ _ => true
    | .control sessionID json => (leaseCall json).any (onlyClears s.mavlink sessionID)
    | _ => false

def takesControl (control : MAVLinkControlState) (sessionID : String) (nowMS : UInt64) : LeaseCall → Bool
  | .activate _ takeover => decide (sessionID ∈ control.peers) &&
      (control.live nowMS).active.all fun owner => owner.sessionID ≠ sessionID && takeover
  | _ => false

/-- The handler makes a new owner: a takeover, or an activation with no lease running. -/
def installsOwner (s : RuntimeState) (input : RuntimeInput) : Bool :=
  match input.event with
  | .control sessionID json => (leaseCall json).any (takesControl s.mavlink sessionID input.observedAtMS)
  | _ => false

def handsOver : RuntimeCall → Bool
  | .sendFrame frame none => isManualControl frame
  | _ => false

/-- Every outcome of a turn for the lease, with the calls that go with it. -/
inductive LeaseStep (s : RuntimeState) (input : RuntimeInput) (calls : List RuntimeCall) : Lease → Prop where
  | kept : LeaseStep s input calls (leaseOf s)
  | extended (owner later : MAVLinkActiveControl) (owned : s.mavlink.active = some owner) :
      LeaseStep s input calls { leaseOf s with active := some later }
  | silent (cleared : clearsSilently s input = true) : LeaseStep s input calls unowned
  | installed (owner : MAVLinkActiveControl) (taken : installsOwner s input = true) :
      LeaseStep s input calls ⟨some owner, 0, false⟩
  | surrendered (asked : s.mavlinkFlight = true → ∃ call ∈ calls, holdsAndDisarms call = true) :
      LeaseStep s input calls unowned
  | driven (owner : MAVLinkActiveControl) (given : ∃ call ∈ calls, handsOver call = true) :
      LeaseStep s input calls ⟨some owner, input.observedAtMS, false⟩
  | tripped (asked : s.mavlinkFlight = true → ∃ call ∈ calls, stops call = true) :
      LeaseStep s input calls { leaseOf s with watchdogTripped := true }

@[simp] theorem finish_mavlink (handled : Handled) (publishes : Nat) :
    (handled.finish publishes).1.mavlink = handled.state.mavlink := by
  unfold Handled.finish
  dsimp only
  split_ifs <;> rfl

@[simp] theorem finish_mavlinkFlight (handled : Handled) (publishes : Nat) :
    (handled.finish publishes).1.mavlinkFlight = handled.state.mavlinkFlight := by
  unfold Handled.finish
  dsimp only
  split_ifs <;> rfl

@[simp] theorem finish_mcpEnabled (handled : Handled) (publishes : Nat) :
    (handled.finish publishes).1.mcpEnabled = handled.state.mcpEnabled := by
  unfold Handled.finish
  dsimp only
  split_ifs <;> rfl

theorem mem_finish (handled : Handled) (publishes : Nat) (made : call ∈ handled.calls) :
    call ∈ (handled.finish publishes).2 := by
  unfold Handled.finish
  dsimp only
  split_ifs <;> simp [made]

theorem finish_asks (handled : Handled) (publishes : Nat) (due : handled.safeReason ≠ "")
    (attached : handled.state.mavlinkFlight = true) :
    .requestSafeState handled.safeReason handled.safeDisarm ∈ (handled.finish publishes).2 := by
  unfold Handled.finish RuntimeState.requestMAVLinkSafeState
  dsimp only
  split_ifs <;> simp

def isPublish : RuntimeCall → Bool
  | .publishRetainedStatus _ => true
  | .publishShadow _ => true
  | .publishCapabilities _ _ => true
  | _ => false

theorem publishMAVLinkStatus_isPublish (s : RuntimeState) (publishes : Nat)
    (made : call ∈ s.publishMAVLinkStatus publishes) : isPublish call = true := by
  have listed := List.mem_of_mem_take made
  simp only [List.mem_cons, List.not_mem_nil, or_false] at listed
  rcases listed with rfl | rfl <;> rfl

theorem mem_requestMAVLinkSafeState {s : RuntimeState} {reason : String} {requestDisarm : Bool}
    (made : call ∈ s.requestMAVLinkSafeState reason requestDisarm) : call = .requestSafeState reason requestDisarm := by
  unfold RuntimeState.requestMAVLinkSafeState at made
  split_ifs at made
  · exact List.mem_singleton.mp made
  · cases made

theorem mem_requestMAVLinkNeutral {s : RuntimeState} {reason : String}
    (made : call ∈ s.requestMAVLinkNeutral reason) : call = .requestNeutral reason := by
  unfold RuntimeState.requestMAVLinkNeutral at made
  split_ifs at made
  · exact List.mem_singleton.mp made
  · cases made

theorem mem_finish_cases {handled : Handled} {publishes : Nat} (made : call ∈ (handled.finish publishes).2) :
    call ∈ handled.calls ∨
      (handled.safeReason ≠ "" ∧ call = .requestSafeState handled.safeReason handled.safeDisarm) ∨
      isPublish call = true := by
  have status : call ∈ handled.state.publishMAVLinkStatus publishes → isPublish call = true :=
    publishMAVLinkStatus_isPublish handled.state publishes
  have safe : call ∈ (if handled.safeReason ≠ "" then
      handled.state.requestMAVLinkSafeState handled.safeReason handled.safeDisarm else []) →
      handled.safeReason ≠ "" ∧ call = .requestSafeState handled.safeReason handled.safeDisarm := by
    intro member
    split_ifs at member with due
    · exact ⟨due, mem_requestMAVLinkSafeState member⟩
    · cases member
  unfold Handled.finish RuntimeState.publishCapabilities at made
  dsimp only at made
  generalize (if handled.safeReason ≠ "" then _ else _ : List RuntimeCall) = requests at made safe
  have listed : (call ∈ handled.calls ∨ call ∈ requests) ∨ isPublish call = true := by
    split_ifs at made
    · simp only [List.mem_append, List.mem_singleton] at made
      rcases made with (earlier | published) | rfl
      · exact Or.inl earlier
      · exact Or.inr (status published)
      · exact Or.inr rfl
    · simp only [List.mem_append] at made
      exact made.imp_right status
    · exact Or.inl (List.mem_append.mp made)
  rcases listed with (own | due) | published
  · exact Or.inl own
  · exact Or.inr (Or.inl (safe due))
  · exact Or.inr (Or.inr published)

theorem finish_quiet (handled : Handled) (publishes : Nat) (none_due : handled.safeReason = "")
    (quiet : ∀ call ∈ handled.calls, stops call = false) :
    ∀ call ∈ (handled.finish publishes).2, stops call = false := by
  intro call made
  rcases mem_finish_cases made with own | ⟨due, _⟩ | published
  · exact quiet call own
  · exact absurd none_due due
  · cases call <;> first | rfl | cases published

section steps
variable (s : RuntimeState) (now : UInt64) (publishes : Nat)
  (input : RuntimeInput) (sessionID : String) (calls : List RuntimeCall)

private theorem leaseOf_live_expired (late : s.mavlink.leaseExpired now = true)
    (control : MAVLinkControlState) (found : control = s.mavlink.live now) :
    leaseOf { s with mavlink := control } = unowned := by
  rw [found, live_of_expired late]
  rfl

theorem leaseOf_finish (handled : Handled) : leaseOf (handled.finish publishes).1 = leaseOf handled.state := by
  simp [leaseOf]

theorem leaseStep_of_live (control : MAVLinkControlState) (found : control = s.mavlink.live input.observedAtMS)
    (clears : s.mavlink.leaseExpired input.observedAtMS = true → clearsSilently s input = true) :
    LeaseStep s input calls (leaseOf { s with mavlink := control }) := by
  cases late : s.mavlink.leaseExpired input.observedAtMS with
  | true =>
    rw [leaseOf_live_expired s _ late control found]
    exact .silent (clears late)
  | false =>
    rw [found, live_of_current late]
    exact .kept

theorem leaseStep_of_extend (owner : MAVLinkActiveControl)
    (owned : (s.mavlink.live input.observedAtMS).active = some owner) (later : MAVLinkActiveControl) :
    LeaseStep s input calls
      (leaseOf { s with mavlink := { s.mavlink.live input.observedAtMS with active := some later } }) := by
  obtain ⟨held, current⟩ := live_active.mp owned
  have running : s.mavlink.leaseExpired input.observedAtMS = false := by
    simp [leaseExpired, held, UInt64.not_le.mpr current]
  rw [live_of_current running]
  exact .extended owner later held

theorem leaseStep_control (json : DecodedText) :
    LeaseStep s ⟨now, publishes, .control sessionID json⟩
      (runtime.emits s ⟨now, publishes, .control sessionID json⟩)
      (leaseOf (runtime.next s ⟨now, publishes, .control sessionID json⟩)) := by
  have state : leaseOf (runtime.next s ⟨now, publishes, .control sessionID json⟩) =
      leaseOf { s with mavlink := (s.mavlink.handleControlMessage sessionID json now).1 } := leaseOf_finish _ _
  rw [state]
  have spec := handleControlMessage_spec s.mavlink sessionID json now
  dsimp only at spec
  cases called : leaseCall json with
  | none =>
    simp only [called] at spec
    rw [spec.1]
    exact .kept
  | some call =>
    cases call with
    | activate actor takeover =>
      simp only [called] at spec
      rw [spec.1]
      have outcome := activate_cases s.mavlink sessionID actor takeover now
      generalize s.mavlink.activate sessionID actor takeover now = activated at outcome
      cases outcome with
      | unknown absent =>
        exact leaseStep_of_live s _ _ _ rfl fun late => by simp [clearsSilently, late, called, onlyClears, absent]
      | busy known owner owned other polite =>
        obtain ⟨held, current⟩ := live_active.mp owned
        refine leaseStep_of_live s _ _ _ rfl fun late => ?_
        simp [leaseExpired, held, UInt64.not_le.mpr current] at late
      | extended known owner owned same => exact leaseStep_of_extend s _ _ owner owned _
      | installed known free =>
        refine .installed _ ?_
        simp only [installsOwner, called, Option.any_some, takesControl, known, decide_true, Bool.true_and]
        cases owned : (s.mavlink.live now).active with
        | none => rfl
        | some owner => simpa using free owner owned
    | renew epoch =>
      simp only [called] at spec
      rw [spec.1]
      rcases renew_cases s.mavlink sessionID epoch now with stale | ⟨owner, owned, _, _, moved⟩
      · rw [stale]
        exact leaseStep_of_live s _ _ _ rfl fun late => by simp [clearsSilently, late, called, onlyClears]
      · rw [moved]
        exact leaseStep_of_extend s _ _ owner owned _
    | release epoch =>
      simp only [called] at spec
      rw [spec.1]
      rcases release_cases s.mavlink sessionID epoch now with stale | ⟨owner, owned, _, _, freed⟩
      · rw [stale]
        exact leaseStep_of_live s _ _ _ rfl fun late => by simp [clearsSilently, late, called, onlyClears]
      · have required := spec.2.mpr (by rw [freed])
        rw [freed]
        refine .surrendered fun attached => ?_
        have asked := finish_asks (handleEvent s (.control sessionID json) now) publishes
          (by simp [handleEvent, required]) attached
        exact ⟨_, asked, by simp [handleEvent, required, holdsAndDisarms]⟩

theorem handledFrame_cases (epoch : UInt64) (frame : Bytes) (sendError : Option String) :
    let handled := handledFrame s sessionID epoch frame sendError now
    (handled.1 = { s with mavlink := s.mavlink.live now } ∧
      ∀ call ∈ handled.2, stops call = false ∧ handsOver call = false) ∨
    (∃ owner, (s.mavlink.live now).active = some owner ∧
      handled.1 = { s with mavlink := (s.mavlink.live now).recordAcceptedControlFrame frame now } ∧
      handled.2 = [.sendFrame frame none, .frameResult none]) := by
  intro handled
  have state := MAVLinkControlState.authorizeControlFrame_state s.mavlink sessionID epoch frame now
  have granted := @MAVLinkControlState.authorizeControlFrame_ok s.mavlink now sessionID epoch frame
  simp only [handled, handledFrame]
  rcases authorized : s.mavlink.authorizeControlFrame sessionID epoch frame now with ⟨control, error | _⟩
  · rw [authorized] at state
    cases state
    exact Or.inl ⟨rfl, by simp [stops, handsOver]⟩
  · rw [authorized] at state granted
    cases state
    obtain ⟨⟨owner, held, _, _, current⟩, _⟩ := granted.mp rfl
    cases s.mavlinkFlight with
    | false => exact Or.inl ⟨rfl, by simp [stops, handsOver]⟩
    | true =>
      cases sendError with
      | some error => exact Or.inl ⟨rfl, by simp [stops, handsOver]⟩
      | none => exact Or.inr ⟨owner, live_active.mpr ⟨held, current⟩, rfl, rfl⟩

theorem leaseStep_frame (epoch : UInt64) (frame : Bytes) (sendError : Option String) :
    LeaseStep s ⟨now, publishes, .frame sessionID epoch frame sendError⟩
      (runtime.emits s ⟨now, publishes, .frame sessionID epoch frame sendError⟩)
      (leaseOf (runtime.next s ⟨now, publishes, .frame sessionID epoch frame sendError⟩)) := by
  have state : leaseOf (runtime.next s ⟨now, publishes, .frame sessionID epoch frame sendError⟩) =
      leaseOf (handledFrame s sessionID epoch frame sendError now).1 := leaseOf_finish _ _
  rw [state]
  have clears : s.mavlink.leaseExpired now = true →
      clearsSilently s ⟨now, publishes, .frame sessionID epoch frame sendError⟩ = true :=
    fun late => by simp [clearsSilently, late]
  rcases handledFrame_cases s now sessionID epoch frame sendError with ⟨after, _⟩ | ⟨owner, owned, after, calls⟩
  · rw [after]
    exact leaseStep_of_live s _ _ _ rfl clears
  · rw [after]
    cases manual : isManualControl frame with
    | false =>
      refine leaseStep_of_live s _ _ _ ?_ clears
      simp [recordAcceptedControlFrame, manual]
    | true =>
      have recorded : leaseOf { s with mavlink := (s.mavlink.live now).recordAcceptedControlFrame frame now } =
          ⟨some owner, now, false⟩ := by
        simp [recordAcceptedControlFrame, manual, leaseOf, owned]
      rw [recorded]
      refine .driven owner ⟨.sendFrame frame none, mem_finish _ _ ?_, manual⟩
      simp [handleEvent, calls]

theorem leaseStep_close (reason : String) :
    LeaseStep s ⟨now, publishes, .close sessionID reason⟩
      (runtime.emits s ⟨now, publishes, .close sessionID reason⟩)
      (leaseOf (runtime.next s ⟨now, publishes, .close sessionID reason⟩)) := by
  have state : leaseOf (runtime.next s ⟨now, publishes, .close sessionID reason⟩) =
      leaseOf { s with mavlink := (s.mavlink.closePeer sessionID).1 } := leaseOf_finish _ _
  rw [state]
  rcases s.mavlink.closePeer_cases sessionID with ⟨owner, owned, own, freed⟩ | ⟨_, closed⟩
  · rw [freed]
    refine .surrendered fun attached => ?_
    have asked := finish_asks (handleEvent s (.close sessionID reason) now) publishes
      (by simp [handleEvent, freed]) attached
    exact ⟨_, asked, by simp [handleEvent, freed, holdsAndDisarms]⟩
  · rw [closed]
    exact .kept

/-- Drive input of an owner that the watchdog still has to answer for. -/
def armed (control : MAVLinkControlState) : Bool :=
  control.active.isSome && control.lastAcceptedAtMS != 0 && !control.watchdogTripped

def overdue (control : MAVLinkControlState) (nowMS : UInt64) : Bool :=
  armed control && decide (durationMillis control.watchdog ≤ nowMS - control.lastAcceptedAtMS)

theorem watchdogExpired_eq (control : MAVLinkControlState) (nowMS : UInt64) :
    control.watchdogExpired nowMS =
      if overdue control nowMS then ({ control with watchdogTripped := true }, true) else (control, false) := by
  unfold MAVLinkControlState.watchdogExpired overdue armed
  cases control.active with
  | none => simp
  | some owner =>
    by_cases zero : control.lastAcceptedAtMS = 0
    · simp [zero]
    · cases control.watchdogTripped with
      | true => simp
      | false =>
        by_cases early : nowMS - control.lastAcceptedAtMS < durationMillis control.watchdog
        · simp [zero, early, UInt64.not_le.mpr early]
        · simp [zero, early, UInt64.not_lt.mp early]

inductive TickOutcome (mcpCleared motionChanged : Bool) : RuntimeState × List RuntimeCall → Prop where
  | mcpChanged (enabled : s.mcpEnabled = true) : TickOutcome mcpCleared motionChanged
      (s, (if mcpCleared then [.stopMotion] else []) ++ [.publishMCPStatus])
  | leaseExpired (late : s.mavlink.leaseExpired now = true) : TickOutcome mcpCleared motionChanged
      ({ s with mavlink := s.mavlink.dropActive },
        s.requestMAVLinkSafeState "MAVLink active-control lease expired" true ++
          { s with mavlink := s.mavlink.dropActive }.publishMAVLinkStatus publishes)
  | inputStopped (late : overdue s.mavlink now = true) : TickOutcome mcpCleared motionChanged
      ({ s with mavlink := { s.mavlink with watchdogTripped := true } },
        s.requestMAVLinkNeutral "MAVLink drive-input watchdog expired")
  | idle (current : s.mavlink.leaseExpired now = false) (fresh : overdue s.mavlink now = false) :
      TickOutcome mcpCleared motionChanged (s, [])

theorem tickWatchdogs_cases (mcpCleared motionChanged : Bool) :
    TickOutcome s now publishes mcpCleared motionChanged
      (tickWatchdogs s mcpCleared motionChanged now publishes) := by
  unfold tickWatchdogs
  rw [MAVLinkControlState.clearExpired_eq]
  cases changed : s.mcpEnabled && (mcpCleared || motionChanged) with
  | true =>
    simp only [Bool.and_eq_true] at changed
    exact .mcpChanged changed.1
  | false =>
    cases late : s.mavlink.leaseExpired now with
    | true => exact .leaseExpired late
    | false =>
      simp only [Bool.false_eq_true, if_false, watchdogExpired_eq]
      cases stopped : overdue s.mavlink now with
      | true => exact .inputStopped stopped
      | false => exact .idle late stopped

theorem leaseStep_tick (mcpCleared motionChanged : Bool) :
    LeaseStep s ⟨now, publishes, .tick mcpCleared motionChanged⟩
      (runtime.emits s ⟨now, publishes, .tick mcpCleared motionChanged⟩)
      (leaseOf (runtime.next s ⟨now, publishes, .tick mcpCleared motionChanged⟩)) := by
  have outcome := tickWatchdogs_cases s now publishes mcpCleared motionChanged
  simp only [Reaction.emits, Reaction.next, runtime]
  generalize tickWatchdogs s mcpCleared motionChanged now publishes = ticked at outcome
  cases outcome with
  | mcpChanged enabled => exact .kept
  | leaseExpired late =>
    refine .surrendered fun attached => ?_
    exact ⟨.requestSafeState "MAVLink active-control lease expired" true,
      by simp [RuntimeState.requestMAVLinkSafeState, attached], rfl⟩
  | inputStopped late =>
    refine .tripped fun attached => ?_
    exact ⟨.requestNeutral "MAVLink drive-input watchdog expired",
      by simp [RuntimeState.requestMAVLinkNeutral, attached], rfl⟩
  | idle current fresh => exact .kept

theorem leaseStep : LeaseStep s input (runtime.emits s input) (leaseOf (runtime.next s input)) := by
  rcases input with ⟨now, publishes, event⟩
  cases event with
  | control sessionID json => exact leaseStep_control s now publishes sessionID json
  | frame sessionID epoch frame sendError => exact leaseStep_frame s now publishes sessionID epoch frame sendError
  | close sessionID reason => exact leaseStep_close s now publishes sessionID reason
  | tick mcpCleared motionChanged => exact leaseStep_tick s now publishes mcpCleared motionChanged
  | openPeer =>
    have same : leaseOf (runtime.next s ⟨now, publishes, .openPeer⟩) = leaseOf s := leaseOf_finish _ _
    exact same ▸ .kept
  | telemetry frame =>
    have same : leaseOf (runtime.next s ⟨now, publishes, .telemetry frame⟩) = leaseOf s := leaseOf_finish _ _
    exact same ▸ .kept
  | kvsReady ready error =>
    have same : leaseOf (runtime.next s ⟨now, publishes, .kvsReady ready error⟩) = leaseOf s := by
      refine (leaseOf_finish _ _).trans ?_
      simp only [handleEvent]
      split_ifs <;> rfl
    exact same ▸ .kept
  | flightStatus status =>
    have same : leaseOf (runtime.next s ⟨now, publishes, .flightStatus status⟩) = leaseOf s := by
      refine (leaseOf_finish _ _).trans ?_
      simp only [handleEvent]
      split_ifs <;> rfl
    exact same ▸ .kept

/-- A silent clearing is what its name says: the owner is gone and nothing is requested. -/
theorem silent_step (cleared : clearsSilently s input = true) :
    leaseOf (runtime.next s input) = unowned ∧ ∀ call ∈ runtime.emits s input, stops call = false := by
  rcases input with ⟨now, publishes, event⟩
  simp only [clearsSilently, Bool.and_eq_true] at cleared
  obtain ⟨late, kind⟩ := cleared
  have gone := live_of_expired late
  cases event with
  | frame sessionID epoch frame sendError =>
    rcases handledFrame_cases s now sessionID epoch frame sendError with ⟨after, quiet⟩ | ⟨owner, owned, _, _⟩
    · refine ⟨(leaseOf_finish _ _).trans ?_, finish_quiet _ _ rfl fun call made => (quiet call made).1⟩
      change leaseOf (handledFrame s sessionID epoch frame sendError now).1 = unowned
      rw [after]
      exact leaseOf_live_expired s now late _ rfl
    · rw [gone] at owned
      cases owned
  | control sessionID json =>
    have outcome : (s.mavlink.handleControlMessage sessionID json now).1 = s.mavlink.live now ∧
        (s.mavlink.handleControlMessage sessionID json now).2.safeRequired = false := by
      have spec := handleControlMessage_spec s.mavlink sessionID json now
      dsimp only at spec
      rcases called : leaseCall json with _ | call
      · simp [called] at kind
      · simp only [called, Option.any_some] at kind spec
        cases call with
        | activate actor takeover =>
          have outcome := activate_cases s.mavlink sessionID actor takeover now
          have absent : sessionID ∉ s.mavlink.peers := by simpa [onlyClears] using kind
          dsimp only at spec
          generalize s.mavlink.activate sessionID actor takeover now = activated at outcome spec
          cases outcome with
          | unknown _ => exact spec
          | busy known _ _ _ _ => exact absurd known absent
          | extended known _ _ _ => exact absurd known absent
          | installed known _ => exact absurd known absent
        | renew epoch =>
          rcases renew_cases s.mavlink sessionID epoch now with stale | ⟨owner, owned, _⟩
          · dsimp only at spec
            rwa [stale] at spec
          · simp [gone, dropActive] at owned
        | release epoch =>
          rcases release_cases s.mavlink sessionID epoch now with stale | ⟨owner, owned, _⟩
          · dsimp only at spec
            rw [stale] at spec
            simpa using spec
          · simp [gone, dropActive] at owned
    refine ⟨(leaseOf_finish _ _).trans (leaseOf_live_expired s now late _ outcome.1), finish_quiet _ _ ?_ ?_⟩
    · simp [handleEvent, outcome.2]
    · simp [handleEvent, stops]
  | _ => cases kind

/-- A new owner starts with an empty watchdog memory, and nothing is requested for the old one. -/
theorem install_step (taken : installsOwner s input = true) :
    (∃ owner, leaseOf (runtime.next s input) = ⟨some owner, 0, false⟩) ∧
      ∀ call ∈ runtime.emits s input, stops call = false := by
  rcases input with ⟨now, publishes, event⟩
  cases event with
  | control sessionID json =>
    have state : leaseOf (runtime.next s ⟨now, publishes, .control sessionID json⟩) =
        leaseOf { s with mavlink := (s.mavlink.handleControlMessage sessionID json now).1 } := leaseOf_finish _ _
    have spec := handleControlMessage_spec s.mavlink sessionID json now
    dsimp only at spec
    simp only [installsOwner] at taken
    rcases called : leaseCall json with _ | ⟨actor, takeover⟩ | epoch | epoch <;>
      simp only [called, Option.any_some, Option.any_none, takesControl, Bool.and_eq_true, decide_eq_true_eq,
        Bool.false_eq_true] at taken spec
    obtain ⟨known, free⟩ := taken
    have outcome := activate_cases s.mavlink sessionID actor takeover now
    generalize s.mavlink.activate sessionID actor takeover now = activated at outcome spec
    cases outcome with
    | unknown absent => exact absurd known absent
    | busy _ owner owned _ polite => simp [owned, polite] at free
    | extended _ owner owned same => simp [owned, same] at free
    | installed _ _ =>
      refine ⟨⟨_, state.trans (by rw [spec.1]; rfl)⟩, finish_quiet _ _ ?_ ?_⟩
      · simp [handleEvent, spec.2]
      · simp [handleEvent, stops]
  | _ => cases taken

theorem calm_tick_quiet (ticks : input.event.isTick = true)
    (current : s.mavlink.leaseExpired input.observedAtMS = false) (calm : armed s.mavlink = false) :
    ∀ call ∈ runtime.emits s input, stops call = false := by
  rcases input with ⟨now, publishes, event⟩
  cases event with
  | tick mcpCleared motionChanged =>
    have outcome := tickWatchdogs_cases s now publishes mcpCleared motionChanged
    simp only [Reaction.emits, runtime]
    generalize tickWatchdogs s mcpCleared motionChanged now publishes = ticked at outcome
    cases outcome with
    | mcpChanged enabled => cases mcpCleared <;> simp [stops]
    | leaseExpired late => rw [current] at late; cases late
    | inputStopped late => simp [overdue, calm] at late
    | idle _ _ => simp
  | _ => cases ticks

theorem unowned_calm (free : leaseOf s = unowned) : s.mavlink.leaseExpired now = false ∧ armed s.mavlink = false := by
  have none_active : s.mavlink.active = none := congrArg Lease.active free
  simp [leaseExpired, armed, none_active]

private theorem live_watchdog (control : MAVLinkControlState) : (control.live now).watchdog = control.watchdog := by
  cases late : control.leaseExpired now with
  | true => rw [live_of_expired late]; rfl
  | false => rw [live_of_current late]

private theorem handleControlMessage_watchdog (json : DecodedText) :
    (s.mavlink.handleControlMessage sessionID json now).1.watchdog = s.mavlink.watchdog := by
  have spec := handleControlMessage_spec s.mavlink sessionID json now
  dsimp only at spec
  rcases called : leaseCall json with _ | ⟨actor, takeover⟩ | epoch | epoch <;> simp only [called] at spec <;>
    rw [spec.1]
  · have outcome := activate_cases s.mavlink sessionID actor takeover now
    generalize s.mavlink.activate sessionID actor takeover now = activated at outcome
    cases outcome <;> exact live_watchdog now s.mavlink
  · rcases renew_cases s.mavlink sessionID epoch now with stale | ⟨_, _, _, _, moved⟩
    · rw [stale, live_watchdog]
    · rw [moved]
      exact live_watchdog now s.mavlink
  · rcases release_cases s.mavlink sessionID epoch now with stale | ⟨_, _, _, _, freed⟩
    · rw [stale, live_watchdog]
    · rw [freed]
      exact live_watchdog now s.mavlink

structure SameSettings (before after : RuntimeState) : Prop where
  mavlinkFlight : after.mavlinkFlight = before.mavlinkFlight
  mcpEnabled : after.mcpEnabled = before.mcpEnabled
  watchdog : after.mavlink.watchdog = before.mavlink.watchdog

private theorem sameSettings_finish (handled : Handled) (same : SameSettings s handled.state) :
    SameSettings s (handled.finish publishes).1 where
  mavlinkFlight := (finish_mavlinkFlight handled publishes).trans same.mavlinkFlight
  mcpEnabled := (finish_mcpEnabled handled publishes).trans same.mcpEnabled
  watchdog := (congrArg _ (finish_mavlink handled publishes)).trans same.watchdog

theorem settings_next : SameSettings s (runtime.next s input) := by
  rcases input with ⟨now, publishes, event⟩
  cases event with
  | openPeer => exact sameSettings_finish s publishes _ ⟨rfl, rfl, rfl⟩
  | telemetry frame => exact sameSettings_finish s publishes _ ⟨rfl, rfl, rfl⟩
  | control sessionID json =>
    exact sameSettings_finish s publishes _ ⟨rfl, rfl, handleControlMessage_watchdog s now sessionID json⟩
  | close sessionID reason =>
    refine sameSettings_finish s publishes _ ⟨rfl, rfl, ?_⟩
    simp only [handleEvent]
    rcases s.mavlink.closePeer_cases sessionID with ⟨_, _, _, freed⟩ | ⟨_, closed⟩
    · rw [freed]
      rfl
    · rw [closed]
  | frame sessionID epoch frame sendError =>
    refine sameSettings_finish s publishes _ ?_
    simp only [handleEvent]
    rcases handledFrame_cases s now sessionID epoch frame sendError with ⟨after, _⟩ | ⟨_, _, after, _⟩
    · rw [after]
      exact ⟨rfl, rfl, live_watchdog now s.mavlink⟩
    · rw [after]
      refine ⟨rfl, rfl, ?_⟩
      simp only [recordAcceptedControlFrame]
      split_ifs <;> exact live_watchdog now s.mavlink
  | kvsReady ready error =>
    refine sameSettings_finish s publishes _ ?_
    simp only [handleEvent]
    split_ifs <;> exact ⟨rfl, rfl, rfl⟩
  | flightStatus status =>
    refine sameSettings_finish s publishes _ ?_
    simp only [handleEvent]
    split_ifs <;> exact ⟨rfl, rfl, rfl⟩
  | tick mcpCleared motionChanged =>
    have outcome := tickWatchdogs_cases s now publishes mcpCleared motionChanged
    simp only [Reaction.next, runtime]
    generalize tickWatchdogs s mcpCleared motionChanged now publishes = ticked at outcome
    cases outcome <;> exact ⟨rfl, rfl, rfl⟩

end steps

end Txing.Board.LeaseSteps
