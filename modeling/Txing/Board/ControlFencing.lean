import Mathlib
import Txing.Board.ControlLoss
import Txing.Library.Fencing

/-! Control fencing: whatever is done to the control state, in any order and at any clock
values, the owner is an open peer and its epoch fences off every earlier owner. -/

namespace Txing.Board.ControlFencing
open Txing.Library Fencing MavlinkFrame MavlinkControl DaemonRuntime LeaseSteps
open MAVLinkControlState (authorizeControlFrame_ok authorizeControlFrame_state install sessionName nextOwner
  peerCounts live_of_current live_of_expired)

inductive ControlOp where
  | openPeer
  | closePeer (sessionID : String)
  | activate (sessionID actor : String) (takeover : Bool) (nowMS : UInt64)
  | renew (sessionID : String) (epoch nowMS : UInt64)
  | release (sessionID : String) (epoch nowMS : UInt64)
  | ensureActive (sessionID : String) (epoch nowMS : UInt64)
  | clearExpired (nowMS : UInt64)
  | authorizeControlFrame (sessionID : String) (epoch : UInt64) (frame : Bytes) (nowMS : UInt64)
  | recordAcceptedControlFrame (frame : Bytes) (nowMS : UInt64)
  | watchdogExpired (nowMS : UInt64)
  | broadcastTelemetry (frame : Bytes)

structure AuthorizedFrame where
  sessionID : String
  epoch : UInt64
  frame : Bytes
  deriving DecidableEq, Repr

def apply (s : MAVLinkControlState) : ControlOp → MAVLinkControlState
  | .openPeer => s.openPeer.1
  | .closePeer sessionID => (s.closePeer sessionID).1
  | .activate sessionID actor takeover nowMS => (s.activate sessionID actor takeover nowMS).1
  | .renew sessionID epoch nowMS => (s.renew sessionID epoch nowMS).1
  | .release sessionID epoch nowMS => (s.release sessionID epoch nowMS).1
  | .ensureActive sessionID epoch nowMS => (s.ensureActive sessionID epoch nowMS).1
  | .clearExpired nowMS => (s.clearExpired nowMS).1
  | .authorizeControlFrame sessionID epoch frame nowMS => (s.authorizeControlFrame sessionID epoch frame nowMS).1
  | .recordAcceptedControlFrame frame nowMS => s.recordAcceptedControlFrame frame nowMS
  | .watchdogExpired nowMS => (s.watchdogExpired nowMS).1
  | .broadcastTelemetry frame => s.broadcastTelemetry frame

def authorizes (s : MAVLinkControlState) : ControlOp → List AuthorizedFrame
  | .authorizeControlFrame sessionID epoch frame nowMS =>
    match (s.authorizeControlFrame sessionID epoch frame nowMS).2 with
    | .ok () => [⟨sessionID, epoch, frame⟩]
    | .error _ => []
  | _ => []

def control : Reaction MAVLinkControlState ControlOp AuthorizedFrame := fun s op => (apply s op, authorizes s op)

def ownerKey (s : MAVLinkControlState) : Option (String × UInt64) :=
  s.active.map fun owner => (owner.sessionID, owner.epoch)

/-- What an operation does to ownership. Only an installation uses up an epoch. -/
inductive OwnerStep (s after : MAVLinkControlState) : Prop where
  | kept (same : ownerKey after = ownerKey s) (epoch : after.nextEpoch = s.nextEpoch)
      (stays : ∀ owner, s.active = some owner → owner.sessionID ∈ s.peers → owner.sessionID ∈ after.peers)
  | dropped (gone : ownerKey after = none) (epoch : after.nextEpoch = s.nextEpoch)
  | installed (sessionID : String) (known : sessionID ∈ after.peers)
      (owner : ownerKey after = some (sessionID, s.nextEpoch + 1)) (epoch : after.nextEpoch = s.nextEpoch + 1)

theorem ownerStep_live (s : MAVLinkControlState) (nowMS : UInt64) : OwnerStep s (s.live nowMS) := by
  cases late : s.leaseExpired nowMS with
  | true =>
    rw [live_of_expired late]
    exact .dropped rfl rfl
  | false =>
    rw [live_of_current late]
    exact .kept rfl rfl fun _ _ open_ => open_

theorem ownerStep_extend {s : MAVLinkControlState} {nowMS : UInt64} {owner : MAVLinkActiveControl}
    (owned : (s.live nowMS).active = some owner) :
    OwnerStep s { s.live nowMS with active := some ((s.live nowMS).extend owner nowMS) } := by
  refine .kept ?_ (s.live_nextEpoch nowMS) fun _ _ open_ => by simpa using open_
  simp [ownerKey, (MAVLinkControlState.live_active.mp owned).1, MAVLinkControlState.extend]

theorem mem_foldl_peers {step : AList (fun _ : String => MAVLinkPeer) → String → AList (fun _ : String => MAVLinkPeer)}
    {sessionID : String} (keeps : ∀ peers key, sessionID ∈ step peers key ↔ sessionID ∈ peers) (keys : List String)
    (peers : AList fun _ : String => MAVLinkPeer) : sessionID ∈ keys.foldl step peers ↔ sessionID ∈ peers := by
  induction keys generalizing peers with
  | nil => exact Iff.rfl
  | cons key rest ih => rw [List.foldl_cons, ih, keeps]

theorem broadcastTelemetry_mem (s : MAVLinkControlState) (frame : Bytes) (sessionID : String) :
    sessionID ∈ (s.broadcastTelemetry frame).peers ↔ sessionID ∈ s.peers := by
  unfold MAVLinkControlState.broadcastTelemetry
  apply mem_foldl_peers
  intro peers key
  cases peers.lookup key with
  | none => exact Iff.rfl
  | some peer => exact AList.mem_replace

theorem ownerStep (s : MAVLinkControlState) (op : ControlOp) : OwnerStep s (apply s op) := by
  cases op with
  | openPeer =>
    refine .kept rfl rfl fun owner _ open_ => ?_
    exact (AList.mem_insert _).mpr (Or.inr open_)
  | closePeer sessionID =>
    simp only [apply]
    rcases s.closePeer_cases sessionID with ⟨owner, _, _, freed⟩ | ⟨other, closed⟩
    · rw [freed]
      exact .dropped rfl rfl
    · rw [closed]
      exact .kept rfl rfl fun owner owned open_ => AList.mem_erase.mpr ⟨other owner owned, open_⟩
  | activate sessionID actor takeover nowMS =>
    have outcome := s.activate_cases sessionID actor takeover nowMS
    simp only [apply]
    generalize s.activate sessionID actor takeover nowMS = activated at outcome
    cases outcome with
    | unknown _ => exact ownerStep_live s nowMS
    | busy _ _ _ _ _ => exact ownerStep_live s nowMS
    | extended _ owner owned _ => exact ownerStep_extend owned
    | installed known _ =>
      refine .installed sessionID ?_ ?_ ?_
      · simpa [install] using known
      · simp [ownerKey, install, nextOwner]
      · simp [install]
  | renew sessionID epoch nowMS =>
    simp only [apply]
    rcases s.renew_cases sessionID epoch nowMS with stale | ⟨owner, owned, _, _, moved⟩
    · rw [stale]
      exact ownerStep_live s nowMS
    · rw [moved]
      exact ownerStep_extend owned
  | release sessionID epoch nowMS =>
    simp only [apply]
    rcases s.release_cases sessionID epoch nowMS with stale | ⟨owner, owned, _, _, freed⟩
    · rw [stale]
      exact ownerStep_live s nowMS
    · rw [freed]
      exact .dropped rfl (s.live_nextEpoch nowMS)
  | ensureActive sessionID epoch nowMS =>
    simp only [apply, MAVLinkControlState.ensureActive_eq]
    exact ownerStep_live s nowMS
  | clearExpired nowMS => exact ownerStep_live s nowMS
  | authorizeControlFrame sessionID epoch frame nowMS =>
    simp only [apply, authorizeControlFrame_state]
    exact ownerStep_live s nowMS
  | recordAcceptedControlFrame frame nowMS =>
    simp only [apply, MAVLinkControlState.recordAcceptedControlFrame]
    split_ifs <;> exact .kept rfl rfl fun _ _ open_ => open_
  | watchdogExpired nowMS =>
    simp only [apply, MAVLinkControlState.watchdogExpired]
    split_ifs <;> exact .kept rfl rfl fun _ _ open_ => open_
  | broadcastTelemetry frame =>
    exact .kept rfl rfl fun owner _ open_ => (broadcastTelemetry_mem s frame owner.sessionID).mpr open_

def OwnerOpen (s : MAVLinkControlState) : Prop := ∀ owner, s.active = some owner → owner.sessionID ∈ s.peers

/-- With an owner, the observers are all peers but one. -/
def CountsExact (s : MAVLinkControlState) : Prop :=
  s.active ≠ none → s.peerCounts.2.toNat + 1 = s.peerCounts.1.toNat

/-- The epochs of successive owners only grow, so none is used twice. -/
def EpochsIncrease (s : MAVLinkControlState) (ops : List ControlOp) : Prop :=
  ((installs control ownerKey s ops).map Prod.snd).Pairwise (· < ·)

/-- A well-formed frame passes exactly with the pair of an owner whose lease is running. -/
def AuthorizesExactly (s : MAVLinkControlState) : Prop :=
  ∀ sessionID epoch frame nowMS, validateMAVLinkV2TunnelFrame frame = .ok () →
    ((s.authorizeControlFrame sessionID epoch frame nowMS).2 = .ok () ↔
      ∃ owner, s.active = some owner ∧ owner.sessionID = sessionID ∧ owner.epoch = epoch ∧ nowMS < owner.expiresAt)

/-- No frame is authorised for a pair that was the owner's once and then no longer. -/
def LostStayLost (s : MAVLinkControlState) (ops : List ControlOp) : Prop :=
  ∀ first second third, ops = first ++ second ++ third → ∀ sessionID epoch,
    ownerKey (control.run s first) = some (sessionID, epoch) →
    ownerKey (control.run s (first ++ second)) ≠ some (sessionID, epoch) →
    ∀ frame, ⟨sessionID, epoch, frame⟩ ∉ control.trace (control.run s (first ++ second)) third

theorem ownerOpen_apply {s : MAVLinkControlState} (open_ : OwnerOpen s) (op : ControlOp) : OwnerOpen (apply s op) := by
  intro owner owned
  have key : ownerKey (apply s op) = some (owner.sessionID, owner.epoch) := by simp [ownerKey, owned]
  cases ownerStep s op with
  | kept same _ stays =>
    rw [same] at key
    obtain ⟨current, held, pair⟩ := Option.map_eq_some_iff.mp key
    simp only [Prod.mk.injEq] at pair
    exact pair.1 ▸ stays current held (open_ current held)
  | dropped gone _ =>
    rw [gone] at key
    cases key
  | installed sessionID known installed _ =>
    rw [installed, Option.some.injEq, Prod.mk.injEq] at key
    exact key.1 ▸ known

/-- The epoch counter after `n` changes of ownership, in 64 bits. -/
def epochCount (s : MAVLinkControlState) (n : ℕ) : Prop := s.nextEpoch = UInt64.ofNat n

private theorem succ_ne (epoch : UInt64) : epoch ≠ epoch + 1 := by
  intro same
  have zero : (0 : UInt64) = 1 := by
    have := congrArg (· - epoch) same
    simp at this
  exact absurd zero (by decide)

theorem control_numbers : StepNumbers control ownerKey Prod.snd UInt64.ofNat epochCount := by
  rintro s op n ⟨counted, numbered⟩
  have after : control.next s op = apply s op := rfl
  rw [after]
  cases ownerStep s op with
  | kept same epoch _ =>
    have unchanged : installed (ownerKey s) (ownerKey (apply s op)) = [] := by
      rw [same]
      cases ownerKey s <;> simp [installed]
    rw [unchanged]
    exact ⟨epoch.trans counted, fun key held => numbered key (same ▸ held)⟩
  | dropped gone epoch =>
    rw [gone]
    exact ⟨epoch.trans counted, fun key held => by rw [gone] at held; cases held⟩
  | installed sessionID _ owner epoch =>
    have fresh : ownerKey s ≠ some (sessionID, s.nextEpoch + 1) := fun held =>
      succ_ne s.nextEpoch (counted.trans (numbered _ held).symm)
    have counted' : s.nextEpoch + 1 = UInt64.ofNat (n + 1) := by rw [counted]; simp
    rw [owner]
    simp only [installed, if_neg fresh, List.length_singleton]
    refine ⟨epoch.trans counted', fun key held => ?_⟩
    cases owner.symm.trans held
    exact counted'

private theorem epochs_grow (i j : ℕ) (less : i < j) (lasts : j < 2 ^ 64) : UInt64.ofNat i < UInt64.ofNat j := by
  rw [UInt64.lt_iff_toNat_lt, UInt64.toNat_ofNat_of_lt' (less.trans lasts), UInt64.toNat_ofNat_of_lt' lasts]
  exact less

section runs
variable (leaseTTL watchdog : Duration)

theorem new_numbered : Numbered ownerKey Prod.snd UInt64.ofNat epochCount 0
    (newMAVLinkControlState leaseTTL watchdog) :=
  ⟨rfl, fun _ held => by cases held⟩

theorem ownerOpen_run (ops : List ControlOp) :
    OwnerOpen (control.run (newMAVLinkControlState leaseTTL watchdog) ops) := by
  have start : OwnerOpen (newMAVLinkControlState leaseTTL watchdog) := fun _ owned => by cases owned
  exact control.run_keeps OwnerOpen (fun _ op open_ => ownerOpen_apply open_ op) start ops

theorem countsExact_of_open {s : MAVLinkControlState} (open_ : OwnerOpen s)
    (few : s.peers.entries.length < 2 ^ 32) : CountsExact s := by
  intro owned
  obtain ⟨owner, held⟩ := Option.ne_none_iff_exists'.mp owned
  have present : 0 < s.peers.entries.length := by
    have key := AList.mem_keys.mp (open_ owner held)
    have counted : s.peers.keys.length = s.peers.entries.length := by simp [AList.keys, List.keys]
    exact counted ▸ List.length_pos_of_mem key
  have connected : (UInt32.ofNat s.peers.entries.length).toNat = s.peers.entries.length :=
    UInt32.toNat_ofNat_of_lt' few
  have below : (1 : UInt32) ≤ UInt32.ofNat s.peers.entries.length := by
    rw [UInt32.le_iff_toNat_le, connected]
    exact present
  simp only [peerCounts, held, Option.isSome_some, if_true]
  rw [UInt32.toNat_sub_of_le _ _ below, connected]
  exact Nat.sub_add_cancel present

theorem authorizes_owner {s : MAVLinkControlState} {op : ControlOp} {granted : AuthorizedFrame}
    (made : granted ∈ authorizes s op) : ownerKey s = some (granted.sessionID, granted.epoch) := by
  cases op with
  | authorizeControlFrame sessionID epoch frame nowMS =>
    have exact_ := @authorizeControlFrame_ok s nowMS sessionID epoch frame
    simp only [authorizes] at made
    cases result : (s.authorizeControlFrame sessionID epoch frame nowMS).2 with
    | error error => simp [result] at made
    | ok _ =>
      obtain ⟨⟨owner, owned, named, numbered, _⟩, _⟩ := exact_.mp result
      simp only [result, List.mem_singleton] at made
      simp [ownerKey, owned, named, numbered, made]
  | _ => cases made

theorem lostStayLost_of_few (ops : List ControlOp)
    (few : (installs control ownerKey (newMAVLinkControlState leaseTTL watchdog) ops).length < 2 ^ 64) :
    LostStayLost (newMAVLinkControlState leaseTTL watchdog) ops := by
  rintro first second third rfl sessionID epoch held lost frame made
  obtain ⟨before, op, after, rfl, granted⟩ := control.mem_trace made
  have owner := authorizes_owner granted
  rw [← control.run_append] at owner
  have apart : ∀ i j, i < j → j < 2 ^ 64 → UInt64.ofNat i ≠ UInt64.ofNat j :=
    fun i j less lasts => UInt64.ne_of_lt (epochs_grow i j less lasts)
  refine lost_never_held control_numbers apart (new_numbered leaseTTL watchdog) first second before ?_ held lost owner
  rw [← List.append_assoc, installs_append, List.length_append] at few
  omega

/-- Fencing for every sequence of operations, with the room the machine integers need: fewer than
`2 ^ 32` open peers for the counts, fewer than `2 ^ 64` changes of ownership for the epochs. -/
theorem control_fenced (ops : List ControlOp) :
    let start := newMAVLinkControlState leaseTTL watchdog
    let s := control.run start ops
    OwnerOpen s ∧ (s.peers.entries.length < 2 ^ 32 → CountsExact s) ∧
      ((installs control ownerKey start ops).length < 2 ^ 64 → EpochsIncrease start ops ∧ LostStayLost start ops) ∧
      AuthorizesExactly s := by
  intro start s
  have open_ : OwnerOpen s := ownerOpen_run leaseTTL watchdog ops
  refine ⟨open_, countsExact_of_open open_, fun few => ⟨?_, lostStayLost_of_few leaseTTL watchdog ops few⟩,
    fun _ _ _ _ valid => by rw [authorizeControlFrame_ok, and_iff_left valid]⟩
  exact stamps_increasing control_numbers epochs_grow (new_numbered leaseTTL watchdog) ops (by rwa [Nat.zero_add])

end runs

/-! The runtime loop only ever works on its control state through these operations, so the
fencing results hold for the daemon. -/

section daemon

private theorem controlMessage_ops (s : MAVLinkControlState) (sessionID : String) (json : DecodedText)
    (nowMS : UInt64) : ∃ ops, (s.handleControlMessage sessionID json nowMS).1 = control.run s ops := by
  have spec := handleControlMessage_spec s sessionID json nowMS
  dsimp only at spec
  rcases called : leaseCall json with _ | ⟨actor, takeover⟩ | epoch | epoch <;> simp only [called] at spec
  · exact ⟨[], spec.1⟩
  · exact ⟨[.activate sessionID actor takeover nowMS], spec.1⟩
  · exact ⟨[.renew sessionID epoch nowMS], spec.1⟩
  · exact ⟨[.release sessionID epoch nowMS], spec.1⟩

theorem runtime_next_ops (s : RuntimeState) (input : RuntimeInput) :
    ∃ ops, (runtime.next s input).mavlink = control.run s.mavlink ops := by
  rcases input with ⟨now, publishes, event⟩
  have finished := fun event => finish_mavlink (handleEvent s event now) publishes
  cases event with
  | openPeer => exact ⟨[.openPeer], finished .openPeer⟩
  | control sessionID json =>
    obtain ⟨ops, same⟩ := controlMessage_ops s.mavlink sessionID json now
    exact ⟨ops, (finished (.control sessionID json)).trans same⟩
  | frame sessionID epoch frame sendError =>
    have cleared := authorizeControlFrame_state s.mavlink sessionID epoch frame now
    have after : (runtime.next s ⟨now, publishes, .frame sessionID epoch frame sendError⟩).mavlink =
        (handledFrame s sessionID epoch frame sendError now).1.mavlink :=
      finished (.frame sessionID epoch frame sendError)
    rw [after]
    rcases handledFrame_cases s now sessionID epoch frame sendError with ⟨same, _⟩ | ⟨_, _, same, _⟩
    · exact ⟨[.authorizeControlFrame sessionID epoch frame now], by rw [same]; exact cleared.symm⟩
    · refine ⟨[.authorizeControlFrame sessionID epoch frame now, .recordAcceptedControlFrame frame now], ?_⟩
      rw [same, ← cleared]
      rfl
  | close sessionID reason => exact ⟨[.closePeer sessionID], finished (.close sessionID reason)⟩
  | kvsReady ready error =>
    refine ⟨[], (finished (.kvsReady ready error)).trans ?_⟩
    simp only [handleEvent]
    split_ifs <;> rfl
  | flightStatus status =>
    refine ⟨[], (finished (.flightStatus status)).trans ?_⟩
    simp only [handleEvent]
    split_ifs <;> rfl
  | telemetry frame => exact ⟨[.broadcastTelemetry frame], finished (.telemetry frame)⟩
  | tick mcpCleared motionChanged =>
    have outcome := tickWatchdogs_cases s now publishes mcpCleared motionChanged
    simp only [Reaction.next, runtime]
    generalize tickWatchdogs s mcpCleared motionChanged now publishes = ticked at outcome
    cases outcome with
    | mcpChanged _ => exact ⟨[], rfl⟩
    | leaseExpired late =>
      exact ⟨[.clearExpired now], (live_of_expired late).symm⟩
    | inputStopped late =>
      refine ⟨[.watchdogExpired now], ?_⟩
      simp [Reaction.next, control, apply, watchdogExpired_eq, late]
    | idle _ _ => exact ⟨[], rfl⟩

theorem runtime_run_ops (s : RuntimeState) (inputs : List RuntimeInput) :
    ∃ ops, (runtime.run s inputs).mavlink = control.run s.mavlink ops := by
  induction inputs generalizing s with
  | nil => exact ⟨[], rfl⟩
  | cons input rest ih =>
    obtain ⟨first, one⟩ := runtime_next_ops s input
    obtain ⟨second, two⟩ := ih (runtime.next s input)
    exact ⟨first ++ second, by rw [runtime.run_cons, two, one, control.run_append]⟩

theorem runtime_ownerOpen (mcpEnabled : Bool) (inputs : List RuntimeInput) :
    OwnerOpen (runtime.run (connectedRuntime mcpEnabled) inputs).mavlink := by
  obtain ⟨ops, same⟩ := runtime_run_ops (connectedRuntime mcpEnabled) inputs
  rw [same]
  exact ownerOpen_run _ _ ops

section sends
variable {s : RuntimeState} {event : RuntimeEvent} {now : UInt64} {publishes : ℕ} {frame : Bytes} {sendError : Option String}

def Authorized (s : RuntimeState) (event : RuntimeEvent) (now : UInt64) (frame : Bytes) (sendError : Option String) : Prop :=
  ∃ sessionID epoch, event = .frame sessionID epoch frame sendError ∧
    (s.mavlink.authorizeControlFrame sessionID epoch frame now).2 = .ok ()

theorem authorized_of_handled (sent : .sendFrame frame sendError ∈ (handleEvent s event now).calls) :
    Authorized s event now frame sendError := by
  cases event with
  | frame sessionID epoch frame sendError =>
    simp only [handleEvent, handledFrame] at sent
    split at sent
    next => simp at sent
    next control authorized =>
      refine ⟨sessionID, epoch, ?_⟩
      split_ifs at sent
      · simp at sent
      · split at sent <;> simp_all
  | kvsReady ready error =>
    simp only [handleEvent] at sent
    split_ifs at sent <;> cases sent
  | flightStatus status =>
    simp only [handleEvent] at sent
    split_ifs at sent <;> cases sent
  | _ => simp [handleEvent] at sent

theorem authorized_of_sent (sent : .sendFrame frame sendError ∈ runtime.emits s ⟨now, publishes, event⟩) :
    Authorized s event now frame sendError := by
  have handled (event : RuntimeEvent) (made : .sendFrame frame sendError ∈ ((handleEvent s event now).finish publishes).2) :
      Authorized s event now frame sendError := by
    rcases mem_finish_cases made with own | ⟨_, request⟩ | published
    · exact authorized_of_handled own
    · cases request
    · cases published
  cases event with
  | tick mcpCleared motionChanged =>
    have outcome := tickWatchdogs_cases s now publishes mcpCleared motionChanged
    simp only [Reaction.emits, runtime] at sent
    generalize tickWatchdogs s mcpCleared motionChanged now publishes = ticked at outcome sent
    cases outcome with
    | mcpChanged => cases mcpCleared <;> simp at sent
    | leaseExpired =>
      rcases List.mem_append.mp sent with safe | status
      · cases mem_requestMAVLinkSafeState safe
      · cases publishMAVLinkStatus_isPublish _ _ status
    | inputStopped => cases mem_requestMAVLinkNeutral sent
    | idle => cases sent
  | _ => exact handled _ sent

end sends

/-- The input brings the frame from the owner, an open peer whose lease has not run out. -/
def SentByOwner (s : RuntimeState) (input : RuntimeInput) (frame : Bytes) (sendError : Option String) : Prop :=
  ∃ owner, s.mavlink.active = some owner ∧ owner.sessionID ∈ s.mavlink.peers ∧ input.observedAtMS < owner.expiresAt ∧
    input.event = .frame owner.sessionID owner.epoch frame sendError

/-- Whatever has happened to the daemon, it hands on the owner's frames only. -/
theorem frames_from_owner (mcpEnabled : Bool) (inputs : List RuntimeInput) (input : RuntimeInput) (frame : Bytes)
    (sendError : Option String)
    (sent : .sendFrame frame sendError ∈ runtime.emits (runtime.run (connectedRuntime mcpEnabled) inputs) input) :
    SentByOwner (runtime.run (connectedRuntime mcpEnabled) inputs) input frame sendError ∧
      validateMAVLinkV2TunnelFrame frame = .ok () := by
  obtain ⟨_, _, brought, authorized⟩ := authorized_of_sent sent
  obtain ⟨⟨owner, held, rfl, rfl, current⟩, valid⟩ := authorizeControlFrame_ok.mp authorized
  exact ⟨⟨owner, held, runtime_ownerOpen mcpEnabled inputs owner held, current, brought⟩, valid⟩

def activation : List RuntimeInput :=
  [⟨10, 3, .openPeer⟩, ⟨20, 3, .control "mavlink-1" (ControlLoss.activateRequest false)⟩]

def driving : RuntimeInput := ⟨100, 3, .frame "mavlink-1" 1 driveFrame none⟩

theorem driving_from_owner :
    SentByOwner (runtime.run (connectedRuntime false) activation) driving driveFrame none ∧
      validateMAVLinkV2TunnelFrame driveFrame = .ok () :=
  frames_from_owner false activation driving driveFrame none (by decide +kernel)

end daemon

section limits

/-- The control state of a running daemon: five seconds of lease, half a second of watchdog. -/
def daemonControl : MAVLinkControlState := newMAVLinkControlState (5000 * 1000000) (500 * 1000000)

/-- Two sessions, a takeover, and then a frame with the first owner's pair. -/
def takeoverOps : List ControlOp :=
  [.openPeer, .openPeer, .activate "mavlink-1" "pilot" false 10, .activate "mavlink-2" "relief" true 20,
    .authorizeControlFrame "mavlink-1" 1 driveFrame 30]

theorem takeoverOps_fenced :
    (control.run daemonControl takeoverOps).active ≠ none ∧ CountsExact (control.run daemonControl takeoverOps) ∧
      EpochsIncrease daemonControl takeoverOps ∧
      ⟨"mavlink-1", 1, driveFrame⟩ ∉ control.trace (control.run daemonControl (takeoverOps.take 4))
        (takeoverOps.drop 4) ∧
      ((control.run daemonControl takeoverOps).authorizeControlFrame "mavlink-2" 2 driveFrame 30).2 = .ok () :=
  have fenced := control_fenced (5000 * 1000000) (500 * 1000000) takeoverOps
  have few : (installs control ownerKey daemonControl takeoverOps).length < 2 ^ 64 := by decide +kernel
  ⟨by decide +kernel, fenced.2.1 (by decide +kernel), (fenced.2.2.1 few).1,
    (fenced.2.2.1 few).2 (takeoverOps.take 3) ((takeoverOps.drop 3).take 1) (takeoverOps.drop 4) rfl "mavlink-1" 1
      (by decide +kernel) (by decide +kernel) driveFrame,
    (fenced.2.2.2 "mavlink-2" 2 driveFrame 30 (by decide +kernel)).mpr
      ⟨⟨"mavlink-2", "relief", 2, 5020⟩, by decide +kernel, rfl, rfl, by decide⟩⟩

def ownershipRound : List ControlOp := [.activate "mavlink-1" "pilot" false 0, .clearExpired 5000]

def ownershipRounds (n : ℕ) : List ControlOp := (List.replicate n ownershipRound).flatten

/-- A state in which `mavlink-1` is an observer and nobody owns control. -/
structure Free (s : MAVLinkControlState) : Prop where
  known : "mavlink-1" ∈ s.peers
  unowned : s.active = none
  forgotten : s.lastAcceptedAtMS = 0 ∧ s.watchdogTripped = false
  lease : s.leaseTTL = 5000 * 1000000

variable {s : MAVLinkControlState}

private theorem Free.activate (free : Free s) :
    apply s (.activate "mavlink-1" "pilot" false 0) =
      s.install ⟨"mavlink-1", "pilot", s.nextEpoch + 1, 5000⟩ := by
  have current : s.live 0 = s := live_of_current
    (by simp [MAVLinkControlState.leaseExpired, free.unowned])
  have outcome := s.activate_cases "mavlink-1" "pilot" false 0
  simp only [apply]
  generalize s.activate "mavlink-1" "pilot" false 0 = activated at outcome
  have millis : durationMillis (5000 * 1000000) = 5000 := by decide
  cases outcome with
  | unknown absent => exact absurd free.known absent
  | busy _ owner owned _ _ => rw [current, free.unowned] at owned; cases owned
  | extended _ owner owned _ => rw [current, free.unowned] at owned; cases owned
  | installed _ _ =>
    simp only [current, nextOwner, free.lease, millis]
    rfl

private theorem Free.round (free : Free s) :
    control.run s ownershipRound = { s with nextEpoch := s.nextEpoch + 1 } := by
  have activated : control.next s (.activate "mavlink-1" "pilot" false 0) = _ := free.activate
  rcases s with ⟨active, nextEpoch, nextSession, leaseTTL, watchdog, lastAcceptedAtMS, watchdogTripped, peers⟩
  obtain ⟨_, rfl, ⟨rfl, rfl⟩, _⟩ := free
  rw [ownershipRound, Reaction.run_cons, activated]
  rfl

private theorem Free.rounds (free : Free s) (n : ℕ) :
    control.run s (ownershipRounds n) = { s with nextEpoch := s.nextEpoch + UInt64.ofNat n } := by
  induction n generalizing s with
  | zero => simp [ownershipRounds]
  | succ n ih =>
    have next : Free { s with nextEpoch := s.nextEpoch + 1 } := ⟨free.known, free.unowned, free.forgotten, free.lease⟩
    have unrolled : ownershipRounds (n + 1) = ownershipRound ++ ownershipRounds n := by
      simp [ownershipRounds, List.replicate_succ]
    rw [unrolled, control.run_append, free.round, ih next]
    simp [UInt64.add_assoc, UInt64.add_comm]

private theorem opened_free : Free (control.run daemonControl [.openPeer]) :=
  ⟨by decide, rfl, ⟨rfl, rfl⟩, rfl⟩

def firstOwnership : List ControlOp := [.openPeer, .activate "mavlink-1" "pilot" false 0]

def leaseEnd : List ControlOp := [.clearExpired 5000]

def lastOwnership : List ControlOp :=
  [.activate "mavlink-1" "pilot" false 0, .authorizeControlFrame "mavlink-1" 1 driveFrame 0]

/-- The first owner's pair comes round again after `2 ^ 64` changes of ownership. -/
def wrappingRun : List ControlOp :=
  firstOwnership ++ leaseEnd ++ (ownershipRounds (2 ^ 64 - 1) ++ lastOwnership)

private theorem wrapped :
    control.run daemonControl (firstOwnership ++ leaseEnd ++ ownershipRounds (2 ^ 64 - 1)) =
      control.run daemonControl [.openPeer] := by
  have again : Free (control.run daemonControl (firstOwnership ++ leaseEnd)) :=
    ⟨by decide, by decide, by decide, by decide⟩
  have once : control.run daemonControl (firstOwnership ++ leaseEnd) =
      control.run (control.run daemonControl [.openPeer]) ownershipRound := rfl
  rw [control.run_append, again.rounds, once, opened_free.round]
  rfl

private theorem wrappingRun_unfenced : ¬ LostStayLost daemonControl wrappingRun := by
  intro stays
  refine stays firstOwnership leaseEnd _ rfl "mavlink-1" 1 (by decide) (by decide) driveFrame ?_
  rw [control.trace_append, ← control.run_append, wrapped]
  exact List.mem_append_right _ (by decide +kernel)

private theorem wrappingRun_repeats : ¬ EpochsIncrease daemonControl wrappingRun := by
  intro increasing
  have first : (1 : UInt64) ∈ (installs control ownerKey daemonControl
      (firstOwnership ++ leaseEnd ++ ownershipRounds (2 ^ 64 - 1))).map Prod.snd := by
    rw [List.append_assoc, installs_append, List.map_append]
    exact List.mem_append_left _ (by decide)
  unfold EpochsIncrease wrappingRun at increasing
  rw [← List.append_assoc, installs_append, wrapped, List.map_append, List.pairwise_append] at increasing
  exact UInt64.lt_irrefl 1 (increasing.2.2 1 first 1 (by decide +kernel))

private theorem opened (n : ℕ) (fits : n < 2 ^ 64) :
    let s := control.run daemonControl (List.replicate n .openPeer)
    s.nextSession = UInt64.ofNat n ∧ s.peers.entries.length = n ∧
      (∀ key ∈ s.peers, ∃ i ≤ n, key = sessionName (UInt64.ofNat i)) ∧
      ("mavlink-1" ∈ s.peers ∨ n = 0) ∧
      s.active = none ∧ (s.lastAcceptedAtMS = 0 ∧ s.watchdogTripped = false) ∧ s.leaseTTL = 5000 * 1000000 := by
  induction n with
  | zero =>
    refine ⟨rfl, rfl, ?_, Or.inr rfl, rfl, ⟨rfl, rfl⟩, rfl⟩
    intro key member
    exact absurd member (AList.notMem_empty key)
  | succ n ih =>
    obtain ⟨numbered, counted, named, first, unowned, forgotten, lease⟩ := ih (by omega)
    rw [List.replicate_succ', control.run_append]
    generalize control.run daemonControl (List.replicate n .openPeer) = s at *
    have number : s.nextSession + 1 = UInt64.ofNat (n + 1) := by rw [numbered]; simp
    have fresh : sessionName (s.nextSession + 1) ∉ s.peers := by
      intro member
      obtain ⟨i, below, same⟩ := named _ member
      have small : i < 2 ^ 64 := by omega
      rw [number, sessionName, sessionName, String.append_right_inj,
        UInt64.toNat_ofNat_of_lt' fits, UInt64.toNat_ofNat_of_lt' small] at same
      have equal : n + 1 = i := Nat.repr_inj.mp same
      omega
    refine ⟨number, ?_, ?_, Or.inl ?_, unowned, forgotten, lease⟩
    · change (s.peers.insert _ _).entries.length = n + 1
      rw [AList.entries_insert_of_notMem fresh, List.length_cons, counted]
    · intro key member
      rcases (AList.mem_insert s.peers).mp member with rfl | old
      · exact ⟨n + 1, le_rfl, by rw [number]⟩
      · obtain ⟨i, below, same⟩ := named key old
        exact ⟨i, by omega, same⟩
    · refine (AList.mem_insert s.peers).mpr ?_
      rcases first with present | rfl
      · exact Or.inr present
      · exact Or.inl (by rw [number]; decide)

def crowdedRun (peers : ℕ) : List ControlOp :=
  List.replicate peers .openPeer ++ [.activate "mavlink-1" "pilot" false 0]

/-- When `uint32` counts the peers as none, it counts one observer less than that. -/
private theorem crowdedRun_miscounts {n : ℕ} (fits : n < 2 ^ 64) (some_peer : n ≠ 0) (wraps : UInt32.ofNat n = 0) :
    ¬ CountsExact (control.run daemonControl (crowdedRun n)) := by
  obtain ⟨_, counted, _, first, unowned, forgotten, lease⟩ := opened n fits
  rw [crowdedRun, control.run_append]
  generalize control.run daemonControl (List.replicate n .openPeer) = s at *
  have free : Free s := ⟨first.resolve_right some_peer, unowned, forgotten, lease⟩
  have activated : control.run s [.activate "mavlink-1" "pilot" false 0] = _ := free.activate
  rw [activated]
  intro counts
  have owned := counts (by simp [install])
  simp only [peerCounts, install, counted, wraps, Option.isSome_some,
    if_true] at owned
  exact absurd owned (by decide)

/-- Without the room, each of the three can fail: the counts, the growth of epochs, the fencing.
And the owner's own pair does not carry a malformed frame. -/
theorem fencing_needs_room :
    (∃ ops, ¬ CountsExact (control.run daemonControl ops)) ∧ (∃ ops, ¬ EpochsIncrease daemonControl ops) ∧
      (∃ ops, ¬ LostStayLost daemonControl ops) ∧
      ∃ ops owner, (control.run daemonControl ops).active = some owner ∧ 30 < owner.expiresAt ∧
        ((control.run daemonControl ops).authorizeControlFrame owner.sessionID owner.epoch [] 30).2 ≠ .ok () := by
  refine ⟨⟨crowdedRun (2 ^ 32), ?_⟩, ⟨wrappingRun, wrappingRun_repeats⟩, ⟨wrappingRun, wrappingRun_unfenced⟩,
    firstOwnership, ⟨"mavlink-1", "pilot", 1, 5000⟩, by decide, by decide, ?_⟩
  · exact crowdedRun_miscounts (by decide) (by decide) (by decide)
  · rw [ne_eq, authorizeControlFrame_ok]
    rintro ⟨_, valid⟩
    cases valid

end limits

end Txing.Board.ControlFencing
