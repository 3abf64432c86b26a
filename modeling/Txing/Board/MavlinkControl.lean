import Mathlib.Data.List.AList
import Txing.Board.MavlinkFrame
import Txing.Library.GoText

/-! The daemon's MAVLink control state (`mavlink.go`): open peers, one leased owner with
a fencing epoch, and the drive-input watchdog. All times are milliseconds in `uint64`,
with its wrap-around. -/

namespace Txing.Board.MavlinkControl
open Txing.Library MavlinkFrame

abbrev Duration := Int

def durationMillis (duration : Duration) : UInt64 :=
  if duration ≤ 0 then 0 else UInt64.ofNat (duration / 1000000).toNat

structure MAVLinkActiveControl where
  sessionID : String
  actor : String
  epoch : UInt64
  expiresAt : UInt64
  deriving DecidableEq, Repr

def defaultMAVLinkPeerOutboundBuffer : Nat := 32

structure MAVLinkPeer where
  sessionID : String
  outbound : List Bytes
  dropped : UInt64
  deriving DecidableEq, Repr

structure MAVLinkControlState where
  active : Option MAVLinkActiveControl
  nextEpoch : UInt64
  nextSession : UInt64
  leaseTTL : Duration
  watchdog : Duration
  lastAcceptedAtMS : UInt64
  watchdogTripped : Bool
  peers : AList (fun _ : String => MAVLinkPeer)

inductive ControlError where
  | unknownPeer
  | controlBusy
  | staleEpoch
  | invalidFrame (message : String)
  deriving DecidableEq, Repr

def ControlError.message : ControlError → String
  | .unknownPeer => "unknown peer session"
  | .controlBusy => "active control busy"
  | .staleEpoch => "stale active control epoch"
  | .invalidFrame message => message

def newMAVLinkControlState (leaseTTL watchdog : Duration) : MAVLinkControlState :=
  { active := none, nextEpoch := 0, nextSession := 0, leaseTTL := leaseTTL, watchdog := watchdog,
    lastAcceptedAtMS := 0, watchdogTripped := false, peers := ∅ }

namespace MAVLinkControlState
variable (s : MAVLinkControlState)

/-- The three assignments with which every loss of ownership ends. -/
def dropActive : MAVLinkControlState :=
  { s with active := none, lastAcceptedAtMS := 0, watchdogTripped := false }

def sessionName (number : UInt64) : String := "mavlink-" ++ toString number.toNat

def openPeer : MAVLinkControlState × MAVLinkPeer :=
  let number := s.nextSession + 1
  let peer : MAVLinkPeer := ⟨sessionName number, [], 0⟩
  ({ s with nextSession := number, peers := s.peers.insert (sessionName number) peer }, peer)

/-- Returns true only when the active owner has gone away. -/
def closePeer (sessionID : String) : MAVLinkControlState × Bool :=
  let closed := { s with peers := s.peers.erase sessionID }
  match s.active with
  | some owner => if owner.sessionID ≠ sessionID then (closed, false) else (closed.dropActive, true)
  | none => (closed, false)

def peerCounts : UInt32 × UInt32 :=
  let connected := UInt32.ofNat s.peers.entries.length
  (connected, if s.active.isSome then connected - 1 else connected)

def clearExpired (nowMS : UInt64) : MAVLinkControlState × Bool :=
  match s.active with
  | some owner => if owner.expiresAt > nowMS then (s, false) else (s.dropActive, true)
  | none => (s, false)

def nextOwner (sessionID actor : String) (nowMS : UInt64) : MAVLinkActiveControl :=
  ⟨sessionID, actor, s.nextEpoch + 1, nowMS + durationMillis s.leaseTTL⟩

def install (owner : MAVLinkActiveControl) : MAVLinkControlState :=
  { s with
    nextEpoch := s.nextEpoch + 1
    active := some owner
    lastAcceptedAtMS := 0
    watchdogTripped := false }

/-- The lease of the current owner is moved; epoch and watchdog memory stay. -/
def extend (owner : MAVLinkActiveControl) (nowMS : UInt64) : MAVLinkActiveControl :=
  { owner with expiresAt := nowMS + durationMillis s.leaseTTL }

def activate (sessionID actor : String) (takeover : Bool) (nowMS : UInt64) :
    MAVLinkControlState × Except ControlError MAVLinkActiveControl :=
  let s := (s.clearExpired nowMS).1
  if sessionID ∉ s.peers then (s, .error .unknownPeer)
  else match s.active with
    | some owner =>
      if owner.sessionID ≠ sessionID ∧ takeover = false then (s, .error .controlBusy)
      else if owner.sessionID = sessionID then
        ({ s with active := some (s.extend owner nowMS) }, .ok (s.extend owner nowMS))
      else (s.install (s.nextOwner sessionID actor nowMS), .ok (s.nextOwner sessionID actor nowMS))
    | none => (s.install (s.nextOwner sessionID actor nowMS), .ok (s.nextOwner sessionID actor nowMS))

def ensureActive (sessionID : String) (epoch nowMS : UInt64) :
    MAVLinkControlState × Except ControlError MAVLinkActiveControl :=
  let s := (s.clearExpired nowMS).1
  match s.active with
  | some owner =>
    if owner.sessionID ≠ sessionID ∨ owner.epoch ≠ epoch then (s, .error .staleEpoch) else (s, .ok owner)
  | none => (s, .error .staleEpoch)

def renew (sessionID : String) (epoch nowMS : UInt64) :
    MAVLinkControlState × Except ControlError MAVLinkActiveControl :=
  match s.ensureActive sessionID epoch nowMS with
  | (s, .error error) => (s, .error error)
  | (s, .ok owner) => ({ s with active := some (s.extend owner nowMS) }, .ok (s.extend owner nowMS))

/-- Succeeds exactly when the caller owned control, which then needs a safe state. -/
def release (sessionID : String) (epoch nowMS : UInt64) : MAVLinkControlState × Except ControlError Unit :=
  match s.ensureActive sessionID epoch nowMS with
  | (s, .error error) => (s, .error error)
  | (s, .ok _) => (s.dropActive, .ok ())

def authorizeControlFrame (sessionID : String) (epoch : UInt64) (frame : Bytes)
    (nowMS : UInt64) : MAVLinkControlState × Except ControlError Unit :=
  match s.ensureActive sessionID epoch nowMS with
  | (s, .error error) => (s, .error error)
  | (s, .ok _) =>
    match validateMAVLinkV2TunnelFrame frame with
    | .error message => (s, .error (.invalidFrame message))
    | .ok () => (s, .ok ())

def recordAcceptedControlFrame (frame : Bytes) (nowMS : UInt64) : MAVLinkControlState :=
  if isManualControl frame then { s with lastAcceptedAtMS := nowMS, watchdogTripped := false } else s

/-- True once per accepted drive-input gap. -/
def watchdogExpired (nowMS : UInt64) : MAVLinkControlState × Bool :=
  if s.active.isNone ∨ s.lastAcceptedAtMS = 0 ∨ s.watchdogTripped = true then (s, false)
  else if nowMS - s.lastAcceptedAtMS < durationMillis s.watchdog then (s, false)
  else ({ s with watchdogTripped := true }, true)

def MAVLinkPeer.offer (peer : MAVLinkPeer) (frame : Bytes) : MAVLinkPeer :=
  if peer.outbound.length < defaultMAVLinkPeerOutboundBuffer then
    { peer with outbound := peer.outbound ++ [frame] }
  else { peer with dropped := peer.dropped + 1 }

def broadcastTelemetry (frame : Bytes) : MAVLinkControlState :=
  { s with peers := s.peers.keys.foldl (fun peers sessionID =>
      match peers.lookup sessionID with
      | some peer => peers.replace sessionID (MAVLinkPeer.offer peer frame)
      | none => peers) s.peers }

end MAVLinkControlState

inductive RequestKind where
  | getState
  | activate
  | renewActive
  | releaseActive
  deriving DecidableEq, Repr

structure MavlinkControlRequest where
  kind : RequestKind
  requestID : String
  actor : String
  takeover : Option Bool
  epoch : Option UInt64

/-- A rejected request still names the request ID once that has been read. -/
structure RequestRejection where
  requestID : String
  message : String

def stringField (raw : List (String × JsonValue)) (key : String) : Option String :=
  match fieldOf raw key with
  | some (.string value) => some value
  | _ => none

def boolField (raw : List (String × JsonValue)) (key : String) : Option Bool :=
  match fieldOf raw key with
  | some (.bool value) => some value
  | _ => none

def numberField (raw : List (String × JsonValue)) (key : String) : Option String :=
  match fieldOf raw key with
  | some (.number literal) => some literal
  | _ => none

def onlyFields (raw : List (String × JsonValue)) (allowed : List String) (request : MavlinkControlRequest) :
    Except RequestRejection MavlinkControlRequest :=
  if raw.all (fun field => field.1 ∈ allowed) then .ok request
  else .error ⟨request.requestID, "request has unsupported fields"⟩

def parseActivate (raw : List (String × JsonValue)) (requestID : String) :
    Except RequestRejection MavlinkControlRequest :=
  match stringField raw "actor", boolField raw "takeover" with
  | some actor, some takeover =>
    if (trimSpace actor).utf8ByteSize = 0 ∨ actor.utf8ByteSize > 256 then
      .error ⟨requestID, "activate request is invalid"⟩
    else onlyFields raw ["type", "requestId", "actor", "takeover"]
      ⟨.activate, requestID, actor, some takeover, none⟩
  | _, _ => .error ⟨requestID, "activate request is invalid"⟩

def parseWithEpoch (raw : List (String × JsonValue)) (requestID : String) (kind : RequestKind) :
    Except RequestRejection MavlinkControlRequest :=
  match numberField raw "epoch" with
  | none => .error ⟨requestID, "epoch is required"⟩
  | some literal =>
    match parseUint literal with
    | none => .error ⟨requestID, "epoch is invalid"⟩
    | some epoch => onlyFields raw ["type", "requestId", "epoch"] ⟨kind, requestID, "", none, some epoch⟩

def parseMAVLinkControlRequest (encoded : DecodedText) : Except RequestRejection MavlinkControlRequest :=
  match encoded.object with
  | none => .error ⟨"", "invalid JSON"⟩
  | some raw =>
    if encoded.atEnd = false ∨ raw.length = 0 then .error ⟨"", "invalid request object"⟩
    else match stringField raw "type" with
      | none => .error ⟨"", "request type is required"⟩
      | some typeName =>
        match stringField raw "requestId" with
        | none => .error ⟨"", "request ID is invalid"⟩
        | some requestID =>
          if requestID.utf8ByteSize = 0 ∨ requestID.utf8ByteSize > 128 then .error ⟨"", "request ID is invalid"⟩
          else if typeName = "control.get_state" then
            onlyFields raw ["type", "requestId"] ⟨.getState, requestID, "", none, none⟩
          else if typeName = "control.activate" then parseActivate raw requestID
          else if typeName = "control.renew_active" then parseWithEpoch raw requestID .renewActive
          else if typeName = "control.release_active" then parseWithEpoch raw requestID .releaseActive
          else .error ⟨requestID, "unsupported request type"⟩

/-- `State()` as it is encoded into a successful response. -/
structure ControlStateReport where
  epoch : UInt64
  leaseTtlMs : UInt64
  activeControl : Option MAVLinkActiveControl
  deriving DecidableEq, Repr

def MAVLinkControlState.state (s : MAVLinkControlState) : ControlStateReport :=
  ⟨s.nextEpoch, durationMillis s.leaseTTL, s.active⟩

inductive ControlResponse where
  | success (kind requestID : String) (state : ControlStateReport)
  | error (requestID code message : String)
  deriving DecidableEq, Repr

def mavlinkControlErrorFor (requestID : String) (error : ControlError) : ControlResponse :=
  match error with
  | .controlBusy => .error requestID "control_busy" error.message
  | .staleEpoch => .error requestID "stale_epoch" error.message
  | _ => .error requestID "invalid_request" error.message

structure MAVLinkControlResult where
  response : ControlResponse
  statusChanged : Bool
  safeRequired : Bool

def answerOnly (response : ControlResponse) : MAVLinkControlResult := ⟨response, false, false⟩

def MAVLinkControlState.handleControlMessage (s : MAVLinkControlState) (sessionID : String)
    (encoded : DecodedText) (nowMS : UInt64) : MAVLinkControlState × MAVLinkControlResult :=
  match parseMAVLinkControlRequest encoded with
  | .error rejection =>
    (s, answerOnly (.error rejection.requestID "invalid_request" "invalid MAVLink control request"))
  | .ok request =>
    match request.kind with
    | .getState => (s, answerOnly (.success "control.state" request.requestID s.state))
    | .activate =>
      match request.takeover with
      | none => (s, answerOnly (.error request.requestID "invalid_request" "activate requires actor and takeover"))
      | some takeover =>
        if trimSpace request.actor = "" then
          (s, answerOnly (.error request.requestID "invalid_request" "activate requires actor and takeover"))
        else match s.activate sessionID (trimSpace request.actor) takeover nowMS with
          | (s, .error error) => (s, answerOnly (mavlinkControlErrorFor request.requestID error))
          | (s, .ok _) => (s, ⟨.success "control.activated" request.requestID s.state, true, false⟩)
    | .renewActive =>
      match request.epoch with
      | none => (s, answerOnly (.error request.requestID "invalid_request" "renew_active requires epoch"))
      | some epoch =>
        match s.renew sessionID epoch nowMS with
        | (s, .error error) => (s, answerOnly (mavlinkControlErrorFor request.requestID error))
        | (s, .ok _) => (s, answerOnly (.success "control.renewed" request.requestID s.state))
    | .releaseActive =>
      match request.epoch with
      | none => (s, answerOnly (.error request.requestID "invalid_request" "release_active requires epoch"))
      | some epoch =>
        match s.release sessionID epoch nowMS with
        | (s, .error error) => (s, answerOnly (mavlinkControlErrorFor request.requestID error))
        | (s, .ok ()) => (s, ⟨.success "control.released" request.requestID s.state, true, true⟩)

/-! What each operation can do, said once. Every lease operation first clears an expired
lease; the rest acts on the state after that. -/

namespace MAVLinkControlState
variable {s : MAVLinkControlState} {nowMS : UInt64} {owner : MAVLinkActiveControl}

def leaseExpired (s : MAVLinkControlState) (nowMS : UInt64) : Bool :=
  match s.active with
  | some owner => owner.expiresAt ≤ nowMS
  | none => false

theorem clearExpired_eq (s : MAVLinkControlState) (nowMS : UInt64) :
    s.clearExpired nowMS = if s.leaseExpired nowMS then (s.dropActive, true) else (s, false) := by
  unfold clearExpired leaseExpired
  cases owned : s.active with
  | none => rfl
  | some owner =>
    by_cases late : owner.expiresAt ≤ nowMS
    · simp [late]
    · simp [late, UInt64.not_le.mp late]

/-- The state in which a lease operation at `nowMS` finds the lease. -/
def live (s : MAVLinkControlState) (nowMS : UInt64) : MAVLinkControlState := (s.clearExpired nowMS).1

theorem live_of_expired (late : s.leaseExpired nowMS = true) : s.live nowMS = s.dropActive := by
  simp [live, clearExpired_eq, late]

theorem live_of_current (current : s.leaseExpired nowMS = false) : s.live nowMS = s := by
  simp [live, clearExpired_eq, current]

theorem leaseExpired_owned (late : s.leaseExpired nowMS = true) :
    ∃ owner, s.active = some owner ∧ owner.expiresAt ≤ nowMS := by
  unfold leaseExpired at late
  cases owned : s.active with
  | none => simp [owned] at late
  | some owner => exact ⟨owner, rfl, by simpa [owned] using late⟩

@[simp] theorem live_peers (s : MAVLinkControlState) (nowMS : UInt64) : (s.live nowMS).peers = s.peers := by
  cases late : s.leaseExpired nowMS with
  | true => rw [live_of_expired late]; rfl
  | false => rw [live_of_current late]

@[simp] theorem live_nextEpoch (s : MAVLinkControlState) (nowMS : UInt64) :
    (s.live nowMS).nextEpoch = s.nextEpoch := by
  cases late : s.leaseExpired nowMS with
  | true => rw [live_of_expired late]; rfl
  | false => rw [live_of_current late]

theorem live_active : (s.live nowMS).active = some owner ↔ s.active = some owner ∧ nowMS < owner.expiresAt := by
  cases owned : s.active with
  | none => simp [live, clearExpired, owned]
  | some current =>
    by_cases late : current.expiresAt ≤ nowMS
    · have passed : s.live nowMS = s.dropActive := live_of_expired (by simp [leaseExpired, owned, late])
      rw [passed]
      simp only [dropActive, Option.some.injEq, reduceCtorEq, false_iff, not_and]
      rintro rfl
      exact UInt64.not_lt.mpr late
    · have current' : s.live nowMS = s := live_of_current (by simp [leaseExpired, owned, late])
      rw [current', owned]
      simp only [Option.some.injEq]
      constructor
      · rintro rfl
        exact ⟨rfl, UInt64.not_le.mp late⟩
      · exact And.left

theorem ensureActive_eq (s : MAVLinkControlState) (sessionID : String) (epoch nowMS : UInt64) :
    s.ensureActive sessionID epoch nowMS = (s.live nowMS,
      match (s.live nowMS).active with
      | some owner =>
        if owner.sessionID ≠ sessionID ∨ owner.epoch ≠ epoch then .error .staleEpoch else .ok owner
      | none => .error .staleEpoch) := by
  change (match (s.live nowMS).active with
    | some owner => if owner.sessionID ≠ sessionID ∨ owner.epoch ≠ epoch
        then (s.live nowMS, Except.error ControlError.staleEpoch) else (s.live nowMS, Except.ok owner)
    | none => (s.live nowMS, Except.error ControlError.staleEpoch)) = _
  cases (s.live nowMS).active with
  | none => rfl
  | some owner => dsimp only; split_ifs <;> rfl

theorem ensureActive_ok {sessionID : String} {epoch : UInt64} :
    (s.ensureActive sessionID epoch nowMS).2 = .ok owner ↔
      (s.live nowMS).active = some owner ∧ owner.sessionID = sessionID ∧ owner.epoch = epoch := by
  rw [ensureActive_eq]
  cases (s.live nowMS).active with
  | none => simp
  | some current =>
    by_cases same : current.sessionID ≠ sessionID ∨ current.epoch ≠ epoch
    · simp only [if_pos same, reduceCtorEq, Option.some.injEq, false_iff, not_and]
      rintro rfl named
      exact same.resolve_left (not_not_intro named)
    · simp only [if_neg same, Except.ok.injEq, Option.some.injEq]
      push Not at same
      constructor
      · rintro rfl
        exact ⟨rfl, same⟩
      · exact And.left

/-- A stale or unknown pair only clears the expired lease; the owner gets its answer. -/
theorem ensureActive_cases (s : MAVLinkControlState) (sessionID : String) (epoch nowMS : UInt64) :
    s.ensureActive sessionID epoch nowMS = (s.live nowMS, .error .staleEpoch) ∨
      ∃ owner, (s.live nowMS).active = some owner ∧ owner.sessionID = sessionID ∧ owner.epoch = epoch ∧
        s.ensureActive sessionID epoch nowMS = (s.live nowMS, .ok owner) := by
  rw [ensureActive_eq]
  cases (s.live nowMS).active with
  | none => exact Or.inl rfl
  | some current =>
    by_cases same : current.sessionID ≠ sessionID ∨ current.epoch ≠ epoch
    · simp [if_pos same]
    · push Not at same
      exact Or.inr ⟨current, rfl, same.1, same.2, by simp [same]⟩

theorem renew_cases (s : MAVLinkControlState) (sessionID : String) (epoch nowMS : UInt64) :
    s.renew sessionID epoch nowMS = (s.live nowMS, .error .staleEpoch) ∨
      ∃ owner, (s.live nowMS).active = some owner ∧ owner.sessionID = sessionID ∧ owner.epoch = epoch ∧
        s.renew sessionID epoch nowMS =
          ({ s.live nowMS with active := some ((s.live nowMS).extend owner nowMS) },
            .ok ((s.live nowMS).extend owner nowMS)) := by
  unfold renew
  rcases ensureActive_cases s sessionID epoch nowMS with stale | ⟨owner, owned, named, numbered, found⟩
  · exact Or.inl (by rw [stale])
  · exact Or.inr ⟨owner, owned, named, numbered, by rw [found]⟩

theorem release_cases (s : MAVLinkControlState) (sessionID : String) (epoch nowMS : UInt64) :
    s.release sessionID epoch nowMS = (s.live nowMS, .error .staleEpoch) ∨
      ∃ owner, (s.live nowMS).active = some owner ∧ owner.sessionID = sessionID ∧ owner.epoch = epoch ∧
        s.release sessionID epoch nowMS = ((s.live nowMS).dropActive, .ok ()) := by
  unfold release
  rcases ensureActive_cases s sessionID epoch nowMS with stale | ⟨owner, owned, named, numbered, found⟩
  · exact Or.inl (by rw [stale])
  · exact Or.inr ⟨owner, owned, named, numbered, by rw [found]⟩

theorem authorizeControlFrame_state (s : MAVLinkControlState) (sessionID : String) (epoch : UInt64)
    (frame : Bytes) (nowMS : UInt64) :
    (s.authorizeControlFrame sessionID epoch frame nowMS).1 = s.live nowMS := by
  unfold authorizeControlFrame
  rcases ensureActive_cases s sessionID epoch nowMS with stale | ⟨owner, _, _, _, found⟩
  · rw [stale]
  · rw [found]
    dsimp only
    split <;> rfl

theorem authorizeControlFrame_ok {sessionID : String} {epoch : UInt64} {frame : Bytes} :
    (s.authorizeControlFrame sessionID epoch frame nowMS).2 = .ok () ↔
      (∃ owner, s.active = some owner ∧ owner.sessionID = sessionID ∧ owner.epoch = epoch ∧
        nowMS < owner.expiresAt) ∧ validateMAVLinkV2TunnelFrame frame = .ok () := by
  have owners : (∃ owner, (s.live nowMS).active = some owner ∧ owner.sessionID = sessionID ∧
      owner.epoch = epoch) ↔ (∃ owner, s.active = some owner ∧ owner.sessionID = sessionID ∧
        owner.epoch = epoch ∧ nowMS < owner.expiresAt) := by
    simp only [live_active]
    constructor
    · rintro ⟨owner, ⟨owned, current⟩, named, numbered⟩
      exact ⟨owner, owned, named, numbered, current⟩
    · rintro ⟨owner, owned, named, numbered, current⟩
      exact ⟨owner, ⟨owned, current⟩, named, numbered⟩
  rw [← owners]
  unfold authorizeControlFrame
  rcases ensureActive_cases s sessionID epoch nowMS with stale | ⟨owner, owned, named, numbered, found⟩
  · rw [stale]
    simp only [reduceCtorEq, false_iff, not_and]
    rintro ⟨owner, held⟩
    have granted := ensureActive_ok.mpr held
    rw [stale] at granted
    cases granted
  · rw [found]
    have held : ∃ owner, (s.live nowMS).active = some owner ∧ owner.sessionID = sessionID ∧
      owner.epoch = epoch := ⟨owner, owned, named, numbered⟩
    cases checked : validateMAVLinkV2TunnelFrame frame with
    | error message => simp
    | ok _ => simp [held]

theorem closePeer_cases (s : MAVLinkControlState) (sessionID : String) :
    (∃ owner, s.active = some owner ∧ owner.sessionID = sessionID ∧
      s.closePeer sessionID = ({ s with peers := s.peers.erase sessionID }.dropActive, true)) ∨
    ((∀ owner, s.active = some owner → owner.sessionID ≠ sessionID) ∧
      s.closePeer sessionID = ({ s with peers := s.peers.erase sessionID }, false)) := by
  unfold closePeer
  cases owned : s.active with
  | none => exact Or.inr ⟨by simp, rfl⟩
  | some owner =>
    by_cases own : owner.sessionID = sessionID
    · exact Or.inl ⟨owner, rfl, own, by simp [own]⟩
    · refine Or.inr ⟨?_, by simp [own]⟩
      rintro current held
      cases held
      exact own

/-- The four outcomes of `Activate`, each with the guard that leads to it. -/
inductive Activation (s : MAVLinkControlState) (sessionID actor : String) (takeover : Bool) (nowMS : UInt64) :
    MAVLinkControlState × Except ControlError MAVLinkActiveControl → Prop where
  | unknown (absent : sessionID ∉ s.peers) : Activation s sessionID actor takeover nowMS
      (s.live nowMS, .error .unknownPeer)
  | busy (known : sessionID ∈ s.peers) (owner : MAVLinkActiveControl)
      (owned : (s.live nowMS).active = some owner) (other : owner.sessionID ≠ sessionID)
      (polite : takeover = false) : Activation s sessionID actor takeover nowMS (s.live nowMS, .error .controlBusy)
  | extended (known : sessionID ∈ s.peers) (owner : MAVLinkActiveControl)
      (owned : (s.live nowMS).active = some owner) (same : owner.sessionID = sessionID) :
      Activation s sessionID actor takeover nowMS
        ({ s.live nowMS with active := some ((s.live nowMS).extend owner nowMS) },
          .ok ((s.live nowMS).extend owner nowMS))
  | installed (known : sessionID ∈ s.peers)
      (free : ∀ owner, (s.live nowMS).active = some owner → owner.sessionID ≠ sessionID ∧ takeover = true) :
      Activation s sessionID actor takeover nowMS
        ((s.live nowMS).install ((s.live nowMS).nextOwner sessionID actor nowMS),
          .ok ((s.live nowMS).nextOwner sessionID actor nowMS))

theorem activate_cases (s : MAVLinkControlState) (sessionID actor : String) (takeover : Bool) (nowMS : UInt64) :
    Activation s sessionID actor takeover nowMS (s.activate sessionID actor takeover nowMS) := by
  have unfolded : s.activate sessionID actor takeover nowMS =
      if sessionID ∉ (s.live nowMS).peers then (s.live nowMS, .error .unknownPeer)
      else match (s.live nowMS).active with
        | some owner =>
          if owner.sessionID ≠ sessionID ∧ takeover = false then (s.live nowMS, .error .controlBusy)
          else if owner.sessionID = sessionID then
            ({ s.live nowMS with active := some ((s.live nowMS).extend owner nowMS) },
              .ok ((s.live nowMS).extend owner nowMS))
          else ((s.live nowMS).install ((s.live nowMS).nextOwner sessionID actor nowMS),
            .ok ((s.live nowMS).nextOwner sessionID actor nowMS))
        | none => ((s.live nowMS).install ((s.live nowMS).nextOwner sessionID actor nowMS),
            .ok ((s.live nowMS).nextOwner sessionID actor nowMS)) := rfl
  rw [unfolded, live_peers]
  by_cases known : sessionID ∈ s.peers
  · rw [if_neg (not_not_intro known)]
    cases owned : (s.live nowMS).active with
    | none => exact .installed known (by simp [owned])
    | some owner =>
      dsimp only
      by_cases same : owner.sessionID = sessionID
      · rw [if_neg (by simp [same]), if_pos same]
        exact .extended known owner owned same
      · cases takeover with
        | false =>
          rw [if_pos ⟨same, rfl⟩]
          exact .busy known owner owned same rfl
        | true =>
          rw [if_neg (by simp), if_neg same]
          refine .installed known ?_
          rintro current held
          cases owned.symm.trans held
          exact ⟨same, rfl⟩
  · rw [if_pos known]
    exact .unknown known

end MAVLinkControlState

/-- The lease operation a control message asks for, if it is accepted and asks for one. -/
inductive LeaseCall where
  | activate (actor : String) (takeover : Bool)
  | renew (epoch : UInt64)
  | release (epoch : UInt64)
  deriving DecidableEq, Repr

def leaseCall (encoded : DecodedText) : Option LeaseCall :=
  match parseMAVLinkControlRequest encoded with
  | .error _ => none
  | .ok request =>
    match request.kind with
    | .getState => none
    | .activate => match request.takeover with
      | some takeover =>
        if trimSpace request.actor = "" then none else some (.activate (trimSpace request.actor) takeover)
      | none => none
    | .renewActive => request.epoch.map .renew
    | .releaseActive => request.epoch.map .release

/-- A control message runs at most one lease operation, and asks for a safe state exactly when
that was a successful release. -/
theorem handleControlMessage_spec (s : MAVLinkControlState) (sessionID : String) (encoded : DecodedText)
    (nowMS : UInt64) :
    let outcome := s.handleControlMessage sessionID encoded nowMS
    match leaseCall encoded with
    | none => outcome.1 = s ∧ outcome.2.safeRequired = false
    | some (.activate actor takeover) =>
      outcome.1 = (s.activate sessionID actor takeover nowMS).1 ∧ outcome.2.safeRequired = false
    | some (.renew epoch) => outcome.1 = (s.renew sessionID epoch nowMS).1 ∧ outcome.2.safeRequired = false
    | some (.release epoch) => outcome.1 = (s.release sessionID epoch nowMS).1 ∧
        (outcome.2.safeRequired = true ↔ (s.release sessionID epoch nowMS).2 = .ok ()) := by
  intro outcome
  unfold leaseCall
  simp only [outcome, MAVLinkControlState.handleControlMessage]
  cases parsed : parseMAVLinkControlRequest encoded with
  | error rejection => exact ⟨rfl, rfl⟩
  | ok request =>
    rcases request with ⟨kind, requestID, actor, takeover, epoch⟩
    cases kind with
    | getState => exact ⟨rfl, rfl⟩
    | activate =>
      cases takeover with
      | none => exact ⟨rfl, rfl⟩
      | some takeover =>
        by_cases blank : trimSpace actor = ""
        · simp [blank, answerOnly]
        · simp only [blank, ↓reduceIte]
          rcases s.activate sessionID (trimSpace actor) takeover nowMS with ⟨after, error | owner⟩
          · exact ⟨rfl, rfl⟩
          · exact ⟨rfl, rfl⟩
    | renewActive =>
      cases epoch with
      | none => exact ⟨rfl, rfl⟩
      | some epoch =>
        simp only [Option.map_some]
        rcases s.renew sessionID epoch nowMS with ⟨after, error | owner⟩
        · exact ⟨rfl, rfl⟩
        · exact ⟨rfl, rfl⟩
    | releaseActive =>
      cases epoch with
      | none => exact ⟨rfl, rfl⟩
      | some epoch =>
        simp only [Option.map_some]
        rcases s.release sessionID epoch nowMS with ⟨after, error | owner⟩
        · exact ⟨rfl, by simp [answerOnly]⟩
        · exact ⟨rfl, by simp⟩

end Txing.Board.MavlinkControl
