import Mathlib.Logic.Function.Basic
import Txing.Library.Reaction

/-! Office's MCP requests over MQTT and the table of those that are pending (`shadow-api-runtime.ts`). Messages are known by
the order in which they are sent, and sessions by the order in which they are opened. -/

namespace Txing.Office.McpRequests
open Txing.Library Function

inductive Transport where
  | mqtt
  | webRtc
  deriving DecidableEq

structure Session where
  mcpRequestSeq : ℕ := 0
  mcpSessionId : Option ℕ := none
  activeMcpTransport : Option Transport := none
  pendingMcpRequests : ℕ → Option ℕ := fun _ => none
  /-- The id and the session of each message, and how many messages and sessions there were. -/
  ids : ℕ → ℕ := fun _ => 0
  origins : ℕ → Option ℕ := fun _ => none
  sent : ℕ := 0
  sessions : ℕ := 0
  /-- The messages whose `publish` is not settled, whose timer runs, and whose promise is settled. -/
  publishing : ℕ → Bool := fun _ => false
  timers : ℕ → Bool := fun _ => false
  settled : ℕ → Bool := fun _ => true

inductive Event where
  | applyMcpDescriptor (lists : Transport → Bool)
  /-- `ensureMqttMcpSessionSubscription` before it subscribes. -/
  | openSession
  | ready (transport : Transport)
  | publish (awaited handle connected : Bool)
  /-- The response to a message, on the topic of its session. -/
  | response (message : ℕ)
  | published (message : ℕ) (failed : Bool)
  | timeout (message : ℕ)
  | webRtcFailure
  /-- The connection fails, is lost or is closed. -/
  | connectionLost
  | openWithClientId

/-- What may settle a request: its own response, publish failure and timeout, and the rejection of all. -/
def Event.Settles (n : ℕ) : Event → Prop
  | .response m => m = n
  | .published m failed => m = n ∧ failed = true
  | .timeout m => m = n
  | .connectionLost => True
  | _ => False

namespace Session
variable (s : Session)

def settle (requestId n : ℕ) : Session :=
  { s with
    pendingMcpRequests := update s.pendingMcpRequests requestId none
    timers := update s.timers n false
    settled := update s.settled n true }

def conclude (requestId : ℕ) : Session := (s.pendingMcpRequests requestId).elim s (s.settle requestId)

def rejectPendingMcpRequests : Session :=
  let pending (n : ℕ) : Bool := s.pendingMcpRequests (s.ids n) = some n
  { s with
    pendingMcpRequests := fun _ => none
    timers := fun n => s.timers n && !pending n
    settled := fun n => s.settled n || pending n }

def resetMcpConnectionState : Session := { s with mcpSessionId := none, activeMcpTransport := none, mcpRequestSeq := 0 }

def sends (handle connected : Bool) : Bool :=
  s.mcpSessionId ≠ none && !(s.activeMcpTransport = some .webRtc && handle) && connected

def nextSeq : ℕ := if s.mcpSessionId = none then s.mcpRequestSeq else (s.mcpRequestSeq + 1) % 1000000000

/-- `publishMcpRequest`, or `publishMcpToolCallBestEffort`, which awaits nothing. -/
def publish (awaited handle connected : Bool) : Session :=
  if s.sends handle connected then
    { s with
      mcpRequestSeq := s.nextSeq
      sent := s.sent + 1
      ids := update s.ids s.sent s.mcpRequestSeq
      origins := update s.origins s.sent s.mcpSessionId
      pendingMcpRequests := bif awaited then update s.pendingMcpRequests s.mcpRequestSeq (some s.sent) else s.pendingMcpRequests
      publishing := update s.publishing s.sent awaited
      timers := update s.timers s.sent awaited
      settled := update s.settled s.sent !awaited }
  else { s with mcpRequestSeq := s.nextSeq }

def next : Event → Session
  | .applyMcpDescriptor lists => if s.activeMcpTransport.any (!lists ·) then s.resetMcpConnectionState else s
  | .openSession =>
    if s.mcpSessionId = none then { s with mcpSessionId := some s.sessions, sessions := s.sessions + 1 } else s
  | .ready .mqtt => { s with activeMcpTransport := some .mqtt }
  | .ready .webRtc =>
    { s with activeMcpTransport := some .webRtc, mcpSessionId := some s.sessions, sessions := s.sessions + 1 }
  | .publish awaited handle connected => s.publish awaited handle connected
  | .response n =>
    if s.mcpSessionId ≠ none ∧ s.origins n = s.mcpSessionId then s.conclude (s.ids n) else s
  | .published n failed =>
    if s.publishing n then
      let s := { s with publishing := update s.publishing n false }
      bif failed then s.conclude (s.ids n) else s
    else s
  | .timeout n => if s.timers n then s.settle (s.ids n) n else s
  | .webRtcFailure => { s with mcpSessionId := none, activeMcpTransport := none }
  | .connectionLost => s.rejectPendingMcpRequests.resetMcpConnectionState
  | .openWithClientId => s.resetMcpConnectionState

def Waits (n : ℕ) : Prop := s.settled n = false ∧ s.pendingMcpRequests (s.ids n) = some n

/-- The message can still be settled, fail to be published or be answered. -/
def Live (n : ℕ) : Prop :=
  s.settled n = false ∨ s.publishing n = true ∨ s.mcpSessionId ≠ none ∧ s.origins n = s.mcpSessionId

/-- A message that is sent gets an id that no live one has. -/
def Fresh : Event → Prop
  | .publish _ handle connected => s.sends handle connected = true → ∀ n < s.sent, s.Live n → s.ids n ≠ s.mcpRequestSeq
  | _ => True

def Kept (event : Event) : Prop := ∀ n, s.Waits n → (s.next event).Waits n ∨ event.Settles n

structure Sound : Prop where
  entry : ∀ requestId n, s.pendingMcpRequests requestId = some n ↔ s.settled n = false ∧ s.ids n = requestId
  timed : ∀ n, s.timers n = true → s.settled n = false
  apart : ∀ n m, s.Live n → s.Live m → s.ids n = s.ids m → n = m
  unsent : ∀ n, s.sent ≤ n → s.settled n = true ∧ s.publishing n = false ∧ s.origins n = none
  current : ∀ k, s.mcpSessionId = some k → k < s.sessions
  opened : ∀ n k, s.origins n = some k → k < s.sessions

namespace Sound
variable {s} {n : ℕ} (sound : s.Sound)
include sound

variable {activeMcpTransport : Option Transport}

theorem connect {mcpRequestSeq sessions : ℕ} {mcpSessionId : Option ℕ} (known : s.sessions ≤ sessions)
    (new : mcpSessionId = none ∨ mcpSessionId = s.mcpSessionId ∨ mcpSessionId = some s.sessions ∧ s.sessions < sessions) :
    Sound { s with mcpRequestSeq, mcpSessionId, activeMcpTransport, sessions } := by
  obtain ⟨entry, timed, apart, unsent, current, opened⟩ := sound
  refine ⟨entry, timed, ?_, unsent, ?_, ?_⟩
  · grind [Live]
  · grind
  · grind

theorem published (n : ℕ) : Sound { s with publishing := update s.publishing n false } := by
  obtain ⟨entry, timed, apart, unsent, current, opened⟩ := sound
  refine ⟨entry, timed, ?_, ?_, current, opened⟩
  · grind [Live, update_apply]
  · grind [update_apply]

theorem settle (waits : s.settled n = false) : (s.settle (s.ids n) n).Sound := by
  have own (m : ℕ) (open' : s.settled m = false) : s.ids m = s.ids n → m = n :=
    sound.apart m n (Or.inl open') (Or.inl waits)
  obtain ⟨entry, timed, apart, unsent, current, opened⟩ := sound
  unfold Session.settle
  refine ⟨?_, ?_, ?_, ?_, current, opened⟩
  · grind [update_apply]
  · grind [update_apply]
  · grind [Live, update_apply]
  · grind [update_apply]

theorem publish {awaited handle connected : Bool} (fresh : s.Fresh (.publish awaited handle connected)) :
    (s.publish awaited handle connected).Sound := by
  unfold Session.publish
  split
  next sends =>
    have unused := fresh sends
    obtain ⟨entry, timed, apart, unsent, current, opened⟩ := sound
    have inSession : s.mcpSessionId ≠ none := by
      intro none
      simp [Session.sends, none] at sends
    refine ⟨?_, ?_, ?_, ?_, current, ?_⟩
    · grind [Live, update_apply]
    · grind [update_apply]
    · grind [Live, update_apply]
    · grind [update_apply]
    · grind [update_apply]
  next => exact sound.connect (Nat.le_refl _) (Or.inr (Or.inl rfl))

theorem conclude_eq (own : ∀ m, s.settled m = false → s.ids m = s.ids n → m = n) :
    s.conclude (s.ids n) = s ∨
      s.settled n = false ∧ s.conclude (s.ids n) = s.settle (s.ids n) n := by
  unfold conclude
  cases found : s.pendingMcpRequests (s.ids n) with
  | none => exact Or.inl rfl
  | some m =>
    obtain ⟨waits, same⟩ := (sound.entry _ m).mp found
    obtain rfl := own m waits same
    exact Or.inr ⟨waits, rfl⟩

theorem openSession :
    Sound { s with activeMcpTransport, mcpSessionId := some s.sessions, sessions := s.sessions + 1 } :=
  sound.connect (Nat.le_succ _) (Or.inr (Or.inr ⟨rfl, Nat.lt_succ_self _⟩))

theorem reset : s.resetMcpConnectionState.Sound := sound.connect (Nat.le_refl _) (Or.inl rfl)

theorem rejectPending : s.rejectPendingMcpRequests.Sound := by
  have settled (n : ℕ) : s.rejectPendingMcpRequests.settled n = true := by
    have entry := sound.entry (s.ids n) n
    unfold rejectPendingMcpRequests
    grind
  obtain ⟨entry, timed, apart, unsent, current, opened⟩ := sound
  refine ⟨?_, ?_, ?_, ?_, current, opened⟩
  · grind [rejectPendingMcpRequests]
  · grind [rejectPendingMcpRequests]
  · intro n m one other
    apply apart n m
    · exact Or.inr (one.resolve_left (by simp [settled]))
    · exact Or.inr (other.resolve_left (by simp [settled]))
  · grind [rejectPendingMcpRequests]

end Sound

/-- The table stays right, and no promise is settled but by what may settle it. -/
def Leads (event : Event) (after : Session) : Prop :=
  after.Sound ∧ ∀ n, s.settled n = false → after.settled n = false ∨ event.Settles n

variable {s} {event : Event} {after : Session}

theorem leads_same (sound : after.Sound) (same : after.settled = s.settled) : s.Leads event after :=
  ⟨sound, fun _ waits => Or.inl (same ▸ waits)⟩

theorem leads_settle {n : ℕ} (sound : after.Sound) (same : after.settled = s.settled)
    (waits : after.settled n = false) (settles : event.Settles n) : s.Leads event (after.settle (after.ids n) n) := by
  refine ⟨sound.settle waits, fun m before => ?_⟩
  by_cases own : m = n
  · exact Or.inr (own ▸ settles)
  · exact Or.inl ((update_of_ne own _ _).trans (same ▸ before))

theorem leads_conclude {n : ℕ} (sound : after.Sound) (same : after.settled = s.settled)
    (own : ∀ m, after.settled m = false → after.ids m = after.ids n → m = n)
    (settles : event.Settles n) : s.Leads event (after.conclude (after.ids n)) := by
  rcases sound.conclude_eq own with unchanged | ⟨waits, settled⟩
  · rw [unchanged]
    exact leads_same sound same
  · rw [settled]
    exact leads_settle sound same waits settles

theorem Sound.next (sound : s.Sound) (fresh : s.Fresh event) : s.Leads event (s.next event) := by
  have own {n : ℕ} (live : s.Live n) (m : ℕ) (waits : s.settled m = false) : s.ids m = s.ids n → m = n :=
    sound.apart m n (Or.inl waits) live
  cases event with
  | applyMcpDescriptor lists =>
    dsimp only [next]
    split
    · exact leads_same sound.reset rfl
    · exact leads_same sound rfl
  | openSession =>
    dsimp only [next]
    split
    · exact leads_same sound.openSession rfl
    · exact leads_same sound rfl
  | ready transport =>
    cases transport with
    | mqtt => exact leads_same { sound with } rfl
    | webRtc => exact leads_same sound.openSession rfl
  | publish awaited handle connected =>
    refine ⟨sound.publish fresh, fun n waits => Or.inl ?_⟩
    have sent := sound.unsent n
    dsimp only [next, Session.publish]
    split
    · grind [update_apply]
    · exact waits
  | response n =>
    dsimp only [next]
    split
    next answered => exact leads_conclude sound rfl (own (Or.inr (Or.inr answered))) rfl
    next => exact leads_same sound rfl
  | published n failed =>
    dsimp only [next]
    split
    next publishing =>
      cases failed with
      | false => exact leads_same (sound.published n) rfl
      | true => exact leads_conclude (sound.published n) rfl (own (Or.inr (Or.inl publishing))) ⟨rfl, rfl⟩
    next => exact leads_same sound rfl
  | timeout n =>
    dsimp only [next]
    split
    next runs => exact leads_settle sound rfl (sound.timed n runs) rfl
    next => exact leads_same sound rfl
  | webRtcFailure => exact leads_same (sound.connect (Nat.le_refl _) (Or.inl rfl)) rfl
  | connectionLost => exact ⟨sound.rejectPending.reset, fun _ _ => Or.inr trivial⟩
  | openWithClientId => exact leads_same sound.reset rfl

end Session

def office : Reaction Session Event Empty := fun s event => (s.next event, [])

theorem settled_by_own (events : List Event) (fresh : office.Along Session.Fresh {} events) :
    office.Along Session.Kept {} events := by
  have start : Session.Sound {} := by
    refine ⟨?_, ?_, ?_, ?_, ?_, ?_⟩ <;> simp [Session.Live]
  have sound := office.along_invariant Session.Sound (fun s event sound now => (sound.next now).1) start fresh
  refine office.along_imp ?_ sound
  rintro s event ⟨sound, now⟩ n ⟨waits, -⟩
  obtain ⟨after, settles⟩ := sound.next now
  exact (settles n waits).imp_left fun open' => ⟨open', (after.entry _ n).mpr ⟨open', rfl⟩⟩

theorem response_settles_own : office.Along Session.Kept {}
    [.openSession, .ready .mqtt, .publish true false true, .published 0 false, .response 0] :=
  settled_by_own _ ⟨trivial, trivial, fun _ n early => absurd early n.not_lt_zero, trivial, trivial, trivial⟩

/-- A request is pending when the descriptor takes its transport away, and the next one gets its id. -/
theorem request_displaced : ¬ office.Along Session.Kept {}
    [.openSession, .ready .mqtt, .publish true false true, .applyMcpDescriptor fun _ => false, .openSession, .ready .mqtt,
      .publish true false true] := by
  intro kept
  rcases kept.2.2.2.2.2.2.1 0 ⟨rfl, rfl⟩ with ⟨-, listed⟩ | settles
  · cases listed
  · exact settles

end Txing.Office.McpRequests
