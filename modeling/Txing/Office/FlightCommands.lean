import Mathlib.Logic.Function.Basic
import Txing.Library.Reaction
import Txing.Office.Telemetry

/-! Office's flight commands (`mavlink-control.ts`): each waits for its acknowledgement and for a flight state, with a timer for
each. The session has one place for a command that is pending and one set of waiters for all calls. -/

namespace Txing.Office.FlightCommands
open Txing.Library Function Telemetry

inductive FlightCommand where
  | armDisarm (armed : Bool)
  | selectMode (manual : Bool)

namespace FlightCommand

def command : FlightCommand → ℕ
  | armDisarm _ => 400
  | selectMode _ => 176

def predicate (state : FlightState) : FlightCommand → Bool
  | armDisarm armed => state.armed = armed
  | selectMode manual => state.mode = if manual then "manual" else "hold"

end FlightCommand

structure Wait where
  unsettled : Bool := false
  timer : Bool := false

def Wait.clear (wait : Wait) (error : Bool) : Wait := ⟨wait.unsettled && !error, false⟩

def Wait.Timed (wait : Wait) : Prop := wait.unsettled = true → wait.timer = true

structure Session where
  closed : Bool := false
  flightState : Option FlightState := none
  pendingCommand : Option ℕ := none
  flightStateWaiters : ℕ → Bool := fun _ => false
  /-- The calls in the order in which they are made, what they wait for, and which of them have not returned. -/
  calls : ℕ := 0
  commands : ℕ → FlightCommand := fun _ => .armDisarm false
  acknowledgements : ℕ → Wait := fun _ => {}
  confirmations : ℕ → Wait := fun _ => {}
  rejected : ℕ → Bool := fun _ => false
  running : ℕ → Bool := fun _ => false

inductive Event where
  /-- `armDisarm` or `selectMode`, up to its `await`. -/
  | call (command : FlightCommand) (active connected : Bool)
  /-- The `finally` of a call. -/
  | finish (call : ℕ)
  | handleTelemetry (raw : Board.MavlinkFrame.Bytes)
  | commandTimeout (call : ℕ)
  | flightStateTimeout (call : ℕ)
  | close

namespace Session
variable (s : Session)

def clearPendingCommand (error : Bool) : Session :=
  s.pendingCommand.elim s fun n =>
    { s with
      pendingCommand := none
      acknowledgements := update s.acknowledgements n ((s.acknowledgements n).clear error)
      rejected := update s.rejected n (s.rejected n || error) }

def clearFlightStateWaiters (error : Bool) : Session :=
  { s with
    flightStateWaiters := fun _ => false
    confirmations := fun n => if s.flightStateWaiters n then (s.confirmations n).clear error else s.confirmations n
    rejected := fun n => s.rejected n || s.flightStateWaiters n && error }

def waitForCommand (n : ℕ) : Session :=
  let s := s.clearPendingCommand false
  { s with pendingCommand := some n, acknowledgements := update s.acknowledgements n ⟨true, true⟩ }

def waitForFlightState (n : ℕ) (command : FlightCommand) : Session :=
  let waits := !s.flightState.any command.predicate
  { s with
    flightStateWaiters := update s.flightStateWaiters n waits
    confirmations := update s.confirmations n ⟨waits, waits⟩ }

def clear (error : Bool) : Session := (s.clearPendingCommand error).clearFlightStateWaiters error

def call (command : FlightCommand) (connected : Bool) : Session :=
  let n := s.calls
  let s := (s.waitForCommand n).waitForFlightState n command
  let s := { s with calls := n + 1, commands := update s.commands n command, rejected := update s.rejected n false }
  if connected && !s.closed then { s with running := update s.running n true } else s.clear false

/-- What `Promise.all` waits for. -/
def returns (n : ℕ) : Bool :=
  s.running n && (s.rejected n || !(s.acknowledgements n).unsettled && !(s.confirmations n).unsettled)

def handleFlightState (state : FlightState) : Session :=
  let reached (n : ℕ) := s.flightStateWaiters n && (s.commands n).predicate state
  { s with
    flightState := some state
    flightStateWaiters := fun n => s.flightStateWaiters n && !reached n
    confirmations := fun n => if reached n then {} else s.confirmations n }

def handleAcknowledgement (acknowledgement : Acknowledgement) : Session :=
  s.pendingCommand.elim s fun n =>
    if acknowledgement.command = (s.commands n).command then
      { s with
        pendingCommand := none
        acknowledgements := update s.acknowledgements n {}
        rejected := update s.rejected n (s.rejected n || acknowledgement.result ≠ 0) }
    else s

def next : Event → Session
  | .call command active connected => if active then s.call command connected else s
  | .finish n => if s.returns n then { s.clear false with running := update s.running n false } else s
  | .handleTelemetry raw =>
    if s.closed then s
    else match readFlightState raw with
      | some state => s.handleFlightState state
      | none => (readCommandAck raw).elim s s.handleAcknowledgement
  | .commandTimeout n =>
    if (s.acknowledgements n).timer then
      { s with
        pendingCommand := s.pendingCommand.filter fun m => (s.commands m).command ≠ (s.commands n).command
        acknowledgements := update s.acknowledgements n {}
        rejected := update s.rejected n true }
    else s
  | .flightStateTimeout n =>
    if (s.confirmations n).timer then
      { s with
        flightStateWaiters := update s.flightStateWaiters n false
        confirmations := update s.confirmations n {}
        rejected := update s.rejected n true }
    else s
  | .close => if s.closed then s else { s.clear true with closed := true }

/-- A call that has not returned has a timer for each confirmation that is open. -/
def Timed : Prop := ∀ n, s.running n = true → (s.acknowledgements n).Timed ∧ (s.confirmations n).Timed

/-- No call is made before the earlier ones have returned. -/
def Apart : Event → Prop
  | .call _ active _ => active = true → ∀ n, s.running n = false
  | _ => True

structure Sound : Prop where
  timed : s.Timed
  single : ∀ n m, s.running n = true → s.running m = true → n = m

variable {s}

theorem sound_idle (idle : ∀ n, s.running n = false) : s.Sound :=
  ⟨fun n runs => by simp [idle] at runs, fun n _ runs => by simp [idle] at runs⟩

theorem clear_running (error : Bool) : (s.clear error).running = s.running := by
  unfold clear clearPendingCommand
  cases s.pendingCommand <;> rfl

/-- A step that keeps the calls, and settles what it takes the timer of. -/
theorem Sound.waits {after : Session} (sound : s.Sound) (same : after.running = s.running)
    (acknowledged : ∀ n, (s.acknowledgements n).Timed → (after.acknowledgements n).Timed)
    (confirmed : ∀ n, (s.confirmations n).Timed → (after.confirmations n).Timed) : after.Sound := by
  constructor
  · intro n runs
    rw [same] at runs
    exact (sound.timed n runs).imp (acknowledged n) (confirmed n)
  · rw [same]
    exact sound.single

theorem settled_timed : Wait.Timed {} := fun unsettled => by cases unsettled

theorem update_timed {waits : ℕ → Wait} {wait : Wait} {n m : ℕ} (new : wait.Timed) (timed : (waits m).Timed) :
    (update waits n wait m).Timed := by
  by_cases own : m = n
  · rw [own, update_self]
    exact new
  · rw [update_of_ne own]
    exact timed

theorem clear_timed (wait : Wait) : (wait.clear true).Timed := fun unsettled => by simp [Wait.clear] at unsettled

theorem Sound.close (sound : s.Sound) : (s.clear true).Sound := by
  refine sound.waits (clear_running true) ?_ ?_
  · intro n timed
    unfold clear clearPendingCommand
    cases s.pendingCommand with
    | none => exact timed
    | some m => exact update_timed (clear_timed _) timed
  · intro n timed
    have same : (s.clearPendingCommand true).confirmations = s.confirmations := by
      unfold clearPendingCommand
      cases s.pendingCommand <;> rfl
    unfold clear clearFlightStateWaiters
    dsimp only
    rw [same]
    split
    · exact clear_timed _
    · exact timed

theorem Sound.ite {p : Prop} [Decidable p] {after : Session} (sound : s.Sound) (step : p → after.Sound) :
    (if p then after else s).Sound := by
  split
  next holds => exact step holds
  next => exact sound

theorem Sound.acknowledge (sound : s.Sound) (acknowledgement : Acknowledgement) :
    (s.handleAcknowledgement acknowledgement).Sound := by
  unfold handleAcknowledgement
  cases s.pendingCommand with
  | none => exact sound
  | some n =>
    exact sound.ite fun _ => sound.waits rfl (fun _ timed => update_timed settled_timed timed) fun _ timed => timed

theorem sound_call (idle : ∀ n, s.running n = false) (command : FlightCommand) (connected : Bool) :
    (s.call command connected).Sound := by
  have before : ∀ n, (s.clearPendingCommand false).running n = false := by
    unfold clearPendingCommand
    cases s.pendingCommand <;> exact idle
  unfold call
  dsimp only
  split
  · have own (n : ℕ) (runs : update (s.clearPendingCommand false).running s.calls true n = true) : n = s.calls := by
      by_contra other
      rw [update_of_ne other, before] at runs
      cases runs
    constructor
    · intro n runs
      rw [own n runs]
      simp [waitForCommand, waitForFlightState, Wait.Timed]
    · intro n m one other
      rw [own n one, own m other]
  · apply sound_idle
    rw [clear_running]
    exact before

theorem Sound.finish (sound : s.Sound) {n : ℕ} (returns : s.returns n = true) (m : ℕ) :
    (s.next (.finish n)).running m = false := by
  have runs : s.running n = true := by
    simp only [Session.returns, Bool.and_eq_true] at returns
    exact returns.1
  rw [Session.next, if_pos returns]
  by_cases own : m = n
  · rw [own]
    exact update_self ..
  · exact (update_of_ne own ..).trans (Bool.eq_false_iff.mpr fun other => own (sound.single m n other runs))

theorem Sound.next {event : Event} (sound : s.Sound) (apart : s.Apart event) : (s.next event).Sound := by
  cases event with
  | call command active connected => exact sound.ite fun active => sound_call (apart active) command connected
  | finish n =>
    by_cases returns : s.returns n = true
    · exact sound_idle (sound.finish returns)
    · rw [Session.next, if_neg returns]
      exact sound
  | handleTelemetry raw =>
    dsimp only [Session.next]
    split
    · exact sound
    split
    next state _ =>
      refine sound.waits rfl (fun _ timed => timed) fun n timed => ?_
      dsimp only [handleFlightState]
      split
      · exact settled_timed
      · exact timed
    next =>
      cases readCommandAck raw with
      | none => exact sound
      | some acknowledgement => exact sound.acknowledge acknowledgement
  | commandTimeout n =>
    exact sound.ite fun _ => sound.waits rfl (fun _ timed => update_timed settled_timed timed) fun _ timed => timed
  | flightStateTimeout n =>
    exact sound.ite fun _ => sound.waits rfl (fun _ timed => timed) fun _ timed => update_timed settled_timed timed
  | close =>
    dsimp only [Session.next]
    split
    · exact sound
    · exact sound.close.waits rfl (fun _ timed => timed) fun _ timed => timed

end Session

def session : Reaction Session Event Empty := fun s event => (s.next event, [])

theorem sound_of_apart {events : List Event} (apart : session.Along Session.Apart {} events) :
    (session.run {} events).Sound :=
  session.run_invariant Session.Sound (fun _ _ sound => sound.next) (Session.sound_idle fun _ => rfl) apart

theorem commands_timed (events : List Event) (apart : session.Along Session.Apart {} events) :
    (session.run {} events).Timed := (sound_of_apart apart).timed

def header : MavlinkWire.Header := ⟨false, 0, 1, 1, 1, [], rfl⟩

/-- The vehicle acknowledges that it is to arm and then says that it is armed. -/
def arming : List Event :=
  [.call (.armDisarm true) true true, .handleTelemetry (commandAckFrame header (CommandAck.payload ⟨400, 0, 0, 0, 0, 0⟩)),
    .handleTelemetry (heartbeatFrame header (Heartbeat.payload ⟨4, 10, 3, 0x81, 4, 3⟩))]

theorem consecutive_commands_timed :
    (session.run {} (arming ++ [.finish 0, .call (.selectMode true) true true])).Timed := by
  have begun : session.Along Session.Apart {} arming := ⟨fun _ _ => rfl, trivial, trivial, trivial⟩
  have armed := sound_of_apart begun
  have returns : (session.run {} arming).returns 0 = true := by decide +kernel
  refine commands_timed _ (session.along_append.mpr ⟨begun, ?_⟩)
  generalize session.run {} arming = s at armed returns ⊢
  exact ⟨trivial, fun _ => armed.finish returns, trivial⟩

/-- The second command takes the place of the first, whose acknowledgement stays open without a timer. -/
theorem second_command_untimed :
    ¬ (session.run {} [.call (.selectMode true) true true, .call (.armDisarm true) true true]).Timed :=
  fun timed => Bool.false_ne_true ((timed 0 rfl).1 rfl)

end Txing.Office.FlightCommands
