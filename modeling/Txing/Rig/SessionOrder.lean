import Mathlib.Data.List.Induction
import Txing.Rig.ManagerTracking

/-! The order of a device's messages on the wire: data after a birth, with no death or loss of the
session between. The manager asks for the birth before data from the publication loop, but not before
the data of a command result, and it notices a lost session only when the reconnect is signalled. -/

namespace Txing.Rig.SessionOrder
open Txing.Library Protocol DeviceState DeviceSession DeviceTurns SparkplugManager DeviceProjection Tracking
open ManagerTracking

def ackedBirth : WireEvent → Bool
  | .message .dbirth _ .ok => true
  | _ => false

def ackedData : WireEvent → Bool
  | .message .ddata _ .ok => true
  | _ => false

/-- A delivered death, or the loss of the session, which delivers the will. -/
def endsSession : WireEvent → Bool
  | .message .ddeath _ outcome => outcome.delivered
  | .lost => true
  | .refused will => will
  | _ => false

/-- Every acknowledged data message comes after an acknowledged birth in the same session. -/
def SessionOrdered (wire : List WireEvent) : Prop :=
  ∀ before data after, wire = before ++ data :: after → ackedData data = true →
    ∃ early birth late, before = early ++ birth :: late ∧ ackedBirth birth = true ∧
      ∀ heard ∈ late, endsSession heard = false

/-- The wire as far as it decides whether a birth stands. -/
def announce (alive : Bool) (heard : WireEvent) : Bool := ackedBirth heard || alive && !endsSession heard

theorem birth_of_announced {wire : List WireEvent} (alive : wire.foldl announce false = true) :
    ∃ early birth late, wire = early ++ birth :: late ∧ ackedBirth birth = true ∧
      ∀ heard ∈ late, endsSession heard = false := by
  -- From the end of the wire: the last birth is the one that counts.
  induction wire using List.reverseRecOn with
  | nil => cases alive
  | append_singleton wire last ih =>
    rw [List.foldl_append, List.foldl_cons, List.foldl_nil, announce, Bool.or_eq_true, Bool.and_eq_true,
      Bool.not_eq_true'] at alive
    rcases alive with birth | ⟨stands, goes_on⟩
    · exact ⟨wire, last, [], rfl, birth, nofun⟩
    · obtain ⟨early, birth, late, split, acked, quiet⟩ := ih stands
      refine ⟨early, birth, late ++ [last], by simp [split], acked, fun heard member => ?_⟩
      rcases List.mem_append.mp member with before | now
      · exact quiet heard before
      · rw [List.mem_singleton.mp now]
        exact goes_on

def InOrder (alive : Bool) (heard : WireEvent) : Prop := ackedData heard = true → alive = true

theorem sessionOrdered_of_along {wire : List WireEvent}
    (along : (Reaction.listener announce).Along InOrder false wire) : SessionOrdered wire := by
  intro before data after split acked
  rw [split, Reaction.along_append, Reaction.listener_run] at along
  exact birth_of_announced (along.2.1 acked)

/-- The listener who waits for a birth, as a party that hears the wire. -/
def announced : Receiver Bool where
  hear := announce
  Shows alive _ _ := alive = true
  Gone alive := alive = false
  hear_closed := by decide
  shows_birth _ _ _ _ := rfl
  shows_data shown _ _ _ _ := by rw [shown]; rfl
  gone_death alive _ := by cases alive <;> rfl
  gone_lost _ := by simp [announce, ackedBirth, endsSession]

theorem undisturbed (both : Option ManagedDevice × Bool) (move : DeviceMove) : Undisturbed announced both move := by
  cases move with
  | report result turn =>
    intro d managed born redcon remembered shown
    rcases reportResult_wire d result turn with silent | ⟨client, -, sent⟩
    · rw [silent]
      exact shown
    · have alive : both.2 = true := shown
      rw [sent, alive]
      rfl
  | _ => trivial

/-- A report that is acknowledged is one of a born device, and data of the publication loop that is
acknowledged goes to a session without a loss that the manager did not consume. -/
def orderlyMove (managed : Option ManagedDevice) : DeviceMove → Bool
  | .report result turn => managed.all fun d => d.mqtt.all fun client =>
    !(commandResultMetrics result).isOk || client.publish turn.publish ≠ .ok ||
      (d.state.born && decide client.Settled)
  | .tick rebirthAll tick => managed.all fun d => (d.prepare rebirthAll).mqtt.all fun client =>
    !isData ((d.prepare rebirthAll).state.decidePublication tick.order tick.decidedAtMS).2 ||
      outcomeOf client tick ≠ .ok || decide (client.Settled ∧ .lost ∉ tick.beforePublish)
  | _ => true

theorem inOrder_of_none {wire : List WireEvent} (none_acked : ∀ heard ∈ wire, ackedData heard = false) (alive : Bool) :
    (Reaction.listener announce).Along InOrder alive wire := by
  apply Reaction.along_of_forall
  intro heard member state acked
  rw [none_acked heard member] at acked
  cases acked

theorem lost_data {heard : WireEvent} (lost : heard = .lost) : ackedData heard = false := by
  rw [lost]
  rfl

theorem unacked_data {heard : WireEvent} (unacked : heard.acked = false) : ackedData heard = false := by
  cases heard with
  | message kind payload outcome =>
    cases outcome with
    | ok => cases unacked
    | failed delivered => cases kind <;> rfl
  | _ => rfl

section moves
variable {d : ManagedDevice} {alive : Bool} (tracks : Tracks announced d alive)
include tracks

theorem inOrder_report {result : CapabilityCommandResult} {turn : ReportTurn}
    (orderly : orderlyMove (some d) (.report result turn) = true) :
    (Reaction.listener announce).Along InOrder alive (d.reportResult result turn).2 := by
  cases reportable : (commandResultMetrics result).isOk with
  | false =>
    rw [reportResult_unreportable d result turn reportable]
    trivial
  | true =>
    rcases reportResult_wire d result turn with silent | ⟨client, inSession, sent⟩
    · rw [silent]
      trivial
    · rw [sent]
      refine ⟨fun acked => ?_, trivial⟩
      have delivered : client.publish turn.publish = .ok := by
        cases published : client.publish turn.publish with
        | ok => rfl
        | failed delivered => simp [published, ackedData] at acked
      simp only [orderlyMove, Option.all_some, inSession, reportable, delivered, Bool.not_true, ne_eq,
        not_true_eq_false, decide_false, Bool.false_or, Bool.and_eq_true, decide_eq_true_eq] at orderly
      obtain ⟨redcon, -, stands⟩ := tracks.shows orderly.1 inSession orderly.2
      exact stands

theorem inOrder_tick {rebirthAll : Bool} {tick : DeviceTick}
    (orderly : orderlyMove (some d) (.tick rebirthAll tick) = true) :
    (Reaction.listener announce).Along InOrder alive (d.publishDeviceState rebirthAll tick).2 := by
  have prepared := tracks_prepare tracks rebirthAll
  have turn := publishDeviceState_cases d rebirthAll tick
  simp only [orderlyMove, Option.all_some, DeviceRuntimeState.decidePublication] at orderly
  generalize (d.prepare rebirthAll).state.snapshot tick.order tick.decidedAtMS = snapshot at turn orderly
  generalize d.publishDeviceState rebirthAll tick = result at turn ⊢
  cases turn with
  | stillDown => trivial
  | unchanged => trivial
  | failed unborn untold unacked error =>
    exact inOrder_of_none (fun heard member => unacked_data (unacked heard member)) alive
  | birth present opened source trip =>
    apply inOrder_of_none
    intro heard member
    simp only [List.mem_append, List.mem_cons] at member
    rcases member with first | earlier | rfl | later
    · rw [opened heard first]
      rfl
    · exact lost_data (trip.earlier_lost heard earlier)
    · rfl
    · exact lost_data (trip.later_lost heard later)
  | data present born inSession decided acked trip =>
    -- No loss before the publish, so what the listener knew at the preparation is what it knows now.
    simp only [inSession, Option.all_some, decided, acked, Bool.not_true, ne_eq, not_true_eq_false, decide_false,
      Bool.false_or, decide_eq_true_eq] at orderly
    rw [trip.kept orderly.2, List.nil_append]
    refine ⟨fun _ => ?_, inOrder_of_none (fun heard member => lost_data (trip.later_lost heard member)) _⟩
    obtain ⟨redcon, -, stands⟩ := prepared.shows born inSession orderly.1
    exact stands
  | death absent opened earlier_lost later_lost =>
    apply inOrder_of_none
    intro heard member
    simp only [List.mem_append, List.mem_cons, List.not_mem_nil, or_false] at member
    rcases member with (first | earlier | rfl | later) | rfl
    · rw [opened heard first]
      rfl
    · exact lost_data (earlier_lost heard earlier)
    · rfl
    · exact lost_data (later_lost heard later)
    · rfl

theorem inOrder_move {move : DeviceMove} (orderly : orderlyMove (some d) move = true) :
    (Reaction.listener announce).Along InOrder alive (device.emits (some d) move) := by
  have closing : ∀ heard ∈ d.disconnectDeviceMQTT.2, ackedData heard = false := by
    intro heard member
    rw [disconnect_wire d heard member]
    rfl
  cases move with
  | enlist inventory => trivial
  | discharge => exact inOrder_of_none closing alive
  | observe state => trivial
  | report result turn =>
    simp only [emits_some, ManagedDevice.move]
    exact inOrder_report tracks orderly
  | tick rebirthAll tick =>
    simp only [emits_some, ManagedDevice.move]
    exact inOrder_tick tracks orderly
  | teardown => exact inOrder_of_none closing alive
  | net event =>
    apply inOrder_of_none
    intro heard member
    cases inSession : d.mqtt with
    | none => simp [Reaction.emits, ManagedDevice.move, ManagedDevice.onNet, inSession] at member
    | some client =>
      simp only [emits_some, ManagedDevice.move, ManagedDevice.onNet, inSession] at member
      exact lost_data (onNet_lost event heard member)

end moves

def Orderly (thingName : String) (s : RuntimeState) (event : ManagerEvent) : Prop :=
  device.Along (fun managed move => orderlyMove managed move = true) (s.devices.lookup thingName)
    (moves thingName s event)

instance (thingName : String) (s : RuntimeState) (event : ManagerEvent) : Decidable (Orderly thingName s event) :=
  device.decidableAlong _ _

variable {thingName rigID : String}

theorem sessionOrdered_of_orderly {events : List ManagerEvent}
    (orderly : manager.Along (Orderly thingName) (connectedManager rigID) events) :
    SessionOrdered (wire thingName rigID events) := by
  have projects := device_projects thingName
  have tracked := (device.watched announce).along_invariant (Tracked announced)
    (fun both move tracked _ => tracked_next announced both move tracked (undisturbed both move))
    (nofun : Tracked announced (none, false)) (device.watched_along (projects.along orderly) false)
  unfold wire
  rw [projects.trace]
  apply sessionOrdered_of_along
  apply device.listener_along _ tracked
  rintro ⟨managed, alive⟩ move ⟨tracks, orderly⟩
  cases managed with
  | none => cases move <;> trivial
  | some d => exact inOrder_move (tracks d rfl) orderly

/-- Data on both ways, a lost session whose reconnect is consumed, a new birth and data again. -/
def resumedRun : List ManagerEvent :=
  [enlisted 10, sighted true 20, ticked 30 .ok, resulted 40, sighted false 50, ticked 60 .ok, .net "unit-1" .lost,
    .net "unit-1" .restored, .net "unit-1" .signalled, .net "unit-1" .signalled, ticked 70 .ok, resulted 80]

theorem resumedRun_ordered :
    ((wire "unit-1" "rig-1" resumedRun).filter ackedData).length = 3 ∧
      SessionOrdered (wire "unit-1" "rig-1" resumedRun) :=
  ⟨by decide +kernel, sessionOrdered_of_orderly (by decide +kernel)⟩

/-- The birth fails and is not delivered; the client it was sent on takes the result. -/
def unbornRun : List ManagerEvent := [enlisted 10, sighted true 20, ticked 30 (.failed false), resulted 40]

theorem unbornRun_unordered : ¬ SessionOrdered (wire "unit-1" "rig-1" unbornRun) := by
  intro ordered
  have sent : (wire "unit-1" "rig-1" unbornRun).any ackedData = true := by decide +kernel
  have unborn : ∀ heard ∈ wire "unit-1" "rig-1" unbornRun, ackedBirth heard = false := by decide +kernel
  obtain ⟨data, member, acked⟩ := List.any_eq_true.mp sent
  obtain ⟨before, after, split⟩ := List.append_of_mem member
  obtain ⟨early, birth, late, inside, born, -⟩ := ordered before data after split acked
  rw [unborn birth (by simp [split, inside])] at born
  cases born

end Txing.Rig.SessionOrder
