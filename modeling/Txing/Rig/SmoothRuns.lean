import Txing.Rig.ManagerTracking

/-! Runs in which nothing on a device's wire goes wrong. Every session that is open in such a run is
settled: it was never lost, so no reconnect is waiting to be noticed. -/

namespace Txing.Rig.SmoothRuns
open DeviceState DeviceSession DeviceTurns SparkplugManager DeviceProjection
open ManagerTracking

def smooth (heard : WireEvent) : Bool := !heard.fails && decide (heard ≠ .lost)

def smoothFor (thingName : String) (output : ManagerOutput) : Bool :=
  !failsFor thingName output && decide (wireOf thingName output ≠ some .lost)

def Smooth (thingName rigID : String) (events : List ManagerEvent) : Prop :=
  ∀ output ∈ manager.trace (connectedManager rigID) events, smoothFor thingName output = true

instance (thingName rigID : String) (events : List ManagerEvent) : Decidable (Smooth thingName rigID events) :=
  inferInstanceAs (Decidable
    (∀ output ∈ manager.trace (connectedManager rigID) events, smoothFor thingName output = true))

section sessions

theorem nil_of_smooth {losses : List WireEvent} (lost : ∀ heard ∈ losses, heard = .lost)
    (fine : ∀ heard ∈ losses, smooth heard = true) : losses = [] := by
  cases losses with
  | nil => rfl
  | cons heard rest =>
    have bad := fine heard List.mem_cons_self
    rw [lost heard List.mem_cons_self] at bad
    cases bad

theorem quiet_of_smooth {tick : DeviceTick} {client after : DeviceClient} {opening earlier later : List WireEvent}
    {message : WireEvent} (trip : Trip tick client after earlier later)
    (fine : ∀ heard ∈ opening ++ (earlier ++ message :: later), smooth heard = true) : earlier = [] ∧ later = [] :=
  ⟨nil_of_smooth trip.earlier_lost fun heard member => fine heard (by simp [member]),
    nil_of_smooth trip.later_lost fun heard member => fine heard (by simp [member])⟩

theorem settled_turn {p : ManagedDevice} {tick : DeviceTick} {snapshot : DeviceSnapshot}
    {result : ManagedDevice × List WireEvent} (settled : ∀ client, p.mqtt = some client → client.Settled)
    (turn : TurnOutcome p tick snapshot result) (fine : ∀ heard ∈ result.2, smooth heard = true) :
    ∀ client, result.1.mqtt = some client → client.Settled := by
  cases turn with
  | stillDown => exact settled
  | unchanged => exact settled
  | failed unborn untold unacked error =>
    rcases error with ⟨heard, member, fails⟩ | ⟨-, -, closed⟩
    · have good := fine heard member
      simp [smooth, fails] at good
    · intro client found
      rw [closed] at found
      cases found
  | birth present opened source trip =>
    obtain ⟨quiet, silent⟩ := quiet_of_smooth trip fine
    intro client found
    cases found
    apply trip.stays _ quiet silent
    rcases source with inSession | new
    · exact settled _ inSession
    · rw [new]
      decide
  | data present born inSession decided acked trip =>
    obtain ⟨quiet, silent⟩ := quiet_of_smooth trip (show ∀ heard ∈ [] ++ _, _ from fine)
    intro client found
    cases found
    exact trip.stays (settled _ inSession) quiet silent
  | death => exact nofun

theorem settled_prepare {d : ManagedDevice} (settled : ∀ client, d.mqtt = some client → client.Settled)
    (rebirthAll : Bool) : ∀ client, (d.prepare rebirthAll).mqtt = some client → client.Settled := by
  unfold ManagedDevice.prepare
  split
  next => exact settled
  next old inSession =>
    obtain ⟨up, -, due⟩ := settled old inSession
    intro client found
    have same : client = old.clearPending := by
      dsimp only at found
      split at found <;> exact (Option.some.inj found).symm
    rw [same]
    exact ⟨up, rfl, due⟩

theorem answered_iff {managed : Option ManagedDevice} :
    answered managed = true ↔ ∀ d, managed = some d → ∀ client, d.mqtt = some client → client.Settled := by
  cases managed with
  | none => simp [answered]
  | some d => cases inSession : d.mqtt <;> simp [answered, inSession]

theorem answered_next (managed : Option ManagedDevice) (move : DeviceMove) (settled : answered managed = true)
    (fine : ∀ heard ∈ device.emits managed move, smooth heard = true) :
    answered (device.next managed move) = true := by
  cases managed with
  | none => cases move <;> rfl
  | some d =>
    have before := answered_iff.mp settled d rfl
    rw [answered_iff]
    intro after found
    have result : (d.move move).1 = some after := found
    clear found
    cases move with
    | enlist inventory => cases result; exact before
    | discharge => cases result
    | observe state => cases result; exact before
    | report answer turn =>
      obtain ⟨seq, same⟩ := reportResult_device d answer turn
      simp only [ManagedDevice.move, same, Option.some.injEq] at result
      subst result
      exact before
    | tick rebirthAll tick =>
      simp only [ManagedDevice.move, Option.some.injEq] at result
      simp only [emits_some, ManagedDevice.move] at fine
      subst result
      exact settled_turn (settled_prepare before rebirthAll) (publishDeviceState_cases d rebirthAll tick) fine
    | teardown =>
      cases result
      intro client found
      rw [show d.disconnectDeviceMQTT.1.resetPublication.mqtt = none from disconnect_closed d] at found
      cases found
    | net event =>
      cases inSession : d.mqtt with
      | none =>
        simp only [ManagedDevice.move, ManagedDevice.onNet, inSession, Option.some.injEq] at result
        exact result ▸ before
      | some client =>
        have wire : device.emits (some d) (.net event) = (client.onNet event).2 := by
          simp only [emits_some, ManagedDevice.move, ManagedDevice.onNet, inSession]
        have quiet := nil_of_smooth (onNet_lost event) fun heard member => fine heard (wire ▸ member)
        simp only [ManagedDevice.move, ManagedDevice.onNet, inSession, Option.some.injEq] at result
        subst result
        intro other found
        cases found
        exact onNet_settled (before client inSession) quiet

variable {thingName rigID : String} {events : List ManagerEvent}

theorem smooth_of_picked {output : ManagerOutput} {heard : WireEvent} (picked : wireOf thingName output = some heard)
    (fine : smoothFor thingName output = true) : smooth heard = true := by
  simp only [smoothFor, picked, fails_of_picked picked, Bool.and_eq_true, Bool.not_eq_true', decide_eq_true_eq, ne_eq,
    Option.some.injEq] at fine
  simp [smooth, fine.1, fine.2]

theorem smooth_along (fine : Smooth thingName rigID events) :
    manager.Along (fun s event => device.Along
      (fun managed move => ∀ heard ∈ device.emits managed move, smooth heard = true)
      (s.devices.lookup thingName) (moves thingName s event)) (connectedManager rigID) events := by
  refine manager.along_imp (fun s event good => device.along_of_trace ?_) (manager.along_of_trace fine)
  rw [← (device_projects thingName).emits s event]
  intro heard member
  obtain ⟨output, made, picked⟩ := List.mem_filterMap.mp member
  exact smooth_of_picked picked (good output made)

theorem answered_run (fine : Smooth thingName rigID events) :
    answered ((manager.run (connectedManager rigID) events).devices.lookup thingName) = true := by
  have projects := device_projects thingName
  rw [projects.run (connectedManager rigID) events]
  exact device.run_invariant (fun managed => answered managed = true) answered_next rfl
    (projects.along (smooth_along fine))

end sessions

variable {thingName rigID : String}

theorem smooth_of_append {first second : List ManagerEvent} (fine : Smooth thingName rigID (first ++ second)) :
    Smooth thingName rigID first := by
  intro output made
  exact fine output (by rw [manager.trace_append]; exact List.mem_append_left _ made)

theorem fine_step {events : List ManagerEvent} {event : ManagerEvent}
    (fine : Smooth thingName rigID (events ++ [event])) :
    ∀ output ∈ manager.emits (manager.run (connectedManager rigID) events) event,
      failsFor thingName output = false := by
  intro output made
  have good := fine output (by
    rw [manager.trace_append]
    exact List.mem_append_right _ (by simpa using made))
  simp only [smoothFor, Bool.and_eq_true, Bool.not_eq_true'] at good
  exact good.1

end Txing.Rig.SmoothRuns
