import Mathlib.Data.List.Iterate
import Txing.Rig.ManagerTracking

/-! The sequence numbers on a device's wire. As long as the device stays managed, each message carries the next one modulo
256, whether its publication succeeds or fails. -/

namespace Txing.Rig.ManagerSequences
open Txing.Library Protocol DeviceState DeviceSession DeviceTurns SparkplugManager DeviceProjection ManagerTracking

def seqs (wire : List WireEvent) : List UInt64 :=
  wire.filterMap fun
    | .message _ payload _ => payload.seq
    | _ => none

def following (seq : UInt64) : UInt64 := (seq + 1) % 256

/-- The wire counts on from a number, and the device has the next one. -/
def Counts (before : UInt64) (turn : ManagedDevice × List WireEvent) : Prop :=
  ∃ n, seqs turn.2 = List.iterate following before n ∧ turn.1.seq = following^[n] before

section turns
variable {d next : ManagedDevice} {client : DeviceClient} {tick : DeviceTick} {first second wire : List WireEvent}
  {before : UInt64}

theorem Counts.trans (one : Counts before (d, first)) (two : Counts d.seq (next, second)) :
    Counts before (next, first ++ second) := by
  obtain ⟨m, numbers, reached⟩ := one
  obtain ⟨n, more, ended⟩ := two
  rw [reached] at more ended
  refine ⟨m + n, ?_, ?_⟩
  · rw [List.iterate_add, ← numbers, ← more]
    exact List.filterMap_append
  · rw [ended, ← Function.iterate_add_apply, Nat.add_comm]

theorem counts_silent {event : WireEvent} (all : ∀ heard ∈ wire, heard = event) (silent : seqs [event] = []) :
    Counts d.seq (d, wire) := by
  refine ⟨0, List.filterMap_eq_nil_iff.mpr ?_, rfl⟩
  intro heard member
  rw [all heard member]
  simpa [seqs] using silent

/-- A message among losses of the session. -/
theorem counts_message {after : DeviceClient} (trip : Trip tick client after first second) (kind : MessageType)
    (outcome : PublishOutcome) {payload : Sparkplug.Payload} (numbered : payload.seq = some d.seq) :
    Counts d.seq (d.nextSeq, first ++ .message kind payload outcome :: second) := by
  have sent : Counts d.seq (d.nextSeq, [.message kind payload outcome]) := ⟨1, by simp [seqs, numbered], rfl⟩
  exact (counts_silent trip.earlier_lost rfl).trans (sent.trans (counts_silent trip.later_lost rfl))

theorem counts_disconnect (d : ManagedDevice) : Counts d.seq d.disconnectDeviceMQTT := by
  unfold ManagedDevice.disconnectDeviceMQTT
  split <;> exact ⟨0, rfl, rfl⟩

theorem counts_report (inSession : d.mqtt = some client) (kind : MessageType) {redcon : UInt8} (valid : validRedcon redcon)
    (metrics : List Sparkplug.Metric) :
    Counts d.seq (ManagedDevice.orReset (d.publishDeviceReport tick kind redcon metrics)) := by
  obtain ⟨after, earlier, later, trip, sent⟩ := publishDeviceReport_trip inSession valid tick kind metrics
  rw [sent]
  have counted : Counts d.seq _ := counts_message trip kind (outcomeOf client tick)
    (rfl : (reportPayload redcon d.seq tick.builtAtMS metrics).seq = some d.seq)
  unfold ManagedDevice.orReset
  dsimp only
  split <;> exact counted

theorem counts_carryOut {publication : DevicePublication}
    (valid : ∀ redcon metrics, publication = .birth redcon metrics ∨ publication = .data redcon metrics → validRedcon redcon) :
    Counts d.seq (d.carryOut tick publication) := by
  cases publication with
  | none => exact ⟨0, rfl, rfl⟩
  | birth redcon metrics =>
    simp only [ManagedDevice.carryOut]
    obtain ⟨client, opening, ready, opened, -⟩ | ⟨will, refused⟩ := ensureDeviceMQTT_cases d tick.connect
    · rw [ready]
      have opens : Counts d.seq ({ d with mqtt := some client }, opening) := counts_silent (d := d) opened rfl
      exact opens.trans (counts_report rfl .dbirth (valid redcon metrics (.inl rfl)) metrics)
    · rw [refused]
      exact ⟨0, rfl, rfl⟩
  | data redcon metrics =>
    simp only [ManagedDevice.carryOut]
    split
    next => exact ⟨0, rfl, rfl⟩
    next inSession => exact counts_report inSession .ddata (valid redcon metrics (.inr rfl)) metrics
  | death =>
    simp only [ManagedDevice.carryOut]
    obtain ⟨client, opening, ready, opened, -⟩ | ⟨will, refused⟩ := ensureDeviceMQTT_cases d tick.connect
    · obtain ⟨after, earlier, later, trip, sent⟩ := transmit_trip
        (show (ManagedDevice.nextSeq { d with mqtt := some client }).mqtt = some client from rfl) tick .ddeath
        (Sparkplug.buildDeviceDeathPayload d.seq tick.builtAtMS)
      have opens : Counts d.seq (d, opening) := counts_silent opened rfl
      have counted := opens.trans (counts_message trip .ddeath (outcomeOf client tick)
        (rfl : (Sparkplug.buildDeviceDeathPayload d.seq tick.builtAtMS).seq = some d.seq))
      simp only [ready, ManagedDevice.publishDeviceDeath, sent]
      cases decide (outcomeOf client tick = .ok) with
      | false => exact counted
      | true => exact counted.trans (counts_disconnect _)
    · rw [refused]
      exact ⟨0, rfl, rfl⟩

theorem counts_tick (d : ManagedDevice) (rebirthAll : Bool) : Counts d.seq (d.publishDeviceState rebirthAll tick) := by
  have same : (d.prepare rebirthAll).seq = d.seq := by
    unfold ManagedDevice.prepare
    split
    · rfl
    · dsimp only
      split <;> rfl
  rw [← same]
  apply counts_carryOut
  intro redcon metrics published
  have valid := publishedRedcon_valid (d.prepare rebirthAll).state tick.order tick.decidedAtMS
  unfold DeviceRuntimeState.decidePublication at published
  generalize (d.prepare rebirthAll).state.snapshot _ _ = snapshot at valid published
  have decision := (d.prepare rebirthAll).state.decideOn_cases snapshot
  generalize (d.prepare rebirthAll).state.decideOn snapshot = decided at decision published
  cases decision <;> simp at published <;> exact published.1 ▸ valid

theorem counts_result (result : CapabilityCommandResult) (turn : ReportTurn) : Counts d.seq (d.reportResult result turn) := by
  unfold ManagedDevice.reportResult
  split
  next =>
    dsimp only
    rw [Sparkplug.buildDeviceReportPayload_ok (publishedRedcon_valid d.state turn.order turn.nowMS)]
    exact ⟨1, rfl, rfl⟩
  next => exact ⟨0, rfl, rfl⟩

theorem counts_move {move : DeviceMove} (kept : move ≠ .discharge) :
    ∃ after, (d.move move).1 = some after ∧ Counts d.seq (after, (d.move move).2) := by
  cases move with
  | discharge => exact absurd rfl kept
  | enlist inventory => exact ⟨_, rfl, 0, rfl, rfl⟩
  | observe state => exact ⟨_, rfl, 0, rfl, rfl⟩
  | report result turn => exact ⟨_, rfl, counts_result result turn⟩
  | tick rebirthAll tick => exact ⟨_, rfl, counts_tick d rebirthAll⟩
  | teardown => exact ⟨_, rfl, counts_disconnect d⟩
  | net event =>
    refine ⟨_, rfl, ?_⟩
    simp only [ManagedDevice.move, ManagedDevice.onNet]
    split
    next => exact ⟨0, rfl, rfl⟩
    next client inSession => exact counts_silent (d := d) (onNet_lost event) rfl

theorem counts_run {d : ManagedDevice} {done : List DeviceMove} (kept : .discharge ∉ done) :
    ∃ last, device.run (some d) done = some last ∧ Counts d.seq (last, device.trace (some d) done) := by
  induction done generalizing d with
  | nil => exact ⟨d, rfl, 0, rfl, rfl⟩
  | cons move rest ih =>
    rw [List.mem_cons, not_or] at kept
    obtain ⟨after, moved, counted⟩ := counts_move (d := d) (Ne.symm kept.1)
    obtain ⟨last, ended, more⟩ := ih (d := after) kept.2
    have next : device.next (some d) move = some after := moved
    rw [device.run_cons, device.trace_cons, next]
    exact ⟨last, ended, counted.trans more⟩

end turns

/-- Whatever the manager does, as long as no inventory drops the device. -/
theorem device_counts (thingName : String) (s : RuntimeState) (events : List ManagerEvent) (d : ManagedDevice)
    (managed : s.devices.lookup thingName = some d)
    (kept : .discharge ∉ Projection.movesAlong manager (moves thingName) s events) :
    ∃ last, (manager.run s events).devices.lookup thingName = some last ∧
      Counts d.seq (last, (manager.trace s events).filterMap (wireOf thingName)) := by
  have projects := device_projects thingName
  rw [projects.run, projects.trace, managed]
  exact counts_run kept

def sightedManager : RuntimeState := manager.run (connectedManager "rig-1") [enlisted 10, sighted true 20]

/-- The birth fails, and the next turn repeats it. -/
def repeatedBirth : List ManagerEvent := [ticked 30 (.failed true), ticked 40 .ok]

theorem repeatedBirth_counted :
    ∃ d last, sightedManager.devices.lookup "unit-1" = some d ∧
      (manager.run sightedManager repeatedBirth).devices.lookup "unit-1" = some last ∧
      Counts d.seq (last, (manager.trace sightedManager repeatedBirth).filterMap (wireOf "unit-1")) := by
  have found : (sightedManager.devices.lookup "unit-1").isSome = true := by decide +kernel
  obtain ⟨d, managed⟩ := Option.isSome_iff_exists.mp found
  obtain ⟨last, counted⟩ := device_counts "unit-1" sightedManager repeatedBirth d managed
    (by simp [Projection.movesAlong, repeatedBirth, ticked, moves])
  exact ⟨d, last, managed, counted⟩

example : seqs ((manager.trace sightedManager repeatedBirth).filterMap (wireOf "unit-1")) = [0, 1] := by decide +kernel

end Txing.Rig.ManagerSequences
