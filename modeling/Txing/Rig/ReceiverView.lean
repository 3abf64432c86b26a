import Txing.Rig.SmoothRuns

/-! The host's view and the local one when everything on the wire succeeds. The publication memory
keeps them equal, with one exception: the `DDATA` of a command result carries the REDCON of the
moment and is not remembered, so a change that it announces and that is undone before the next turn
of the loop is never taken back. -/

namespace Txing.Rig.ReceiverView
open Protocol DeviceState DeviceSession DeviceTurns SparkplugManager DeviceProjection Tracking
open SparkplugHost ManagerTracking SmoothRuns

/-- After each turn of an active node the host sees what the snapshot of that turn says. -/
def ViewsAgree (thingName rigID : String) (events : List ManagerEvent) : Prop :=
  ∀ before node ticks after d, events = before ++ .publishTick node ticks :: after →
    (manager.run (connectedManager rigID) before).commandable = false →
    (manager.run (connectedManager rigID) before).devices.lookup thingName = some d →
    Agrees (hostView thingName rigID (before ++ [.publishTick node ticks]))
      (d.state.snapshot (ticks thingName).order (ticks thingName).decidedAtMS)

variable {thingName rigID : String}

theorem viewsAgree_of_faithful {events : List ManagerEvent} (fine : Smooth thingName rigID events)
    (faithful : manager.Along (fun s event => faithfulResult thingName s event = true) (connectedManager rigID)
      events) : ViewsAgree thingName rigID events := by
  intro before node ticks after d split active managed
  have whole : events = (before ++ [.publishTick node ticks]) ++ after := by simp [split]
  have until_tick : Smooth thingName rigID (before ++ [.publishTick node ticks]) := smooth_of_append (whole ▸ fine)
  have earlier := (manager.along_append.mp (split ▸ faithful)).1
  exact agrees_after_tick (tracked_of_faithful earlier) managed active (fine_step until_tick)
    (answered_run until_tick)

section unfaithful
variable {d : ManagedDevice} {view : HostView} {result : CapabilityCommandResult}

theorem silent_turn (tracks : Tracks host d view) (born : d.state.born = true) (rebirthAll : Bool) (tick : DeviceTick)
    (silent : (d.publishDeviceState rebirthAll tick).2 = []) :
    (d.state.snapshot tick.order tick.decidedAtMS).sparkplugAvailable = true ∧
      d.state.lastPublishedRedcon = some (d.state.snapshot tick.order tick.decidedAtMS).publishedRedcon := by
  have prepared := tracks_prepare tracks rebirthAll
  obtain ⟨client, inSession, -⟩ := tracks.live born
  have still := prepare_open inSession rebirthAll
  have turn := publishDeviceState_cases d rebirthAll tick
  rw [prepare_snapshot] at turn
  generalize d.state.snapshot tick.order tick.decidedAtMS = snapshot at turn ⊢
  generalize d.publishDeviceState rebirthAll tick = result at turn silent
  cases turn with
  | stillDown absent told =>
    -- A death that was told has closed the session, but this one is open.
    rw [(prepared.told told).1] at still
    cases still
  | unchanged present born' redcon capabilities => exact ⟨present, prepare_state born' ▸ redcon⟩
  | failed unborn untold unacked error =>
    rcases error with ⟨heard, member, -⟩ | ⟨-, closed, -⟩
    · simp only at silent
      rw [silent] at member
      cases member
    · rw [closed] at still
      cases still
  | birth => simp at silent
  | data => simp at silent
  | death => simp at silent

theorem shown_redcon {redcon shown : UInt8} {seq timestamp : UInt64} {capabilities : Capabilities}
    (shows : Shows (hear view (.message .ddata (reportPayload redcon seq timestamp (resultMetrics result)) .ok))
      shown capabilities) : shown = redcon := by
  obtain ⟨known, alive, level, -⟩ := shows
  have told : known "redcon" = some (Sparkplug.redconMetric redcon).value := by
    have same := Option.some.inj alive
    rw [← same]
    exact learn_redcon redcon seq timestamp fun metric member => (resultMetrics_names result metric member).1
  rw [level] at told
  have values : (Sparkplug.redconMetric shown).value = (Sparkplug.redconMetric redcon).value := Option.some.inj told
  exact Sparkplug.redconMetric_injective (by simp only [Sparkplug.redconMetric] at values ⊢; rw [values])

/-- The device as it was, but for its sequence number and what the adapters say about it. -/
structure Reobserved (d after : ManagedDevice) : Prop where
  session : after.mqtt = d.mqtt
  memory : ∃ adapterStates, after.state = { d.state with adapterStates := adapterStates }

theorem Reobserved.trans {between after : ManagedDevice} (first : Reobserved d between)
    (second : Reobserved between after) : Reobserved d after := by
  obtain ⟨adapterStates, stored⟩ := first.memory
  obtain ⟨later, again⟩ := second.memory
  exact ⟨second.session.trans first.session, later, by rw [again, stored]⟩

/-- A delivered report with a REDCON other than the last published one, some observations, and a pass
that finds nothing to say: the host is left with the REDCON of the report. -/
theorem disagrees_of_silent (tracks : Tracks host d view) {turn : ReportTurn} (unfaithful : ¬ Faithful d result turn)
    (sent : (d.reportResult result turn).2 ≠ []) (fine : ∀ heard ∈ (d.reportResult result turn).2, heard.fails = false)
    {after : ManagedDevice} (reobserved : Reobserved d after) {rebirthAll : Bool} {tick : DeviceTick}
    (silent : (after.publishDeviceState rebirthAll tick).2 = []) :
    ¬ Agrees ((d.reportResult result turn).2.foldl hear view) (after.state.snapshot tick.order tick.decidedAtMS) := by
  obtain ⟨born, stale⟩ := Classical.not_imp.mp (Classical.not_imp.mp unfaithful).2
  obtain ⟨adapterStates, stored⟩ := reobserved.memory
  -- The memory still describes the view before the report, which is not in it.
  have kept : Tracks host after view := by
    constructor <;> rw [stored]
    · rw [reobserved.session]
      exact tracks.told
    · rw [reobserved.session]
      exact tracks.live
    · exact tracks.keys
  obtain ⟨present, last⟩ := silent_turn kept (by rw [stored]; exact born) rebirthAll tick silent
  intro agrees
  unfold Agrees at agrees
  rw [if_pos present] at agrees
  rcases reportResult_wire d result turn with unsent | ⟨client, -, message⟩
  · exact sent unsent
  · rw [message] at agrees fine
    have delivered : client.publish turn.publish = .ok := by
      have good := fine _ List.mem_cons_self
      cases published : client.publish turn.publish with
      | ok => rfl
      | failed delivered => simp [published, WireEvent.fails] at good
    rw [delivered] at agrees
    rw [shown_redcon agrees] at last
    rw [stored] at last
    exact stale last

end unfaithful

section results
variable {s : RuntimeState} {decoded : Except String CapabilityCommandResult} {turn : ReportTurn}
  {observations : List ManagerEvent}

theorem moves_result (thingName : String) (s : RuntimeState) (decoded : Except String CapabilityCommandResult)
    (turn : ReportTurn) : moves thingName s (.commandResult thingName decoded turn) = [] ∨
    ∃ result, decodeCapabilityCommandResult decoded = .ok result ∧
      moves thingName s (.commandResult thingName decoded turn) = [.report result turn] := by
  simp only [moves]
  split
  next result ok => split_ifs <;> simp [ok]
  next => exact Or.inl rfl

/-- A command result that lets the device's wire hear something is a report of a managed device. -/
theorem reported_device
    (heard : (manager.emits s (.commandResult thingName decoded turn)).filterMap (wireOf thingName) ≠ []) :
    ∃ d result, decodeCapabilityCommandResult decoded = .ok result ∧ s.devices.lookup thingName = some d ∧
      (manager.next s (.commandResult thingName decoded turn)).devices.lookup thingName =
        some (d.reportResult result turn).1 ∧
      (manager.emits s (.commandResult thingName decoded turn)).filterMap (wireOf thingName) =
        (d.reportResult result turn).2 := by
  have left := (device_projects thingName).next s (.commandResult thingName decoded turn)
  have emitted := (device_projects thingName).emits s (.commandResult thingName decoded turn)
  rcases moves_result thingName s decoded turn with idle | ⟨result, ok, asked⟩
  · rw [emitted, idle] at heard
    exact absurd rfl heard
  · rw [asked] at left emitted
    cases managed : s.devices.lookup thingName with
    | none =>
      rw [emitted, managed] at heard
      exact absurd rfl heard
    | some d =>
      rw [managed] at left emitted
      exact ⟨d, result, ok, rfl, left, by rw [emitted]; simp [emits_some, ManagedDevice.move]⟩

def isObservation : ManagerEvent → Bool
  | .capabilityState _ _ => true
  | _ => false

theorem observation_keeps {event : ManagerEvent} {d : ManagedDevice} (observed : isObservation event = true)
    (managed : s.devices.lookup thingName = some d) :
    (∃ after, (manager.next s event).devices.lookup thingName = some after ∧ Reobserved d after) ∧
      (manager.emits s event).filterMap (wireOf thingName) = [] := by
  have left := (device_projects thingName).next s event
  rw [(device_projects thingName).emits s event, left, managed]
  cases event with
  | capabilityState name decoded =>
    have unchanged : Reobserved d d := ⟨rfl, d.state.adapterStates, rfl⟩
    simp only [moves]
    split
    next state ok =>
      split
      · obtain ⟨adapterStates, stored⟩ := observeState_keeps d.state state
        exact ⟨⟨_, rfl, rfl, adapterStates, stored⟩, rfl⟩
      · exact ⟨⟨d, rfl, unchanged⟩, rfl⟩
    next => exact ⟨⟨d, rfl, unchanged⟩, rfl⟩
  | _ => cases observed

/-- Observations change only what the adapters say about the device, and its wire hears nothing. -/
theorem observations_keep {d : ManagedDevice} (observed : ∀ event ∈ observations, isObservation event = true)
    (managed : s.devices.lookup thingName = some d) :
    (∃ after, (manager.run s observations).devices.lookup thingName = some after ∧ Reobserved d after) ∧
      (manager.trace s observations).filterMap (wireOf thingName) = [] := by
  induction observations generalizing s d with
  | nil => exact ⟨⟨d, managed, rfl, d.state.adapterStates, rfl⟩, rfl⟩
  | cons event rest ih =>
    obtain ⟨⟨between, found, first⟩, unheard⟩ := observation_keeps (observed event List.mem_cons_self) managed
    obtain ⟨⟨after, left, second⟩, silent⟩ := ih (fun event member => observed event (List.mem_cons_of_mem _ member))
      found
    refine ⟨⟨after, left, first.trans second⟩, ?_⟩
    rw [manager.trace_cons, List.filterMap_append, unheard, silent]
    rfl

theorem disagrees_after_result {events : List ManagerEvent} {node : NodeTurn} {ticks : String → DeviceTick}
    (fine : Smooth thingName rigID
      (events ++ .commandResult thingName decoded turn :: observations ++ [.publishTick node ticks]))
    (faithful : manager.Along (fun s event => faithfulResult thingName s event = true) (connectedManager rigID)
      events) (unfaithful : faithfulResult thingName (manager.run (connectedManager rigID) events)
      (.commandResult thingName decoded turn) = false) (observed : ∀ event ∈ observations, isObservation event = true)
    (active : (manager.run (connectedManager rigID)
      (events ++ .commandResult thingName decoded turn :: observations)).commandable = false)
    (heard : (manager.emits (manager.run (connectedManager rigID) events)
      (.commandResult thingName decoded turn)).filterMap (wireOf thingName) ≠ [])
    (silent : (manager.emits (manager.run (connectedManager rigID)
      (events ++ .commandResult thingName decoded turn :: observations)) (.publishTick node ticks)).filterMap
        (wireOf thingName) = []) :
    ¬ ViewsAgree thingName rigID
      (events ++ .commandResult thingName decoded turn :: observations ++ [.publishTick node ticks]) := by
  intro agree
  obtain ⟨d, result, ok, managed, left, sent⟩ := reported_device heard
  obtain ⟨seq, same⟩ := reportResult_device d result turn
  have reported : Reobserved d (d.reportResult result turn).1 := by
    rw [same]
    exact ⟨rfl, d.state.adapterStates, rfl⟩
  obtain ⟨⟨after, found, reobserved⟩, unheard⟩ := observations_keep observed left
  rw [← manager.run_cons, ← manager.run_append] at found
  have told := tick_device ticks found (reaches_of_fine active (fine_step fine))
  have agrees := agree _ node ticks [] after rfl active found
  simp only [hostView, viewOf_append, manager.trace_cons, manager.trace_nil, List.filterMap_append, silent, sent,
    unheard, List.append_nil, List.foldl_nil] at agrees
  have to_result : Smooth thingName rigID (events ++ [.commandResult thingName decoded turn] ++
      (observations ++ [.publishTick node ticks])) := by simpa using fine
  have quiet := fine_wire (fine_step (smooth_of_append to_result))
  rw [sent] at quiet heard
  rw [told.2] at silent
  apply disagrees_of_silent (tracked_of_faithful faithful d managed) _ heard quiet (reported.trans reobserved) silent
    agrees
  simpa [faithfulResult, ok, managed] using unfaithful

end results

variable (thingName rigID)

/-- In a run without failures the views agree after every turn if each command result finds the
REDCON of its snapshot published. And this is what decides it: a result that is heard, followed by
observations and a turn with nothing to say, leaves them agreeing exactly if it did. -/
theorem viewsAgree_by_results :
    (∀ events, Smooth thingName rigID events →
      manager.Along (fun s event => faithfulResult thingName s event = true) (connectedManager rigID) events →
      ViewsAgree thingName rigID events) ∧
    ∀ events observations decoded turn node ticks,
      Smooth thingName rigID
        (events ++ .commandResult thingName decoded turn :: observations ++ [.publishTick node ticks]) →
      manager.Along (fun s event => faithfulResult thingName s event = true) (connectedManager rigID) events →
      (∀ event ∈ observations, isObservation event = true) →
      (manager.run (connectedManager rigID)
        (events ++ .commandResult thingName decoded turn :: observations)).commandable = false →
      (manager.emits (manager.run (connectedManager rigID) events)
        (.commandResult thingName decoded turn)).filterMap (wireOf thingName) ≠ [] →
      (manager.emits (manager.run (connectedManager rigID)
        (events ++ .commandResult thingName decoded turn :: observations)) (.publishTick node ticks)).filterMap
          (wireOf thingName) = [] →
      (ViewsAgree thingName rigID
          (events ++ .commandResult thingName decoded turn :: observations ++ [.publishTick node ticks]) ↔
        faithfulResult thingName (manager.run (connectedManager rigID) events)
          (.commandResult thingName decoded turn) = true) := by
  refine ⟨fun events => viewsAgree_of_faithful, ?_⟩
  intro events observations decoded turn node ticks fine faithful observed active heard silent
  constructor
  · intro agree
    by_contra unfaithful
    exact disagrees_after_result fine faithful (Bool.eq_false_of_not_eq_true unfaithful) observed active heard silent
      agree
  · intro own
    apply viewsAgree_of_faithful fine
    have others : ∀ event ∈ observations ++ [.publishTick node ticks], isResultFor thingName event = false := by
      intro event member
      rcases List.mem_append.mp member with early | last
      · have observation := observed event early
        cases event <;> first | rfl | cases observation
      · rw [List.mem_singleton.mp last]
        rfl
    rw [List.append_assoc, List.cons_append]
    exact manager.along_append.mpr ⟨faithful, own,
      manager.along_of_forall (fun event member s => faithful_of_other (others event member)) _⟩

/-- A result with the REDCON of the birth; the power goes off later, and the next turn says so. -/
def announcedRun : List ManagerEvent :=
  [enlisted 10, sighted true 20, ticked 30 .ok, resulted 40, sighted false 50, ticked 60 .ok]

/-- Born at REDCON 3; the result finds the power off, which the adapter then takes back. -/
def undoneRun : List ManagerEvent :=
  [enlisted 10, sighted true 20, ticked 30 .ok, sighted false 40] ++ resulted 50 :: [sighted true 60] ++ [ticked 70 .ok]

theorem announcedRun_agrees :
    ViewsAgree "unit-1" "rig-1" announcedRun ∧
      (ViewsAgree "unit-1" "rig-1" undoneRun ↔ faithfulResult "unit-1" (manager.run (connectedManager "rig-1")
        [enlisted 10, sighted true 20, ticked 30 .ok, sighted false 40]) (resulted 50) = true) :=
  ⟨(viewsAgree_by_results "unit-1" "rig-1").1 _ (by decide +kernel) (by decide +kernel),
    (viewsAgree_by_results "unit-1" "rig-1").2 [enlisted 10, sighted true 20, ticked 30 .ok, sighted false 40]
      [sighted true 60] _ _ _ _ (by decide +kernel) (by decide +kernel) (by decide) (by decide +kernel)
      (by decide +kernel) (by decide +kernel)⟩

theorem undoneRun_disagrees : Smooth "unit-1" "rig-1" undoneRun ∧ ¬ ViewsAgree "unit-1" "rig-1" undoneRun := by
  constructor
  · decide +kernel
  intro agree
  have power_on : ((manager.run (connectedManager "rig-1") undoneRun.dropLast).devices.lookup "unit-1").map
      (fun d => ((d.state.snapshot .asStored 70).sparkplugAvailable,
        (d.state.snapshot .asStored 70).publishedRedcon)) = some (true, 3) := by decide +kernel
  obtain ⟨d, managed, snapshot⟩ := Option.map_eq_some_iff.mp power_on
  rw [Prod.mk.injEq] at snapshot
  have agrees : Agrees (hostView "unit-1" "rig-1" undoneRun) (d.state.snapshot .asStored 70) :=
    agree undoneRun.dropLast _ _ [] d rfl (by decide +kernel) managed
  unfold Agrees at agrees
  rw [if_pos snapshot.1, snapshot.2] at agrees
  obtain ⟨known, alive, level, -⟩ := agrees
  have shown : (hostView "unit-1" "rig-1" undoneRun).bind (fun known => known "redcon") =
      some (Sparkplug.redconMetric 4).value := by decide +kernel
  rw [alive, Option.bind_some, level] at shown
  exact absurd shown (by decide)

end Txing.Rig.ReceiverView
