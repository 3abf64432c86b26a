import Txing.Rig.DeviceProjection
import Txing.Rig.SparkplugHost

/-! The invariant of one device, for every run of the whole manager, and what it says about the
host after a turn of the publication loop. -/

namespace Txing.Rig.ManagerTracking
open Txing.Library Protocol DeviceSession SparkplugManager DeviceProjection Tracking
open SparkplugHost

def wire (thingName rigID : String) (events : List ManagerEvent) : List WireEvent :=
  (manager.trace (connectedManager rigID) events).filterMap (wireOf thingName)

def viewOf {View : Type} (hear : View → WireEvent → View) (start : View) (thingName rigID : String)
    (events : List ManagerEvent) : View :=
  (wire thingName rigID events).foldl hear start

variable {View : Type} (start : View) (thingName rigID : String)

theorem viewOf_append (hear : View → WireEvent → View) (first second : List ManagerEvent) :
    viewOf hear start thingName rigID (first ++ second) =
      ((manager.trace (manager.run (connectedManager rigID) first) second).filterMap (wireOf thingName)).foldl hear
        (viewOf hear start thingName rigID first) := by
  unfold viewOf wire
  rw [manager.trace_append, List.filterMap_append, List.foldl_append]

/-- What the moves of a device keep of it and of someone who hears its wire holds after every run of
the manager, if all the moves that the run asks for meet the condition. -/
theorem watched_invariant {hear : View → WireEvent → View} {calm : Option ManagedDevice → DeviceMove → Prop}
    (holds : Option ManagedDevice × View → Prop)
    (keeps : ∀ both move, holds both → calm both.1 move → holds ((device.watched hear).next both move))
    (initially : holds (none, start)) {events : List ManagerEvent}
    (along : manager.Along (fun s event => device.Along calm (s.devices.lookup thingName) (moves thingName s event))
      (connectedManager rigID) events) :
    holds ((manager.run (connectedManager rigID) events).devices.lookup thingName,
      viewOf hear start thingName rigID events) := by
  have projects := device_projects thingName
  have kept := (device.watched hear).run_invariant holds keeps initially
    (device.watched_along (projects.along along) start)
  rw [device.watched_run] at kept
  have device_run := projects.run (connectedManager rigID) events
  have device_trace := projects.trace (connectedManager rigID) events
  unfold viewOf wire
  rw [device_run, device_trace]
  exact kept

def failsFor (thingName : String) : ManagerOutput → Bool
  | .wire name event => name = thingName && event.fails
  | .nodeSubscribeFailed _ => true
  | .nodeBirth _ (.failed _) => true
  | _ => false

theorem fails_of_picked {thingName : String} {output : ManagerOutput} {heard : WireEvent}
    (picked : wireOf thingName output = some heard) : failsFor thingName output = heard.fails := by
  cases output with
  | wire name event =>
    simp only [wireOf] at picked
    split at picked
    next own =>
      cases picked
      simp [failsFor, own]
    next => cases picked
  | _ => cases picked

/-- Every loss of the device's session is followed by a reconnect whose signal is consumed. -/
def answered (managed : Option ManagedDevice) : Bool :=
  managed.all fun d => d.mqtt.all fun client => decide client.Settled

def hostView (thingName rigID : String) (events : List ManagerEvent) : HostView :=
  viewOf hear none thingName rigID events

section results
variable {event : ManagerEvent} {s : RuntimeState}

def isResultFor (thingName : String) : ManagerEvent → Bool
  | .commandResult name _ _ => name = thingName
  | _ => false

def isReport : DeviceMove → Bool
  | .report _ _ => true
  | _ => false

def isRefresh : DeviceMove → Bool
  | .enlist _ => true
  | .discharge => true
  | _ => false

theorem refreshMoves_refresh (thingName : String) (s : RuntimeState) (loaded : Except String LoadedInventory) :
    ∀ move ∈ refreshMoves thingName s loaded, isRefresh move = true := by
  unfold refreshMoves
  intro move member
  split at member
  · cases member
  · split at member
    · cases member
    · rcases List.mem_append.mp member with enlisted | dropped
      · obtain ⟨device, -, rfl⟩ := List.mem_map.mp enlisted
        rfl
      · split at dropped
        · cases dropped
        · rw [List.mem_singleton.mp dropped]
          rfl

/-- An event asks for a refresh or for at most one other thing, a report only if it is a result. -/
theorem moves_cases (thingName : String) (s : RuntimeState) (event : ManagerEvent) :
    (∀ move ∈ moves thingName s event, isRefresh move = true) ∨
      ∃ move, moves thingName s event = [move] ∧ isRefresh move = false ∧
        (isReport move = true → isResultFor thingName event = true) := by
  have nothing : ∀ move ∈ ([] : List DeviceMove), isRefresh move = true := by simp
  cases event with
  | capabilityState name decoded =>
    simp only [moves]
    split
    next state ok =>
      split
      · exact Or.inr ⟨_, rfl, rfl, fun report => by cases report⟩
      · exact Or.inl nothing
    next => exact Or.inl nothing
  | commandResult name decoded turn =>
    simp only [moves]
    split
    next result ok =>
      split
      next addressed =>
        have own : name = thingName := by simpa using (Bool.and_eq_true_iff.mp addressed).2
        exact Or.inr ⟨_, rfl, rfl, fun _ => by simp [isResultFor, own]⟩
      · exact Or.inl nothing
    next => exact Or.inl nothing
  | dcmd name decoded dueAtMS nowMS => exact Or.inl nothing
  | ncmd decoded node loaded nowMS =>
    simp only [moves, nodeMoves]
    split
    · split_ifs
      · exact Or.inl nothing
      · exact Or.inl (refreshMoves_refresh _ _ _)
      · exact Or.inr ⟨_, rfl, rfl, fun report => by cases report⟩
      · exact Or.inl nothing
    · exact Or.inl nothing
  | inventoryTick loaded nowMS => exact Or.inl (refreshMoves_refresh _ _ _)
  | publishTick node ticks =>
    simp only [moves]
    split
    · exact Or.inr ⟨_, rfl, rfl, fun report => by cases report⟩
    · exact Or.inl nothing
  | net name event =>
    simp only [moves]
    split
    · exact Or.inr ⟨_, rfl, rfl, fun report => by cases report⟩
    · exact Or.inl nothing
  | nodeConnection => exact Or.inl nothing

theorem moves_noReport {thingName : String} (other : isResultFor thingName event = false) :
    ∀ move ∈ moves thingName s event, isReport move = false := by
  intro move member
  rcases moves_cases thingName s event with refresh | ⟨only, asked, -, source⟩
  · have listed := refresh move member
    cases move <;> first | rfl | cases listed
  · rw [asked, List.mem_singleton] at member
    subst member
    rw [other] at source
    cases report : isReport move with
    | false => rfl
    | true => exact absurd (source report) (by decide)

/-- A command result for the device carries the REDCON that was last published for it. -/
def faithfulResult (thingName : String) (s : RuntimeState) : ManagerEvent → Bool
  | .commandResult name decoded turn =>
    match decodeCapabilityCommandResult decoded with
    | .ok result =>
      name ≠ thingName || (s.devices.lookup thingName).all fun d => decide (Faithful d result turn)
    | .error _ => true
  | _ => true

theorem faithful_of_other {thingName : String} (other : isResultFor thingName event = false) :
    faithfulResult thingName s event = true := by
  cases event with
  | commandResult name decoded turn =>
    have apart : name ≠ thingName := by simpa [isResultFor] using other
    simp only [faithfulResult]
    split
    · simp [apart]
    · rfl
  | _ => rfl

def FaithfulMove (managed : Option ManagedDevice) : DeviceMove → Prop
  | .report result turn => ∀ d, managed = some d → Faithful d result turn
  | _ => True

theorem faithful_moves {thingName : String} (faithful : faithfulResult thingName s event = true) :
    device.Along FaithfulMove (s.devices.lookup thingName) (moves thingName s event) := by
  cases result : isResultFor thingName event with
  | false =>
    apply device.along_of_forall
    intro move member managed
    have other := moves_noReport result move member
    cases move with
    | report answer turn => cases other
    | _ => trivial
  | true =>
    cases event with
    | commandResult name decoded turn =>
      have own : name = thingName := by simpa [isResultFor] using result
      simp only [moves]
      split
      next answer ok =>
        split
        · refine ⟨fun d managed => ?_, trivial⟩
          simpa [faithfulResult, ok, own, managed] using faithful
        · trivial
      next => trivial
    | _ => cases result

theorem tracked_of_faithful {thingName rigID : String} {events : List ManagerEvent}
    (faithful : manager.Along (fun s event => faithfulResult thingName s event = true) (connectedManager rigID)
      events) :
    Tracked host ((manager.run (connectedManager rigID) events).devices.lookup thingName,
      hostView thingName rigID events) := by
  refine watched_invariant none thingName rigID (Tracked host) (fun both move tracked calm => ?_) nofun
    (manager.along_imp (fun _ _ => faithful_moves) faithful)
  refine tracked_next host both move tracked (undisturbed_of_faithful fun d result turn managed same => ?_)
  subst same
  exact calm d managed

end results

section ticks
variable {thingName rigID} {s : RuntimeState} {node : NodeTurn} {ticks : String → DeviceTick}

theorem publishNodeOnline_fails (thingName : String) (s : RuntimeState)
    (failed : (s.publishNodeOnline node).2.2 = false) :
    ∃ output ∈ (s.publishNodeOnline node).2.1, failsFor thingName output = true := by
  have built : ∃ payload, Sparkplug.buildNodeBirthPayloadWithMetrics s.currentNodeRedcon nodeBDSeq s.nodeSeq
      node.builtAtMS [] = .ok payload := by
    unfold RuntimeState.currentNodeRedcon
    cases s.nodeRedcon <;> exact ⟨_, rfl⟩
  obtain ⟨payload, built⟩ := built
  unfold RuntimeState.publishNodeOnline at failed ⊢
  split at failed
  next error first => exact ⟨.nodeSubscribeFailed error, by simp, rfl⟩
  next error first second => exact ⟨.nodeSubscribeFailed error, by simp, rfl⟩
  next =>
    simp only [RuntimeState.publishNodeBirth, built] at failed ⊢
    cases published : node.publish with
    | ok => simp [published] at failed
    | failed delivered =>
      exact ⟨.nodeBirth payload (.failed delivered), by simp, rfl⟩

/-- Without a failed operation the turn of an active node reaches the devices. -/
theorem reaches_of_fine (active : s.commandable = false)
    (fine : ∀ output ∈ manager.emits s (.publishTick node ticks), failsFor thingName output = false) :
    reachesDevices s node = true := by
  unfold reachesDevices
  cases pending : s.nodeReconnect.pending with
  | false => simp [active]
  | true =>
    cases online : ({ s with nodeReconnect.pending := false }.publishNodeOnline node).2.2 with
    | true => simp [active]
    | false =>
      obtain ⟨output, member, fails⟩ := publishNodeOnline_fails thingName _ online
      have made : output ∈ manager.emits s (.publishTick node ticks) := by
        simp only [Reaction.emits, manager, RuntimeState.publishDeviceState, pending, if_true]
        generalize ({ s with nodeReconnect.pending := false }.publishNodeOnline node) = announced at online member
        obtain ⟨after, outputs, ok⟩ := announced
        dsimp only at online member
        subst online
        exact member
      rw [fine output made] at fails
      cases fails

theorem tick_device (ticks : String → DeviceTick) {d : ManagedDevice} (managed : s.devices.lookup thingName = some d)
    (reaches : reachesDevices s node = true) :
    (manager.next s (.publishTick node ticks)).devices.lookup thingName =
        some (d.publishDeviceState (rebirthAll s) (ticks thingName)).1 ∧
      (manager.emits s (.publishTick node ticks)).filterMap (wireOf thingName) =
        (d.publishDeviceState (rebirthAll s) (ticks thingName)).2 := by
  have projects := device_projects thingName
  have asked : moves thingName s (.publishTick node ticks) = [.tick (rebirthAll s) (ticks thingName)] := by
    simp [moves, reaches]
  constructor
  · rw [projects.next s (.publishTick node ticks), asked, managed]
    rfl
  · rw [projects.emits s (.publishTick node ticks), asked, managed]
    simp [Reaction.emits, ManagedDevice.move]

theorem fine_wire {event : ManagerEvent} (fine : ∀ output ∈ manager.emits s event, failsFor thingName output = false) :
    ∀ heard ∈ (manager.emits s event).filterMap (wireOf thingName), heard.fails = false := by
  intro heard member
  obtain ⟨output, made, picked⟩ := List.mem_filterMap.mp member
  rw [← fails_of_picked picked]
  exact fine output made

/-- The memory says what the host sees, so a turn without a failure or an open loss ends with a
host that sees the turn's snapshot. -/
theorem agrees_after_tick {events : List ManagerEvent} {d : ManagedDevice}
    (tracked : Tracked host ((manager.run (connectedManager rigID) events).devices.lookup thingName,
      hostView thingName rigID events))
    (managed : (manager.run (connectedManager rigID) events).devices.lookup thingName = some d)
    (active : (manager.run (connectedManager rigID) events).commandable = false)
    (fine : ∀ output ∈ manager.emits (manager.run (connectedManager rigID) events) (.publishTick node ticks),
      failsFor thingName output = false) (settled : answered ((manager.run (connectedManager rigID)
      (events ++ [.publishTick node ticks])).devices.lookup thingName) = true) :
    Agrees (hostView thingName rigID (events ++ [.publishTick node ticks]))
      (d.state.snapshot (ticks thingName).order (ticks thingName).decidedAtMS) := by
  obtain ⟨after, heard⟩ := tick_device ticks managed (reaches_of_fine active fine)
  have quiet := fine_wire fine
  rw [manager.run_append, manager.run_cons, manager.run_nil, after] at settled
  unfold hostView
  rw [viewOf_append, manager.trace_cons, manager.trace_nil, List.append_nil, heard]
  rw [heard] at quiet
  apply agrees_of_turn (tracked d managed) _ _ quiet
  intro client inSession
  simpa [answered, inSession] using settled

end ticks

section samples

def sampleUnit : InventoryDevice where
  thingName := "unit-1"
  thingType := "unit"
  capabilities := ["sparkplug", "thread", "power"]
  redconCommandLevels := [3, 4]
  redconRules := List.toAList [⟨3, ["sparkplug", "power"]⟩, ⟨4, ["sparkplug"]⟩]
  redconMetricRules := ∅
  levels_valid := by simp [validRedcon]

def enlisted (nowMS : UInt64) : ManagerEvent := .inventoryTick (.ok ⟨"raspi", [sampleUnit]⟩) nowMS

def sampleState (power : Bool) (observedAtMS : UInt64) : CapabilityState where
  schemaVersion := "2.0"
  adapterID := "thread"
  thingName := "unit-1"
  capabilities := List.toAList [⟨"sparkplug", true⟩, ⟨"thread", true⟩, ⟨"power", power⟩]
  metrics := ∅
  observedAtMS := observedAtMS
  seq := 0

def sighted (power : Bool) (observedAtMS : UInt64) : ManagerEvent :=
  .capabilityState "unit-1" (.ok (sampleState power observedAtMS))

def sampleTick (nowMS : UInt64) (publish : PublishOutcome) : DeviceTick :=
  ⟨.asStored, nowMS, nowMS, .ok, [], publish, []⟩

/-- A turn of the publication loop in which only the device's publish may fail. -/
def ticked (nowMS : UInt64) (publish : PublishOutcome) : ManagerEvent :=
  .publishTick ⟨none, none, .ok, nowMS⟩ fun _ => sampleTick nowMS publish

def resulted (nowMS : UInt64) : ManagerEvent :=
  .commandResult "unit-1" (.ok ⟨"2.0", "thread", "dcmd-unit-1-1", "unit-1", "succeeded", none, none, nowMS, 1⟩)
    ⟨.asStored, nowMS, nowMS, .ok⟩

end samples

end Txing.Rig.ManagerTracking
