import Txing.Rig.ManagerGoroutines
import Txing.Rig.PublicationMachine

/-! REDCON 4 is to stop the work of the devices: their sessions are closed and none counts as born. The
teardown passes over the devices while a tick that has seen REDCON 1 may still be on its way through them. -/

namespace Txing.Rig.NodeRest
open Txing.Library Protocol DeviceState DeviceSession DeviceTurns SparkplugManager ManagerGoroutines
open Process (attempts_bind attempts_pure attempts_done attempts_throw attempts_ask calls_pure calls_bind calls_ask keeps_pure)

/-- What a tick still has to finish at the device it is at: a birth that is decided and not published or reset, a
death that is decided, and the session that was opened for it. A panic leaves everything as it is. -/
inductive Focus where
  | idle
  | birth (object : ℕ)
  | death (object : ℕ)
  | closing (object : ℕ)
  | dead
  deriving DecidableEq

def Focus.of (object : ℕ) : DevicePublication → Focus
  | .birth _ _ => .birth object
  | .death => .death object
  | _ => .idle

def Focus.after (focus : Focus) : Exchange ManagerReply → Focus
  | ⟨.decidePublication object, publication⟩ => .of object publication
  | ⟨.setMQTT _, _⟩ =>
    match focus with
    | .death object => .closing object
    | _ => focus
  | ⟨.publish _ _ _, published⟩ =>
    match published, focus with
    | .panicked, _ => .dead
    | .ok, .birth _ => .idle
    | .failed, .closing object => .death object
    | _, _ => focus
  | ⟨.resetPublication _, _⟩ => .idle
  | ⟨.disconnectDeviceMQTT _, _⟩ => .idle
  | _ => focus

/-- The calls of the main loop, as far as the sessions and births of the devices depend on them. -/
def Focus.allows (focus : Focus) : ManagerCall → Prop
  | .decidePublication _ => focus = .idle
  | .resetPublication object => focus = .idle ∨ focus = .birth object ∨ focus = .death object
  | .setMQTT object => focus = .birth object ∨ focus = .death object
  | .publish object .dbirth _ => focus = .birth object
  | .publish _ .ddata _ => focus = .idle
  | .publish object .ddeath _ => focus = .death object ∨ focus = .closing object
  | .disconnectDeviceMQTT object => focus = .death object ∨ focus = .closing object
  | .setNodeRedcon _ => False
  | .lockedDevices => False
  | _ => True

def ticking : Process.Tracker ManagerReply Focus := ⟨.idle, Focus.after, Focus.allows⟩

/-- How far a teardown is: the devices it has listed and not disconnected, and the one it is about to reset. -/
structure Teardown where
  left : List ℕ
  due : Option ℕ
  deriving DecidableEq

def Teardown.after (progress : Option Teardown) : Exchange ManagerReply → Option Teardown
  | ⟨.lockedDevices, objects⟩ => some ⟨objects, none⟩
  | ⟨.disconnectDeviceMQTT object, _⟩ => progress.map fun t => ⟨t.left.filter (· ≠ object), some object⟩
  | ⟨.resetPublication _, _⟩ => progress.map fun t => ⟨t.left, none⟩
  | _ => progress

def Teardown.allows (progress : Option Teardown) : ManagerCall → Prop
  | .disconnectDeviceMQTT _ => ∃ left, progress = some ⟨left, none⟩
  | .resetPublication object => ∃ left, progress = some ⟨left, some object⟩
  | .setNodeRedcon redcon => redcon = .commandable → ∃ t, progress = some t
  | .decidePublication _ => False
  | .setMQTT _ => False
  | .publish _ _ _ => False
  | _ => True

def tearing : Process.Tracker ManagerReply (Option Teardown) := ⟨none, Teardown.after, Teardown.allows⟩

/-- At REDCON 4 nothing is left to a teardown. -/
def restOf (progress : Option Teardown) (redcon : NodeRedcon) : Option Teardown :=
  match progress with
  | some t => some t
  | none => if redcon = .commandable then some ⟨[], none⟩ else none

def focusOf (pool : ManagerPool) : Focus := ticking.summary (pool.past .mainLoop)

/-- The teardown that is under way or was completed, unless the node is active. -/
def restingOf (pool : ManagerPool) : Option Teardown :=
  restOf (tearing.summary (pool.past .callback)) pool.shared.nodeRedcon

def Managed (m : Manager) (object : ℕ) : Prop := object ∈ m.devices.entries.map (·.2)

def Spared (m : Manager) (resting : Option Teardown) (object : ℕ) : Prop :=
  Managed m object → ∀ t ∈ resting, object ∈ t.left

instance (m : Manager) (object : ℕ) : Decidable (Managed m object) :=
  inferInstanceAs (Decidable (object ∈ m.devices.entries.map (·.2)))

instance (m : Manager) (resting : Option Teardown) (object : ℕ) : Decidable (Spared m resting object) :=
  inferInstanceAs (Decidable (Managed m object → ∀ t ∈ resting, object ∈ t.left))

/-- A call that is about to open a session for a birth, or to fail to publish a death, concerns a spared device. -/
def timelyCall (m : Manager) (resting : Option Teardown) (focus : Focus) (answer : ManagerAnswer) : ManagerCall → Bool
  | .setMQTT object => decide (focus = .birth object → Spared m resting object)
  | .publish object .ddeath _ => decide (answer.publish ≠ .ok → Spared m resting object)
  | _ => true

def timely (pool : ManagerPool) : PoolEvent Input ManagerAnswer → Bool
  | .begin _ _ => true
  | .step name answer =>
    match pool.threads name with
    | none => true
    | some running =>
      match running.rest with
      | .done _ => true
      | .call request _ => timelyCall pool.shared (restingOf pool) (focusOf pool) answer request

/-- With REDCON 4 and nothing in progress, no managed device has a session or counts as born. -/
def Stopped (pool : ManagerPool) : Prop :=
  pool.shared.crashed = false → pool.shared.nodeRedcon = .commandable → (∀ name, pool.Free name) →
    ∀ thingName object d, pool.shared.devices.lookup thingName = some object →
      pool.shared.objects[object]? = some d → d.mqtt = none ∧ d.state.born = false

def Neutral : ManagerCall → Prop
  | .decidePublication _ => False
  | .resetPublication _ => False
  | .setMQTT _ => False
  | .publish _ _ _ => False
  | .disconnectDeviceMQTT _ => False
  | .setNodeRedcon _ => False
  | .lockedDevices => False
  | _ => True

section steady
variable {α β : Type}

/-- A program of neutral calls that does not panic. -/
def Steady (program : Work α) : Prop := program.run.Calls Neutral fun ended => ended.isOk = true

theorem steady_pure (value : α) : Steady (pure value : Work α) := calls_pure rfl

theorem steady_ask (request : ManagerCall) (neutral : Neutral request) : Steady (ask request) :=
  calls_bind (calls_ask request neutral) fun _ _ => calls_pure rfl

theorem steady_bind {first : Work α} {next : α → Work β} (one : Steady first) (two : ∀ value, Steady (next value)) :
    Steady (first >>= next) := by
  apply calls_bind one
  intro ended fine
  cases ended with
  | error => cases fine
  | ok value => exact two value

theorem steady_next (request : ManagerCall) (neutral : Neutral request) {next : ManagerReply request → Work β}
    (rest : ∀ reply, Steady (next reply)) : Steady (ask request >>= next) := steady_bind (steady_ask request neutral) rest

theorem enlistDevices_steady (devices : List InventoryDevice) : Steady (enlistDevices devices) := by
  induction devices with
  | nil => exact steady_pure ()
  | cons device rest ih => exact steady_next (.enlist device) trivial fun _ => ih

theorem dropDevices_steady (loaded : LoadedInventory) (snapshot : List (String × ℕ)) :
    Steady (dropDevices loaded snapshot) := by
  induction snapshot with
  | nil => exact steady_pure ()
  | cons entry rest ih =>
    unfold dropDevices
    split
    · exact ih
    · exact steady_next (.disconnectRemoved _) trivial fun _ =>
        steady_next (.deleteDevice _) trivial fun _ => ih

theorem refreshInventory_steady : Steady refreshInventory := by
  apply steady_next .currentNodeRedcon trivial
  intro redcon
  split
  · exact steady_pure ()
  apply steady_next .loadInventory trivial
  intro loaded
  split
  · exact steady_pure ()
  next loaded =>
    exact steady_bind (enlistDevices_steady _) fun _ => steady_next .deviceSnapshot trivial fun _ =>
      steady_bind (dropDevices_steady loaded _) fun _ => steady_ask (.publishInventory loaded) trivial

theorem inventoryTick_steady : Steady inventoryTick := by
  apply steady_next .currentNodeRedcon trivial
  intro redcon
  split
  · exact steady_pure ()
  · exact refreshInventory_steady

theorem publishNodeBirthAndRebirth_steady (redcon : UInt8) : Steady (publishNodeBirthAndRebirth redcon) := by
  apply steady_next (.publishNodeBirth redcon) trivial
  intro published
  split
  · exact steady_next .requestRebirth trivial fun _ => steady_pure true
  · exact steady_pure false

theorem publishNodeOnline_steady : Steady publishNodeOnline := by
  apply steady_next .subscribeNodeCommands trivial
  intro failed
  split
  · exact steady_pure false
  apply steady_next .currentNodeRedcon trivial
  intro redcon
  split
  · exact publishNodeBirthAndRebirth_steady redcon
  apply steady_next .subscribeActiveNodeWork trivial
  intro failed
  split
  · exact steady_pure false
  · exact publishNodeBirthAndRebirth_steady redcon

theorem handleCapabilityState_steady (thingName : String) (decoded : Except String CapabilityState) :
    Steady (handleCapabilityState thingName decoded) := by
  apply steady_next .currentNodeRedcon trivial
  intro redcon
  split
  · exact steady_pure ()
  split
  · exact steady_pure ()
  apply steady_next (.deviceNamed thingName) trivial
  intro found
  split
  · exact steady_pure ()
  next object => exact steady_ask (.observeState object _) trivial

theorem publishNodeBirth_steady (redcon : UInt8) : Steady (publishNodeBirth redcon) :=
  steady_next (.publishNodeBirth redcon) trivial fun _ => steady_pure ()

theorem publishNodeFailure_steady : Steady publishNodeFailure :=
  steady_next .currentNodeRedcon trivial fun _ => publishNodeBirth_steady _

end steady

theorem ask_attempts {Summary : Type} {tracker : Process.Tracker ManagerReply Summary} {failed before : Summary → Prop}
    (request : ManagerCall) {ends : ManagerReply request → Summary → Prop}
    (allowed : ∀ kept, before kept → tracker.allows kept request)
    (follows : ∀ kept, before kept → ∀ reply, ends reply (tracker.after kept ⟨request, reply⟩)) :
    Process.Attempts tracker failed before (ask request) ends :=
  attempts_ask request allowed follows

section ticks
variable {α : Type} {before : Focus → Prop}

/-- The main loop's programs end with a value or with a panic. -/
abbrev Does (before : Focus → Prop) (program : Work α) (ends : α → Focus → Prop) : Prop :=
  Process.Attempts ticking (· = .dead) before program ends

abbrev Ticks (program : Work α) : Prop := Does (· = .idle) program fun _ focus => focus = .idle

theorem Steady.does {program : Work α} (steady : Steady program) : Does before program fun _ => before := by
  apply Process.Calls.attempts steady
  · intro focus request _ neutral
    cases request <;> first | exact neutral.elim | trivial
  · intro focus request reply met neutral
    cases request <;> first | exact neutral.elim | exact met

theorem does_next {β : Type} (request : ManagerCall) (neutral : Neutral request) {next : ManagerReply request → Work β}
    {ends : β → Focus → Prop} (rest : ∀ reply, Does before (next reply) ends) : Does before (ask request >>= next) ends :=
  attempts_bind (steady_ask request neutral).does rest

section device
variable (object : ℕ) (thingName : String)

theorem resetPublication_does
    (within : ∀ focus, before focus → focus = .idle ∨ focus = .birth object ∨ focus = .death object) :
    Does before (resetPublication object) fun _ focus => focus = .idle :=
  ask_attempts (.resetPublication object) within fun _ _ _ => rfl

theorem ensure_does {ends : Bool → Focus → Prop} (allowed : ∀ focus, before focus → focus.allows (.setMQTT object))
    (opened : ∀ focus, before focus → ends true (focus.after ⟨.setMQTT object, ()⟩))
    (kept : ∀ ensured focus, before focus → ends ensured focus) : Does before (ensureDeviceMQTT object thingName) ends := by
  apply does_next (.hasMQTT object) trivial
  intro inSession
  split
  · exact attempts_pure (kept true)
  apply does_next (.connectDevice thingName) trivial
  intro connected
  split
  · exact attempts_bind (ask_attempts (.setMQTT object) allowed fun focus met _ => opened focus met) fun _ =>
      attempts_pure fun _ met => met
  · exact attempts_pure (kept false)

theorem ensure_birth :
    Does (· = .birth object) (ensureDeviceMQTT object thingName) fun _ focus => focus = .birth object := by
  apply ensure_does
  · exact fun _ met => Or.inl met
  · rintro focus rfl
    rfl
  · exact fun _ _ met => met

theorem ensure_death :
    Does (· = .death object) (ensureDeviceMQTT object thingName)
      fun ensured focus => focus = .death object ∨ ensured = true ∧ focus = .closing object := by
  apply ensure_does
  · exact fun _ met => Or.inr met
  · rintro focus rfl
    exact Or.inr ⟨rfl, rfl⟩
  · exact fun _ _ met => Or.inl met

/-- The end of a publish from the end of a program that asks for it. -/
def answered (ends : Bool → Focus → Prop) : Published → Focus → Prop
  | .ok, focus => ends true focus
  | .failed, focus => ends false focus
  | .panicked, focus => focus = .dead

/-- A publish either panics or leaves what it leaves when it succeeds or fails. -/
theorem publishOn_does {kind : MessageType} {ends : Bool → Focus → Prop} (payload : Sparkplug.Payload)
    (allowed : ∀ focus, before focus → focus.allows (.publish object kind payload))
    (succeeds : ∀ focus, before focus → ends true (focus.after ⟨.publish object kind payload, Published.ok⟩))
    (fails : ∀ focus, before focus → ends false (focus.after ⟨.publish object kind payload, Published.failed⟩)) :
    Does before (publishOn object kind payload) ends := by
  have asked : Does before (ask (.publish object kind payload)) (answered ends) := by
    apply ask_attempts (.publish object kind payload) allowed
    intro focus met published
    match published with
    | .ok => exact succeeds focus met
    | .failed => exact fails focus met
    | .panicked => rfl
  apply attempts_bind asked
  intro published
  match published with
  | .ok => exact attempts_pure fun _ met => met
  | .failed => exact attempts_pure fun _ met => met
  | .panicked => exact attempts_throw fun _ dead => dead

theorem publishDeviceReport_does {kind : MessageType} {ends : Bool → Focus → Prop} (redcon : UInt8)
    (metrics : List Sparkplug.Metric) (published : ∀ payload, Does before (publishOn object kind payload) ends)
    (unbuilt : ∀ focus, before focus → ends false focus) :
    Does before (publishDeviceReport object kind redcon metrics) ends := by
  apply does_next (.nextSeq object) trivial
  intro seq
  apply does_next .nowMS trivial
  intro timestamp
  split
  · exact attempts_pure unbuilt
  · exact published _

theorem publishBirth_does (redcon : UInt8) (metrics : List Sparkplug.Metric) :
    Does (· = .birth object) (publishDeviceReport object .dbirth redcon metrics)
      fun published focus => focus = if published then .idle else .birth object := by
  apply publishDeviceReport_does
  · intro payload
    apply publishOn_does
    · exact fun _ met => met
    · rintro focus rfl
      rfl
    · rintro focus rfl
      rfl
  · exact fun _ met => met

theorem publishData_does (redcon : UInt8) (metrics : List Sparkplug.Metric) :
    Ticks (publishDeviceReport object .ddata redcon metrics) := by
  apply publishDeviceReport_does
  · intro payload
    apply publishOn_does
    · exact fun _ met => met
    · rintro focus rfl
      rfl
    · rintro focus rfl
      rfl
  · exact fun _ met => met

theorem publishDeath_does :
    Does (fun focus => focus = .death object ∨ focus = .closing object) (publishDeath object)
      fun _ focus => focus = .idle := by
  have published : Does (fun focus => focus = .death object ∨ focus = .closing object) (publishDeviceDeath object)
      fun published focus => focus = .death object ∨ published = true ∧ focus = .closing object := by
    apply does_next (.nextSeq object) trivial
    intro seq
    apply does_next .nowMS trivial
    intro timestamp
    apply publishOn_does
    · exact fun _ met => met
    · rintro focus (rfl | rfl)
      · exact Or.inl rfl
      · exact Or.inr ⟨rfl, rfl⟩
    · rintro focus (rfl | rfl)
      · exact Or.inl rfl
      · exact Or.inl rfl
  apply attempts_bind published
  intro published
  cases published with
  | true => exact ask_attempts (.disconnectDeviceMQTT object) (fun _ met => met.imp id And.right) fun _ _ _ => rfl
  | false => exact resetPublication_does object fun _ met => Or.inr (Or.inr (met.resolve_right (by simp)))

theorem orReset_does {program : Work Bool} (does : Does before program fun done focus => if done then focus = .idle else
      focus = .idle ∨ focus = .birth object ∨ focus = .death object) :
    Does before (orReset object program) fun _ focus => focus = .idle := by
  apply attempts_bind does
  intro done
  cases done with
  | true => exact attempts_done
  | false => exact resetPublication_does object fun _ met => met

theorem carryOut_does (publication : DevicePublication) :
    Does (· = Focus.of object publication) (carryOut object thingName publication) fun _ focus => focus = .idle := by
  cases publication with
  | none => exact attempts_done
  | birth redcon metrics =>
    apply attempts_bind (ensure_birth object thingName)
    intro ensured
    split
    · apply orReset_does
      apply (publishBirth_does object redcon metrics).weaken (fun _ met => met)
      intro published focus met
      cases published with
      | true => exact met
      | false => exact Or.inr (Or.inl met)
    · exact resetPublication_does object fun _ met => Or.inr (Or.inl met)
  | data redcon metrics =>
    apply does_next (.hasMQTT object) trivial
    intro inSession
    split
    · apply orReset_does
      apply (publishData_does object redcon metrics).weaken (fun _ met => met)
      intro published focus met
      cases published with
      | true => exact met
      | false => exact Or.inl met
    · exact resetPublication_does object fun _ met => Or.inl met
  | death =>
    apply attempts_bind (ensure_death object thingName)
    intro ensured
    split
    · exact (publishDeath_does object).weaken (fun _ met => met.imp id And.right) fun _ _ met => met
    next unensured =>
      exact resetPublication_does object fun _ met => Or.inr (Or.inr (met.resolve_right fun both => unensured both.1))

theorem tickObject_does (rebirthAll : Bool) : Ticks (tickObject object thingName rebirthAll) := by
  apply does_next (.deviceReconnected object) trivial
  intro reconnected
  apply does_next (.hasMQTT object) trivial
  intro inSession
  have started : Does (· = .idle) (startOver object (inSession && (rebirthAll || reconnected)))
      fun _ focus => focus = .idle := by
    unfold startOver
    split
    · exact resetPublication_does object fun _ met => Or.inl met
    · exact attempts_done
  apply attempts_bind started
  intro _
  have decided : Does (· = .idle) (ask (.decidePublication object)) fun publication focus =>
      focus = Focus.of object publication := by
    exact ask_attempts (.decidePublication object) (fun _ met => met) fun _ _ _ => rfl
  apply attempts_bind decided
  intro publication
  exact carryOut_does object thingName publication

end device

theorem tickDevices_does (rebirthAll : Bool) (thingNames : List String) :
    Ticks (tickDevices rebirthAll thingNames) := by
  induction thingNames with
  | nil => exact attempts_done
  | cons thingName rest ih =>
    apply does_next (.deviceNamed thingName) trivial
    intro found
    split
    · exact ih
    next object => exact attempts_bind (tickObject_does object thingName rebirthAll) fun _ => ih

theorem publishDevices_does : Ticks publishDevices := by
  apply does_next .currentNodeRedcon trivial
  intro redcon
  split
  · exact attempts_done
  apply does_next .takeRebirth trivial
  intro rebirthAll
  apply does_next .rangeDevices trivial
  intro thingNames
  exact tickDevices_does rebirthAll thingNames

theorem publishDeviceState_does : Ticks publishDeviceState := by
  apply does_next .nodeReconnected trivial
  intro reconnected
  split
  · apply attempts_bind publishNodeOnline_steady.does
    intro online
    cases online with
    | true => exact publishDevices_does
    | false => exact (steady_ask .retryNodeReconnect trivial).does
  · exact publishDevices_does

theorem handleCommandResult_does (thingName : String) (decoded : Except String CapabilityCommandResult) :
    Ticks (handleCommandResult thingName decoded) := by
  apply does_next .currentNodeRedcon trivial
  intro redcon
  split
  · exact attempts_done
  split
  · exact attempts_done
  apply does_next (.deviceNamed thingName) trivial
  intro found
  split
  · exact attempts_done
  next object =>
    apply does_next (.hasMQTT object) trivial
    intro inSession
    split
    · apply does_next (.snapshotRedcon object) trivial
      intro redcon
      exact attempts_bind (publishData_does object redcon _) fun _ => attempts_done
    · exact attempts_done

theorem turn_does (turn : MainTurn) : Ticks turn.work := by
  cases turn with
  | publishTick => exact publishDeviceState_does
  | inventoryTick => exact inventoryTick_steady.does
  | capabilityState thingName decoded => exact (handleCapabilityState_steady thingName decoded).does
  | commandResult thingName decoded => exact handleCommandResult_does thingName decoded

end ticks

section teardown
variable {α : Type} {before : Option Teardown → Prop}

/-- The callback's programs do not panic. -/
abbrev Runs (before : Option Teardown → Prop) (program : Work α) (ends : α → Option Teardown → Prop) : Prop :=
  Process.Attempts tearing (fun _ => False) before program ends

theorem Steady.runs {program : Work α} (steady : Steady program) : Runs before program fun _ => before := by
  apply Process.Calls.attempts steady
  · intro progress request _ neutral
    cases request <;> first | exact neutral.elim | trivial
  · intro progress request reply met neutral
    cases request <;> first | exact neutral.elim | exact met

/-- What is left is among the devices that the loop has before it. -/
def Ahead (objects : List ℕ) (due : Option ℕ) (progress : Option Teardown) : Prop :=
  ∃ left, progress = some ⟨left, due⟩ ∧ ∀ object ∈ left, object ∈ objects

theorem disconnect_runs (object : ℕ) (rest : List ℕ) :
    Runs (Ahead (object :: rest) none) (ask (.disconnectDeviceMQTT object)) fun _ => Ahead rest (some object) := by
  apply ask_attempts (.disconnectDeviceMQTT object)
  · rintro progress ⟨left, rfl, -⟩
    exact ⟨left, rfl⟩
  · rintro progress ⟨left, rfl, inside⟩ reply
    refine ⟨_, rfl, ?_⟩
    intro other member
    have kept := List.mem_filter.mp member
    exact (List.mem_cons.mp (inside other kept.1)).resolve_left (of_decide_eq_true kept.2)

theorem reset_runs (object : ℕ) (rest : List ℕ) :
    Runs (Ahead rest (some object)) (resetPublication object) fun _ => Ahead rest none := by
  apply ask_attempts (.resetPublication object)
  · rintro progress ⟨left, rfl, -⟩
    exact ⟨left, rfl⟩
  · rintro progress ⟨left, rfl, inside⟩ reply
    exact ⟨left, rfl, inside⟩

theorem tearDown_runs (objects : List ℕ) :
    Runs (Ahead objects none) (tearDown objects) fun _ progress => progress = some ⟨[], none⟩ := by
  induction objects with
  | nil =>
    apply attempts_pure
    rintro progress ⟨left, rfl, inside⟩
    rw [List.eq_nil_iff_forall_not_mem.mpr fun object member => List.not_mem_nil (inside object member)]
  | cons object rest ih =>
    exact attempts_bind (disconnect_runs object rest) fun _ =>
      attempts_bind (reset_runs object rest) fun _ => ih

theorem teardownActiveNodeWork_runs :
    Runs before teardownActiveNodeWork fun _ progress => progress = some ⟨[], none⟩ := by
  apply attempts_bind (steady_ask .unsubscribeActiveNodeWork trivial).runs
  intro _
  have listed : Runs before (ask .lockedDevices) fun objects => Ahead objects none := by
    apply ask_attempts .lockedDevices (fun _ _ => trivial)
    intro progress _ objects
    exact ⟨objects, rfl, fun _ member => member⟩
  exact attempts_bind listed fun objects => tearDown_runs objects

theorem setNodeRedcon_runs (redcon : NodeRedcon)
    (torn : ∀ progress, before progress → redcon = .commandable → ∃ t, progress = some t) :
    Runs before (ask (.setNodeRedcon redcon)) fun _ => before :=
  ask_attempts (.setNodeRedcon redcon) torn fun _ met _ => met

theorem enterNodeRedconCommandable_runs :
    Runs before enterNodeRedconCommandable fun _ progress => progress = some ⟨[], none⟩ := by
  apply attempts_bind teardownActiveNodeWork_runs
  intro _
  apply attempts_bind (setNodeRedcon_runs .commandable _)
  · intro _
    exact (publishNodeBirth_steady _).runs
  · exact fun _ met _ => ⟨_, met⟩

theorem enterNodeRedconActive_runs : Runs before enterNodeRedconActive fun _ => before := by
  apply attempts_bind (steady_ask .subscribeActiveNodeWork trivial).runs
  intro failed
  split
  · exact publishNodeFailure_steady.runs
  apply attempts_bind (setNodeRedcon_runs .active (fun _ _ same => by cases same))
  intro _
  exact attempts_bind (publishNodeBirth_steady _).runs fun _ => refreshInventory_steady.runs

theorem handleNodeCommand_runs (decoded : Except String Sparkplug.Payload) :
    Runs (· = none) (handleNodeCommand decoded) fun _ progress =>
      progress = none ∨ progress = some ⟨[], none⟩ := by
  unfold handleNodeCommand
  split
  · exact attempts_pure fun _ met => Or.inl met
  split
  · exact enterNodeRedconActive_runs.weaken (fun _ met => met) fun _ _ met => Or.inl met
  split
  · exact enterNodeRedconCommandable_runs.weaken (fun _ met => met) fun _ _ met => Or.inr met
  · exact publishNodeFailure_steady.runs.weaken (fun _ met => met) fun _ _ met => Or.inl met

end teardown

def contract : (name : Goroutine) → Input name → Contract ManagerReply (Except Panic Unit)
  | .mainLoop, _ => ticking.contract (Process.ended (· = .dead) fun _ focus => focus = .idle)
  | .callback, _ => tearing.contract (Process.ended (fun _ => False) fun _ progress =>
      progress = none ∨ progress = some ⟨[], none⟩)

theorem goroutines_keep (name : Goroutine) (input : Input name) :
    (goroutines.program name input).Keeps (contract name input) [] := by
  cases name with
  | mainLoop => exact turn_does input [] rfl
  | callback => exact handleNodeCommand_runs input [] rfl

section devices
variable {change : ManagedDevice → ManagedDevice} {d : ManagedDevice} {t : Teardown}

theorem managed_iff {m : Manager} {object : ℕ} :
    Managed m object ↔ ∃ thingName, m.devices.lookup thingName = some object := by
  unfold Managed
  rw [List.mem_map]
  constructor
  · rintro ⟨⟨thingName, found⟩, member, rfl⟩
    exact ⟨thingName, AList.mem_lookup_iff.mpr member⟩
  · rintro ⟨thingName, found⟩
    exact ⟨⟨thingName, object⟩, AList.mem_lookup_iff.mp found, rfl⟩

/-- A device that a teardown has passed has a session only while a tick is closing it again, and counts as born
only until the tick or the teardown resets it. -/
def Calm (focus : Focus) (t : Teardown) (object : ℕ) (d : ManagedDevice) : Prop :=
  (d.mqtt.isSome = true → focus = .closing object) ∧ (d.state.born = true → focus = .birth object ∨ t.due = some object)

def Rested (m : Manager) (focus : Focus) (resting : Option Teardown) : Prop :=
  ∀ t, resting = some t → ∀ object d, Managed m object → m.objects[object]? = some d → object ∉ t.left → Calm focus t object d

variable {m : Manager} {focus : Focus} {resting : Option Teardown} {object : ℕ}

theorem changed {other : ℕ} (found : (m.changeObject object change).objects[other]? = some d) :
    other ≠ object ∧ m.objects[other]? = some d ∨ other = object ∧ ∃ old, m.objects[object]? = some old ∧ d = change old := by
  have modified : (m.objects.modify object change)[other]? = some d := found
  rw [List.getElem?_modify] at modified
  obtain ⟨old, present, same⟩ := Option.map_eq_some_iff.mp modified
  by_cases apart : object = other
  · subst apart
    exact Or.inr ⟨rfl, old, present, by simpa using same.symm⟩
  · rw [if_neg apart] at same
    exact Or.inl ⟨Ne.symm apart, same ▸ present⟩

/-- One object changes: the others stay calm, and so does it. -/
theorem rested_change (rested : Rested m focus resting) {next : Focus} {later : Option Teardown}
    (away : ∀ t, later = some t → ∃ before, resting = some before ∧ ∀ other ≠ object, other ∉ t.left → other ∉ before.left ∧
      ∀ d, Calm focus before other d → Calm next t other d)
    (here : ∀ t, later = some t → Managed m object → object ∉ t.left → ∀ d, m.objects[object]? = some d →
      Calm next t object (change d)) :
    Rested (m.changeObject object change) next later := by
  intro t member other d managed found outside
  rcases changed found with ⟨apart, same⟩ | ⟨rfl, old, present, rfl⟩
  · obtain ⟨before, earlier, keeps⟩ := away t member
    exact (keeps other apart outside).2 d (rested before earlier other d managed same (keeps other apart outside).1)
  · exact here t member managed outside old present

theorem rested_tick (rested : Rested m focus resting) {next : Focus}
    (away : ∀ t, resting = some t → ∀ other ≠ object, ∀ d, Calm focus t other d → Calm next t other d)
    (here : ∀ t, resting = some t → Managed m object → object ∉ t.left → ∀ d, m.objects[object]? = some d →
      Calm focus t object d → Calm next t object (change d)) :
    Rested (m.changeObject object change) next resting := by
  apply rested_change rested
  · intro t member
    exact ⟨t, member, fun other apart outside => ⟨outside, away t member other apart⟩⟩
  · intro t member managed outside d present
    exact here t member managed outside d present (rested t member object d managed present outside)

theorem Calm.lower {lower : ManagedDevice} (calm : Calm focus t object d)
    (session : lower.mqtt.isSome = true → d.mqtt.isSome = true) (born : lower.state.born = true → d.state.born = true) :
    Calm focus t object lower :=
  ⟨fun inSession => calm.1 (session inSession), fun isBorn => calm.2 (born isBorn)⟩

theorem rested_lower (rested : Rested m focus resting)
    (session : ∀ d, (change d).mqtt.isSome = true → d.mqtt.isSome = true)
    (born : ∀ d, (change d).state.born = true → d.state.born = true) :
    Rested (m.changeObject object change) focus resting :=
  rested_tick rested (fun _ _ _ _ _ calm => calm) fun _ _ _ _ d _ calm => calm.lower (session d) (born d)

theorem idle_calm (calm : Calm .idle t object d) :
    d.mqtt.isSome = false ∧ (d.state.born = true → t.due = some object) := by
  refine ⟨?_, fun born => (calm.2 born).resolve_left (by simp)⟩
  cases inSession : d.mqtt.isSome with
  | false => rfl
  | true => cases calm.1 inSession

/-- Nothing is in the way of another focus when the tick is not at the device. -/
theorem Calm.apart {other : ℕ} {next : Focus} (calm : Calm focus t other d) (unclosing : focus ≠ .closing other)
    (unborn : focus ≠ .birth other) : Calm next t other d :=
  ⟨fun inSession => absurd (calm.1 inSession) unclosing, fun born => Or.inr ((calm.2 born).resolve_left unborn)⟩

theorem decided_born (d : DeviceRuntimeState) (order : RangeOrder) (nowMS : UInt64)
    (born : (d.decidePublication order nowMS).1.born = true) :
    Focus.of object (d.decidePublication order nowMS).2 = .birth object ∨ d.born = true := by
  have cases := d.decideOn_cases (d.snapshot order nowMS)
  unfold DeviceRuntimeState.decidePublication at born ⊢
  generalize d.decideOn (d.snapshot order nowMS) = decided at cases born
  cases cases with
  | stillDown => cases born
  | death => cases born
  | birth => exact Or.inl rfl
  | data _ isBorn => exact Or.inr isBorn
  | unchanged _ isBorn => exact Or.inr isBorn

theorem decide_rested (rested : Rested m .idle resting) (answer : ManagerAnswer) :
    Rested (m.decidePublication object answer).1
      (Focus.of object (m.decidePublication object answer).2) resting := by
  unfold Manager.decidePublication
  split
  · exact rested
  next decider present =>
    apply rested_tick rested
    · intro t _ other _ d calm
      exact calm.apart (by simp) (by simp)
    · intro t _ _ _ d same calm
      have settled := idle_calm calm
      rw [← Option.some.inj (present.symm.trans same)] at settled ⊢
      refine ⟨fun inSession => ?_, fun born => ?_⟩
      · rw [show decider.mqtt.isSome = true from inSession] at settled
        cases settled.1
      · exact (decided_born decider.state answer.order answer.nowMS born).imp id settled.2

theorem reset_rested (rested : Rested m focus resting)
    (allowed : focus = .idle ∨ focus = .birth object ∨ focus = .death object) :
    Rested (m.changeObject object (·.resetPublication)) .idle resting := by
  apply rested_tick rested
  · intro t _ other apart d calm
    rcases allowed with rfl | rfl | rfl
    · exact calm
    · exact calm.apart (by simp) (by simpa using Ne.symm apart)
    · exact calm.apart (by simp) (by simp)
  · intro t _ _ _ d _ calm
    refine ⟨fun inSession => ?_, fun born => ?_⟩
    · have closing := calm.1 inSession
      rcases allowed with rfl | rfl | rfl <;> cases closing
    · cases born

theorem setMQTT_rested (rested : Rested m focus resting) (allowed : focus = .birth object ∨ focus = .death object)
    (spared : focus = .birth object → Spared m resting object) (reply : ManagerReply (.setMQTT object)) :
    Rested (m.changeObject object fun d => { d with mqtt := some newConnectedDeviceMQTT })
      (focus.after ⟨.setMQTT object, reply⟩) resting := by
  apply rested_tick rested
  · intro t _ other apart d calm
    rcases allowed with rfl | rfl
    · exact calm
    · exact calm.apart (by simp) (by simp)
  · intro t member managed outside d _ calm
    rcases allowed with rfl | rfl
    · exact absurd (spared rfl managed t member) outside
    · refine ⟨fun _ => rfl, fun born => ?_⟩
      exact Or.inr ((calm.2 born).resolve_left (by simp))

theorem disconnect_state (d : ManagedDevice) : d.disconnectDeviceMQTT.1.state = d.state := by
  unfold ManagedDevice.disconnectDeviceMQTT
  split <;> rfl

theorem disconnect_rested (rested : Rested m focus resting)
    (allowed : focus = .death object ∨ focus = .closing object) :
    Rested (m.changeObject object fun d => d.disconnectDeviceMQTT.1) .idle resting := by
  apply rested_tick rested
  · intro t _ other apart d calm
    rcases allowed with rfl | rfl
    · exact calm.apart (by simp) (by simp)
    · exact calm.apart (by simpa using Ne.symm apart) (by simp)
  · intro t _ _ _ d _ calm
    refine ⟨fun inSession => ?_, fun born => ?_⟩
    · rw [disconnect_closed] at inSession
      cases inSession
    · rw [disconnect_state] at born
      refine Or.inr ((calm.2 born).resolve_left ?_)
      rcases allowed with rfl | rfl <;> simp

theorem replaceInventory_born (d : DeviceRuntimeState) (device : InventoryDevice)
    (born : (d.replaceInventory device).born = true) : d.born = true := by
  unfold DeviceRuntimeState.replaceInventory at born
  split at born
  · cases born
  · exact born

theorem enlist_rested (rested : Rested m focus resting) (device : InventoryDevice) :
    Rested (m.enlist device) focus resting := by
  unfold Manager.enlist
  split
  next absent =>
    intro t member object d managed present outside
    rw [List.getElem?_append] at present
    split at present
    next earlier =>
      apply rested t member object d _ present outside
      obtain ⟨entry, found, same⟩ := List.mem_map.mp managed
      rcases List.mem_cons.mp found with rfl | kept
      · exact absurd same (Nat.ne_of_gt earlier)
      · exact List.mem_map.mpr ⟨entry, (List.kerase_sublist _ _).subset kept, same⟩
    next =>
      rw [List.mem_singleton.mp (List.mem_of_getElem? present)]
      refine ⟨fun inSession => ?_, fun born => ?_⟩
      · cases inSession
      · cases born
  next known found =>
    exact rested_lower rested (fun _ inSession => inSession) fun d born => replaceInventory_born d.state device born

theorem delete_rested (rested : Rested m focus resting) (thingName : String) :
    Rested { m with devices := m.devices.erase thingName } focus resting := by
  intro t member object d managed present outside
  apply rested t member object d _ present outside
  obtain ⟨entry, found, same⟩ := List.mem_map.mp managed
  exact List.mem_map.mpr ⟨entry, (List.kerase_sublist _ _).subset found, same⟩

end devices

section calls
variable {m : Manager} {focus : Focus} {resting progress : Option Teardown} {request : ManagerCall} {answer : ManagerAnswer}

theorem enlist_eq (m : Manager) (device : InventoryDevice) : ∃ devices objects,
    m.enlist device = { m with devices := devices, objects := objects } := by
  unfold Manager.enlist
  split
  · exact ⟨_, _, rfl⟩
  · exact ⟨_, _, rfl⟩

theorem decide_eq (m : Manager) (object : ℕ) (answer : ManagerAnswer) :
    ∃ objects, (m.decidePublication object answer).1 = { m with objects := objects } := by
  unfold Manager.decidePublication
  split
  · exact ⟨_, rfl⟩
  · exact ⟨_, rfl⟩

theorem serve_alive (alive : (m.serve request answer).1.crashed = false) : m.crashed = false := by
  cases request with
  | enlist device =>
    obtain ⟨devices, objects, same⟩ := enlist_eq m device
    rwa [show (m.serve (.enlist device) answer).1 = _ from same] at alive
  | decidePublication object =>
    obtain ⟨objects, same⟩ := decide_eq m object answer
    rwa [show (m.serve (.decidePublication object) answer).1 = _ from same] at alive
  | publish object kind payload =>
    have published : (m.publish object answer.publish).1.crashed = false := alive
    unfold Manager.publish at published
    split at published
    · exact published
    · cases published
  | _ => exact alive

theorem serve_crashed (crashed : m.crashed = true) : (m.serve request answer).1.crashed = true := by
  cases after : (m.serve request answer).1.crashed with
  | true => rfl
  | false => cases crashed.symm.trans (serve_alive after)

theorem neutral_redcon (neutral : Neutral request) : (m.serve request answer).1.nodeRedcon = m.nodeRedcon := by
  cases request with
  | enlist device =>
    obtain ⟨devices, objects, same⟩ := enlist_eq m device
    rw [show (m.serve (.enlist device) answer).1 = _ from same]
  | setNodeRedcon => exact neutral.elim
  | decidePublication => exact neutral.elim
  | publish => exact neutral.elim
  | _ => rfl

theorem neutral_rested (neutral : Neutral request) (rested : Rested m focus resting) :
    Rested (m.serve request answer).1 focus resting := by
  cases request with
  | enlist device => exact enlist_rested rested device
  | deleteDevice thingName => exact delete_rested rested thingName
  | nextSeq object => exact rested_lower rested (fun _ inSession => inSession) fun _ born => born
  | observeState object state =>
    refine rested_lower rested (fun _ inSession => inSession) ?_
    intro d born
    obtain ⟨states, same⟩ := PublicationMachine.observeState_memory d.state state
    rwa [same] at born
  | decidePublication => exact neutral.elim
  | resetPublication => exact neutral.elim
  | setMQTT => exact neutral.elim
  | publish => exact neutral.elim
  | disconnectDeviceMQTT => exact neutral.elim
  | setNodeRedcon => exact neutral.elim
  | _ => exact rested

variable (rested : Rested m focus resting)
include rested

theorem rested_refocus {next : Focus}
    (calmer : ∀ t, resting = some t → ∀ object d, Managed m object → m.objects[object]? = some d → object ∉ t.left →
      Calm focus t object d → Calm next t object d) : Rested m next resting :=
  fun t member object d managed present outside =>
    calmer t member object d managed present outside (rested t member object d managed present outside)

theorem publish_rested {object : ℕ} {kind : MessageType} {payload : Sparkplug.Payload} {outcome : PublishOutcome}
    (alive : (m.publish object outcome).1.crashed = false) (allowed : focus.allows (.publish object kind payload))
    (spared : kind = .ddeath → outcome ≠ .ok → Spared m resting object) :
    Rested (m.publish object outcome).1
      (focus.after ⟨.publish object kind payload, (m.publish object outcome).2⟩) resting := by
  unfold Manager.publish at alive ⊢
  split at alive
  next inSession =>
    rw [if_pos inSession]
    cases kind with
    | dbirth =>
      have birth : focus = .birth object := allowed
      subst birth
      split
      · refine rested_refocus rested ?_
        intro t _ other d _ present _ calm
        by_cases same : other = object
        · subst same
          unfold Manager.hasMQTT at inSession
          rw [present] at inSession
          cases calm.1 inSession
        · exact calm.apart (by simp) (by simpa using Ne.symm same)
      · exact rested
    | ddata =>
      have idle : focus = .idle := allowed
      subst idle
      split <;> exact rested
    | ddeath =>
      rcases (allowed : focus = .death object ∨ focus = .closing object) with rfl | rfl
      · split <;> exact rested
      · split
        · exact rested
        next failed =>
          refine rested_refocus rested ?_
          intro t member other d managed _ outside calm
          by_cases same : other = object
          · subst same
            exact absurd (spared rfl failed managed t member) outside
          · exact calm.apart (by simpa using Ne.symm same) (by simp)
  next => cases alive

theorem main_rested (alive : (m.serve request answer).1.crashed = false)
    (allowed : focus.allows request) (timely : timelyCall m resting focus answer request = true) :
    Rested (m.serve request answer).1 (focus.after ⟨request, (m.serve request answer).2⟩) resting := by
  cases request with
  | decidePublication object =>
    have idle : focus = .idle := allowed
    subst idle
    exact decide_rested rested answer
  | resetPublication object => exact reset_rested rested allowed
  | setMQTT object => exact setMQTT_rested rested allowed (of_decide_eq_true timely) ()
  | publish object kind payload =>
    apply publish_rested rested alive allowed
    rintro rfl
    exact of_decide_eq_true timely
  | disconnectDeviceMQTT object => exact disconnect_rested rested allowed
  | setNodeRedcon => exact allowed.elim
  | lockedDevices => exact allowed.elim
  | _ => exact neutral_rested trivial rested

omit rested

theorem teardown_disconnect {object : ℕ} {left : List ℕ} (rested : Rested m focus (some ⟨left, none⟩)) :
    Rested (m.changeObject object fun d => d.disconnectDeviceMQTT.1) focus
      (some ⟨left.filter (· ≠ object), some object⟩) := by
  apply rested_change rested
  · rintro t ⟨⟩
    refine ⟨⟨left, none⟩, rfl, ?_⟩
    intro other apart outside
    refine ⟨fun inside => outside (List.mem_filter.mpr ⟨inside, by simpa using apart⟩), ?_⟩
    intro d calm
    exact ⟨calm.1, fun born => Or.inl ((calm.2 born).resolve_right (by simp))⟩
  · rintro t ⟨⟩ _ _ d _
    refine ⟨fun inSession => ?_, fun _ => Or.inr rfl⟩
    rw [disconnect_closed] at inSession
    cases inSession

theorem teardown_reset {object : ℕ} {left : List ℕ} (rested : Rested m focus (some ⟨left, some object⟩)) :
    Rested (m.changeObject object (·.resetPublication)) focus (some ⟨left, none⟩) := by
  apply rested_change rested
  · rintro t ⟨⟩
    refine ⟨⟨left, some object⟩, rfl, ?_⟩
    intro other apart outside
    refine ⟨outside, ?_⟩
    intro d calm
    exact ⟨calm.1, fun born => Or.inl ((calm.2 born).resolve_right (by simpa using Ne.symm apart))⟩
  · rintro t ⟨⟩ managed outside d present
    refine ⟨(rested _ rfl object d managed present outside).1, fun born => ?_⟩
    cases born

theorem callback_rested (rested : Rested m focus (restOf progress m.nodeRedcon))
    (allowed : Teardown.allows progress request) :
    Rested (m.serve request answer).1 focus
      (restOf (Teardown.after progress ⟨request, (m.serve request answer).2⟩) (m.serve request answer).1.nodeRedcon) := by
  cases request with
  | lockedDevices =>
    rintro t ⟨⟩ object d managed _ outside
    exact absurd managed outside
  | disconnectDeviceMQTT object =>
    obtain ⟨left, rfl⟩ := allowed
    exact teardown_disconnect rested
  | resetPublication object =>
    obtain ⟨left, rfl⟩ := allowed
    exact teardown_reset rested
  | setNodeRedcon redcon =>
    cases progress with
    | some t => exact rested
    | none =>
      have awake : redcon ≠ .commandable := fun same => by
        obtain ⟨t, torn⟩ := allowed same
        cases torn
      intro t member
      rw [show restOf _ _ = if redcon = .commandable then some ⟨[], none⟩ else none from rfl, if_neg awake] at member
      cases member
  | decidePublication => exact allowed.elim
  | setMQTT => exact allowed.elim
  | publish => exact allowed.elim
  | enlist device =>
    rw [neutral_redcon (show Neutral (.enlist device) from trivial)]
    exact enlist_rested rested device
  | _ => exact neutral_rested trivial rested

end calls

section runs
variable {focus : Focus}

/-- What every reachable state satisfies: a main loop that has panicked has taken the process with it, and in a
process that is alive the devices that a teardown has passed are at rest. -/
structure Sound (pool : ManagerPool) : Prop where
  dead : focusOf pool = .dead → pool.shared.crashed = true
  rested : pool.shared.crashed = false → Rested pool.shared (focusOf pool) (restingOf pool)

theorem startedPool_sound : Sound startedPool := by
  refine ⟨?_, ?_⟩
  · intro dead
    cases dead
  · intro _ t resting
    cases resting

variable {pool : ManagerPool} {name : Goroutine} (lawful : Site.Lawful contract pool)
include lawful

theorem free_ends (free : pool.Free name) :
    pool.threads name = none ∨ ∃ running result, pool.threads name = some running ∧
      (contract name running.input).ends running.past result := by
  cases found : pool.threads name with
  | none => exact Or.inl rfl
  | some running =>
    have finished := free running found
    have kept := lawful name running found
    cases program : running.rest with
    | call request resume =>
      rw [program] at finished
      cases finished
    | done result =>
      rw [program] at kept
      exact Or.inr ⟨running, result, rfl, (keeps_pure result).mp kept⟩

theorem main_free (free : pool.Free .mainLoop) : focusOf pool = .idle ∨ focusOf pool = .dead := by
  unfold focusOf
  rcases free_ends lawful free with absent | ⟨running, result, found, ends⟩
  · left
    unfold Pool.past
    rw [absent]
    rfl
  · rw [pool.past_running _ found]
    cases result with
    | ok => exact Or.inl ends
    | error => exact Or.inr ends

theorem callback_free (free : pool.Free .callback) :
    tearing.summary (pool.past .callback) = none ∨ tearing.summary (pool.past .callback) = some ⟨[], none⟩ := by
  rcases free_ends lawful free with absent | ⟨running, result, found, ends⟩
  · left
    unfold Pool.past
    rw [absent]
    rfl
  · rw [pool.past_running _ found]
    cases result with
    | ok => exact ends
    | error => exact ends.elim

/-- With nothing in progress on the callback, REDCON 4 leaves no device to a teardown. -/
theorem resting_free (free : pool.Free .callback)
    (asleep : pool.shared.nodeRedcon = .commandable) : restingOf pool = some ⟨[], none⟩ := by
  unfold restingOf restOf
  rcases callback_free lawful free with idle | torn
  · rw [idle, asleep]
    rfl
  · rw [torn]

omit lawful

theorem sound_began (sound : Sound pool) (lawful : Site.Lawful contract pool) (free : pool.Free name)
    (input : Input name) : Sound (pool.start name input (goroutines.program name input)) := by
  cases name with
  | mainLoop =>
    have idle : focusOf (pool.start .mainLoop input (goroutines.program .mainLoop input)) = .idle := by
      unfold focusOf
      rw [Pool.past_start]
      rfl
    refine ⟨fun dead => ?_, fun alive => ?_⟩
    · rw [idle] at dead
      cases dead
    · have settled : focusOf pool = .idle := by
        refine (main_free lawful free).resolve_right fun dead => ?_
        cases (sound.dead dead).symm.trans alive
      rw [idle, ← settled]
      unfold restingOf
      rw [Pool.past_start_of_ne (by decide)]
      exact sound.rested alive
  | callback =>
    have same : focusOf (pool.start .callback input (goroutines.program .callback input)) = focusOf pool := by
      unfold focusOf
      rw [Pool.past_start_of_ne (by decide)]
    refine ⟨fun dead => sound.dead (same ▸ dead), fun alive t resting => ?_⟩
    rw [same]
    unfold restingOf at resting
    rw [Pool.past_start] at resting
    by_cases asleep : pool.shared.nodeRedcon = .commandable
    · apply sound.rested alive t
      rw [resting_free lawful free asleep, ← resting]
      exact (if_pos asleep).symm
    · cases (if_neg asleep).symm.trans resting

theorem published_dead {object : ℕ} {kind : MessageType} {payload : Sparkplug.Payload} {published : Published}
    (dead : focus.after ⟨.publish object kind payload, published⟩ = .dead) :
    focus = .dead ∨ published = .panicked := by
  cases published with
  | panicked => exact Or.inr rfl
  | ok => cases focus <;> first | exact Or.inl rfl | cases dead
  | failed => cases focus <;> first | exact Or.inl rfl | cases dead

variable {answer : ManagerAnswer} {request : ManagerCall}

theorem after_dead {m : Manager} (dead : focus.after ⟨request, (m.serve request answer).2⟩ = .dead) :
    focus = .dead ∨ (m.serve request answer).1.crashed = true := by
  cases request with
  | decidePublication object =>
    have decided : Focus.of object (m.decidePublication object answer).2 = .dead := dead
    cases publication : (m.decidePublication object answer).2 <;> rw [publication] at decided <;> cases decided
  | setMQTT object => cases focus <;> first | exact Or.inl rfl | cases dead
  | publish object kind payload =>
    refine (published_dead dead).imp id fun panicked => ?_
    have outcome : (m.publish object answer.publish).2 = .panicked := panicked
    show (m.publish object answer.publish).1.crashed = true
    unfold Manager.publish at outcome ⊢
    split at outcome
    · split at outcome <;> cases outcome
    next closed => rw [if_neg closed]
  | resetPublication => cases dead
  | disconnectDeviceMQTT => cases dead
  | _ => exact Or.inl dead

theorem main_redcon {m : Manager} (allowed : focus.allows request) :
    (m.serve request answer).1.nodeRedcon = m.nodeRedcon := by
  cases request with
  | decidePublication object =>
    obtain ⟨objects, same⟩ := decide_eq m object answer
    rw [show (m.serve (.decidePublication object) answer).1 = _ from same]
  | publish object kind payload =>
    show (m.publish object answer.publish).1.nodeRedcon = m.nodeRedcon
    unfold Manager.publish
    split <;> rfl
  | setNodeRedcon => exact allowed.elim
  | enlist device => exact neutral_redcon (show Neutral (.enlist device) from trivial)
  | _ => rfl

theorem sound_made {running : Running (Input name) ManagerReply (Except Panic Unit)}
    {resume : ManagerReply request → Process ManagerCall ManagerReply (Except Panic Unit)}
    (sound : Sound pool) (found : pool.threads name = some running) (due : running.rest = .call request resume)
    (asked : (contract name running.input).asks running.past request) (fine : timely pool (.step name answer) = true) :
    Sound (pool.advance name running ⟨request, (pool.shared.serve request answer).2⟩
      (pool.shared.serve request answer).1 (resume (pool.shared.serve request answer).2)) := by
  have known := pool.past_running name found
  cases name with
  | mainLoop =>
    have allowed : (focusOf pool).allows request := by
      unfold focusOf
      rw [known]
      exact asked
    have call : timelyCall pool.shared (restingOf pool) (focusOf pool) answer request = true := by
      simpa only [timely, found, due] using fine
    have moved : ∀ exchange shared program, focusOf (pool.advance .mainLoop running exchange shared program) =
        (focusOf pool).after exchange := by
      intro exchange shared program
      unfold focusOf
      rw [Pool.past_advance found, Process.Tracker.summary_snoc]
      rfl
    refine ⟨fun dead => ?_, fun alive => ?_⟩
    · rw [moved] at dead
      rcases after_dead dead with before | now
      · exact serve_crashed (sound.dead before)
      · exact now
    · rw [moved]
      unfold restingOf
      rw [Pool.past_advance_of_ne (by decide)]
      show Rested _ _ (restOf _ (pool.shared.serve request answer).1.nodeRedcon)
      rw [main_redcon allowed]
      exact main_rested (sound.rested (serve_alive alive)) alive allowed call
  | callback =>
    have same : ∀ exchange shared program, focusOf (pool.advance .callback running exchange shared program) =
        focusOf pool := by
      intro exchange shared program
      unfold focusOf
      rw [Pool.past_advance_of_ne (by decide)]
    refine ⟨fun dead => ?_, fun alive => ?_⟩
    · rw [same] at dead
      exact serve_crashed (sound.dead dead)
    · rw [same]
      unfold restingOf
      rw [Pool.past_advance found, Process.Tracker.summary_snoc]
      apply callback_rested (sound.rested (serve_alive alive))
      rw [known]
      exact asked

end runs

/-- While ticks keep away from devices that a teardown has passed, REDCON 4 stops the work of all devices. -/
theorem timely_ticks_stop {events : List (PoolEvent Input ManagerAnswer)}
    (fine : goroutines.interleaving.Along (fun pool event => timely pool event = true) startedPool events) :
    Stopped (goroutines.interleaving.run startedPool events) := by
  have reached := Site.run_holds goroutines_keep Sound
    (fun _ _ input sound lawful free _ => sound_began sound lawful free input)
    (fun _ _ _ _ _ _ sound found due asked call => sound_made sound found due asked call)
    startedPool_sound (fun _ _ found => by cases found) fine
  obtain ⟨sound, lawful⟩ := reached
  generalize goroutines.interleaving.run startedPool events = pool at sound lawful
  intro alive asleep free thingName object d managed present
  have resting := resting_free lawful (free .callback) asleep
  have idle : focusOf pool = .idle := by
    refine (main_free lawful (free .mainLoop)).resolve_right fun dead => ?_
    cases (sound.dead dead).symm.trans alive
  have calm := sound.rested alive _ resting object d (managed_iff.mpr ⟨thingName, managed⟩) present List.not_mem_nil
  rw [idle] at calm
  obtain ⟨closed, unborn⟩ := idle_calm calm
  refine ⟨Option.isSome_eq_false_iff.mp closed |> Option.isNone_iff_eq_none.mp, ?_⟩
  cases born : d.state.born with
  | false => rfl
  | true => cases unborn born

section samples
open ManagerTracking

def mainSteps (count : ℕ) (answer : ManagerAnswer) : List (PoolEvent Input ManagerAnswer) :=
  List.replicate count (.step .mainLoop answer)

def callbackSteps (count : ℕ) : List (PoolEvent Input ManagerAnswer) := List.replicate count (.step .callback {})

def sightedRun : List (PoolEvent Input ManagerAnswer) :=
  .begin .mainLoop .inventoryTick :: mainSteps 6 { loaded := .ok ⟨"raspi", [sampleUnit]⟩ } ++
    .begin .mainLoop (.capabilityState "unit-1" (.ok (sampleState true 20))) :: mainSteps 3 {}

def sleepCommand : List (PoolEvent Input ManagerAnswer) :=
  .begin .callback (.ok ⟨35, [⟨"redcon", .int32 4⟩], some 1⟩) :: callbackSteps 6

def earlyTick : List (PoolEvent Input ManagerAnswer) :=
  sightedRun ++ .begin .mainLoop .publishTick :: mainSteps 4 {} ++ mainSteps 10 { nowMS := 30, holds := true } ++
    sleepCommand

/-- The command comes after the tick has seen REDCON 1 and before it reaches the device. -/
def lateTick : List (PoolEvent Input ManagerAnswer) :=
  sightedRun ++ .begin .mainLoop .publishTick :: mainSteps 4 {} ++ sleepCommand ++
    mainSteps 10 { nowMS := 30, holds := true }

/-- What `Stopped` is about, of a pool in which one device is managed. -/
def sessionLeft (pool : ManagerPool) : Bool :=
  !pool.shared.crashed && pool.shared.nodeRedcon = .commandable && pool.free .mainLoop && pool.free .callback &&
    ((pool.shared.devices.lookup "unit-1").bind (pool.shared.objects[·]?)).any fun d => d.mqtt.isSome || d.state.born

theorem earlyTick_stops : Stopped (goroutines.interleaving.run startedPool earlyTick) ∧
    (goroutines.interleaving.run startedPool earlyTick).shared.devices.lookup "unit-1" = some 0 := by
  refine ⟨timely_ticks_stop ?_, ?_⟩
  · decide +kernel
  · decide +kernel

theorem sessionLeft_unstopped {pool : ManagerPool} (left : sessionLeft pool = true) : ¬ Stopped pool := by
  simp only [sessionLeft, Bool.and_eq_true, Bool.not_eq_true', decide_eq_true_eq, Pool.free_iff] at left
  obtain ⟨⟨⟨⟨alive, asleep⟩, main⟩, callback⟩, dirty⟩ := left
  obtain ⟨d, found, open_⟩ := (Option.any_eq_true _ _).mp dirty
  obtain ⟨object, managed, present⟩ := Option.bind_eq_some_iff.mp found
  intro stopped
  have free : ∀ name, pool.Free name := by
    intro name
    cases name with
    | mainLoop => exact main
    | callback => exact callback
  have clean := stopped alive asleep free "unit-1" object d managed present
  simp [clean.1, clean.2] at open_

theorem lateTick_goes_on : ¬ Stopped (goroutines.interleaving.run startedPool lateTick) := by
  apply sessionLeft_unstopped
  decide +kernel

end samples

end Txing.Rig.NodeRest
