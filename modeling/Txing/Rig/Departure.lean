import Txing.Rig.SmoothRuns

/-! A device that leaves the inventory. The refresh closes its client and forgets it, and a clean
disconnect delivers no will, so nothing tells the host that the device is gone. The host goes on
showing it exactly if its session was open. -/

namespace Txing.Rig.Departure
open DeviceState DeviceSession DeviceTurns SparkplugManager DeviceProjection
open SparkplugHost ManagerTracking SmoothRuns

def isDeath : WireEvent → Bool
  | .message .ddeath _ _ => true
  | _ => false

/-- Whenever the device leaves the managed ones while the host shows it, the same step publishes
its death. -/
def NoZombies (thingName rigID : String) (events : List ManagerEvent) : Prop :=
  ∀ before event after d, events = before ++ event :: after →
    (manager.run (connectedManager rigID) before).devices.lookup thingName = some d →
    (manager.run (connectedManager rigID) (before ++ [event])).devices.lookup thingName = none →
    (hostView thingName rigID before).isSome = true →
    ∃ heard ∈ (manager.emits (manager.run (connectedManager rigID) before) event).filterMap (wireOf thingName),
      isDeath heard = true

section leaving
variable {managed : Option ManagedDevice}

theorem refresh_silent {move : DeviceMove} (refresh : isRefresh move = true) :
    ∀ heard ∈ device.emits managed move, heard = .closed := by
  intro heard member
  cases managed with
  | none => cases move <;> cases member
  | some d =>
    cases move with
    | enlist inventory => cases member
    | discharge => exact disconnect_wire d heard member
    | _ => cases refresh

theorem stays_managed {move : DeviceMove} (other : isRefresh move = false) (isManaged : managed.isSome = true) :
    (device.next managed move).isSome = true := by
  cases managed with
  | none => cases isManaged
  | some d =>
    cases move with
    | discharge => cases other
    | _ => rfl

theorem leaves_silent {thingName : String} {s : RuntimeState} {event : ManagerEvent} {d : ManagedDevice}
    (isManaged : s.devices.lookup thingName = some d)
    (leaves : (manager.next s event).devices.lookup thingName = none) :
    ∀ heard ∈ (manager.emits s event).filterMap (wireOf thingName), heard = .closed := by
  have left := (device_projects thingName).next s event
  rw [(device_projects thingName).emits s event]
  rcases moves_cases thingName s event with refresh | ⟨move, asked, other, -⟩
  · intro heard member
    obtain ⟨before, move, after, split, made⟩ := device.mem_trace member
    exact refresh_silent (refresh move (by simp [split])) heard made
  · rw [asked, isManaged, device.run_cons, device.run_nil] at left
    have stays := stays_managed other (show (some d).isSome = true from rfl)
    rw [← left, leaves] at stays
    cases stays

end leaving

section sessions

def isOpen (managed : Option ManagedDevice) : Bool := managed.any fun d => d.mqtt.isSome

def status (both : Option ManagedDevice × HostView) : Bool × Bool := (isOpen both.1, both.2.isSome)

def closes : DeviceMove → Bool
  | .discharge => true
  | .teardown => true
  | _ => false

/-- What a move that goes well does to both: a message of a live device is sent in an open session,
a death closes it, and only a move that closes it silently parts them. -/
inductive SmoothStep (closing : Bool) (before : Bool × Bool) : Bool × Bool → Prop
  | kept : SmoothStep closing before before
  | alive : SmoothStep closing before (true, true)
  | dead : SmoothStep closing before (false, false)
  | cut (silent : closing = true) : SmoothStep closing before (false, before.2)

/-- What is neither a loss, an error nor an acknowledged message tells the host nothing. -/
theorem hear_idle {wire : List WireEvent} (unacked : ∀ heard ∈ wire, heard.acked = false)
    (fine : ∀ heard ∈ wire, smooth heard = true) (view : HostView) : wire.foldl hear view = view := by
  induction wire generalizing view with
  | nil => rfl
  | cons heard rest ih =>
    have still : hear view heard = view := by
      have good := fine heard List.mem_cons_self
      have silent := unacked heard List.mem_cons_self
      cases heard with
      | opened => rfl
      | refused will => cases good
      | message kind payload outcome =>
        cases outcome with
        | ok => cases silent
        | failed delivered => cases good
      | lost => cases good
      | closed => rfl
    rw [List.foldl_cons, still]
    exact ih (fun other member => unacked other (List.mem_cons_of_mem _ member))
      (fun other member => fine other (List.mem_cons_of_mem _ member)) view

theorem hear_opening {opening : List WireEvent} (opened : ∀ heard ∈ opening, heard = .opened) (view : HostView) :
    opening.foldl hear view = view := by
  apply hear_idle
  · intro heard member
    rw [opened heard member]
    rfl
  · intro heard member
    rw [opened heard member]
    rfl

theorem smoothStep_turn {p : ManagedDevice} {tick : DeviceTick} {snapshot : DeviceSnapshot}
    {result : ManagedDevice × List WireEvent} (turn : TurnOutcome p tick snapshot result)
    (fine : ∀ heard ∈ result.2, smooth heard = true) (view : HostView) :
    SmoothStep false (p.mqtt.isSome, view.isSome) (result.1.mqtt.isSome, (result.2.foldl hear view).isSome) := by
  cases turn with
  | stillDown => exact .kept
  | unchanged => exact .kept
  | failed unborn untold unacked error =>
    rcases error with ⟨heard, member, fails⟩ | ⟨-, closed, still⟩
    · have good := fine heard member
      simp [smooth, fails] at good
    · simp only [hear_idle unacked fine, closed, still]
      exact .kept
  | birth present opened source trip =>
    obtain ⟨quiet, silent⟩ := quiet_of_smooth trip fine
    simp only [List.foldl_append, hear_opening opened, quiet, silent]
    exact .alive
  | data present born inSession decided acked trip =>
    obtain ⟨quiet, silent⟩ := quiet_of_smooth trip (show ∀ heard ∈ [] ++ _, _ from fine)
    simp only [quiet, silent]
    exact .alive
  | death absent opened earlier_lost later_lost =>
    have silent := nil_of_smooth later_lost fun heard member => fine heard (by simp [member])
    simp only [List.foldl_append, silent]
    exact .dead

theorem prepare_isSome (d : ManagedDevice) (rebirthAll : Bool) :
    (d.prepare rebirthAll).mqtt.isSome = d.mqtt.isSome := by
  cases inSession : d.mqtt with
  | none => simp [ManagedDevice.prepare, inSession]
  | some client => rw [prepare_open inSession]; rfl

theorem smoothStep_move (d : ManagedDevice) (move : DeviceMove) (view : HostView)
    (fine : ∀ heard ∈ (d.move move).2, smooth heard = true) :
    SmoothStep (closes move) (status (some d, view)) (status ((d.move move).1, (d.move move).2.foldl hear view)) := by
  have cut : (d.disconnectDeviceMQTT.2.foldl hear view) = view := by
    unfold ManagedDevice.disconnectDeviceMQTT
    cases d.mqtt <;> rfl
  cases move with
  | enlist inventory => exact .kept
  | discharge =>
    simp only [status, ManagedDevice.move, cut]
    exact .cut rfl
  | observe state => exact .kept
  | report result turn =>
    obtain ⟨seq, same⟩ := reportResult_device d result turn
    simp only [ManagedDevice.move, same] at fine ⊢
    rcases reportResult_wire d result turn with silent | ⟨client, inSession, sent⟩
    · rw [silent]
      exact .kept
    · rw [sent] at fine ⊢
      have good := fine _ List.mem_cons_self
      cases published : client.publish turn.publish with
      | ok =>
        simp only [status, isOpen, Option.any_some, inSession, Option.isSome_some]
        exact .alive
      | failed delivered => simp [published, smooth, WireEvent.fails] at good
  | tick rebirthAll tick =>
    simp only [ManagedDevice.move] at fine
    have turn := smoothStep_turn (publishDeviceState_cases d rebirthAll tick) fine view
    rw [prepare_isSome] at turn
    simp only [status, isOpen, ManagedDevice.move, Option.any_some]
    exact turn
  | teardown =>
    have closed : d.disconnectDeviceMQTT.1.resetPublication.mqtt = none := disconnect_closed d
    simp only [status, ManagedDevice.move, cut, isOpen, Option.any_some, closed]
    exact .cut rfl
  | net event =>
    cases inSession : d.mqtt with
    | none =>
      simp only [ManagedDevice.move, ManagedDevice.onNet, inSession]
      exact .kept
    | some client =>
      simp only [ManagedDevice.move, ManagedDevice.onNet, inSession] at fine ⊢
      rw [nil_of_smooth (onNet_lost event) fine]
      simp only [status, isOpen, Option.any_some, inSession]
      exact .kept

theorem smoothStep_next (both : Option ManagedDevice × HostView) (move : DeviceMove)
    (fine : ∀ heard ∈ device.emits both.1 move, smooth heard = true) :
    SmoothStep (closes move) (status both) (status ((device.watched hear).next both move)) := by
  obtain ⟨managed, view⟩ := both
  cases managed with
  | none => cases move <;> exact .kept
  | some d => exact smoothStep_move d move view fine

theorem SmoothStep.shown {closing : Bool} {before after : Bool × Bool} (step : SmoothStep closing before after)
    (shown : before.1 = true → before.2 = true) : after.1 = true → after.2 = true := by
  cases step with
  | kept => exact shown
  | alive => exact fun _ => rfl
  | dead => exact nofun
  | cut => exact nofun

theorem SmoothStep.unshown {closing : Bool} {before after : Bool × Bool} (step : SmoothStep closing before after)
    (quiet : closing = true → before.1 = false) (unshown : before.1 = false → before.2 = false) :
    after.1 = false → after.2 = false := by
  cases step with
  | kept => exact unshown
  | alive => exact nofun
  | dead => exact fun _ => rfl
  | cut silent => exact fun _ => unshown (quiet silent)

variable {thingName rigID : String} {events : List ManagerEvent}

theorem shown_run (fine : Smooth thingName rigID events) :
    isOpen ((manager.run (connectedManager rigID) events).devices.lookup thingName) = true →
      (hostView thingName rigID events).isSome = true :=
  watched_invariant none thingName rigID (fun both => (status both).1 = true → (status both).2 = true)
    (fun both move shown good => (smoothStep_next both move good).shown shown) nofun (smooth_along fine)

/-- The session is not open when the move closes it silently. -/
def quietMove (managed : Option ManagedDevice) (move : DeviceMove) : Bool := !(closes move && isOpen managed)

/-- The same, of what an event of the manager asks of the device: neither a refresh drops it nor a
node that goes to sleep tears it down while its session is open. -/
def Quiet (thingName : String) (s : RuntimeState) (event : ManagerEvent) : Prop :=
  device.Along (fun managed move => quietMove managed move = true) (s.devices.lookup thingName)
    (moves thingName s event)

instance (thingName : String) (s : RuntimeState) (event : ManagerEvent) : Decidable (Quiet thingName s event) :=
  device.decidableAlong _ _

theorem unshown_run (fine : Smooth thingName rigID events)
    (quiet : manager.Along (Quiet thingName) (connectedManager rigID) events) :
    isOpen ((manager.run (connectedManager rigID) events).devices.lookup thingName) = false →
      (hostView thingName rigID events).isSome = false := by
  refine watched_invariant none thingName rigID (fun both => (status both).1 = false → (status both).2 = false)
    (fun both move unshown good => ?_) (fun _ => rfl)
    (manager.along_imp (fun s event both => device.along_and both.1 both.2) (manager.along_and (smooth_along fine) quiet))
  apply (smoothStep_next both move good.1).unshown _ unshown
  intro closing
  simpa [quietMove, closing, status] using good.2

theorem hostView_leaving {event : ManagerEvent} {d : ManagedDevice}
    (managed : (manager.run (connectedManager rigID) events).devices.lookup thingName = some d)
    (leaves : (manager.run (connectedManager rigID) (events ++ [event])).devices.lookup thingName = none) :
    hostView thingName rigID (events ++ [event]) = hostView thingName rigID events := by
  rw [manager.run_append] at leaves
  have closing := leaves_silent managed leaves
  unfold hostView
  rw [viewOf_append, manager.trace_cons, manager.trace_nil, List.append_nil]
  apply hear_idle
  · intro heard member
    rw [closing heard member]
    rfl
  · intro heard member
    rw [closing heard member]
    rfl

end sessions

variable (thingName rigID : String)

/-- In a run without failures no zombie is left if no open session is closed silently, and dropping
a device with an open session always leaves one. -/
theorem zombies_of_silence :
    (∀ events, Smooth thingName rigID events →
      manager.Along (Quiet thingName) (connectedManager rigID) events → NoZombies thingName rigID events) ∧
    ∀ events event d, Smooth thingName rigID (events ++ [event]) →
      (manager.run (connectedManager rigID) events).devices.lookup thingName = some d →
      (manager.run (connectedManager rigID) (events ++ [event])).devices.lookup thingName = none →
      d.mqtt.isSome = true → ¬ NoZombies thingName rigID (events ++ [event]) := by
  constructor
  · intro events fine quiet before event after d split managed leaves alive
    rw [split, List.append_cons] at fine quiet
    -- Right after it the session is closed, so the host must not show the device; nothing told it so.
    have gone := unshown_run (smooth_of_append fine) (manager.along_append.mp quiet).1 (by rw [leaves]; rfl)
    rw [hostView_leaving managed leaves, alive] at gone
    cases gone
  · intro events event d fine managed leaves inSession noZombies
    have alive := shown_run (smooth_of_append fine) (by rw [managed]; exact inSession)
    obtain ⟨heard, member, death⟩ := noZombies events event [] d rfl managed leaves alive
    rw [manager.run_append] at leaves
    rw [leaves_silent managed leaves heard member] at death
    cases death

def delisted (nowMS : UInt64) : ManagerEvent := .inventoryTick (.ok ⟨"raspi", []⟩) nowMS

/-- The sighting of the device expires and its death is published before the inventory drops it. -/
def retiredRun : List ManagerEvent :=
  [enlisted 10, sighted true 20, ticked 30 .ok, ticked 200000 .ok, delisted 200010]

def droppedRun : List ManagerEvent := [enlisted 10, sighted true 20, ticked 30 .ok, delisted 40]

theorem retiredRun_noZombies : NoZombies "unit-1" "rig-1" retiredRun ∧ ¬ NoZombies "unit-1" "rig-1" droppedRun := by
  refine ⟨(zombies_of_silence "unit-1" "rig-1").1 retiredRun (by decide +kernel) (by decide +kernel), ?_⟩
  have born : ((manager.run (connectedManager "rig-1") droppedRun.dropLast).devices.lookup "unit-1").any
      (fun d => d.mqtt.isSome) = true := by decide +kernel
  obtain ⟨d, managed, inSession⟩ := (Option.any_eq_true _ _).mp born
  exact (zombies_of_silence "unit-1" "rig-1").2 droppedRun.dropLast (delisted 40) d (by decide +kernel) managed
    (by decide +kernel) inSession

theorem droppedRun_zombie : Smooth "unit-1" "rig-1" droppedRun ∧ ¬ NoZombies "unit-1" "rig-1" droppedRun := by
  constructor
  · decide +kernel
  intro noZombies
  have enrolled : ((manager.run (connectedManager "rig-1") droppedRun.dropLast).devices.lookup "unit-1").isSome =
      true := by decide +kernel
  obtain ⟨d, managed⟩ := Option.isSome_iff_exists.mp enrolled
  obtain ⟨heard, member, death⟩ := noZombies droppedRun.dropLast (delisted 40) [] d rfl managed (by decide +kernel)
    (by decide +kernel)
  have silent : ∀ heard ∈ (manager.emits (manager.run (connectedManager "rig-1") droppedRun.dropLast)
      (delisted 40)).filterMap (wireOf "unit-1"), isDeath heard = false := by decide +kernel
  rw [silent heard member] at death
  cases death

end Txing.Rig.Departure
