import Txing.Rig.DeviceTurns

/-! What a party that hears a device's wire can rely on. Between two turns of the loop the device's
publication memory says what the party shows, unless a loss of the session is still unanswered; the
memory alone decides what is suppressed, so this is the invariant behind every statement about the
far end. -/

namespace Txing.Rig.Tracking
open Protocol DeviceState DeviceSession DeviceTurns

/-- A party that hears the wire. `Shows` is what it makes of a snapshot's messages, `Gone` what it
makes of a death. -/
structure Receiver (View : Type) where
  hear : View → WireEvent → View
  Shows : View → UInt8 → Capabilities → Prop
  Gone : View → Prop
  hear_closed : ∀ view, hear view .closed = view
  shows_birth : ∀ view snapshot seq timestamp,
    Shows (hear view (.message .dbirth (snapshotPayload snapshot seq timestamp) .ok))
      snapshot.publishedRedcon snapshot.capabilities
  shows_data : ∀ {view redcon capabilities}, Shows view redcon capabilities → ∀ snapshot seq timestamp,
    (∀ capability, capability ∈ snapshot.capabilities ↔ capability ∈ capabilities) →
    Shows (hear view (.message .ddata (snapshotPayload snapshot seq timestamp) .ok))
      snapshot.publishedRedcon snapshot.capabilities
  gone_death : ∀ view payload, Gone (hear view (.message .ddeath payload .ok))
  gone_lost : ∀ {view}, Gone view → Gone (hear view .lost)

variable {View : Type} (R : Receiver View)

structure Tracks (d : ManagedDevice) (view : View) : Prop where
  told : d.state.unavailablePublished = true → d.mqtt = none ∧ R.Gone view
  live : d.state.born = true → ∃ client, d.mqtt = some client ∧ (client.Settled →
    ∃ redcon, d.state.lastPublishedRedcon = some redcon ∧ R.Shows view redcon d.state.lastPublishedCapabilities)
  keys : d.state.born = true → ∀ capability,
    capability ∈ d.state.lastPublishedCapabilities ↔ capability ∈ d.state.inventory.capabilities

def Tracked (both : Option ManagedDevice × View) : Prop := ∀ d, both.1 = some d → Tracks R d both.2

section hearing
variable {R} {view : View}

theorem gone_losses {losses : List WireEvent} (lost : ∀ heard ∈ losses, heard = .lost) (gone : R.Gone view) :
    R.Gone (losses.foldl R.hear view) := by
  induction losses generalizing view with
  | nil => exact gone
  | cons heard rest ih =>
    rw [List.foldl_cons, lost heard List.mem_cons_self]
    exact ih (fun other member => lost other (List.mem_cons_of_mem _ member)) (R.gone_lost gone)

end hearing

section steps
variable {R} {d : ManagedDevice} {view : View} (tracks : Tracks R d view)
include tracks

theorem Tracks.shows {client : DeviceClient} (born : d.state.born = true)
    (inSession : d.mqtt = some client) (settled : client.Settled) :
    ∃ redcon, d.state.lastPublishedRedcon = some redcon ∧ R.Shows view redcon d.state.lastPublishedCapabilities := by
  obtain ⟨same, found, shown⟩ := tracks.live born
  rw [inSession] at found
  cases found
  exact shown settled

omit tracks in
theorem tracks_of_reset (unborn : d.state.born = false) (untold : d.state.unavailablePublished = false) :
    Tracks R d view where
  told told := by rw [untold] at told; cases told
  live born := by rw [unborn] at born; cases born
  keys born := by rw [unborn] at born; cases born

theorem tracks_prepare (rebirthAll : Bool) : Tracks R (d.prepare rebirthAll) view := by
  unfold ManagedDevice.prepare
  split
  next => exact tracks
  next client inSession =>
    dsimp only
    split
    next => exact tracks_of_reset rfl rfl
    next quiet =>
      have idle : client.reconnect.pending = false := by
        simp only [Bool.or_eq_true, not_or, Bool.not_eq_true] at quiet
        exact quiet.2
      refine ⟨fun told => ?_, fun born => ?_, tracks.keys⟩
      · rw [(tracks.told told).1] at inSession
        cases inSession
      · exact ⟨client.clearPending, rfl, fun settled =>
          tracks.shows born inSession ⟨settled.1, idle, settled.2.2⟩⟩

variable {result : ManagedDevice × List WireEvent}

/-- A pass of the loop keeps the memory true to the party's view. -/
theorem tracks_turn {tick : DeviceTick}
    (turn : TurnOutcome d tick (d.state.snapshot tick.order tick.decidedAtMS) result) :
    Tracks R result.1 (result.2.foldl R.hear view) := by
  have keys := d.state.mem_snapshot_capabilities tick.order tick.decidedAtMS
  generalize d.state.snapshot tick.order tick.decidedAtMS = snapshot at turn keys
  cases turn with
  | stillDown absent told => exact ⟨fun _ => tracks.told told, nofun, nofun⟩
  | unchanged present born redcon capabilities => exact ⟨nofun, tracks.live, tracks.keys⟩
  | failed unborn untold => exact tracks_of_reset unborn untold
  | birth present opened source trip =>
    refine ⟨nofun, fun _ => ⟨_, rfl, fun settled => ⟨_, rfl, ?_⟩⟩, fun _ => keys⟩
    obtain ⟨-, -, rfl⟩ := trip.settled settled
    rw [List.foldl_append, List.foldl_append]
    exact R.shows_birth _ _ _ _
  | data present born inSession decided acked trip =>
    refine ⟨nofun, fun _ => ⟨_, rfl, fun settled => ⟨_, rfl, ?_⟩⟩, fun _ => keys⟩
    obtain ⟨before, rfl, rfl⟩ := trip.settled settled
    obtain ⟨redcon, -, shows⟩ := tracks.shows born inSession before
    exact R.shows_data shows _ _ _ fun capability => (keys capability).trans (tracks.keys born capability).symm
  | death absent opened earlier_lost later_lost =>
    refine ⟨fun _ => ⟨rfl, ?_⟩, nofun, nofun⟩
    simp only [List.foldl_append, List.foldl_cons, List.foldl_nil, R.hear_closed]
    exact gone_losses later_lost (R.gone_death _ _)

theorem turn_success {tick : DeviceTick} {snapshot : DeviceSnapshot}
    (turn : TurnOutcome d tick snapshot result) (fine : ∀ heard ∈ result.2, heard.fails = false) :
    (snapshot.sparkplugAvailable = true → result.1.state.born = true ∧
      result.1.state.lastPublishedRedcon = some snapshot.publishedRedcon ∧
      ∀ capability, result.1.state.lastPublishedCapabilities.lookup capability =
        snapshot.capabilities.lookup capability) ∧
      (snapshot.sparkplugAvailable = false → result.1.state.unavailablePublished = true) := by
  cases turn with
  | stillDown absent told => simp [absent, DeviceRuntimeState.down]
  | unchanged present born redcon capabilities =>
    exact ⟨fun _ => ⟨born, redcon, capabilities⟩, by simp [present]⟩
  | failed unborn untold unacked error =>
    rcases error with ⟨heard, member, fails⟩ | ⟨born, closed, -⟩
    · rw [fine heard member] at fails
      cases fails
    · obtain ⟨client, inSession, -⟩ := tracks.live born
      rw [closed] at inSession
      cases inSession
  | birth present => exact ⟨fun _ => ⟨rfl, rfl, fun _ => rfl⟩, by simp [present]⟩
  | data present => exact ⟨fun _ => ⟨rfl, rfl, fun _ => rfl⟩, by simp [present]⟩
  | death absent => exact ⟨by simp [absent], fun _ => rfl⟩

omit tracks in
theorem observeState_keeps (s : DeviceRuntimeState) (state : CapabilityState) :
    ∃ adapterStates, (s.observeState state).1 = { s with adapterStates := adapterStates } := by
  unfold DeviceRuntimeState.observeState
  split
  · exact ⟨s.adapterStates, rfl⟩
  · dsimp only
    split_ifs <;> exact ⟨_, rfl⟩

theorem tracks_observe (state : CapabilityState) :
    Tracks R { d with state := (d.state.observeState state).1 } view := by
  obtain ⟨adapterStates, stored⟩ := observeState_keeps d.state state
  rw [stored]
  exact ⟨tracks.told, tracks.live, tracks.keys⟩

theorem tracks_replaceInventory (inventory : InventoryDevice) :
    Tracks R { d with state := d.state.replaceInventory inventory } view := by
  unfold DeviceRuntimeState.replaceInventory
  split
  next => exact tracks_of_reset rfl rfl
  next same =>
    refine ⟨tracks.told, tracks.live, fun born => ?_⟩
    rw [not_not] at same
    exact same ▸ tracks.keys born

theorem tracks_net {client : DeviceClient} (inSession : d.mqtt = some client) (event : NetEvent) :
    Tracks R { d with mqtt := some (client.onNet event).1 } ((client.onNet event).2.foldl R.hear view) := by
  refine ⟨fun told => ?_, fun born => ⟨_, rfl, fun settled => ?_⟩, tracks.keys⟩
  · rw [(tracks.told told).1] at inSession
    cases inSession
  · obtain ⟨before, quiet⟩ := settled_of_onNet settled
    rw [quiet]
    exact tracks.shows born inSession before

end steps

/-- A command result does not change what the party shows of a born device. -/
def Undisturbed (both : Option ManagedDevice × View) : DeviceMove → Prop
  | .report result turn => ∀ d, both.1 = some d → d.state.born = true →
    ∀ redcon, d.state.lastPublishedRedcon = some redcon →
      R.Shows both.2 redcon d.state.lastPublishedCapabilities →
      R.Shows ((d.reportResult result turn).2.foldl R.hear both.2) redcon d.state.lastPublishedCapabilities
  | _ => True

theorem tracked_next (both : Option ManagedDevice × View) (move : DeviceMove) (tracked : Tracked R both)
    (undisturbed : Undisturbed R both move) : Tracked R ((device.watched R.hear).next both move) := by
  obtain ⟨managed, view⟩ := both
  cases managed with
  | none =>
    intro d found
    cases move with
    | enlist inventory =>
      cases found
      exact tracks_of_reset rfl rfl
    | _ => cases found
  | some d =>
    have tracks := tracked d rfl
    intro after found
    show Tracks R after ((d.move move).2.foldl R.hear view)
    have result : (d.move move).1 = some after := found
    clear found tracked
    cases move with
    | enlist inventory =>
      cases result
      exact tracks_replaceInventory tracks inventory
    | discharge => cases result
    | observe state =>
      cases result
      exact tracks_observe tracks state
    | report answer turn =>
      obtain ⟨seq, same⟩ := reportResult_device d answer turn
      simp only [ManagedDevice.move, same, Option.some.injEq] at result ⊢
      subst result
      refine ⟨fun told => ⟨(tracks.told told).1, ?_⟩, fun born => ?_, tracks.keys⟩
      · rw [reportResult_closed _ _ (tracks.told told).1]
        exact (tracks.told told).2
      · obtain ⟨client, inSession, shown⟩ := tracks.live born
        refine ⟨client, inSession, fun settled => ?_⟩
        obtain ⟨redcon, remembered, shows⟩ := shown settled
        exact ⟨redcon, remembered, undisturbed d rfl born redcon remembered shows⟩
    | tick rebirthAll tick =>
      have turn := publishDeviceState_cases d rebirthAll tick
      simp only [ManagedDevice.move, Option.some.injEq] at result ⊢
      subst result
      exact tracks_turn (tracks_prepare tracks rebirthAll) turn
    | teardown =>
      cases result
      exact tracks_of_reset rfl rfl
    | net event =>
      cases inSession : d.mqtt with
      | none =>
        simp only [ManagedDevice.move, ManagedDevice.onNet, inSession, Option.some.injEq] at result ⊢
        exact result ▸ tracks
      | some client =>
        simp only [ManagedDevice.move, ManagedDevice.onNet, inSession, Option.some.injEq] at result ⊢
        exact result ▸ tracks_net tracks inSession event

end Txing.Rig.Tracking
