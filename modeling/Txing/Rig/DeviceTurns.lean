import Txing.Rig.DeviceSession

/-! What one pass of the publication loop can do to a device, said once: it stays quiet, it fails
and starts over, or one message of the decided kind goes out. -/

namespace Txing.Rig.DeviceTurns
open Protocol DeviceState DeviceSession
variable {d : ManagedDevice} {client : DeviceClient}

section client
variable {client : DeviceClient} {events : List NetEvent}

theorem onNet_lost (event : NetEvent) : ∀ heard ∈ (client.onNet event).2, heard = .lost := by
  cases event <;> simp only [DeviceClient.onNet] <;> split <;> simp

theorem settled_of_onNet {event : NetEvent} (settled : (client.onNet event).1.Settled) :
    client.Settled ∧ (client.onNet event).2 = [] := by
  cases event with
  | lost =>
    simp only [DeviceClient.onNet] at settled ⊢
    split at settled
    next => exact absurd settled.1 (by simp)
    next down => simp [down, settled]
  | restored =>
    simp only [DeviceClient.onNet] at settled ⊢
    split at settled
    next up => simp [up, settled]
    next down =>
      -- The new connection's callback is due, and with it one more than a settled client has.
      have due := settled.2.2
      have first := client.first_due
      dsimp only at due
      cases connected : client.reconnect.connected <;> simp only [connected] at due first
      · have positive := first trivial
        simp at due
        omega
      · simp at due
  | signalled =>
    simp only [DeviceClient.onNet] at settled ⊢
    split at settled
    next none => simp [none, settled]
    next some =>
      have due := settled.2.2
      have idle := settled.2.1
      simp only [MqttReconnectState.onConnection] at due idle
      cases connected : client.reconnect.connected <;> simp only [connected] at due idle
      · refine ⟨⟨settled.1, by simpa using idle, ?_⟩, by simp [some]⟩
        simp at due
        simp [connected]
        omega
      · simp at idle

theorem onNet_settled {event : NetEvent} (settled : client.Settled) (quiet : (client.onNet event).2 = []) :
    (client.onNet event).1.Settled := by
  obtain ⟨up, idle, due⟩ := settled
  cases event with
  | lost => simp [DeviceClient.onNet, up] at quiet
  | restored => simpa [DeviceClient.onNet, up] using ⟨up, idle, due⟩
  | signalled =>
    simp only [DeviceClient.onNet]
    split
    next => exact ⟨up, idle, due⟩
    next positive =>
      cases connected : client.reconnect.connected with
      | true => simp [connected] at due; exact absurd due positive
      | false =>
        simp only [connected, Bool.false_eq_true, if_false] at due
        exact ⟨up, by simp [MqttReconnectState.onConnection, connected, idle],
          by simp [MqttReconnectState.onConnection, connected, due]⟩

theorem onNets_settled (settled : client.Settled) (quiet : (client.onNets events).2 = []) :
    (client.onNets events).1.Settled := by
  induction events generalizing client with
  | nil => exact settled
  | cons event rest ih =>
    simp only [DeviceClient.onNets, List.append_eq_nil_iff] at quiet ⊢
    exact ih (onNet_settled settled quiet.1) quiet.2

theorem onNets_lost (events : List NetEvent) : ∀ heard ∈ (client.onNets events).2, heard = .lost := by
  induction events generalizing client with
  | nil => simp [DeviceClient.onNets]
  | cons event rest ih =>
    simp only [DeviceClient.onNets, List.mem_append]
    rintro heard (now | later)
    · exact onNet_lost event heard now
    · exact ih heard later

theorem onNets_quiet (kept : .lost ∉ events) : (client.onNets events).2 = [] := by
  induction events generalizing client with
  | nil => rfl
  | cons event rest ih =>
    rw [List.mem_cons, not_or] at kept
    obtain ⟨other, later⟩ := kept
    have now : (client.onNet event).2 = [] := by
      cases event with
      | lost => exact absurd rfl other
      | restored => simp only [DeviceClient.onNet]; split <;> rfl
      | signalled => simp only [DeviceClient.onNet]; split <;> rfl
    simp only [DeviceClient.onNets, now, ih later, List.append_nil]

theorem settled_of_onNets (settled : (client.onNets events).1.Settled) :
    client.Settled ∧ (client.onNets events).2 = [] := by
  induction events generalizing client with
  | nil => exact ⟨settled, rfl⟩
  | cons event rest ih =>
    simp only [DeviceClient.onNets] at settled ⊢
    obtain ⟨next, silent⟩ := ih settled
    obtain ⟨before, quiet⟩ := settled_of_onNet next
    exact ⟨before, by rw [silent, quiet, List.nil_append]⟩

end client

def outcomeOf (client : DeviceClient) (tick : DeviceTick) : PublishOutcome :=
  (client.onNets tick.beforePublish).1.publish tick.publish

/-- A publish with the losses of the session before and after it. -/
structure Trip (tick : DeviceTick) (client after : DeviceClient) (earlier later : List WireEvent) : Prop where
  kept : .lost ∉ tick.beforePublish → earlier = []
  earlier_lost : ∀ heard ∈ earlier, heard = .lost
  later_lost : ∀ heard ∈ later, heard = .lost
  settled : after.Settled → client.Settled ∧ earlier = [] ∧ later = []
  stays : client.Settled → earlier = [] → later = [] → after.Settled

theorem transmit_trip (inSession : d.mqtt = some client) (tick : DeviceTick) (kind : MessageType)
    (payload : Sparkplug.Payload) :
    ∃ after earlier later, Trip tick client after earlier later ∧
      d.transmit tick kind payload =
        ({ d with mqtt := some after }, earlier ++ .message kind payload (outcomeOf client tick) :: later,
          decide (outcomeOf client tick = .ok)) := by
  let before := client.onNets tick.beforePublish
  let after := before.1.onNets tick.afterPublish
  refine ⟨after.1, before.2, after.2, ⟨onNets_quiet,
    onNets_lost tick.beforePublish, onNets_lost tick.afterPublish, fun settled => ?_,
    fun settled quiet silent => onNets_settled (onNets_settled settled quiet) silent⟩, ?_⟩
  · obtain ⟨between, quiet⟩ := settled_of_onNets settled
    obtain ⟨first, silent⟩ := settled_of_onNets between
    exact ⟨first, silent, quiet⟩
  · simp only [ManagedDevice.transmit, inSession]
    rfl

def reportPayload (redcon : UInt8) (seq timestamp : UInt64) (metrics : List Sparkplug.Metric) : Sparkplug.Payload :=
  ⟨timestamp, Sparkplug.redconMetric redcon :: metrics, some seq⟩

theorem publishDeviceReport_trip (inSession : d.mqtt = some client) {redcon : UInt8} (valid : validRedcon redcon)
    (tick : DeviceTick) (kind : MessageType) (metrics : List Sparkplug.Metric) :
    ∃ after earlier later, Trip tick client after earlier later ∧
      d.publishDeviceReport tick kind redcon metrics =
        ({ d.nextSeq with mqtt := some after },
          earlier ++ .message kind (reportPayload redcon d.seq tick.builtAtMS metrics) (outcomeOf client tick) :: later,
          decide (outcomeOf client tick = .ok)) := by
  simp only [ManagedDevice.publishDeviceReport, Sparkplug.buildDeviceReportPayload_ok valid]
  exact transmit_trip (show d.nextSeq.mqtt = some client from inSession) tick kind _

def snapshotPayload (snapshot : DeviceSnapshot) (seq timestamp : UInt64) : Sparkplug.Payload :=
  reportPayload snapshot.publishedRedcon seq timestamp (sparkplugMetricsFromSnapshot snapshot.capabilities)

def isData : DevicePublication → Bool
  | .data _ _ => true
  | _ => false

/-- How a pass over a prepared device `p` ends, with the snapshot it took. -/
inductive TurnOutcome (p : ManagedDevice) (tick : DeviceTick) (snapshot : DeviceSnapshot) :
    ManagedDevice × List WireEvent → Prop
  | stillDown (absent : snapshot.sparkplugAvailable = false) (told : p.state.unavailablePublished = true) :
      TurnOutcome p tick snapshot ({ p with state := p.state.down }, [])
  | unchanged (present : snapshot.sparkplugAvailable = true) (born : p.state.born = true)
      (redcon : p.state.lastPublishedRedcon = some snapshot.publishedRedcon)
      (capabilities : ∀ capability,
        p.state.lastPublishedCapabilities.lookup capability = snapshot.capabilities.lookup capability) :
      TurnOutcome p tick snapshot ({ p with state := p.state.available }, [])
  | failed {d : ManagedDevice} {wire : List WireEvent} (unborn : d.state.born = false)
      (untold : d.state.unavailablePublished = false) (unacked : ∀ heard ∈ wire, heard.acked = false)
      (error : (∃ heard ∈ wire, heard.fails = true) ∨ (p.state.born = true ∧ p.mqtt = none ∧ d.mqtt = none)) :
      TurnOutcome p tick snapshot (d, wire)
  | birth {client after : DeviceClient} {opening earlier later : List WireEvent} {seq timestamp next : UInt64}
      (present : snapshot.sparkplugAvailable = true) (opened : ∀ heard ∈ opening, heard = .opened)
      (source : p.mqtt = some client ∨ client = newConnectedDeviceMQTT)
      (trip : Trip tick client after earlier later) :
      TurnOutcome p tick snapshot (⟨p.state.available.remember snapshot, some after, next⟩,
        opening ++ (earlier ++ .message .dbirth (snapshotPayload snapshot seq timestamp) .ok :: later))
  | data {client after : DeviceClient} {earlier later : List WireEvent} {seq timestamp next : UInt64}
      (present : snapshot.sparkplugAvailable = true) (born : p.state.born = true) (inSession : p.mqtt = some client)
      (decided : isData (p.state.decideOn snapshot).2 = true) (acked : outcomeOf client tick = .ok)
      (trip : Trip tick client after earlier later) :
      TurnOutcome p tick snapshot (⟨p.state.available.remember snapshot, some after, next⟩,
        earlier ++ .message .ddata (snapshotPayload snapshot seq timestamp) .ok :: later)
  | death {earlier later opening : List WireEvent} {payload : Sparkplug.Payload} {next : UInt64}
      (absent : snapshot.sparkplugAvailable = false) (opened : ∀ heard ∈ opening, heard = .opened)
      (earlier_lost : ∀ heard ∈ earlier, heard = .lost) (later_lost : ∀ heard ∈ later, heard = .lost) :
      TurnOutcome p tick snapshot (⟨p.state.down, none, next⟩,
        opening ++ (earlier ++ .message .ddeath payload .ok :: later) ++ [.closed])

/-- The way to an open session: it is there, it is opened, or the connect is refused. -/
theorem ensureDeviceMQTT_cases (d : ManagedDevice) (connect : ConnectOutcome) :
    (∃ client opening, d.ensureDeviceMQTT connect = ({ d with mqtt := some client }, opening, true) ∧
      (∀ heard ∈ opening, heard = .opened) ∧ (d.mqtt = some client ∨ client = newConnectedDeviceMQTT)) ∨
    ∃ will, d.ensureDeviceMQTT connect = (d, [.refused will], false) := by
  unfold ManagedDevice.ensureDeviceMQTT
  obtain ⟨state, mqtt, seq⟩ := d
  cases mqtt with
  | some client => exact Or.inl ⟨client, [], rfl, by simp, Or.inl rfl⟩
  | none =>
    cases connect with
    | ok => exact Or.inl ⟨newConnectedDeviceMQTT, [.opened], rfl, by simp, Or.inr rfl⟩
    | failed will => exact Or.inr ⟨will, rfl⟩

theorem fails_of_not_ok (kind : MessageType) (payload : Sparkplug.Payload) {outcome : PublishOutcome}
    (bad : outcome ≠ .ok) :
    (WireEvent.message kind payload outcome).fails = true ∧
      (WireEvent.message kind payload outcome).acked = false := by
  cases outcome with
  | ok => exact absurd rfl bad
  | failed delivered => exact ⟨rfl, rfl⟩

theorem failed_wire {kind : MessageType} {payload : Sparkplug.Payload} {outcome : PublishOutcome}
    {opening earlier later : List WireEvent} (bad : outcome ≠ .ok) (opened : ∀ heard ∈ opening, heard = .opened)
    (earlier_lost : ∀ heard ∈ earlier, heard = .lost) (later_lost : ∀ heard ∈ later, heard = .lost) :
    (∀ heard ∈ opening ++ (earlier ++ .message kind payload outcome :: later), heard.acked = false) ∧
      ∃ heard ∈ opening ++ (earlier ++ .message kind payload outcome :: later), heard.fails = true := by
  obtain ⟨fails, unacked⟩ := fails_of_not_ok kind payload bad
  constructor
  · intro heard member
    simp only [List.mem_append, List.mem_cons] at member
    rcases member with first | early | rfl | late
    · rw [opened heard first]; rfl
    · rw [earlier_lost heard early]; rfl
    · exact unacked
    · rw [later_lost heard late]; rfl
  · exact ⟨_, by simp, fails⟩

theorem turn_cases (p : ManagedDevice) (tick : DeviceTick) :
    TurnOutcome p tick (p.state.snapshot tick.order tick.decidedAtMS)
      (ManagedDevice.carryOut { p with state := (p.state.decidePublication tick.order tick.decidedAtMS).1 } tick
        (p.state.decidePublication tick.order tick.decidedAtMS).2) := by
  have valid := publishedRedcon_valid p.state tick.order tick.decidedAtMS
  unfold DeviceRuntimeState.decidePublication
  generalize p.state.snapshot tick.order tick.decidedAtMS = snapshot at valid ⊢
  have decision := p.state.decideOn_cases snapshot
  generalize equation : p.state.decideOn snapshot = decided at decision ⊢
  cases decision with
  | stillDown absent unborn told => exact .stillDown absent told
  | unchanged present born redcon capabilities => exact .unchanged present born redcon capabilities
  | birth present unborn =>
    simp only [ManagedDevice.carryOut]
    rcases ensureDeviceMQTT_cases { p with state := p.state.available.remember snapshot } tick.connect with
      ⟨client, opening, ready, opened, source⟩ | ⟨will, refused⟩
    · obtain ⟨after, earlier, later, trip, sent⟩ := publishDeviceReport_trip
        (show ManagedDevice.mqtt ⟨p.state.available.remember snapshot, some client, p.seq⟩ = some client from rfl)
        valid tick .dbirth (sparkplugMetricsFromSnapshot snapshot.capabilities)
      simp only [ready, sent, ManagedDevice.orReset]
      by_cases acked : outcomeOf client tick = .ok
      · simp only [acked, decide_true, if_true]
        exact .birth present opened source trip
      · obtain ⟨unacked, fails⟩ := failed_wire acked opened trip.earlier_lost trip.later_lost
        simp only [acked, decide_false, Bool.false_eq_true, if_false]
        exact .failed rfl rfl unacked (Or.inl fails)
    · rw [refused]
      exact .failed rfl rfl (by simp [WireEvent.acked]) (Or.inl ⟨_, List.mem_singleton_self _, rfl⟩)
  | data present born =>
    simp only [ManagedDevice.carryOut]
    cases inSession : p.mqtt with
    | none => exact .failed rfl rfl (by simp) (Or.inr ⟨born, inSession, rfl⟩)
    | some client =>
      obtain ⟨after, earlier, later, trip, sent⟩ := publishDeviceReport_trip
        (show ManagedDevice.mqtt ⟨p.state.available.remember snapshot, some client, p.seq⟩ = some client from rfl)
        valid tick .ddata (sparkplugMetricsFromSnapshot snapshot.capabilities)
      simp only [sent, ManagedDevice.orReset]
      by_cases acked : outcomeOf client tick = .ok
      · simp only [acked, decide_true, if_true]
        exact .data present born inSession (by rw [equation]; rfl) acked trip
      · obtain ⟨unacked, fails⟩ := failed_wire acked (fun _ => List.not_mem_nil.elim) trip.earlier_lost trip.later_lost
        simp only [acked, decide_false, Bool.false_eq_true, if_false]
        exact .failed rfl rfl unacked (Or.inl fails)
  | death absent untold =>
    simp only [ManagedDevice.carryOut]
    rcases ensureDeviceMQTT_cases { p with state := p.state.down } tick.connect with
      ⟨client, opening, ready, opened, source⟩ | ⟨will, refused⟩
    · obtain ⟨after, earlier, later, trip, sent⟩ := transmit_trip
        (show (ManagedDevice.nextSeq ⟨p.state.down, some client, p.seq⟩).mqtt = some client from rfl)
        tick .ddeath (Sparkplug.buildDeviceDeathPayload p.seq tick.builtAtMS)
      simp only [ready, ManagedDevice.publishDeviceDeath, sent]
      by_cases acked : outcomeOf client tick = .ok
      · simp only [acked, decide_true]
        exact .death absent opened trip.earlier_lost trip.later_lost
      · obtain ⟨unacked, fails⟩ := failed_wire acked opened trip.earlier_lost trip.later_lost
        simp only [acked, decide_false]
        exact .failed rfl rfl unacked (Or.inl fails)
    · rw [refused]
      exact .failed rfl rfl (by simp [WireEvent.acked]) (Or.inl ⟨_, List.mem_singleton_self _, rfl⟩)

theorem prepare_snapshot (d : ManagedDevice) (rebirthAll : Bool) (tick : DeviceTick) :
    (d.prepare rebirthAll).state.snapshot tick.order tick.decidedAtMS =
      d.state.snapshot tick.order tick.decidedAtMS := by
  unfold ManagedDevice.prepare
  split
  · rfl
  · dsimp only
    split <;> rfl

theorem prepare_open (inSession : d.mqtt = some client) (rebirthAll : Bool) :
    (d.prepare rebirthAll).mqtt = some client.clearPending := by
  simp only [ManagedDevice.prepare, inSession]
  split <;> rfl

theorem prepare_state {rebirthAll : Bool} (born : (d.prepare rebirthAll).state.born = true) :
    (d.prepare rebirthAll).state = d.state := by
  unfold ManagedDevice.prepare at born ⊢
  split at born
  · rfl
  · dsimp only at born ⊢
    split at born
    · cases born
    next kept => rw [if_neg kept]

theorem publishDeviceState_cases (d : ManagedDevice) (rebirthAll : Bool) (tick : DeviceTick) :
    TurnOutcome (d.prepare rebirthAll) tick ((d.prepare rebirthAll).state.snapshot tick.order tick.decidedAtMS)
      (d.publishDeviceState rebirthAll tick) :=
  turn_cases (d.prepare rebirthAll) tick

theorem resultMetrics_of_ok {result : CapabilityCommandResult} {metrics : List Sparkplug.Metric}
    (ok : commandResultMetrics result = .ok metrics) : metrics = resultMetrics result := by
  unfold commandResultMetrics at ok
  cases valid : result.validate with
  | error error => simp [valid, bind, Except.bind] at ok
  | ok =>
    simp only [valid, bind, Except.bind] at ok
    split at ok
    · cases ok
    · exact (Except.ok.inj ok).symm

theorem disconnect_closed (d : ManagedDevice) : d.disconnectDeviceMQTT.1.mqtt = none := by
  unfold ManagedDevice.disconnectDeviceMQTT
  split
  next closed => exact closed
  next => rfl

theorem disconnect_wire (d : ManagedDevice) : ∀ heard ∈ d.disconnectDeviceMQTT.2, heard = .closed := by
  unfold ManagedDevice.disconnectDeviceMQTT
  cases d.mqtt <;> simp

section reports
variable (d : ManagedDevice) (result : CapabilityCommandResult) (turn : ReportTurn)

/-- A report leaves the device as it is but for its sequence number; only its message matters. -/
theorem reportResult_device : ∃ seq, (d.reportResult result turn).1 = { d with seq := seq } := by
  unfold ManagedDevice.reportResult
  split
  · dsimp only
    split <;> exact ⟨_, rfl⟩
  · exact ⟨d.seq, rfl⟩

theorem reportResult_unreportable (unreportable : (commandResultMetrics result).isOk = false) :
    (d.reportResult result turn).2 = [] := by
  unfold ManagedDevice.reportResult
  split
  next client metrics inSession ok =>
    rw [ok] at unreportable
    cases unreportable
  next => rfl

variable {d} in
theorem reportResult_closed (closed : d.mqtt = none) : (d.reportResult result turn).2 = [] := by
  unfold ManagedDevice.reportResult
  rw [closed]

variable {d result} in
theorem reportResult_open {metrics : List Sparkplug.Metric} (inSession : d.mqtt = some client)
    (ok : commandResultMetrics result = .ok metrics) :
    (d.reportResult result turn).2 = [.message .ddata
      (reportPayload (d.state.snapshot turn.order turn.nowMS).publishedRedcon d.seq turn.builtAtMS
        (resultMetrics result)) (client.publish turn.publish)] := by
  unfold ManagedDevice.reportResult
  rw [inSession, ok]
  dsimp only
  rw [Sparkplug.buildDeviceReportPayload_ok (publishedRedcon_valid d.state turn.order turn.nowMS),
    resultMetrics_of_ok ok]
  rfl

/-- The wire of a report: nothing, or one `DDATA` with the snapshot's REDCON. -/
theorem reportResult_wire :
    (d.reportResult result turn).2 = [] ∨ ∃ client, d.mqtt = some client ∧
      (d.reportResult result turn).2 = [.message .ddata
        (reportPayload (d.state.snapshot turn.order turn.nowMS).publishedRedcon d.seq turn.builtAtMS
          (resultMetrics result)) (client.publish turn.publish)] := by
  cases inSession : d.mqtt with
  | none => exact Or.inl (reportResult_closed result turn inSession)
  | some client =>
    cases ok : commandResultMetrics result with
    | error error => exact Or.inl (reportResult_unreportable d result turn (by rw [ok]; rfl))
    | ok metrics => exact Or.inr ⟨client, rfl, reportResult_open turn inSession ok⟩

end reports

end Txing.Rig.DeviceTurns
