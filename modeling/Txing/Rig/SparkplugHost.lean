import Mathlib.Logic.Function.Basic
import Txing.Rig.Tracking

/-! The Sparkplug host at the far end: it folds the delivered messages of a device into the last
value of every metric, forgets them at a birth, and takes a death or a will as the device's end. -/

namespace Txing.Rig.SparkplugHost
open Protocol DeviceState DeviceSession DeviceTurns Tracking

/-- The last value of each metric name of a living device. -/
abbrev HostView := Option (String → Option Sparkplug.MetricValue)

def learn (known : String → Option Sparkplug.MetricValue) (metrics : List Sparkplug.Metric) :
    String → Option Sparkplug.MetricValue :=
  metrics.foldl (fun known metric => Function.update known metric.name (some metric.value)) known

def hear (view : HostView) : WireEvent → HostView
  | .message kind payload outcome =>
    if outcome.delivered then
      match kind with
      | .dbirth => some (learn (fun _ => none) payload.metrics)
      | .ddata => some (learn (view.getD fun _ => none) payload.metrics)
      | .ddeath => none
    else view
  | .lost => none
  | .refused will => if will then none else view
  | .opened => view
  | .closed => view

/-- The view is that of a living device with this REDCON and exactly these capabilities. -/
def Shows (view : HostView) (redcon : UInt8) (capabilities : Capabilities) : Prop :=
  ∃ known, view = some known ∧ known "redcon" = some (Sparkplug.redconMetric redcon).value ∧
    ∀ capability, known (capabilityMetricName capability) =
      (capabilities.lookup capability).map Sparkplug.MetricValue.boolean

def Agrees (view : HostView) (snapshot : DeviceSnapshot) : Prop :=
  if snapshot.sparkplugAvailable then Shows view snapshot.publishedRedcon snapshot.capabilities else view = none

section names

theorem capabilityMetricName_injective : Function.Injective capabilityMetricName := by
  intro one other same
  have lists := congrArg String.toList same
  simp only [capabilityMetricName, String.toList_append] at lists
  exact String.toList_injective (List.append_cancel_left lists)

/-- No capability metric begins as the REDCON metrics do. -/
theorem capabilityMetricName_ne {name : String} (first : name.toList.head? = some 'r') (capability : String) :
    name ≠ capabilityMetricName capability := by
  rintro rfl
  simp [capabilityMetricName, String.toList_append] at first

end names

section learning
variable {known : String → Option Sparkplug.MetricValue} {metrics : List Sparkplug.Metric}

theorem learn_other {name : String}
    (absent : ∀ metric ∈ metrics, metric.name ≠ name) : learn known metrics name = known name := by
  induction metrics generalizing known with
  | nil => rfl
  | cons metric rest ih =>
    show learn (Function.update known metric.name _) rest name = known name
    rw [ih fun other member => absent other (List.mem_cons_of_mem _ member)]
    exact Function.update_of_ne (absent metric List.mem_cons_self).symm _ _

theorem learn_capabilities (names : List String) (capabilities : Capabilities) (capability : String) :
    learn known (names.map fun name =>
        ⟨capabilityMetricName name, .boolean (capabilityIsAvailable capabilities name)⟩)
        (capabilityMetricName capability) =
      if capability ∈ names then some (.boolean (capabilityIsAvailable capabilities capability))
      else known (capabilityMetricName capability) := by
  induction names generalizing known with
  | nil => rfl
  | cons name rest ih =>
    show learn (Function.update known _ _) (rest.map _) _ = _
    rw [ih]
    by_cases later : capability ∈ rest
    · simp [later]
    · by_cases same : capability = name
      · subst same
        simp [later]
      · have apart : capabilityMetricName capability ≠ capabilityMetricName name :=
          fun equal => same (capabilityMetricName_injective equal)
        simp [later, same, Function.update_of_ne apart]

/-- What a snapshot's message says about a capability: its value if it is declared, else nothing. -/
theorem learn_snapshot (snapshot : DeviceSnapshot) (seq timestamp : UInt64) (capability : String) :
    learn known (snapshotPayload snapshot seq timestamp).metrics (capabilityMetricName capability) =
      if capability ∈ snapshot.capabilities then
        (snapshot.capabilities.lookup capability).map Sparkplug.MetricValue.boolean
      else known (capabilityMetricName capability) := by
  show learn (Function.update known "redcon" _) (sparkplugMetricsFromSnapshot snapshot.capabilities) _ = _
  unfold sparkplugMetricsFromSnapshot
  rw [learn_capabilities, Function.update_of_ne (capabilityMetricName_ne (by decide) capability).symm]
  by_cases declared : capability ∈ snapshot.capabilities
  · have listed : capability ∈ snapshot.capabilities.keys.insertionSort (· ≤ ·) :=
      (List.mem_insertionSort _).mpr (AList.mem_keys.mp declared)
    obtain ⟨value, found⟩ := Option.isSome_iff_exists.mp (AList.lookup_isSome.mpr declared)
    rw [if_pos listed, if_pos declared, capabilityIsAvailable, found]
    rfl
  · have unlisted : capability ∉ snapshot.capabilities.keys.insertionSort (· ≤ ·) :=
      fun listed => declared (AList.mem_keys.mpr ((List.mem_insertionSort _).mp listed))
    rw [if_neg unlisted, if_neg declared]

theorem learn_redcon (redcon : UInt8) (seq timestamp : UInt64) (other : ∀ metric ∈ metrics, metric.name ≠ "redcon") :
    learn known (reportPayload redcon seq timestamp metrics).metrics "redcon" =
      some (Sparkplug.redconMetric redcon).value := by
  show learn (Function.update known "redcon" _) metrics "redcon" = _
  rw [learn_other other, Function.update_self]

theorem snapshotMetrics_ne (capabilities : Capabilities) :
    ∀ metric ∈ sparkplugMetricsFromSnapshot capabilities, metric.name ≠ "redcon" := by
  intro metric member
  obtain ⟨capability, -, rfl⟩ := List.mem_map.mp member
  exact (capabilityMetricName_ne (by decide) capability).symm

end learning

def host : Receiver HostView where
  hear := hear
  Shows := Shows
  Gone view := view = none
  hear_closed _ := rfl
  shows_birth view snapshot seq timestamp := by
    refine ⟨_, rfl, learn_redcon _ _ _ (snapshotMetrics_ne _), fun capability => ?_⟩
    rw [learn_snapshot]
    split
    · rfl
    · next undeclared => rw [AList.lookup_eq_none.mpr undeclared]; rfl
  shows_data := by
    rintro view redcon capabilities ⟨known, rfl, -, shown⟩ snapshot seq timestamp same
    refine ⟨_, rfl, learn_redcon _ _ _ (snapshotMetrics_ne _), fun capability => ?_⟩
    rw [learn_snapshot]
    split
    · rfl
    · next undeclared =>
      have before : capability ∉ capabilities := fun inside => undeclared ((same capability).mpr inside)
      show known _ = _
      rw [shown, AList.lookup_eq_none.mpr before, AList.lookup_eq_none.mpr undeclared]
  gone_death _ _ := rfl
  gone_lost _ := rfl

theorem shows_congr {view : HostView} {redcon : UInt8} {one other : Capabilities}
    (shown : Shows view redcon one) (same : ∀ capability, one.lookup capability = other.lookup capability) :
    Shows view redcon other := by
  obtain ⟨known, alive, level, values⟩ := shown
  exact ⟨known, alive, level, fun capability => by rw [values, same]⟩

/-- After a pass without a failed operation, and with no loss of the session unanswered, the host
sees what the snapshot says. -/
theorem agrees_of_turn {d : ManagedDevice} {view : HostView} (tracks : Tracks host d view) (rebirthAll : Bool)
    (tick : DeviceTick) (fine : ∀ heard ∈ (d.publishDeviceState rebirthAll tick).2, heard.fails = false)
    (settled : ∀ client, (d.publishDeviceState rebirthAll tick).1.mqtt = some client → client.Settled) :
    Agrees ((d.publishDeviceState rebirthAll tick).2.foldl hear view)
      (d.state.snapshot tick.order tick.decidedAtMS) := by
  have prepared := tracks_prepare tracks rebirthAll
  have turn := publishDeviceState_cases d rebirthAll tick
  have after := tracks_turn prepared turn
  obtain ⟨up, down⟩ := turn_success prepared turn fine
  rw [show (d.prepare rebirthAll).state.snapshot tick.order tick.decidedAtMS =
    d.state.snapshot tick.order tick.decidedAtMS from prepare_snapshot d rebirthAll tick] at up down
  unfold Agrees
  cases present : (d.state.snapshot tick.order tick.decidedAtMS).sparkplugAvailable with
  | false => exact (after.told (down present)).2
  | true =>
    obtain ⟨born, level, capabilities⟩ := up present
    obtain ⟨client, inSession, shown⟩ := after.live born
    obtain ⟨redcon, remembered, shows⟩ := shown (settled client inSession)
    rw [level] at remembered
    cases remembered
    exact shows_congr shows capabilities

section results
variable {d : ManagedDevice} {view : HostView}

theorem resultMetrics_names (result : CapabilityCommandResult) :
    ∀ metric ∈ resultMetrics result, metric.name ≠ "redcon" ∧
      ∀ capability, metric.name ≠ capabilityMetricName capability := by
  have name : ∀ metric ∈ resultMetrics result, metric.name ∈ ["redconCommandStatus", "redconCommandSeq",
      "redconCommandId", "redconCommandTarget", "redconCommandMessage"] := by
    unfold resultMetrics
    intro metric member
    simp only [List.mem_append] at member
    rcases member with (member | member) | member
    · simp only [List.mem_cons, List.not_mem_nil, or_false] at member
      rcases member with rfl | rfl | rfl <;> simp
    · split at member <;> simp_all
    · split at member
      · split at member <;> simp_all
      · simp at member
  intro metric member
  have fixed := name metric member
  constructor
  · intro same
    rw [same] at fixed
    exact absurd fixed (by decide)
  · intro capability
    apply capabilityMetricName_ne
    simp only [List.mem_cons, List.not_mem_nil, or_false] at fixed
    rcases fixed with same | same | same | same | same <;> rw [same] <;> decide

/-- A result with the REDCON that is shown anyway changes nothing of the view, delivered or not. -/
theorem shows_result {redcon : UInt8} {capabilities : Capabilities} (shown : Shows view redcon capabilities)
    (seq timestamp : UInt64) (result : CapabilityCommandResult) (outcome : PublishOutcome) :
    Shows (hear view (.message .ddata (reportPayload redcon seq timestamp (resultMetrics result)) outcome))
      redcon capabilities := by
  cases delivered : outcome.delivered with
  | false => simpa [hear, delivered] using shown
  | true =>
    obtain ⟨known, rfl, -, values⟩ := shown
    simp only [hear, delivered, if_true, Option.getD_some]
    have names := resultMetrics_names result
    refine ⟨_, rfl, learn_redcon _ _ _ fun metric member => (names metric member).1, fun capability => ?_⟩
    show learn (Function.update known "redcon" _) (resultMetrics result) _ = _
    rw [learn_other fun metric member => (names metric member).2 capability,
      Function.update_of_ne (capabilityMetricName_ne (by decide) capability).symm, values]

/-- The REDCON of a result that can be reported is the one last published for a born device. -/
def Faithful (d : ManagedDevice) (result : CapabilityCommandResult) (turn : ReportTurn) : Prop :=
  (commandResultMetrics result).isOk = true → d.state.born = true →
    d.state.lastPublishedRedcon = some (d.state.snapshot turn.order turn.nowMS).publishedRedcon

instance (d : ManagedDevice) (result : CapabilityCommandResult) (turn : ReportTurn) :
    Decidable (Faithful d result turn) :=
  inferInstanceAs (Decidable (_ → _ → _))

theorem undisturbed_of_faithful {both : Option ManagedDevice × HostView} {move : DeviceMove}
    (faithful : ∀ d result turn, both.1 = some d → move = .report result turn → Faithful d result turn) :
    Undisturbed host both move := by
  cases move with
  | report result turn =>
    intro d found born redcon remembered shown
    cases reportable : (commandResultMetrics result).isOk with
    | false =>
      rw [reportResult_unreportable d result turn reportable]
      exact shown
    | true =>
      have level := faithful d result turn found rfl reportable born
      rw [remembered] at level
      cases level
      rcases reportResult_wire d result turn with silent | ⟨client, -, sent⟩
      · rw [silent]
        exact shown
      · rw [sent]
        exact shows_result shown _ _ result _
  | _ => trivial

end results

end Txing.Rig.SparkplugHost
