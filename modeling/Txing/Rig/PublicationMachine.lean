import Txing.Rig.ManagerTracking

/-! The publication memory of one device as a machine of its own: whatever is observed, replaced or
reset in between, each decision hands out exactly what a receiver that got everything still lacks. -/

namespace Txing.Rig.PublicationMachine
open Txing.Library Protocol DeviceState DeviceTurns SparkplugHost

inductive Call where
  | observeState (state : CapabilityState)
  | replaceInventory (inventory : InventoryDevice)
  | resetPublication
  | decidePublication (order : RangeOrder) (nowMS : UInt64)

/-- What the receiver makes of the device: nothing until it is told of it and after every reset. -/
abbrev Knowledge := Option HostView

def receive (knowledge : Knowledge) : DevicePublication → Knowledge
  | .none => knowledge
  | .birth redcon metrics => some (hear (knowledge.getD none) (.message .dbirth (reportPayload redcon 0 0 metrics) .ok))
  | .data redcon metrics => some (hear (knowledge.getD none) (.message .ddata (reportPayload redcon 0 0 metrics) .ok))
  | .death => some none

structure System where
  device : DeviceRuntimeState
  knowledge : Knowledge

def start (inventory : InventoryDevice) : System := ⟨newDeviceRuntimeState inventory, none⟩

namespace System

/-- `ReplaceInventory` resets the publication when the capabilities change. -/
def step (s : System) : Call → System
  | .observeState state => { s with device := (s.device.observeState state).1 }
  | .replaceInventory inventory =>
    ⟨s.device.replaceInventory inventory,
      if s.device.inventory.capabilities ≠ inventory.capabilities then none else s.knowledge⟩
  | .resetPublication => ⟨s.device.resetPublication, none⟩
  | .decidePublication order nowMS =>
    ⟨(s.device.decidePublication order nowMS).1, receive s.knowledge (s.device.decidePublication order nowMS).2⟩

def run (s : System) (calls : List Call) : System := calls.foldl step s

def Knows (s : System) (snapshot : DeviceSnapshot) : Prop :=
  ∃ view, s.knowledge = some view ∧ Agrees view snapshot

structure Told (s : System) : Prop where
  born : s.device.born = true → ∃ view redcon, s.knowledge = some view ∧ s.device.lastPublishedRedcon = some redcon ∧
    Shows view redcon s.device.lastPublishedCapabilities
  keys : s.device.born = true → ∀ capability,
    capability ∈ s.device.lastPublishedCapabilities ↔ capability ∈ s.device.inventory.capabilities
  metrics : s.device.lastPublishedMetrics = ∅
  dead : s.device.unavailablePublished = true → s.device.born = false ∧ s.knowledge = some none
  unknown : s.device.born = false → s.device.unavailablePublished = false → s.knowledge = none

end System

theorem told_start (inventory : InventoryDevice) : (start inventory).Told where
  born born := by cases born
  keys born := by cases born
  metrics := rfl
  dead told := by cases told
  unknown _ _ := rfl

theorem told_reset (device : DeviceRuntimeState) : System.Told ⟨device.resetPublication, none⟩ where
  born born := by cases born
  keys born := by cases born
  metrics := rfl
  dead told := by cases told
  unknown _ _ := rfl

section steps
variable {s : System}

theorem observeState_memory (device : DeviceRuntimeState) (state : CapabilityState) :
    ∃ states, (device.observeState state).1 = { device with adapterStates := states } := by
  unfold DeviceRuntimeState.observeState
  split
  · exact ⟨device.adapterStates, rfl⟩
  · split_ifs
    all_goals exact ⟨_, rfl⟩

theorem told_observe (told : s.Told) (state : CapabilityState) : (s.step (.observeState state)).Told := by
  obtain ⟨states, same⟩ := observeState_memory s.device state
  rw [System.step, same]
  exact ⟨told.born, told.keys, told.metrics, told.dead, told.unknown⟩

theorem told_replace (told : s.Told) (inventory : InventoryDevice) : (s.step (.replaceInventory inventory)).Told := by
  rw [System.step, DeviceRuntimeState.replaceInventory]
  split
  · have reset := told_reset s.device
    exact ⟨reset.born, by rintro ⟨⟩, reset.metrics, reset.dead, reset.unknown⟩
  · next same =>
    refine ⟨told.born, ?_, told.metrics, told.dead, told.unknown⟩
    intro born capability
    rw [told.keys born, not_not.mp same]

variable {snapshot : DeviceSnapshot} {view : HostView} {capabilities : Capabilities}

theorem agrees_of_shows (present : snapshot.sparkplugAvailable = true)
    (shown : Shows view snapshot.publishedRedcon snapshot.capabilities) : Agrees view snapshot := by
  rw [Agrees, if_pos present]
  exact shown

theorem agrees_of_dead (absent : snapshot.sparkplugAvailable = false) : Agrees none snapshot := by
  rw [Agrees, if_neg (by simp [absent])]

/-- A device that has just been announced is remembered as the receiver got it. -/
theorem told_remember {device : DeviceRuntimeState} {order : RangeOrder} {nowMS : UInt64}
    (shown : Shows view (device.snapshot order nowMS).publishedRedcon (device.snapshot order nowMS).capabilities) :
    System.Told ⟨device.available.remember (device.snapshot order nowMS), some view⟩ where
  born _ := ⟨view, _, rfl, rfl, shown⟩
  keys _ capability := device.mem_snapshot_capabilities order nowMS capability
  metrics := rfl
  dead told := by cases told
  unknown born := by cases born

theorem told_down (device : DeviceRuntimeState) : System.Told ⟨device.down, some none⟩ where
  born born := by cases born
  keys born := by cases born
  metrics := rfl
  dead _ := ⟨rfl, rfl⟩
  unknown _ untold := by cases untold

/-- One decision: the memory stays what the receiver was told, and the receiver knows the snapshot. -/
theorem told_decide (told : s.Told) (order : RangeOrder) (nowMS : UInt64) :
    (s.step (.decidePublication order nowMS)).Told ∧
      (s.step (.decidePublication order nowMS)).Knows (s.device.snapshot order nowMS) := by
  have decision := DeviceRuntimeState.decideOn_cases s.device (s.device.snapshot order nowMS)
  rw [System.step, DeviceRuntimeState.decidePublication]
  cases outcome : s.device.decideOn (s.device.snapshot order nowMS) with
  | mk after publication =>
    rw [outcome] at decision
    cases decision with
    | stillDown absent unborn told_dead =>
      have dead := (told.dead told_dead).2
      rw [receive, dead]
      exact ⟨told_down s.device, none, rfl, agrees_of_dead absent⟩
    | death absent untold => exact ⟨told_down s.device, none, rfl, agrees_of_dead absent⟩
    | birth present unborn =>
      have shown := host.shows_birth (s.knowledge.getD none) (s.device.snapshot order nowMS) 0 0
      exact ⟨told_remember shown, _, rfl, agrees_of_shows present shown⟩
    | data present born =>
      obtain ⟨before, redcon, known, remembered, showing⟩ := told.born born
      have same : ∀ capability, capability ∈ (s.device.snapshot order nowMS).capabilities ↔
          capability ∈ s.device.lastPublishedCapabilities := by
        intro capability
        rw [s.device.mem_snapshot_capabilities, told.keys born]
      have shown := host.shows_data showing (s.device.snapshot order nowMS) 0 0 same
      rw [known]
      exact ⟨told_remember shown, _, rfl, agrees_of_shows present shown⟩
    | unchanged present born level capabilities =>
      obtain ⟨view, redcon, known, remembered, shown⟩ := told.born born
      rw [level] at remembered
      cases remembered
      refine ⟨⟨told.born, told.keys, told.metrics, ?_, ?_⟩, view, known, ?_⟩
      · intro told_dead
        cases told_dead
      · intro unborn
        rw [show s.device.available.born = s.device.born from rfl, born] at unborn
        cases unborn
      · exact agrees_of_shows present (shows_congr shown capabilities)

theorem told_step (told : s.Told) (call : Call) : (s.step call).Told := by
  cases call with
  | observeState state => exact told_observe told state
  | replaceInventory inventory => exact told_replace told inventory
  | resetPublication => exact told_reset s.device
  | decidePublication order nowMS => exact (told_decide told order nowMS).1

theorem told_run (told : s.Told) (calls : List Call) : (s.run calls).Told := by
  induction calls generalizing s with
  | nil => exact told
  | cons call rest ih => exact ih (told_step told call)

theorem redconMetric_value_injective {one other : UInt8}
    (same : (Sparkplug.redconMetric one).value = (Sparkplug.redconMetric other).value) : one = other := by
  have words : Int32.ofNat one.toNat = Int32.ofNat other.toNat := Sparkplug.MetricValue.int32.inj same
  have exact_one := Int32.toInt_ofNat_of_lt (n := one.toNat) (lt_trans one.toNat_lt (by decide))
  have exact_other := Int32.toInt_ofNat_of_lt (n := other.toNat) (lt_trans other.toNat_lt (by decide))
  rw [← UInt8.toNat_inj]
  rw [words, exact_other] at exact_one
  omega

theorem shows_unique {one other : UInt8} {left right : Capabilities} (first : Shows view one left)
    (second : Shows view other right) : one = other ∧ ∀ capability, left.lookup capability = right.lookup capability := by
  obtain ⟨known, alive, level, values⟩ := first
  obtain ⟨same, still, otherLevel, otherValues⟩ := second
  rw [alive] at still
  cases still
  constructor
  · exact redconMetric_value_injective (Option.some.inj (level.symm.trans otherLevel))
  · intro capability
    have both := (values capability).symm.trans (otherValues capability)
    exact Option.map_injective (fun _ _ => Sparkplug.MetricValue.boolean.inj) both

theorem decideOn_unchanged {device : DeviceRuntimeState}
    (present : snapshot.sparkplugAvailable = true) (born : device.born = true)
    (level : device.lastPublishedRedcon = some snapshot.publishedRedcon)
    (capabilities : ∀ capability, device.lastPublishedCapabilities.lookup capability = snapshot.capabilities.lookup capability)
    (metrics : device.lastPublishedMetrics = ∅) (none : snapshot.metrics = ∅) :
    (device.decideOn snapshot).2 = .none := by
  have sameCapabilities : sameBoolMap device.lastPublishedCapabilities snapshot.capabilities = true :=
    GoMap.sameBy_of_lookup_eq capabilities
  have sameMetrics : sameMetricMap device.lastPublishedMetrics snapshot.metrics = true := by
    rw [metrics, none]
    rfl
  simp [DeviceRuntimeState.decideOn, present, born, level, sameCapabilities, sameMetrics]

theorem not_shows_none {redcon : UInt8} : ¬ Shows none redcon capabilities := by
  rintro ⟨known, alive, _⟩
  cases alive

theorem born_or_dead (told : s.Told) (known : s.knowledge = some view) :
    s.device.born = true ∨ (s.device.born = false ∧ s.device.unavailablePublished = true ∧ view = none) := by
  cases born : s.device.born with
  | true => exact Or.inl rfl
  | false =>
    right
    cases dead : s.device.unavailablePublished with
    | false =>
      rw [told.unknown born dead] at known
      cases known
    | true =>
      rw [(told.dead dead).2] at known
      cases known
      exact ⟨rfl, rfl, rfl⟩

theorem silent_of_knows (told : s.Told) {order : RangeOrder} {nowMS : UInt64} (knows : s.Knows (s.device.snapshot order nowMS)) :
    (s.device.decidePublication order nowMS).2 = .none := by
  obtain ⟨view, known, agrees⟩ := knows
  rw [DeviceRuntimeState.decidePublication]
  rw [Agrees] at agrees
  cases present : (s.device.snapshot order nowMS).sparkplugAvailable with
  | true =>
    rw [if_pos present] at agrees
    rcases born_or_dead told known with born | ⟨_, _, rfl⟩
    · obtain ⟨same, redcon, still, remembered, shown⟩ := told.born born
      rw [known] at still
      cases still
      obtain ⟨rfl, capabilities⟩ := shows_unique shown agrees
      exact decideOn_unchanged present born remembered capabilities told.metrics rfl
    · exact absurd agrees not_shows_none
  | false =>
    rw [if_neg (by simp [present])] at agrees
    subst agrees
    rcases born_or_dead told known with born | ⟨unborn, dead, _⟩
    · obtain ⟨same, redcon, still, _, shown⟩ := told.born born
      rw [known] at still
      cases still
      exact absurd shown not_shows_none
    · simp [DeviceRuntimeState.decideOn, present, unborn, dead]

end steps

section decisions
variable (device : DeviceRuntimeState) (order : RangeOrder) (nowMS : UInt64)

theorem born_of_data (data : isData (device.decidePublication order nowMS).2 = true) : device.born = true := by
  have decision := DeviceRuntimeState.decideOn_cases device (device.snapshot order nowMS)
  rw [DeviceRuntimeState.decidePublication] at data
  generalize device.decideOn (device.snapshot order nowMS) = outcome at decision data
  cases decision with
  | stillDown => cases data
  | death => cases data
  | birth => cases data
  | data _ born => exact born
  | unchanged => cases data

theorem untold_of_death (death : (device.decidePublication order nowMS).2 = .death) :
    device.born = true ∨ device.unavailablePublished = false := by
  have decision := DeviceRuntimeState.decideOn_cases device (device.snapshot order nowMS)
  rw [DeviceRuntimeState.decidePublication] at death
  generalize device.decideOn (device.snapshot order nowMS) = outcome at decision death
  cases decision with
  | stillDown => cases death
  | death _ untold => exact untold
  | birth => cases death
  | data => cases death
  | unchanged => cases death

end decisions

/-- What a decision owes: the receiver then knows the snapshot, data goes to a living device, a death to
a living or a forgotten one, and nothing goes to a receiver that knows the snapshot already. -/
structure Exact (s : System) (order : RangeOrder) (nowMS : UInt64) : Prop where
  knows : (s.step (.decidePublication order nowMS)).Knows (s.device.snapshot order nowMS)
  data : isData (s.device.decidePublication order nowMS).2 = true → s.device.born = true
  death : (s.device.decidePublication order nowMS).2 = .death → s.device.born = true ∨ s.knowledge = none
  needed : (s.device.decidePublication order nowMS).2 ≠ .none → ¬ s.Knows (s.device.snapshot order nowMS)

theorem decision_exact (inventory : InventoryDevice) (calls : List Call) (order : RangeOrder) (nowMS : UInt64) :
    Exact ((start inventory).run calls) order nowMS := by
  have told := told_run (told_start inventory) calls
  generalize (start inventory).run calls = s at told
  refine ⟨(told_decide told order nowMS).2, born_of_data s.device order nowMS, ?_, ?_⟩
  · intro death
    cases born : s.device.born with
    | true => exact Or.inl rfl
    | false =>
      rcases untold_of_death s.device order nowMS death with living | untold
      · rw [born] at living
        cases living
      · exact Or.inr (told.unknown born untold)
  · intro published knows
    exact published (silent_of_knows told knows)

/-- The first decision about a device that is not available announces its death, so that what an
earlier process told of it is cleared. -/
theorem firstDecision_death :
    (start ManagerTracking.sampleUnit).device.born = false ∧
      ((start ManagerTracking.sampleUnit).device.decidePublication .asStored 1000).2 = .death := by
  decide +kernel

end Txing.Rig.PublicationMachine
