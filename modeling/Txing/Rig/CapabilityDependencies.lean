import Txing.Rig.SnapshotMeaning

/-! The dependencies between the capabilities of a snapshot, for every inventory, every store of adapter states and every order
in which they are visited. -/

namespace Txing.Rig.CapabilityDependencies
open Protocol DeviceState CapabilityGates SnapshotMeaning

section dependencies
variable (s : DeviceRuntimeState) (order : RangeOrder) (nowMS : UInt64)

def Available (capability : String) : Prop :=
  capabilityIsAvailable (s.snapshot order nowMS).capabilities capability = true

/-- What the rules ask for: that the snapshot has the capability, except for the agent, which only the adapters can vouch for. -/
def Provided (capability : String) : Prop :=
  if capability = agentCapability then
    agentCapability ∈ s.inventory.capabilities ∧ Reported (visited s order nowMS) agentCapability
  else Available s order nowMS capability

/-- A command level with a rule, all of whose capabilities and Boolean metrics hold. -/
def Attained (provided : String → Prop) (level : UInt8) : Prop :=
  level ∈ s.inventory.redconCommandLevels ∧ (∃ required, s.inventory.redconRules.lookup level = some required ∧
      ∀ capability ∈ required, provided capability) ∧
    ∀ name ∈ (s.inventory.redconMetricRules.lookup level).getD [], Measured (visited s order nowMS) name

/-- The dependencies of a snapshot, where `provided` is what its REDCON rules ask of a capability. -/
structure Dependent (provided : String → Prop) : Prop where
  declared : ∀ capability ∈ (s.snapshot order nowMS).capabilities, capability ∈ s.inventory.capabilities
  power : powerCapability ∈ s.inventory.capabilities → ¬ Available s order nowMS powerCapability →
    ∀ capability ∈ boardCapabilities, ¬ Available s order nowMS capability
  board : boardCapability ∈ s.inventory.capabilities → ¬ Available s order nowMS boardCapability →
    ∀ capability ∈ controlAndVideo, ¬ Available s order nowMS capability
  control : mcpCapability ∈ s.inventory.capabilities ∨ mavlinkCapability ∈ s.inventory.capabilities →
    ¬ Available s order nowMS mcpCapability → ¬ Available s order nowMS mavlinkCapability →
    ¬ Available s order nowMS videoCapability
  boundary : ∀ state ∈ visited s order nowMS, stateReportsTransportRedcon4 state = true →
    (∀ board ∈ visited s order nowMS, stateDeclaresBoardOwnedCapability board = true →
      board.observedAtMS ≤ state.observedAtMS) →
    ∀ capability ∈ powerCapability :: boardCapabilities, ¬ Available s order nowMS capability
  redcon : ∀ level, (s.snapshot order nowMS).redcon = some level ↔
    Attained s order nowMS provided level ∧ ∀ other, Attained s order nowMS provided other → level ≤ other
  unattained : (s.snapshot order nowMS).redcon = none ↔ ∀ level, ¬ Attained s order nowMS provided level
  agent : Available s order nowMS agentCapability ↔ agentCapability ∈ s.inventory.capabilities ∧
    Available s order nowMS sparkplugCapability ∧ ∃ level, (s.snapshot order nowMS).redcon = some level ∧ level ≤ 2

theorem available_iff_standing {capability : String} (other : capability ≠ agentCapability) :
    Available s order nowMS capability ↔ Standing s.inventory.capabilities (visited s order nowMS) capability :=
  (snapshot_available s order nowMS capability).trans (iff_of_eq (if_neg other))

theorem provided_iff_standing (capability : String) :
    Provided s order nowMS capability ↔ Standing s.inventory.capabilities (visited s order nowMS) capability := by
  unfold Provided
  split
  next agent =>
    rw [agent, Standing, holds_agent]
  next other => exact available_iff_standing s order nowMS other

theorem attained_iff_ready (level : UInt8) :
    Attained s order nowMS (Provided s order nowMS) level ↔ Ready s.inventory (visited s order nowMS) level := by
  unfold Attained Ready
  simp only [provided_iff_standing]

theorem snapshot_dependent : Dependent s order nowMS (Provided s order nowMS) := by
  have standing : ∀ capability ∈ powerCapability :: boardCapabilities, Available s order nowMS capability ↔
      Standing s.inventory.capabilities (visited s order nowMS) capability :=
    fun capability gated => available_iff_standing s order nowMS (by rintro rfl; exact absurd gated (by decide))
  constructor
  case declared =>
    intro capability among
    exact (s.mem_snapshot_capabilities order nowMS capability).mp among
  case power =>
    intro declared unavailable capability owned available
    rw [standing powerCapability (by decide)] at unavailable
    exact unavailable (((standing capability (List.mem_cons_of_mem _ owned)).mp available).powered owned declared)
  case board =>
    intro declared unavailable capability control available
    rw [standing boardCapability (by decide)] at unavailable
    have owned := owned_of_control control
    exact unavailable (((standing capability (List.mem_cons_of_mem _ owned)).mp available).boarded control declared)
  case control =>
    intro declared mcp mavlink available
    rw [standing mcpCapability (by decide)] at mcp
    rw [standing mavlinkCapability (by decide)] at mavlink
    rcases ((standing videoCapability (by decide)).mp available).controlled declared with one | two
    · exact mcp one
    · exact mavlink two
  case boundary =>
    intro state among reports newest capability gated available
    exact ((standing capability gated).mp available).clear gated ⟨state, among, reports, newest⟩
  case redcon =>
    intro level
    simp only [attained_iff_ready]
    exact snapshot_redcon s order nowMS level
  case unattained =>
    simp only [attained_iff_ready]
    exact snapshot_redcon_none s order nowMS
  case agent =>
    rw [available_iff_standing s order nowMS (by decide : sparkplugCapability ≠ agentCapability)]
    exact (snapshot_available s order nowMS agentCapability).trans (iff_of_eq (if_pos rfl))

end dependencies

section sample

def agentUnit : InventoryDevice where
  thingName := "unit-1"
  thingType := "unit"
  capabilities := ["sparkplug", "agent"]
  redconCommandLevels := [1, 2]
  redconRules := List.toAList [⟨1, ["sparkplug", "agent"]⟩, ⟨2, ["sparkplug"]⟩]
  redconMetricRules := ∅
  levels_valid := by simp [validRedcon]

def reachableState : CapabilityState where
  schemaVersion := "2.0"
  adapterID := "ble"
  thingName := "unit-1"
  capabilities := List.toAList [⟨"sparkplug", true⟩]
  metrics := ∅
  observedAtMS := 1000
  seq := 0

def reachableUnit : DeviceRuntimeState := ((newDeviceRuntimeState agentUnit).observeState reachableState).1

/-- The snapshot has sparkplug and, at REDCON 2, the agent; the rule of level 1 asks for no more. -/
theorem agentUnit_passed_over :
    ¬ Dependent reachableUnit .asStored 1000 (Available reachableUnit .asStored 1000) := by
  intro dependent
  have redcon : (reachableUnit.snapshot .asStored 1000).redcon = some 2 := by decide +kernel
  have best := ((dependent.redcon 2).mp redcon).2 1
  refine absurd (best ⟨by decide +kernel, ⟨["sparkplug", "agent"], by decide +kernel, ?_⟩, ?_⟩) (by decide)
  · unfold Available
    decide +kernel
  · intro name among
    cases among

end sample

end Txing.Rig.CapabilityDependencies
