import Txing.Rig.SnapshotFreshness

/-! The order of the maps that a snapshot ranges over. Capabilities are joined and boundaries compared in a way that no order
matters for; of equally new Boolean metrics the last one visited counts, and this is the one place where the order shows. -/

namespace Txing.Rig.SnapshotOrder
open Txing.Library Newest Unsigned Protocol DeviceState SnapshotMeaning SnapshotFreshness

structure Alike (one other : CapabilityState) : Prop where
  rest : other = { one with capabilities := other.capabilities, metrics := other.metrics }
  capabilities : one.capabilities.entries.Perm other.capabilities.entries
  metrics : one.metrics.entries.Perm other.metrics.entries

/-- The same inventory and adapter states, with all their maps in another order. -/
structure Reordered (s other : DeviceRuntimeState) : Prop where
  inventory : other.inventory = { s.inventory with
    redconRules := other.inventory.redconRules, redconMetricRules := other.inventory.redconMetricRules }
  rules : s.inventory.redconRules.entries.Perm other.inventory.redconRules.entries
  metricRules : s.inventory.redconMetricRules.entries.Perm other.inventory.redconMetricRules.entries
  states : ∃ entries, entries.Perm s.adapterStates.entries ∧
    List.Forall₂ (fun entry after => entry.1 = after.1 ∧ Alike entry.2 after.2) entries other.adapterStates.entries

def SameReport (one other : DeviceSnapshot) : Prop :=
  (∀ capability, one.capabilities.lookup capability = other.capabilities.lookup capability) ∧ one.redcon = other.redcon

def Unordered (s : DeviceRuntimeState) (nowMS : UInt64) : Prop :=
  ∀ other, Reordered s other → ∀ order order', SameReport (s.snapshot order nowMS) (other.snapshot order' nowMS)

/-- Two states say different things about a Boolean metric at the same time, and no state says anything newer. -/
def Disputed (states : List CapabilityState) (name : String) : Prop :=
  ∃ one ∈ states, ∃ other ∈ states, booleanMetric one name = some true ∧ booleanMetric other name = some false ∧
    one.observedAtMS = other.observedAtMS ∧
    ∀ state ∈ states, booleanMetric state name ≠ none → state.observedAtMS ≤ one.observedAtMS

/-- A level that is ready in some order of the states that count. -/
def Attainable (s : DeviceRuntimeState) (nowMS : UInt64) (level : UInt8) : Prop :=
  ∃ states, states.Perm (fresh nowMS (stored s)) ∧ Ready s.inventory states level

/-- The best level that can be attained needs no metric that is in dispute. -/
def Settled (s : DeviceRuntimeState) (nowMS : UInt64) : Prop :=
  ∀ level, IsLeast { level | Attainable s nowMS level } level →
    ∀ name ∈ (s.inventory.redconMetricRules.lookup level).getD [], ¬ Disputed (fresh nowMS (stored s)) name

section alike
variable {one other : CapabilityState} (alike : Alike one other)
include alike

theorem Alike.lookup_capabilities (capability : String) :
    one.capabilities.lookup capability = other.capabilities.lookup capability :=
  AList.perm_lookup alike.capabilities

theorem Alike.lookup_metrics (name : String) : one.metrics.lookup name = other.metrics.lookup name :=
  AList.perm_lookup alike.metrics

theorem Alike.observedAtMS : one.observedAtMS = other.observedAtMS := by
  rw [alike.rest]

theorem Alike.available (capability : String) :
    capabilityIsAvailable one.capabilities capability = capabilityIsAvailable other.capabilities capability := by
  unfold capabilityIsAvailable
  rw [alike.lookup_capabilities]

theorem Alike.declared (capability : String) :
    capabilityIsDeclared one.capabilities capability = capabilityIsDeclared other.capabilities capability := by
  unfold capabilityIsDeclared
  rw [alike.lookup_capabilities]

theorem Alike.booleanMetric (name : String) : booleanMetric one name = SnapshotMeaning.booleanMetric other name := by
  unfold SnapshotMeaning.booleanMetric
  rw [alike.lookup_metrics]

theorem Alike.expired (nowMS : UInt64) : expired one nowMS = DeviceState.expired other nowMS := by
  unfold DeviceState.expired
  rw [alike.observedAtMS]

theorem Alike.redcon4 : stateReportsTransportRedcon4 one = stateReportsTransportRedcon4 other := by
  unfold stateReportsTransportRedcon4
  simp only [alike.declared, alike.available, alike.lookup_metrics]

theorem Alike.owned : stateDeclaresBoardOwnedCapability one = stateDeclaresBoardOwnedCapability other := by
  unfold stateDeclaresBoardOwnedCapability
  simp only [alike.declared]

end alike

section reports
variable {states after : List CapabilityState}
  {property' property : CapabilityState → Prop} (alike : List.Forall₂ Alike states after)
include alike

variable (same : ∀ one other, Alike one other → (property one ↔ property' other))
include same

theorem Alike.exists_iff : (∃ state ∈ states, property state) ↔ ∃ state ∈ after, property' state := by
  induction alike with
  | nil => simp
  | cons first _ ih => simp only [List.exists_mem_cons_iff, ih, same _ _ first]

theorem Alike.forall_iff : (∀ state ∈ states, property state) ↔ ∀ state ∈ after, property' state := by
  induction alike with
  | nil => simp
  | cons first _ ih => simp only [List.forall_mem_cons, ih, same _ _ first]

omit same

theorem reported_alike (capability : String) : Reported states capability ↔ Reported after capability :=
  Alike.exists_iff alike fun _ _ alike => by rw [alike.available]

theorem boundary_alike : Boundary states ↔ Boundary after := by
  apply Alike.exists_iff alike
  intro one other first
  rw [first.redcon4, first.observedAtMS]
  apply and_congr_right
  intro _
  apply Alike.forall_iff alike
  intro board later second
  rw [second.owned, second.observedAtMS]

theorem metricReports_alike (name : String) : metricReports states name = metricReports after name := by
  unfold metricReports
  induction alike with
  | nil => rfl
  | cons first _ ih => rw [List.filterMap_cons, List.filterMap_cons, first.booleanMetric, first.observedAtMS, ih]

omit alike in
theorem standing_congr {names : List String} (reported : ∀ capability, Reported states capability ↔ Reported after capability)
    (boundary : Boundary states ↔ Boundary after) (capability : String) :
    Standing names states capability ↔ Standing names after capability := by
  unfold Standing
  simp only [reported, boundary]

omit alike in
theorem standing_perm {names : List String} (perm : states.Perm after) (capability : String) :
    Standing names states capability ↔ Standing names after capability := by
  apply standing_congr
  · intro capability
    unfold Reported
    simp only [perm.mem_iff]
  · unfold Boundary
    simp only [perm.mem_iff]

theorem ready_alike {inventory : InventoryDevice} (level : UInt8) :
    Ready inventory states level ↔ Ready inventory after level := by
  unfold Ready Measured
  simp only [standing_congr (reported_alike alike) (boundary_alike alike), metricReports_alike alike]

theorem fresh_alike (nowMS : UInt64) : List.Forall₂ Alike (fresh nowMS states) (fresh nowMS after) := by
  unfold fresh
  induction alike with
  | nil => exact List.Forall₂.nil
  | cons first _ ih =>
    rw [List.filter_cons, List.filter_cons, first.expired]
    split
    · exact List.Forall₂.cons first ih
    · exact ih

end reports

section orders
variable {s other : DeviceRuntimeState} {states : List CapabilityState} {nowMS : UInt64}

theorem visited_perm (order : RangeOrder) (nowMS : UInt64) : (visited s order nowMS).Perm (fresh nowMS (stored s)) :=
  (order.complete _).filter _

/-- The states that count in another order of the maps are those of some order of the states. -/
theorem Reordered.visited (reordered : Reordered s other) (order : RangeOrder) (nowMS : UInt64) :
    ∃ states, states.Perm (fresh nowMS (stored s)) ∧ List.Forall₂ Alike states (visited other order nowMS) := by
  obtain ⟨entries, perm, pairs⟩ := reordered.states
  have alike : List.Forall₂ Alike (entries.map fun entry => entry.2) (stored other) := by
    unfold stored
    rw [List.forall₂_map_left_iff, List.forall₂_map_right_iff]
    exact pairs.imp fun _ _ both => both.2
  have turned : List.Forall₂ (fun one other => Alike other one) (fresh nowMS (stored other))
      (fresh nowMS (entries.map fun entry => entry.2)) := (fresh_alike alike nowMS).flip
  obtain ⟨states, alike, same⟩ := List.perm_comp_forall₂ (visited_perm order nowMS) turned
  refine ⟨states, same.trans ?_, alike.flip⟩
  exact (perm.map _).filter _

theorem Reordered.ready (reordered : Reordered s other) (states : List CapabilityState) (level : UInt8) :
    Ready other.inventory states level ↔ Ready s.inventory states level := by
  have rules := fun level => AList.perm_lookup (a := level) reordered.rules
  have metricRules := fun level => AList.perm_lookup (a := level) reordered.metricRules
  unfold Ready
  rw [← rules, ← metricRules, reordered.inventory]

theorem reordered_refl (s : DeviceRuntimeState) : Reordered s s := by
  refine ⟨rfl, List.Perm.refl _, List.Perm.refl _, _, List.Perm.refl _, ?_⟩
  apply List.forall₂_same.mpr
  intro entry _
  exact ⟨rfl, rfl, List.Perm.refl _, List.Perm.refl _⟩

theorem mem_metricReports {name : String} {time : UInt64} {value : Bool} :
    (time, value) ∈ metricReports states name ↔
      ∃ state ∈ states, booleanMetric state name = some value ∧ state.observedAtMS = time := by
  simp [metricReports]

/-- What was last true in one order is so in every order, unless it is in dispute. -/
theorem measured_of_undisputed {after : List CapabilityState} {name : String} (perm : after.Perm states)
    (measured : Measured states name) (undisputed : ¬ Disputed states name) : Measured after name := by
  obtain ⟨time, last⟩ := measured
  have reports : (metricReports after name).Perm (metricReports states name) := perm.filterMap _
  have some_there : metricReports after name ≠ [] := by
    intro nothing
    rw [nothing] at reports
    rw [← reports.nil_eq] at last
    cases last.mem
  obtain ⟨⟨time', value⟩, found⟩ := exists_isNewest some_there
  have among := reports.mem_iff.mp found.mem
  have same : time' = time := le_antisymm (last.le among) (found.le (reports.mem_iff.mpr last.mem))
  cases value with
  | true => exact ⟨time', found⟩
  | false =>
    exfalso
    apply undisputed
    obtain ⟨one, first, isTrue, at_⟩ := mem_metricReports.mp last.mem
    obtain ⟨other, second, isFalse, at'⟩ := mem_metricReports.mp among
    refine ⟨one, first, other, second, isTrue, isFalse, ?_, ?_⟩
    · rw [at_, at', same]
    · intro state counted told
      obtain ⟨value, told⟩ := Option.ne_none_iff_exists'.mp told
      rw [at_]
      exact last.le (mem_metricReports.mpr ⟨state, counted, told, rfl⟩)

/-- Where nothing is in dispute that matters, every order finds the same level. -/
theorem Settled.isLeast_iff (settled : Settled s nowMS) (perm : states.Perm (fresh nowMS (stored s))) (level : UInt8) :
    IsLeast { level | Ready s.inventory states level } level ↔ IsLeast { level | Attainable s nowMS level } level := by
  have forth : ∀ level, IsLeast { level | Attainable s nowMS level } level →
      IsLeast { level | Ready s.inventory states level } level := by
    intro level least
    have undisputed := settled level least
    obtain ⟨⟨chosen, perm', commanded, ⟨required, ruled, standing⟩, measured⟩, bound⟩ := least
    refine ⟨⟨commanded, ⟨required, ruled, ?_⟩, ?_⟩, fun other ready => bound ⟨states, perm, ready⟩⟩
    · intro capability needed
      exact (standing_perm (perm'.trans perm.symm) capability).mp (standing capability needed)
    · intro name needed
      apply measured_of_undisputed (perm.trans perm'.symm) (measured name needed)
      simpa only [Disputed, perm'.mem_iff] using undisputed name needed
  refine ⟨?_, forth level⟩
  intro least
  have attainable : ∃ level, Attainable s nowMS level := ⟨level, states, perm, least.1⟩
  obtain ⟨best, isBest⟩ := exists_isLeast attainable
  rw [least.unique (forth best isBest)]
  exact isBest

theorem snapshot_lookup_congr {one other : DeviceSnapshot}
    (declared : ∀ capability, capability ∈ one.capabilities ↔ capability ∈ other.capabilities)
    (available : ∀ capability, capabilityIsAvailable one.capabilities capability = true ↔
      capabilityIsAvailable other.capabilities capability = true) (capability : String) :
    one.capabilities.lookup capability = other.capabilities.lookup capability := by
  have declared := declared capability
  have available := available capability
  rw [← AList.lookup_isSome, ← AList.lookup_isSome] at declared
  unfold capabilityIsAvailable at available
  cases first : one.capabilities.lookup capability with
  | none =>
    rw [first] at declared
    exact (Option.not_isSome_iff_eq_none.mp fun there => absurd (declared.mpr there) nofun).symm
  | some value =>
    rw [first] at declared available
    obtain ⟨value', second⟩ := Option.isSome_iff_exists.mp (declared.mp rfl)
    rw [second] at available ⊢
    exact congrArg some (Bool.eq_iff_iff.mpr available)

/-- A snapshot after a reordering is one of the same states in some order. -/
theorem Reordered.redcon (reordered : Reordered s other) (settled : Settled s nowMS) (order : RangeOrder)
    (level : UInt8) :
    (other.snapshot order nowMS).redcon = some level ↔ IsLeast { level | Attainable s nowMS level } level := by
  obtain ⟨states, perm, alike⟩ := reordered.visited order nowMS
  rw [snapshot_redcon, ← settled.isLeast_iff perm]
  simp only [reordered.ready, ready_alike alike]

theorem Reordered.standing (reordered : Reordered s other) (order order' : RangeOrder) (capability : String) :
    Standing s.inventory.capabilities (SnapshotMeaning.visited s order nowMS) capability ↔
      Standing other.inventory.capabilities (SnapshotMeaning.visited other order' nowMS) capability := by
  obtain ⟨states, perm, alike⟩ := reordered.visited order' nowMS
  rw [← standing_congr (reported_alike alike) (boundary_alike alike), reordered.inventory]
  exact standing_perm ((visited_perm order nowMS).trans perm.symm) capability

theorem Settled.unordered (settled : Settled s nowMS) : Unordered s nowMS := by
  intro other reordered order order'
  have redcon : (s.snapshot order nowMS).redcon = (other.snapshot order' nowMS).redcon := by
    apply Option.ext
    intro level
    rw [(reordered_refl s).redcon settled, reordered.redcon settled]
  refine ⟨snapshot_lookup_congr ?_ ?_, redcon⟩
  · intro capability
    rw [s.mem_snapshot_capabilities, other.mem_snapshot_capabilities, reordered.inventory]
  · intro capability
    rw [snapshot_available, snapshot_available, redcon]
    simp only [reordered.standing order order']
    rw [reordered.inventory]

/-- Every order of the states that count is that of some visit. -/
theorem exists_order (perm : states.Perm (fresh nowMS (stored s))) :
    ∃ order, SnapshotMeaning.visited s order nowMS = states := by
  classical
  have complete : (states ++ (stored s).filter fun state => !!expired state nowMS).Perm (stored s) :=
    (perm.append_right _).trans (List.filter_append_perm _ _)
  let order : RangeOrder := {
    arrange := fun given => if given = stored s then states ++ (stored s).filter fun state => !!expired state nowMS else given
    complete := by
      intro given
      split
      next same => exact same ▸ complete
      next => exact List.Perm.refl given }
  refine ⟨order, ?_⟩
  have arranged : order.arrange (stored s) = states ++ (stored s).filter fun state => !!expired state nowMS := if_pos rfl
  have kept : fresh nowMS states = states := by
    apply List.filter_eq_self.mpr
    intro state among
    exact (List.mem_filter.mp (perm.mem_iff.mp among)).2
  have dropped : fresh nowMS ((stored s).filter fun state => !!expired state nowMS) = [] := by
    apply List.filter_eq_nil_iff.mpr
    intro state among
    have old := (List.mem_filter.mp among).2
    simpa using old
  show fresh nowMS (order.arrange (stored s)) = states
  rw [arranged, fresh, List.filter_append]
  show fresh nowMS states ++ fresh nowMS _ = states
  rw [kept, dropped, List.append_nil]

theorem Disputed.unmeasured {name : String} (disputed : Disputed states name) :
    ∃ after, after.Perm states ∧ ¬ Measured after name := by
  classical
  obtain ⟨one, _, other, among, _, isFalse, same, newest⟩ := disputed
  refine ⟨states.erase other ++ [other], ?_, ?_⟩
  · exact (List.perm_append_singleton _ _).trans (List.perm_cons_erase among).symm
  · rintro ⟨time, measured⟩
    have split : metricReports (states.erase other ++ [other]) name =
        metricReports (states.erase other) name ++ [(other.observedAtMS, false)] := by
      rw [metricReports_append]
      simp [metricReports, isFalse]
    have last : IsNewest (metricReports (states.erase other ++ [other]) name) (other.observedAtMS, false) := by
      rw [split]
      apply isNewest_snoc
      rintro ⟨time, value⟩ earlier
      obtain ⟨state, left, told, rfl⟩ := mem_metricReports.mp earlier
      rw [← same]
      exact newest state (List.mem_of_mem_erase left) (by rw [told]; nofun)
    cases measured.unique last

theorem Unordered.settled (unordered : Unordered s nowMS) : Settled s nowMS := by
  intro level least name needed disputed
  obtain ⟨⟨states, perm, ready⟩, bound⟩ := least
  obtain ⟨order, first⟩ := exists_order perm
  obtain ⟨after, perm', unmeasured⟩ := disputed.unmeasured
  obtain ⟨order', second⟩ := exists_order perm'
  have found : (s.snapshot order nowMS).redcon = some level := by
    rw [snapshot_redcon, first]
    exact ⟨ready, fun other ready => bound ⟨states, perm, ready⟩⟩
  have same := (unordered s (reordered_refl s) order order').2
  rw [found] at same
  have least := (snapshot_redcon s order' nowMS level).mp same.symm
  rw [second] at least
  exact unmeasured (least.1.2.2 name needed)

/-- A snapshot is the same in every order of its maps exactly if the best level it can find needs no metric in dispute. -/
theorem unordered_iff_settled (s : DeviceRuntimeState) (nowMS : UInt64) : Unordered s nowMS ↔ Settled s nowMS :=
  ⟨Unordered.settled, Settled.unordered⟩

end orders

section sample

def dockedUnit : InventoryDevice where
  thingName := "unit-1"
  thingType := "unit"
  capabilities := ["sparkplug", "ble", "thread"]
  redconCommandLevels := [2, 3]
  redconRules := List.toAList [⟨2, ["sparkplug"]⟩, ⟨3, ["sparkplug"]⟩]
  redconMetricRules := List.toAList [⟨2, ["docked"]⟩]
  levels_valid := by simp [validRedcon]

def dockedState (adapterID : String) (docked : Bool) : CapabilityState where
  schemaVersion := "2.0"
  adapterID := adapterID
  thingName := "unit-1"
  capabilities := List.toAList [⟨"sparkplug", true⟩, ⟨adapterID, true⟩]
  metrics := List.toAList [⟨"docked", ⟨"Boolean", .bool docked⟩⟩]
  observedAtMS := 1000
  seq := 0

/-- Two adapters see the unit in the same millisecond and do not agree. -/
def disputedUnit : DeviceRuntimeState :=
  (((newDeviceRuntimeState dockedUnit).observeState (dockedState "ble" true)).1.observeState (dockedState "thread" false)).1

def reversedOrder : RangeOrder := ⟨List.reverse, List.reverse_perm⟩

theorem disputedUnit_ordered : ¬ Unordered disputedUnit 1000 := by
  intro unordered
  have same := (unordered disputedUnit (reordered_refl disputedUnit) .asStored reversedOrder).2
  exact absurd same (by decide +kernel)

end sample

end Txing.Rig.SnapshotOrder
