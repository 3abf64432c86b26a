import Txing.Rig.CapabilityDependencies

/-! Which states a snapshot counts. Its test, that the time of observation and the TTL do not lie before now, is made in machine
words and looks back only; `stateFreshAt` looks both ways. The two agree exactly on the times given here. -/

namespace Txing.Rig.SnapshotFreshness
open Protocol DeviceState CapabilityGates SnapshotMeaning CapabilityDependencies
variable {s : DeviceRuntimeState} {nowMS : UInt64}

def stored (s : DeviceRuntimeState) : List CapabilityState := s.adapterStates.entries.map fun entry => entry.2

theorem mem_visited_iff (order : RangeOrder) {state : CapabilityState} (among : state ∈ stored s) :
    state ∈ visited s order nowMS ↔ expired state nowMS = false := by
  have arranged : state ∈ order.arrange (stored s) := (order.complete _).mem_iff.mpr among
  unfold stored at arranged
  unfold visited fresh
  rw [List.mem_filter, and_iff_right arranged]
  simp

def sources (capability : String) : List String :=
  if capability = powerCapability then powerCapability :: boardCapabilities
  else if capability = agentCapability then [sparkplugCapability]
  else [capability]

/-- A snapshot counts a state exactly if it is fresh, so that every capability it has comes from a fresh state. -/
structure CountsFresh (s : DeviceRuntimeState) (order : RangeOrder) (nowMS : UInt64) : Prop where
  counts : ∀ state ∈ stored s, state ∈ visited s order nowMS ↔ stateFreshAt state nowMS = true
  available : ∀ capability, Available s order nowMS capability → ∃ source ∈ sources capability, ∃ state ∈ stored s,
    stateFreshAt state nowMS = true ∧ capabilityIsAvailable state.capabilities source = true

/-- The time is at most the TTL ahead, and the TTL after it is still a time; or else it is so far ahead that, past the last
time, the TTL after it comes to lie before now again. -/
def InRange (observedAtMS nowMS : UInt64) : Prop :=
  (observedAtMS.toNat + 150000 < 2 ^ 64 ∧ observedAtMS.toNat ≤ nowMS.toNat + 150000) ∨
    (2 ^ 64 ≤ observedAtMS.toNat + 150000 ∧ observedAtMS.toNat + 150000 - 2 ^ 64 < nowMS.toNat ∧
      nowMS.toNat + 150000 < observedAtMS.toNat)

variable (state : CapabilityState)

theorem expired_iff (nowMS : UInt64) :
    expired state nowMS = true ↔ (state.observedAtMS.toNat + 150000) % 2 ^ 64 < nowMS.toNat := by
  have ttl : stateTTLMS.toNat = 150000 := rfl
  rw [expired, decide_eq_true_eq, UInt64.lt_iff_toNat_lt, UInt64.toNat_add, ttl]

theorem stateFreshAt_iff (nowMS : UInt64) :
    stateFreshAt state nowMS = true ↔
      state.observedAtMS.toNat ≤ nowMS.toNat + 150000 ∧ nowMS.toNat ≤ state.observedAtMS.toNat + 150000 := by
  have ttl : stateTTLMS.toNat = 150000 := rfl
  unfold stateFreshAt
  split
  next ahead =>
    rw [gt_iff_lt, UInt64.lt_iff_toNat_lt] at ahead
    rw [decide_eq_true_eq, UInt64.le_iff_toNat_le, UInt64.toNat_sub_of_le _ _ (UInt64.le_iff_toNat_le.mpr ahead.le), ttl]
    omega
  next behind =>
    rw [gt_iff_lt, UInt64.lt_iff_toNat_lt, not_lt] at behind
    rw [decide_eq_true_eq, UInt64.le_iff_toNat_le, UInt64.toNat_sub_of_le _ _ (UInt64.le_iff_toNat_le.mpr behind), ttl]
    omega

theorem agrees_iff_inRange (nowMS : UInt64) :
    (expired state nowMS = false ↔ stateFreshAt state nowMS = true) ↔ InRange state.observedAtMS nowMS := by
  rw [← Bool.not_eq_true, expired_iff, stateFreshAt_iff]
  have observed := state.observedAtMS.toNat_lt
  have now := nowMS.toNat_lt
  unfold InRange
  by_cases small : state.observedAtMS.toNat + 150000 < 2 ^ 64
  · rw [Nat.mod_eq_of_lt small]
    omega
  · have wrapped : (state.observedAtMS.toNat + 150000) % 2 ^ 64 = state.observedAtMS.toNat + 150000 - 2 ^ 64 := by
      rw [Nat.mod_eq_sub_mod (by omega), Nat.mod_eq_of_lt (by omega)]
    rw [wrapped]
    omega

/-- Whatever stands was reported, or is power that the board speaks for. -/
theorem reported_of_available {order : RangeOrder} {capability : String}
    (available : Available s order nowMS capability) :
    ∃ source ∈ sources capability, Reported (visited s order nowMS) source := by
  unfold sources
  by_cases power : capability = powerCapability
  · subst power
    rw [if_pos rfl]
    have standing := (available_iff_standing s order nowMS (by decide)).mp available
    rcases (holds_power.mp standing).2.2 with seen | ⟨owned, among, seen⟩
    · exact ⟨powerCapability, List.mem_cons_self, seen.2⟩
    · exact ⟨owned, List.mem_cons_of_mem _ among, seen.2⟩
  rw [if_neg power]
  by_cases agent : capability = agentCapability
  · subst agent
    rw [if_pos rfl]
    have sparkplug := ((snapshot_dependent s order nowMS).agent.mp available).2.1
    have standing := (available_iff_standing s order nowMS (by decide)).mp sparkplug
    exact ⟨sparkplugCapability, List.mem_singleton_self _, ((holds_iff (by decide)).mp standing).1.2⟩
  · rw [if_neg agent]
    have standing := (available_iff_standing s order nowMS agent).mp available
    exact ⟨capability, List.mem_singleton_self _, ((holds_iff power).mp standing).1.2⟩

/-- A snapshot counts the fresh states, and those only, exactly if all times are in range. -/
theorem countsFresh_iff (s : DeviceRuntimeState) (order : RangeOrder) (nowMS : UInt64) :
    CountsFresh s order nowMS ↔ ∀ state ∈ stored s, InRange state.observedAtMS nowMS := by
  constructor
  · intro counts state among
    rw [← agrees_iff_inRange, ← mem_visited_iff order among]
    exact counts.counts state among
  · intro inRange
    have counts : ∀ state ∈ stored s, state ∈ visited s order nowMS ↔ stateFreshAt state nowMS = true := by
      intro state among
      exact (mem_visited_iff order among).trans ((agrees_iff_inRange state nowMS).mpr (inRange state among))
    refine ⟨counts, ?_⟩
    intro capability available
    obtain ⟨source, among, state, counted, tells⟩ := reported_of_available available
    have kept := (order.complete _).mem_iff.mp (List.mem_of_mem_filter counted)
    exact ⟨source, among, state, kept, (counts state kept).mp counted, tells⟩

/-- A unit whose adapter's clock is ten minutes ahead. -/
def aheadUnit : DeviceRuntimeState :=
  ((newDeviceRuntimeState agentUnit).observeState { reachableState with observedAtMS := 1760000600000 }).1

/-- Its state is not fresh, and the snapshot has sparkplug from it. -/
theorem aheadUnit_counted : ¬ CountsFresh aheadUnit .asStored 1760000000000 := by
  intro counts
  have available : Available aheadUnit .asStored 1760000000000 sparkplugCapability := by
    unfold Available
    decide +kernel
  obtain ⟨source, _, state, among, fresh, _⟩ := counts.available sparkplugCapability available
  have only : stored aheadUnit = [{ reachableState with observedAtMS := 1760000600000 }] := rfl
  rw [only, List.mem_singleton] at among
  rw [among] at fresh
  exact absurd fresh (by decide +kernel)

end Txing.Rig.SnapshotFreshness
