import Txing.Library.Newest
import Txing.Library.Unsigned
import Txing.Rig.CapabilityGates

/-! What a snapshot says. The states that have not expired are read as a set of reports, and a snapshot says neither more nor
less than follows from that, whatever the order in which the states are visited; only which of several equally new metrics
comes last depends on it. -/

namespace Txing.Rig.SnapshotMeaning
open Txing.Library Newest Unsigned Protocol DeviceState CapabilityGates

def fresh (nowMS : UInt64) (states : List CapabilityState) : List CapabilityState :=
  states.filter fun state => !expired state nowMS

section reports
variable (states : List CapabilityState)

def Reported (capability : String) : Prop :=
  ∃ state ∈ states, capabilityIsAvailable state.capabilities capability = true

/-- A transport REDCON 4 that is no older than anything the board has said. -/
def Boundary : Prop :=
  ∃ state ∈ states, stateReportsTransportRedcon4 state = true ∧
    ∀ board ∈ states, stateDeclaresBoardOwnedCapability board = true → board.observedAtMS ≤ state.observedAtMS

def booleanValue (metric : MetricValue) : Option Bool :=
  match metric.value with
  | .bool value => if metric.datatype = "Boolean" then some value else none
  | _ => none

def booleanMetric (state : CapabilityState) (name : String) : Option Bool := (state.metrics.lookup name).bind booleanValue

def metricReports (name : String) : List (UInt64 × Bool) :=
  states.filterMap fun state => (booleanMetric state name).map (state.observedAtMS, ·)

end reports

section gathering
variable {states : List CapabilityState} {nowMS : UInt64}

theorem reported_append (states more : List CapabilityState) (capability : String) :
    Reported (states ++ more) capability ↔ Reported states capability ∨ Reported more capability := by
  simp only [Reported, List.mem_append, or_and_right, exists_or]

theorem metricReports_append (states more : List CapabilityState) (name : String) :
    metricReports (states ++ more) name = metricReports states name ++ metricReports more name :=
  List.filterMap_append ..

theorem merge_available (reported : List ((_ : String) × Bool)) (capabilities : Capabilities) (capability : String) :
    capabilityIsAvailable (reported.foldl (fun capabilities entry => mergeCapability capabilities entry.1 entry.2) capabilities)
        capability = true ↔
      capabilityIsAvailable capabilities capability = true ∨ (capability ∈ capabilities ∧ ⟨capability, true⟩ ∈ reported) := by
  induction reported generalizing capabilities with
  | nil => simp
  | cons entry rest ih =>
    obtain ⟨name, value⟩ := entry
    rw [List.foldl_cons, ih, mergeCapability, mem_assignDeclared, available_assignDeclared, List.mem_cons]
    by_cases same : capability = name
    · subst same
      have declared := available_declared capabilities capability
      rw [← capabilityIsDeclared_iff] 
      cases value <;> simp
      · tauto
      · tauto
    · simp [same]

structure Gathered (names : List String) (latestBoardMS : Option UInt64) (states : List CapabilityState)
    (evidence : Evidence) : Prop where
  declared : ∀ capability, capability ∈ evidence.capabilities ↔ capability ∈ names
  reported : ∀ capability, capabilityIsAvailable evidence.capabilities capability = true ↔
    capability ∈ names ∧ Reported states capability
  metrics : ∀ name, evidence.redconMetrics.lookup name = (newest (metricReports states name)).map Prod.snd
  times : ∀ name, evidence.redconMetricObservedAt.lookup name = (newest (metricReports states name)).map Prod.fst
  redcon4 : evidence.redcon4Observed = true ↔ ∃ state ∈ states, stateReportsTransportRedcon4 state = true ∧
    latestBoardMS.all (· ≤ state.observedAtMS) = true

/-- The two maps of Boolean metrics hold the newest of some reports. -/
def Remembers (evidence : Evidence) (name : String) (held : Option (UInt64 × Bool)) : Prop :=
  evidence.redconMetrics.lookup name = held.map Prod.snd ∧ evidence.redconMetricObservedAt.lookup name = held.map Prod.fst

variable {evidence : Evidence} {name : String} {held : Option (UInt64 × Bool)}

theorem observeMetric_other {other : String} (apart : name ≠ other) (observedAtMS : UInt64) (metric : MetricValue)
    (remembers : Remembers evidence name held) : Remembers (evidence.observeMetric observedAtMS other metric) name held := by
  unfold Evidence.observeMetric
  split
  · split_ifs
    · exact remembers
    · exact remembers
    · unfold Remembers
      rw [AList.lookup_insert_ne apart, AList.lookup_insert_ne apart]
      exact remembers
  · exact remembers

variable (observedAtMS : UInt64)

theorem observeMetric_same (metric : MetricValue) (remembers : Remembers evidence name held) :
    Remembers (evidence.observeMetric observedAtMS name metric) name
      ((booleanValue metric).elim held fun value => hold held (observedAtMS, value)) := by
  unfold Evidence.observeMetric booleanValue
  cases metric.value with
  | bool value =>
    dsimp only
    by_cases boolean : metric.datatype = "Boolean"
    · rw [if_neg (not_not.mpr boolean), if_pos boolean, remembers.2, Option.elim_some, Option.any_map]
      unfold hold
      split
      · exact remembers
      · exact ⟨AList.lookup_insert _, AList.lookup_insert _⟩
    · rw [if_pos boolean, if_neg boolean]
      exact remembers
  | _ => exact remembers

theorem observeMetrics_remembers (metrics : List ((_ : String) × MetricValue))
    (distinct : metrics.NodupKeys) (evidence : Evidence) (remembers : Remembers evidence name held) :
    Remembers (metrics.foldl (fun evidence entry => evidence.observeMetric observedAtMS entry.1 entry.2) evidence) name
      (((metrics.dlookup name).bind booleanValue).elim held fun value => hold held (observedAtMS, value)) := by
  induction metrics generalizing evidence held with
  | nil => exact remembers
  | cons entry rest ih =>
    obtain ⟨other, metric⟩ := entry
    rw [List.foldl_cons]
    have later := List.nodupKeys_of_nodupKeys_cons distinct
    by_cases same : name = other
    · subst same
      have gone : rest.dlookup name = none := List.dlookup_eq_none.mpr (List.notMem_keys_of_nodupKeys_cons distinct)
      have after := ih later _ (observeMetric_same observedAtMS metric remembers)
      rw [gone] at after
      rw [List.dlookup_cons_eq]
      exact after
    · rw [List.dlookup_cons_ne rest (⟨other, metric⟩ : Sigma fun _ : String => MetricValue) same]
      exact ih later _ (observeMetric_other same observedAtMS metric remembers)

theorem observeMetrics_redcon4 (metrics : List ((_ : String) × MetricValue)) (evidence : Evidence) :
    (metrics.foldl (fun evidence entry => evidence.observeMetric observedAtMS entry.1 entry.2)
      evidence).redcon4Observed = evidence.redcon4Observed := by
  induction metrics generalizing evidence with
  | nil => rfl
  | cons entry rest ih =>
    rw [List.foldl_cons, ih]
    unfold Evidence.observeMetric
    split
    · split_ifs <;> rfl
    · rfl

theorem available_iff_entry (state : CapabilityState) (capability : String) :
    capabilityIsAvailable state.capabilities capability = true ↔ ⟨capability, true⟩ ∈ state.capabilities.entries := by
  rw [← AList.mem_lookup_iff, Option.mem_def]
  unfold capabilityIsAvailable
  cases state.capabilities.lookup capability with
  | none => simp
  | some value => simp

def joined (latestBoardMS : Option UInt64) (evidence : Evidence) (state : CapabilityState) : Evidence :=
  { evidence with
    redcon4Observed := evidence.redcon4Observed ||
      (stateReportsTransportRedcon4 state && latestBoardMS.all (· ≤ state.observedAtMS))
    capabilities := state.capabilities.entries.foldl (fun capabilities entry => mergeCapability capabilities entry.1 entry.2)
      evidence.capabilities }

theorem newest_metricReports_snoc (states : List CapabilityState) (state : CapabilityState) (name : String) :
    newest (metricReports (states ++ [state]) name) =
      (booleanMetric state name).elim (newest (metricReports states name))
        fun value => hold (newest (metricReports states name)) (state.observedAtMS, value) := by
  rw [metricReports_append]
  have last : metricReports [state] name = ((booleanMetric state name).map (state.observedAtMS, ·)).toList := by
    unfold metricReports
    cases told : booleanMetric state name with
    | none => simp [told]
    | some value => simp [told]
  rw [last]
  cases booleanMetric state name with
  | none => exact congrArg newest (List.append_nil _)
  | some value => exact newest_snoc _ _

variable {latest : Option UInt64} {names : List String} (gathered : Gathered names latest states evidence)
include gathered

theorem Gathered.remembers (state : CapabilityState) (name : String) :
    Remembers (state.metrics.entries.foldl (fun evidence entry => evidence.observeMetric state.observedAtMS entry.1 entry.2)
      (joined latest evidence state)) name (newest (metricReports (states ++ [state]) name)) := by
  rw [newest_metricReports_snoc]
  apply observeMetrics_remembers state.observedAtMS state.metrics.entries state.metrics.nodupKeys
  exact ⟨gathered.metrics name, gathered.times name⟩

theorem Gathered.observe (nowMS : UInt64) (state : CapabilityState) :
    Gathered names latest (states ++ fresh nowMS [state]) (evidence.observe latest nowMS state) := by
  unfold fresh
  by_cases old : expired state nowMS = true
  · rw [Evidence.observe, if_pos old, List.filter_cons_of_neg (by simp [old]), List.filter_nil, List.append_nil]
    exact gathered
  · have observed : evidence.observe latest nowMS state = state.metrics.entries.foldl (fun evidence entry =>
        evidence.observeMetric state.observedAtMS entry.1 entry.2) (joined latest evidence state) := if_neg old
    rw [observed, List.filter_cons_of_pos (by simp [old]), List.filter_nil]
    have metrics := gathered.remembers state
    refine ⟨?_, ?_, fun name => (metrics name).1, fun name => (metrics name).2, ?_⟩
    · intro capability
      rw [observeMetrics_capabilities, joined, mem_mergeCapabilities, gathered.declared]
    · intro capability
      rw [observeMetrics_capabilities, joined, merge_available, gathered.reported, gathered.declared, reported_append,
        ← available_iff_entry, ← and_or_left]
      simp [Reported]
    · rw [observeMetrics_redcon4, joined, Bool.or_eq_true, gathered.redcon4]
      simp only [List.mem_append, List.mem_singleton, or_and_right, exists_or, exists_eq_left, Bool.and_eq_true]

theorem Gathered.observes (nowMS : UInt64) (more : List CapabilityState) :
    Gathered names latest (states ++ fresh nowMS more) (more.foldl (Evidence.observe latest nowMS) evidence) := by
  induction more generalizing states evidence with
  | nil =>
    rw [fresh, List.filter_nil, List.append_nil]
    exact gathered
  | cons state rest ih =>
    have split : fresh nowMS (state :: rest) = fresh nowMS [state] ++ fresh nowMS rest :=
      List.filter_append (p := fun state => !expired state nowMS) [state] rest
    rw [split, ← List.append_assoc]
    exact ih (gathered.observe nowMS state)

end gathering

section levels
variable {rules metricRules : Rules} {commandLevels : List UInt8} {capabilities metrics : GoMap String Bool}

/-- A command level with a rule, whose capabilities and metrics are all there. -/
def Selectable (rules metricRules : Rules) (commandLevels : List UInt8) (capabilities metrics : GoMap String Bool)
    (level : UInt8) : Prop :=
  level ∈ commandLevels ∧ (∃ required, rules.lookup level = some required ∧
      ∀ capability ∈ required, capabilityIsAvailable capabilities capability = true) ∧
    ∀ metric ∈ (metricRules.lookup level).getD [], (metrics.lookup metric).getD false = true

/-- One turn of a loop that keeps the least key it has found. -/
def lesser (passes : (_ : UInt8) × List String → Bool) (best : Option UInt8) (entry : (_ : UInt8) × List String) : Option UInt8 :=
  if passes entry ∧ best.all (entry.1 < ·) then some entry.1 else best

theorem foldl_lesser (passes : (_ : UInt8) × List String → Bool) (entries : List ((_ : UInt8) × List String)) :
    (entries.foldl (lesser passes) none).elim (∀ entry ∈ entries, passes entry = false)
      (IsLeast { level | ∃ entry ∈ entries, entry.1 = level ∧ passes entry = true }) := by
  induction entries using List.reverseRecOn with
  | nil => exact List.forall_mem_nil _
  | append_singleton entries entry ih =>
    rw [List.foldl_append, List.foldl_cons, List.foldl_nil]
    generalize entries.foldl (lesser passes) none = best at ih
    unfold lesser
    split
    next chosen =>
      refine ⟨⟨entry, List.mem_append_right entries (List.mem_singleton_self entry), rfl, chosen.1⟩, ?_⟩
      rintro level ⟨other, among, rfl, passed⟩
      rcases List.mem_append.mp among with before | last
      · cases best with
        | none => exact absurd passed (Bool.eq_false_iff.mp (ih other before))
        | some least =>
          have less : entry.1 < least := decide_eq_true_eq.mp chosen.2
          exact less.le.trans (ih.2 ⟨other, before, rfl, passed⟩)
      · rw [List.mem_singleton.mp last]
    next kept =>
      cases best with
      | none =>
        rw [Option.elim_none, List.forall_mem_append, List.forall_mem_singleton]
        exact ⟨ih, Bool.eq_false_iff.mpr fun passed => kept ⟨passed, rfl⟩⟩
      | some least =>
        obtain ⟨⟨first, among, same, passed⟩, bound⟩ := ih
        refine ⟨⟨first, List.mem_append_left _ among, same, passed⟩, ?_⟩
        rintro level ⟨other, among, rfl, passed⟩
        rcases List.mem_append.mp among with before | last
        · exact bound ⟨other, before, rfl, passed⟩
        · rw [List.mem_singleton.mp last] at passed ⊢
          exact not_lt.mp fun less => kept ⟨passed, decide_eq_true less⟩

def meetsRule (metricRules : Rules) (commandLevels : List UInt8) (capabilities metrics : GoMap String Bool)
    (rule : (_ : UInt8) × List String) : Bool :=
  decide (rule.1 ∈ commandLevels) && (rule.2.all (capabilityIsAvailable capabilities) &&
    ((metricRules.lookup rule.1).getD []).all fun metric => (metrics.lookup metric).getD false)

theorem selectBest_foldl :
    selectBestRedconWithMetrics rules metricRules commandLevels capabilities metrics =
      rules.entries.foldl (lesser (meetsRule metricRules commandLevels capabilities metrics)) none := by
  unfold selectBestRedconWithMetrics
  congr 1
  funext best rule
  unfold lesser meetsRule
  simp only [Bool.and_eq_true, decide_eq_true_eq, and_assoc]

theorem selectable_iff (level : UInt8) :
    Selectable rules metricRules commandLevels capabilities metrics level ↔
      ∃ rule ∈ rules.entries, rule.1 = level ∧ meetsRule metricRules commandLevels capabilities metrics rule = true := by
  unfold Selectable meetsRule
  simp only [← Option.mem_def, AList.mem_lookup_iff, Bool.and_eq_true, decide_eq_true_eq, List.all_eq_true]
  constructor
  · rintro ⟨commanded, ⟨required, ruled, available⟩, measured⟩
    exact ⟨⟨level, required⟩, ruled, rfl, commanded, available, measured⟩
  · rintro ⟨⟨level, required⟩, ruled, rfl, commanded, available, measured⟩
    exact ⟨commanded, ⟨required, ruled, available⟩, measured⟩

theorem selectBest_spec :
    (selectBestRedconWithMetrics rules metricRules commandLevels capabilities metrics).elim
      (∀ level, ¬ Selectable rules metricRules commandLevels capabilities metrics level)
      (IsLeast { level | Selectable rules metricRules commandLevels capabilities metrics level }) := by
  simp only [selectable_iff]
  rw [selectBest_foldl]
  have spec := foldl_lesser (meetsRule metricRules commandLevels capabilities metrics) rules.entries
  cases found : rules.entries.foldl (lesser (meetsRule metricRules commandLevels capabilities metrics)) none with
  | none =>
    rw [found] at spec
    rintro level ⟨rule, among, _, meets⟩
    exact absurd meets (Bool.eq_false_iff.mp (spec rule among))
  | some least =>
    rw [found] at spec
    exact spec

end levels

section snapshot
variable (s : DeviceRuntimeState) (order : RangeOrder) (nowMS : UInt64)

def visited : List CapabilityState := fresh nowMS (order.arrange (s.adapterStates.entries.map fun entry => entry.2))

def laterBoard (latest : Option UInt64) (state : CapabilityState) : Option UInt64 :=
  if expired state nowMS || !stateDeclaresBoardOwnedCapability state then latest
  else if latest.all (· < state.observedAtMS) then some state.observedAtMS else latest

theorem laterBoard_le (latest : Option UInt64) (state : CapabilityState) (bound : UInt64) :
    (laterBoard nowMS latest state).all (· ≤ bound) = true ↔ latest.all (· ≤ bound) = true ∧
      (expired state nowMS = false → stateDeclaresBoardOwnedCapability state = true → state.observedAtMS ≤ bound) := by
  unfold laterBoard
  split
  next passed =>
    rw [and_iff_left]
    intro unexpired owned
    simp [unexpired, owned] at passed
  next counts =>
    have both : expired state nowMS = false ∧ stateDeclaresBoardOwnedCapability state = true := by simpa using counts
    simp only [both, true_implies]
    cases latest with
    | none => simp
    | some time =>
      simp only [Option.all_some, decide_eq_true_eq]
      split
      next newer =>
        rw [Option.all_some, decide_eq_true_eq]
        exact ⟨fun le => ⟨(newer.trans_le le).le, le⟩, fun both => both.2⟩
      next older =>
        rw [Option.all_some, decide_eq_true_eq]
        exact ⟨fun le => ⟨le, (not_lt.mp older).trans le⟩, fun both => both.1⟩

theorem foldl_laterBoard_le (states : List CapabilityState) (latest : Option UInt64) (bound : UInt64) :
    (states.foldl (laterBoard nowMS) latest).all (· ≤ bound) = true ↔ latest.all (· ≤ bound) = true ∧
      ∀ state ∈ fresh nowMS states, stateDeclaresBoardOwnedCapability state = true → state.observedAtMS ≤ bound := by
  induction states generalizing latest with
  | nil => simp [fresh]
  | cons state rest ih =>
    rw [List.foldl_cons, ih, laterBoard_le, and_assoc]
    simp [fresh]

theorem latestBoardStateMS_le (bound : UInt64) :
    (s.latestBoardStateMS nowMS).all (· ≤ bound) = true ↔ ∀ state ∈ visited s order nowMS,
      stateDeclaresBoardOwnedCapability state = true → state.observedAtMS ≤ bound := by
  have folded : s.latestBoardStateMS nowMS =
      (s.adapterStates.entries.map fun entry => entry.2).foldl (laterBoard nowMS) none := by
    rw [List.foldl_map]
    rfl
  have same : ∀ state, state ∈ visited s order nowMS ↔ state ∈ fresh nowMS (s.adapterStates.entries.map fun entry => entry.2) :=
    fun state => ((order.complete _).filter _).mem_iff
  rw [folded, foldl_laterBoard_le]
  simp only [same, Option.all_none, true_and]

theorem available_declaredCapabilities (capability : String) :
    capabilityIsAvailable s.declaredCapabilities capability = false := by
  unfold DeviceRuntimeState.declaredCapabilities
  have start : capabilityIsAvailable (∅ : Capabilities) capability = false := by simp [capabilityIsAvailable]
  generalize (∅ : Capabilities) = capabilities at start ⊢
  induction s.inventory.capabilities generalizing capabilities with
  | nil => exact start
  | cons name rest ih =>
    rw [List.foldl_cons]
    apply ih
    unfold capabilityIsAvailable at start ⊢
    by_cases same : capability = name
    · rw [same, AList.lookup_insert, Option.getD_some]
    · rw [AList.lookup_insert_ne same]
      exact start

theorem gathered_evidence :
    Gathered s.inventory.capabilities (s.latestBoardStateMS nowMS) (visited s order nowMS) (s.evidenceAt order nowMS) := by
  have start : Gathered s.inventory.capabilities (s.latestBoardStateMS nowMS) [] ⟨s.declaredCapabilities, ∅, ∅, false⟩ := by
    have declared : ∀ capability, capability ∈ s.declaredCapabilities ↔ capability ∈ s.inventory.capabilities := by
      intro capability
      simp [DeviceRuntimeState.declaredCapabilities, mem_declared]
    refine ⟨declared, ?_, fun _ => rfl, fun _ => rfl, by simp⟩
    intro capability
    rw [available_declaredCapabilities]
    simp [Reported]
  exact start.observes nowMS (order.arrange (s.adapterStates.entries.map fun entry => entry.2))

theorem evidence_boundary : (s.evidenceAt order nowMS).redcon4Observed = true ↔ Boundary (visited s order nowMS) := by
  rw [(gathered_evidence s order nowMS).redcon4]
  simp only [latestBoardStateMS_le s order nowMS]
  rfl

/-- The capabilities that some reports leave standing, before the snapshot decides about the agent. -/
def Standing (names : List String) (states : List CapabilityState) : String → Prop :=
  Holds (· ∈ names) (fun capability => capability ∈ names ∧ Reported states capability) (Boundary states)

/-- The metric is true in its newest report, the last of those that are equally new. -/
def Measured (states : List CapabilityState) (name : String) : Prop := ∃ time, IsNewest (metricReports states name) (time, true)

/-- A command level with a rule, all of whose capabilities stand and all of whose metrics are true. -/
def Ready (inventory : InventoryDevice) (states : List CapabilityState) (level : UInt8) : Prop :=
  level ∈ inventory.redconCommandLevels ∧ (∃ required, inventory.redconRules.lookup level = some required ∧
      ∀ capability ∈ required, Standing inventory.capabilities states capability) ∧
    ∀ name ∈ (inventory.redconMetricRules.lookup level).getD [], Measured states name

def gated : Capabilities :=
  applyCapabilityDependencyGates (s.evidenceAt order nowMS).capabilities (s.evidenceAt order nowMS).redcon4Observed

theorem gated_standing (capability : String) :
    capabilityIsAvailable (gated s order nowMS) capability = true ↔
      Standing s.inventory.capabilities (visited s order nowMS) capability := by
  have gathered := gathered_evidence s order nowMS
  unfold gated Standing
  rw [available_gates]
  simp only [capabilityIsDeclared_iff, gathered.declared, gathered.reported, evidence_boundary]

theorem metric_measured (name : String) :
    ((s.evidenceAt order nowMS).redconMetrics.lookup name).getD false = true ↔ Measured (visited s order nowMS) name := by
  rw [(gathered_evidence s order nowMS).metrics]
  unfold Measured
  simp only [← newest_eq_some_iff]
  cases newest (metricReports (visited s order nowMS) name) with
  | none => simp
  | some report =>
    obtain ⟨time, value⟩ := report
    simp

theorem selectable_ready (level : UInt8) :
    Selectable s.inventory.redconRules s.inventory.redconMetricRules s.inventory.redconCommandLevels (gated s order nowMS)
        (s.evidenceAt order nowMS).redconMetrics level ↔ Ready s.inventory (visited s order nowMS) level := by
  unfold Selectable Ready
  simp only [gated_standing, metric_measured]

theorem snapshot_redcon_spec : (s.snapshot order nowMS).redcon.elim (∀ level, ¬ Ready s.inventory (visited s order nowMS) level)
    (IsLeast { level | Ready s.inventory (visited s order nowMS) level }) := by
  simp only [← selectable_ready]
  exact selectBest_spec

theorem snapshot_redcon (level : UInt8) :
    (s.snapshot order nowMS).redcon = some level ↔ IsLeast { level | Ready s.inventory (visited s order nowMS) level } level := by
  have spec := snapshot_redcon_spec s order nowMS
  cases found : (s.snapshot order nowMS).redcon with
  | none =>
    rw [found] at spec
    exact ⟨nofun, fun isLeast => absurd isLeast.1 (spec level)⟩
  | some least =>
    rw [found] at spec
    refine ⟨fun same => Option.some.inj same ▸ spec, fun isLeast => ?_⟩
    rw [spec.unique isLeast]

theorem snapshot_redcon_none :
    (s.snapshot order nowMS).redcon = none ↔ ∀ level, ¬ Ready s.inventory (visited s order nowMS) level := by
  have spec := snapshot_redcon_spec s order nowMS
  cases found : (s.snapshot order nowMS).redcon with
  | none =>
    rw [found] at spec
    exact iff_of_true rfl spec
  | some least =>
    rw [found] at spec
    exact ⟨nofun, fun unready => absurd spec.1 (unready least)⟩

theorem snapshot_available (capability : String) :
    capabilityIsAvailable (s.snapshot order nowMS).capabilities capability = true ↔
      if capability = agentCapability then
        agentCapability ∈ s.inventory.capabilities ∧
          Standing s.inventory.capabilities (visited s order nowMS) sparkplugCapability ∧
          ∃ level, (s.snapshot order nowMS).redcon = some level ∧ level ≤ 2
      else Standing s.inventory.capabilities (visited s order nowMS) capability := by
  have assigned : (s.snapshot order nowMS).capabilities = assignDeclared (gated s order nowMS) agentCapability
      (capabilityIsAvailable (gated s order nowMS) sparkplugCapability && (s.snapshot order nowMS).redcon.any (· ≤ 2)) := rfl
  have declared : agentCapability ∈ gated s order nowMS ↔ agentCapability ∈ s.inventory.capabilities := by
    rw [gated, mem_applyCapabilityDependencyGates, (gathered_evidence s order nowMS).declared]
  rw [assigned, available_assignDeclared]
  split
  · rw [Bool.and_eq_true, Bool.and_eq_true, capabilityIsDeclared_iff, declared, gated_standing, Option.any_eq_true]
    simp only [decide_eq_true_eq]
  · exact gated_standing s order nowMS capability

end snapshot

end Txing.Rig.SnapshotMeaning
