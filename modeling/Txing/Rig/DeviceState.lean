import Mathlib.Data.List.Sort
import Txing.Rig.Sparkplug

/-! The evidence and the publication memory of one device (`manager.go`): adapter states come in,
`Snapshot` turns the fresh ones into capabilities and a REDCON, and `DecidePublication` compares
that with what it last handed out for publication. -/

namespace Txing.Rig.DeviceState
open Txing.Library Protocol

def stateTTLMS : UInt64 := 150000

def sparkplugCapability : String := "sparkplug"
def bleCapability : String := "ble"
def threadCapability : String := "thread"
def powerCapability : String := "power"
def boardCapability : String := "board"
def mcpCapability : String := "mcp"
def mavlinkCapability : String := "mavlink"
def videoCapability : String := "video"
def agentCapability : String := "agent"

abbrev Capabilities := GoMap String Bool

section capabilities
variable (capabilities : Capabilities)

def capabilityIsDeclared (capability : String) : Bool := (capabilities.lookup capability).isSome

def capabilityIsAvailable (capability : String) : Bool := (capabilities.lookup capability).getD false

/-- An assignment that is made only where the key is present. -/
def assignDeclared (capability : String) (value : Bool) : Capabilities :=
  if capabilityIsDeclared capabilities capability then capabilities.insert capability value else capabilities

def forceCapabilityUnavailable (capability : String) : Capabilities := assignDeclared capabilities capability false

def forceControlCapabilitiesUnavailable : Capabilities :=
  forceCapabilityUnavailable (forceCapabilityUnavailable capabilities mcpCapability) mavlinkCapability

def controlCapabilityDeclared : Bool :=
  capabilityIsDeclared capabilities mcpCapability || capabilityIsDeclared capabilities mavlinkCapability

def controlCapabilityAvailable : Bool :=
  capabilityIsAvailable capabilities mcpCapability || capabilityIsAvailable capabilities mavlinkCapability

end capabilities

/-- Board, control and video, which all three upper gates switch off together. -/
def forceBoardCapabilitiesUnavailable (capabilities : Capabilities) : Capabilities :=
  forceCapabilityUnavailable (forceControlCapabilitiesUnavailable
    (forceCapabilityUnavailable capabilities boardCapability)) videoCapability

def gateRedcon4 (bleRedcon4Observed : Bool) (capabilities : Capabilities) : Capabilities :=
  if bleRedcon4Observed then
    forceBoardCapabilitiesUnavailable (forceCapabilityUnavailable capabilities powerCapability)
  else capabilities

/-- Evidence from the board implies power. The guard asks for a declared power, so the assignment
is one to a present key. -/
def inferPower (bleRedcon4Observed : Bool) (capabilities : Capabilities) : Capabilities :=
  if !bleRedcon4Observed && capabilityIsDeclared capabilities powerCapability &&
      !capabilityIsAvailable capabilities powerCapability &&
      (capabilityIsAvailable capabilities boardCapability || controlCapabilityAvailable capabilities ||
        capabilityIsAvailable capabilities videoCapability) then
    assignDeclared capabilities powerCapability true
  else capabilities

def gatePower (capabilities : Capabilities) : Capabilities :=
  if capabilityIsDeclared capabilities powerCapability && !capabilityIsAvailable capabilities powerCapability then
    forceBoardCapabilitiesUnavailable capabilities
  else capabilities

def gateBoard (capabilities : Capabilities) : Capabilities :=
  if capabilityIsDeclared capabilities boardCapability && !capabilityIsAvailable capabilities boardCapability then
    forceCapabilityUnavailable (forceControlCapabilitiesUnavailable capabilities) videoCapability
  else capabilities

def gateControl (capabilities : Capabilities) : Capabilities :=
  if controlCapabilityDeclared capabilities && !controlCapabilityAvailable capabilities then
    forceCapabilityUnavailable capabilities videoCapability
  else capabilities

def applyCapabilityDependencyGates (capabilities : Capabilities) (bleRedcon4Observed : Bool) : Capabilities :=
  gateControl (gateBoard (gatePower (inferPower bleRedcon4Observed (gateRedcon4 bleRedcon4Observed capabilities))))

def stateReportsTransportRedcon4 (state : CapabilityState) : Bool :=
  if !capabilityIsDeclared state.capabilities powerCapability ||
      capabilityIsAvailable state.capabilities powerCapability then false
  else [transportRedconMetric, bleRedconMetric].any fun name =>
    (state.metrics.lookup name).any fun metric => intMetricValue metric.value = some 4

def stateInvalidatesBoardEvidence (state : CapabilityState) : Bool :=
  stateReportsTransportRedcon4 state ||
    (capabilityIsDeclared state.capabilities powerCapability &&
      !capabilityIsAvailable state.capabilities powerCapability &&
      capabilityIsDeclared state.capabilities threadCapability &&
      !capabilityIsAvailable state.capabilities threadCapability)

def stateReportsOnlyScannerReachability (state : CapabilityState) : Bool :=
  if state.metrics.entries.length ≠ 0 then false
  else if !capabilityIsAvailable state.capabilities sparkplugCapability ||
      !capabilityIsAvailable state.capabilities bleCapability then false
  else state.capabilities.entries.all fun entry =>
    if entry.1 = sparkplugCapability ∨ entry.1 = bleCapability then entry.2 else !entry.2

def stateCarriesDeviceStateEvidence (state : CapabilityState) : Bool :=
  state.metrics.entries.length ≠ 0 ||
    state.capabilities.entries.any fun entry =>
      entry.1 ≠ sparkplugCapability && entry.1 ≠ bleCapability && entry.2

def stateFreshAt (state : CapabilityState) (nowMS : UInt64) : Bool :=
  if state.observedAtMS > nowMS then state.observedAtMS - nowMS ≤ stateTTLMS
  else nowMS - state.observedAtMS ≤ stateTTLMS

def stateDeclaresBoardOwnedCapability (state : CapabilityState) : Bool :=
  capabilityIsDeclared state.capabilities boardCapability || capabilityIsDeclared state.capabilities mcpCapability ||
    capabilityIsDeclared state.capabilities mavlinkCapability ||
    capabilityIsDeclared state.capabilities videoCapability

/-- The lowest level whose rules are all met; the order of the rules does not matter for a minimum. -/
def selectBestRedconWithMetrics (rules metricRules : Rules) (commandLevels : List UInt8)
    (capabilities metrics : GoMap String Bool) : Option UInt8 :=
  rules.entries.foldl (fun best rule =>
    let ready := rule.2.all (capabilityIsAvailable capabilities) &&
      ((metricRules.lookup rule.1).getD []).all fun metric => (metrics.lookup metric).getD false
    if rule.1 ∈ commandLevels ∧ ready ∧ best.all (rule.1 < ·) then some rule.1 else best) none

structure DeviceRuntimeState where
  inventory : InventoryDevice
  adapterStates : GoMap String CapabilityState
  lastPublishedRedcon : Option UInt8
  lastPublishedCapabilities : Capabilities
  lastPublishedMetrics : GoMap String MetricValue
  born : Bool
  unavailablePublished : Bool

structure DeviceSnapshot where
  thingName : String
  thingType : String
  capabilities : Capabilities
  metrics : GoMap String MetricValue
  redcon : Option UInt8
  sparkplugAvailable : Bool

inductive DevicePublication where
  | none
  | birth (redcon : UInt8) (metrics : List Sparkplug.Metric)
  | data (redcon : UInt8) (metrics : List Sparkplug.Metric)
  | death
  deriving DecidableEq

def newDeviceRuntimeState (inventory : InventoryDevice) : DeviceRuntimeState :=
  ⟨inventory, ∅, none, ∅, ∅, false, false⟩

/-- The order in which one `range` over a map visits its values. -/
structure RangeOrder where
  arrange : List CapabilityState → List CapabilityState
  complete : ∀ states, (arrange states).Perm states

def RangeOrder.asStored : RangeOrder := ⟨id, fun states => List.Perm.refl states⟩

/-- What the second loop of `Snapshot` collects. -/
structure Evidence where
  capabilities : Capabilities
  redconMetrics : GoMap String Bool
  redconMetricObservedAt : GoMap String UInt64
  redcon4Observed : Bool

def Evidence.observeMetric (observedAtMS : UInt64) (evidence : Evidence) (name : String) (metric : MetricValue) :
    Evidence :=
  match metric.value with
  | .bool value =>
    if metric.datatype ≠ "Boolean" then evidence
    else if (evidence.redconMetricObservedAt.lookup name).any (observedAtMS < ·) then evidence
    else { evidence with
      redconMetrics := evidence.redconMetrics.insert name value
      redconMetricObservedAt := evidence.redconMetricObservedAt.insert name observedAtMS }
  | _ => evidence

def mergeCapability (capabilities : Capabilities) (capability : String) (available : Bool) : Capabilities :=
  assignDeclared capabilities capability (capabilityIsAvailable capabilities capability || available)

def expired (state : CapabilityState) (nowMS : UInt64) : Bool := state.observedAtMS + stateTTLMS < nowMS

def Evidence.observe (latestBoardStateMS : Option UInt64) (nowMS : UInt64) (evidence : Evidence)
    (state : CapabilityState) : Evidence :=
  if expired state nowMS then evidence
  else
    let newerOrEqualToBoard := latestBoardStateMS.all (· ≤ state.observedAtMS)
    let evidence := { evidence with
      redcon4Observed := evidence.redcon4Observed || (stateReportsTransportRedcon4 state && newerOrEqualToBoard)
      capabilities := state.capabilities.entries.foldl (fun capabilities entry =>
        mergeCapability capabilities entry.1 entry.2) evidence.capabilities }
    state.metrics.entries.foldl (fun evidence entry => evidence.observeMetric state.observedAtMS entry.1 entry.2)
      evidence

namespace DeviceRuntimeState
variable (s : DeviceRuntimeState)

def resetPublication : DeviceRuntimeState :=
  { s with
    born := false
    lastPublishedRedcon := none
    lastPublishedCapabilities := ∅
    lastPublishedMetrics := ∅
    unavailablePublished := false }

/-- `sameStrings` is equality of lists. -/
def replaceInventory (inventory : InventoryDevice) : DeviceRuntimeState :=
  { (if s.inventory.capabilities ≠ inventory.capabilities then s.resetPublication else s) with
    inventory := inventory }

def storeState (state : CapabilityState) : DeviceRuntimeState :=
  { s with adapterStates := s.adapterStates.insert state.adapterID state }

def observeState (state : CapabilityState) : DeviceRuntimeState × Except String Unit :=
  match state.validate with
  | .error error => (s, .error error)
  | .ok () =>
    if state.thingName ≠ s.inventory.thingName then
      (s, .error ("state thingName " ++ state.thingName ++ " does not match inventory thingName " ++
        s.inventory.thingName))
    else if stateReportsOnlyScannerReachability state &&
        (s.adapterStates.lookup state.adapterID).any fun existing =>
          stateFreshAt existing state.observedAtMS && stateCarriesDeviceStateEvidence existing then (s, .ok ())
    else if stateInvalidatesBoardEvidence state then
      let kept := GoMap.keep (fun _ existing =>
        !(stateDeclaresBoardOwnedCapability existing && existing.observedAtMS ≤ state.observedAtMS)) s.adapterStates
      (storeState { s with adapterStates := kept } state, .ok ())
    else if stateDeclaresBoardOwnedCapability state && s.adapterStates.entries.any fun entry =>
        stateInvalidatesBoardEvidence entry.2 && state.observedAtMS ≤ entry.2.observedAtMS then
      ({ s with adapterStates := s.adapterStates.erase state.adapterID }, .ok ())
    else (storeState s state, .ok ())

def declaredCapabilities : Capabilities :=
  s.inventory.capabilities.foldl (fun capabilities capability => capabilities.insert capability false) ∅

/-- A maximum, so the order of the states does not matter here. -/
def latestBoardStateMS (nowMS : UInt64) : Option UInt64 :=
  s.adapterStates.entries.foldl (fun latest entry =>
    if expired entry.2 nowMS || !stateDeclaresBoardOwnedCapability entry.2 then latest
    else if latest.all (· < entry.2.observedAtMS) then some entry.2.observedAtMS else latest) none

def evidenceAt (order : RangeOrder) (nowMS : UInt64) : Evidence :=
  (order.arrange (s.adapterStates.entries.map fun entry => entry.2)).foldl
    (Evidence.observe (s.latestBoardStateMS nowMS) nowMS) ⟨s.declaredCapabilities, ∅, ∅, false⟩

def snapshot (order : RangeOrder) (nowMS : UInt64) : DeviceSnapshot :=
  let evidence := s.evidenceAt order nowMS
  let capabilities := applyCapabilityDependencyGates evidence.capabilities evidence.redcon4Observed
  let redcon := selectBestRedconWithMetrics s.inventory.redconRules s.inventory.redconMetricRules
    s.inventory.redconCommandLevels capabilities evidence.redconMetrics
  let capabilities := assignDeclared capabilities agentCapability
    (capabilityIsAvailable capabilities sparkplugCapability && redcon.any (· ≤ 2))
  ⟨s.inventory.thingName, s.inventory.thingType, capabilities, ∅, redcon,
    capabilityIsAvailable capabilities sparkplugCapability⟩

end DeviceRuntimeState

/-- The REDCON a publication carries when no level is met. -/
def DeviceSnapshot.publishedRedcon (snapshot : DeviceSnapshot) : UInt8 := snapshot.redcon.getD 4

def capabilityMetricName (capability : String) : String := "capability." ++ capability

/-- The snapshot's metrics are ignored, as in the source. -/
def sparkplugMetricsFromSnapshot (capabilities : Capabilities) : List Sparkplug.Metric :=
  (capabilities.keys.insertionSort (· ≤ ·)).map fun capability =>
    ⟨capabilityMetricName capability, .boolean (capabilityIsAvailable capabilities capability)⟩

def sameBoolMap (left right : Capabilities) : Bool := GoMap.sameBy (fun one other => one == other) left right

/-- Values of one datatype print alike exactly when they are equal. -/
def sameMetricMap (left right : GoMap String MetricValue) : Bool :=
  GoMap.sameBy (fun one other => one.datatype == other.datatype && one.value == other.value) left right

namespace DeviceRuntimeState
variable (s : DeviceRuntimeState)

def remember (snapshot : DeviceSnapshot) : DeviceRuntimeState :=
  { s with
    born := true
    lastPublishedRedcon := some snapshot.publishedRedcon
    lastPublishedCapabilities := snapshot.capabilities
    lastPublishedMetrics := snapshot.metrics }

def available : DeviceRuntimeState := { s with unavailablePublished := false }

def forget : DeviceRuntimeState :=
  { s with
    lastPublishedRedcon := none
    lastPublishedCapabilities := ∅
    lastPublishedMetrics := ∅ }

def decideOn (snapshot : DeviceSnapshot) : DeviceRuntimeState × DevicePublication :=
  if !snapshot.sparkplugAvailable then
    if s.born then ({ s.forget with born := false, unavailablePublished := true }, .death)
    else if !s.unavailablePublished then ({ s.forget with unavailablePublished := true }, .death)
    else (s.forget, .none)
  else
    let redcon := snapshot.publishedRedcon
    let capabilitiesChanged := !sameBoolMap s.lastPublishedCapabilities snapshot.capabilities
    let metricsChanged := !sameMetricMap s.lastPublishedMetrics snapshot.metrics
    let redconChanged := s.lastPublishedRedcon ≠ some redcon
    let metrics := sparkplugMetricsFromSnapshot snapshot.capabilities
    if !s.born then (s.available.remember snapshot, .birth redcon metrics)
    else if redconChanged || capabilitiesChanged || metricsChanged then
      (s.available.remember snapshot, .data redcon metrics)
    else (s.available, .none)

def decidePublication (order : RangeOrder) (nowMS : UInt64) : DeviceRuntimeState × DevicePublication :=
  s.decideOn (s.snapshot order nowMS)

end DeviceRuntimeState

section keys
variable {capabilities : Capabilities} {capability : String}

@[simp] theorem mem_assignDeclared (name : String) (value : Bool) :
    capability ∈ assignDeclared capabilities name value ↔ capability ∈ capabilities := by
  unfold assignDeclared capabilityIsDeclared
  split
  next declared =>
    have present : name ∈ capabilities := AList.lookup_isSome.mp declared
    rw [AList.mem_insert]
    exact ⟨fun either => either.elim (fun same => same ▸ present) id, Or.inr⟩
  next => exact Iff.rfl

@[simp] theorem mem_forceCapabilityUnavailable (name : String) :
    capability ∈ forceCapabilityUnavailable capabilities name ↔ capability ∈ capabilities :=
  mem_assignDeclared name false

@[simp] theorem mem_forceControlCapabilitiesUnavailable :
    capability ∈ forceControlCapabilitiesUnavailable capabilities ↔ capability ∈ capabilities := by
  simp [forceControlCapabilitiesUnavailable]

@[simp] theorem mem_forceBoardCapabilitiesUnavailable :
    capability ∈ forceBoardCapabilitiesUnavailable capabilities ↔ capability ∈ capabilities := by
  simp [forceBoardCapabilitiesUnavailable]

theorem mem_gated (open_ : Prop) [Decidable open_] {changed : Capabilities}
    (kept : capability ∈ changed ↔ capability ∈ capabilities) :
    capability ∈ (if open_ then changed else capabilities) ↔ capability ∈ capabilities := by
  split
  · exact kept
  · exact Iff.rfl

theorem mem_applyCapabilityDependencyGates (bleRedcon4Observed : Bool) :
    capability ∈ applyCapabilityDependencyGates capabilities bleRedcon4Observed ↔ capability ∈ capabilities := by
  unfold applyCapabilityDependencyGates
  calc capability ∈ gateControl _
      ↔ capability ∈ gateBoard _ := mem_gated _ (by simp)
    _ ↔ capability ∈ gatePower _ := mem_gated _ (by simp)
    _ ↔ capability ∈ inferPower _ _ := mem_gated _ (by simp)
    _ ↔ capability ∈ gateRedcon4 _ _ := mem_gated _ (by simp)
    _ ↔ capability ∈ capabilities := mem_gated _ (by simp)

theorem mem_mergeCapabilities (reported : List ((_ : String) × Bool)) :
    capability ∈ reported.foldl (fun capabilities entry => mergeCapability capabilities entry.1 entry.2) capabilities ↔
      capability ∈ capabilities := by
  induction reported generalizing capabilities with
  | nil => exact Iff.rfl
  | cons entry rest ih => rw [List.foldl_cons, ih, mergeCapability, mem_assignDeclared]

theorem observeMetrics_capabilities (observedAtMS : UInt64) (metrics : List ((_ : String) × MetricValue))
    (evidence : Evidence) :
    (metrics.foldl (fun evidence entry => evidence.observeMetric observedAtMS entry.1 entry.2)
      evidence).capabilities = evidence.capabilities := by
  induction metrics generalizing evidence with
  | nil => rfl
  | cons entry rest ih =>
    rw [List.foldl_cons, ih]
    unfold Evidence.observeMetric
    split
    · split_ifs <;> rfl
    · rfl

theorem mem_observe (latest : Option UInt64) (nowMS : UInt64) (evidence : Evidence) (state : CapabilityState) :
    capability ∈ (evidence.observe latest nowMS state).capabilities ↔ capability ∈ evidence.capabilities := by
  unfold Evidence.observe
  split
  · exact Iff.rfl
  · rw [observeMetrics_capabilities]
    exact mem_mergeCapabilities _

theorem mem_observes (latest : Option UInt64) (nowMS : UInt64) (states : List CapabilityState) (evidence : Evidence) :
    capability ∈ (states.foldl (Evidence.observe latest nowMS) evidence).capabilities ↔
      capability ∈ evidence.capabilities := by
  induction states generalizing evidence with
  | nil => exact Iff.rfl
  | cons state rest ih => rw [List.foldl_cons, ih, mem_observe]

theorem mem_declared (names : List String) :
    capability ∈ names.foldl (fun capabilities name => AList.insert name false capabilities) capabilities ↔
      capability ∈ names ∨ capability ∈ capabilities := by
  induction names generalizing capabilities with
  | nil => simp
  | cons name rest ih =>
    rw [List.foldl_cons, ih, AList.mem_insert, List.mem_cons]
    tauto

end keys

namespace DeviceRuntimeState
variable (s : DeviceRuntimeState) (order : RangeOrder) (nowMS : UInt64)

/-- A snapshot speaks about exactly the capabilities that the inventory declares. -/
theorem mem_snapshot_capabilities (capability : String) :
    capability ∈ (s.snapshot order nowMS).capabilities ↔ capability ∈ s.inventory.capabilities := by
  simp only [snapshot, mem_assignDeclared, mem_applyCapabilityDependencyGates, evidenceAt, mem_observes,
    declaredCapabilities, mem_declared]
  simp

end DeviceRuntimeState

theorem selectBestRedcon_mem {rules metricRules : Rules} {commandLevels : List UInt8}
    {capabilities metrics : GoMap String Bool} {level : UInt8}
    (best : selectBestRedconWithMetrics rules metricRules commandLevels capabilities metrics = some level) :
    level ∈ commandLevels := by
  unfold selectBestRedconWithMetrics at best
  have start : ∀ level, (none : Option UInt8) = some level → level ∈ commandLevels := by simp
  revert best
  generalize (none : Option UInt8) = chosen at start ⊢
  induction rules.entries generalizing chosen with
  | nil => exact start level
  | cons rule rest ih =>
    rw [List.foldl_cons]
    apply ih
    intro found chosen_now
    dsimp only at chosen_now
    split at chosen_now
    next picked =>
      cases chosen_now
      exact picked.1
    next => exact start found chosen_now

/-- What is published is a level, so no payload is ever refused. -/
theorem publishedRedcon_valid (s : DeviceRuntimeState) (order : RangeOrder) (nowMS : UInt64) :
    validRedcon (s.snapshot order nowMS).publishedRedcon := by
  unfold DeviceSnapshot.publishedRedcon
  cases best : (s.snapshot order nowMS).redcon with
  | none => decide
  | some level => exact s.inventory.levels_valid level (selectBestRedcon_mem best)

namespace DeviceRuntimeState
variable {s : DeviceRuntimeState} {snapshot : DeviceSnapshot}

def down (s : DeviceRuntimeState) : DeviceRuntimeState :=
  { s.forget with born := false, unavailablePublished := true }

inductive Decision (s : DeviceRuntimeState) (snapshot : DeviceSnapshot) :
    DeviceRuntimeState × DevicePublication → Prop
  | stillDown (absent : snapshot.sparkplugAvailable = false) (unborn : s.born = false)
      (told : s.unavailablePublished = true) : Decision s snapshot (s.down, .none)
  | death (absent : snapshot.sparkplugAvailable = false)
      (untold : s.born = true ∨ s.unavailablePublished = false) : Decision s snapshot (s.down, .death)
  | birth (present : snapshot.sparkplugAvailable = true) (unborn : s.born = false) :
      Decision s snapshot (s.available.remember snapshot,
        .birth snapshot.publishedRedcon (sparkplugMetricsFromSnapshot snapshot.capabilities))
  | data (present : snapshot.sparkplugAvailable = true) (born : s.born = true) :
      Decision s snapshot (s.available.remember snapshot,
        .data snapshot.publishedRedcon (sparkplugMetricsFromSnapshot snapshot.capabilities))
  | unchanged (present : snapshot.sparkplugAvailable = true) (born : s.born = true)
      (redcon : s.lastPublishedRedcon = some snapshot.publishedRedcon)
      (capabilities : ∀ capability,
        s.lastPublishedCapabilities.lookup capability = snapshot.capabilities.lookup capability) :
      Decision s snapshot (s.available, .none)

theorem decideOn_cases (s : DeviceRuntimeState) (snapshot : DeviceSnapshot) :
    Decision s snapshot (s.decideOn snapshot) := by
  unfold decideOn
  cases reachable : snapshot.sparkplugAvailable with
  | false =>
    cases born : s.born with
    | true => exact .death reachable (Or.inl born)
    | false =>
      cases told : s.unavailablePublished with
      | false =>
        have same : { s.forget with unavailablePublished := true } = s.down := by simp [down, forget, born]
        simpa [same] using Decision.death (s := s) reachable (Or.inr told)
      | true =>
        have same : s.forget = s.down := by simp [down, forget, born, told]
        simpa [same] using Decision.stillDown reachable born told
  | true =>
    cases born : s.born with
    | false => exact .birth reachable born
    | true =>
      simp only [Bool.not_true, Bool.false_eq_true, if_false]
      split
      next => exact .data reachable born
      next same =>
        simp only [Bool.or_eq_true, Bool.not_eq_true', decide_eq_true_eq, not_or, not_not, Bool.not_eq_false] at same
        exact .unchanged reachable born same.1.1 (GoMap.lookup_eq_of_sameBy same.1.2)

end DeviceRuntimeState

end Txing.Rig.DeviceState
