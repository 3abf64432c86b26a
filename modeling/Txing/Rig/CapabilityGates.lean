import Txing.Rig.DeviceState

/-! The capability gates (`applyCapabilityDependencyGates`). Each gate is read as what it leaves available, and all of them in a
row as one condition on what was reported. -/

namespace Txing.Rig.CapabilityGates
open DeviceState

variable {capabilities : Capabilities}

@[simp] theorem available_assignDeclared (name : String) (value : Bool) (capability : String) :
    capabilityIsAvailable (assignDeclared capabilities name value) capability =
      if capability = name then capabilityIsDeclared capabilities name && value
      else capabilityIsAvailable capabilities capability := by
  unfold assignDeclared
  by_cases same : capability = name
  · subst same
    rw [if_pos rfl]
    cases declared : capabilityIsDeclared capabilities capability with
    | true => simp [capabilityIsAvailable]
    | false =>
      have absent : capabilities.lookup capability = none := by simpa [capabilityIsDeclared] using declared
      simp [capabilityIsAvailable, absent]
  · rw [if_neg same]
    split
    · simp [capabilityIsAvailable, AList.lookup_insert_ne same]
    · rfl

theorem capabilityIsDeclared_iff (capabilities : Capabilities) (capability : String) :
    capabilityIsDeclared capabilities capability = true ↔ capability ∈ capabilities :=
  AList.lookup_isSome

theorem available_declared (capabilities : Capabilities) (capability : String)
    (available : capabilityIsAvailable capabilities capability = true) : capabilityIsDeclared capabilities capability = true := by
  unfold capabilityIsAvailable at available
  unfold capabilityIsDeclared
  cases found : capabilities.lookup capability with
  | none =>
    rw [found] at available
    cases available
  | some value => rfl

def boardCapabilities : List String := [boardCapability, mcpCapability, mavlinkCapability, videoCapability]

def controlAndVideo : List String := [mcpCapability, mavlinkCapability, videoCapability]

theorem available_forced (name capability : String) :
    capabilityIsAvailable (forceCapabilityUnavailable capabilities name) capability = true ↔
      capabilityIsAvailable capabilities capability = true ∧ capability ≠ name := by
  rw [forceCapabilityUnavailable, available_assignDeclared]
  by_cases same : capability = name
  · simp [same]
  · simp [same]

theorem available_forceControl (capability : String) :
    capabilityIsAvailable (forceCapabilityUnavailable (forceControlCapabilitiesUnavailable capabilities) videoCapability)
        capability = true ↔
      capabilityIsAvailable capabilities capability = true ∧ capability ∉ controlAndVideo := by
  rw [forceControlCapabilitiesUnavailable, available_forced, available_forced, available_forced]
  simp only [controlAndVideo, List.mem_cons, List.not_mem_nil, or_false, not_or, and_assoc]

theorem available_forceBoard (capability : String) :
    capabilityIsAvailable (forceBoardCapabilitiesUnavailable capabilities) capability = true ↔
      capabilityIsAvailable capabilities capability = true ∧ capability ∉ boardCapabilities := by
  rw [forceBoardCapabilitiesUnavailable, available_forceControl, available_forced]
  simp only [controlAndVideo, boardCapabilities, List.mem_cons, List.not_mem_nil, or_false, not_or, and_assoc]

theorem available_gate {shut : Bool} {off : Capabilities} {names : List String}
    (forced : ∀ capability, capabilityIsAvailable off capability = true ↔
      capabilityIsAvailable capabilities capability = true ∧ capability ∉ names) (capability : String) :
    capabilityIsAvailable (if shut then off else capabilities) capability = true ↔
      capabilityIsAvailable capabilities capability = true ∧ (capability ∈ names → shut = false) := by
  cases shut with
  | true => simpa using forced capability
  | false => simp

variable (observed : Bool) (capability : String)

theorem available_gateRedcon4 :
    capabilityIsAvailable (gateRedcon4 observed capabilities) capability = true ↔
      capabilityIsAvailable capabilities capability = true ∧
        (capability ∈ powerCapability :: boardCapabilities → observed = false) := by
  apply available_gate
  intro capability
  rw [available_forceBoard, available_forced]
  simp only [List.mem_cons, not_or, and_assoc]

theorem available_gatePower :
    capabilityIsAvailable (gatePower capabilities) capability = true ↔
      capabilityIsAvailable capabilities capability = true ∧ (capability ∈ boardCapabilities →
        capabilityIsDeclared capabilities powerCapability = true → capabilityIsAvailable capabilities powerCapability = true) := by
  refine (available_gate available_forceBoard capability).trans ?_
  simp

theorem available_gateBoard :
    capabilityIsAvailable (gateBoard capabilities) capability = true ↔
      capabilityIsAvailable capabilities capability = true ∧ (capability ∈ controlAndVideo →
        capabilityIsDeclared capabilities boardCapability = true → capabilityIsAvailable capabilities boardCapability = true) := by
  refine (available_gate available_forceControl capability).trans ?_
  simp

theorem available_gateControl :
    capabilityIsAvailable (gateControl capabilities) capability = true ↔
      capabilityIsAvailable capabilities capability = true ∧ (capability = videoCapability →
        controlCapabilityDeclared capabilities = true → controlCapabilityAvailable capabilities = true) := by
  have forced : ∀ capability, capabilityIsAvailable (forceCapabilityUnavailable capabilities videoCapability) capability = true ↔
      capabilityIsAvailable capabilities capability = true ∧ capability ∉ [videoCapability] := by
    intro capability
    rw [available_forced, List.mem_singleton]
  refine (available_gate forced capability).trans ?_
  simp

theorem available_inferPower :
    capabilityIsAvailable (inferPower observed capabilities) capability = true ↔
      capabilityIsAvailable capabilities capability = true ∨ (capability = powerCapability ∧ observed = false ∧
        capabilityIsDeclared capabilities powerCapability = true ∧
        ∃ owned ∈ boardCapabilities, capabilityIsAvailable capabilities owned = true) := by
  have owned : (∃ owned ∈ boardCapabilities, capabilityIsAvailable capabilities owned = true) ↔
      (capabilityIsAvailable capabilities boardCapability || controlCapabilityAvailable capabilities ||
        capabilityIsAvailable capabilities videoCapability) = true := by
    simp [boardCapabilities, controlCapabilityAvailable, or_assoc]
  rw [owned]
  unfold inferPower
  split
  next inferred =>
    simp only [Bool.and_eq_true, Bool.not_eq_true'] at inferred
    rw [available_assignDeclared]
    by_cases power : capability = powerCapability
    · simp [power, inferred]
    · simp [power]
  next kept =>
    constructor
    · exact Or.inl
    · rintro (available | ⟨rfl, unobserved, declared, seen⟩)
      · exact available
      · by_contra absent
        apply kept
        simp only [Bool.and_eq_true, Bool.not_eq_true', unobserved, declared, seen, and_true, true_and]
        exact Bool.eq_false_iff.mpr absent

theorem declared_congr {one other : Capabilities} (same : ∀ capability, capability ∈ one ↔ capability ∈ other) :
    capabilityIsDeclared one capability = capabilityIsDeclared other capability := by
  rw [Bool.eq_iff_iff, capabilityIsDeclared_iff, capabilityIsDeclared_iff, same]

@[simp] theorem declared_gateRedcon4 :
    capabilityIsDeclared (gateRedcon4 observed capabilities) capability = capabilityIsDeclared capabilities capability :=
  declared_congr capability fun _ => mem_gated _ (by simp)

@[simp] theorem declared_inferPower :
    capabilityIsDeclared (inferPower observed capabilities) capability = capabilityIsDeclared capabilities capability :=
  declared_congr capability fun _ => mem_gated _ (by simp)

@[simp] theorem declared_gatePower :
    capabilityIsDeclared (gatePower capabilities) capability = capabilityIsDeclared capabilities capability :=
  declared_congr capability fun _ => mem_gated _ (by simp)

@[simp] theorem declared_gateBoard :
    capabilityIsDeclared (gateBoard capabilities) capability = capabilityIsDeclared capabilities capability :=
  declared_congr capability fun _ => mem_gated _ (by simp)

/-- The capabilities that hold, of those declared, by what was reported of them: all board capabilities fall with a boundary,
control and video with the board, video with control, and power stands on anything that the board has said. -/
def Holds (declared reported : String → Prop) (boundary : Prop) (capability : String) : Prop :=
  if capability = powerCapability then
    declared powerCapability ∧ ¬ boundary ∧ (reported powerCapability ∨ ∃ owned ∈ boardCapabilities, reported owned)
  else reported capability ∧ (capability ∈ boardCapabilities → ¬ boundary) ∧
    (capability ∈ controlAndVideo → declared boardCapability → reported boardCapability) ∧
    (capability = videoCapability → declared mcpCapability ∨ declared mavlinkCapability →
      reported mcpCapability ∨ reported mavlinkCapability)

variable (capabilities)

/-- The gates down to that of power: what the board has said is power, so the gate finds nothing to switch off. -/
theorem available_powered :
    capabilityIsAvailable (gatePower (inferPower observed (gateRedcon4 observed capabilities))) capability = true ↔
      if capability = powerCapability then
        capabilityIsDeclared capabilities powerCapability = true ∧ observed ≠ true ∧
          (capabilityIsAvailable capabilities powerCapability = true ∨
            ∃ owned ∈ boardCapabilities, capabilityIsAvailable capabilities owned = true)
      else capabilityIsAvailable capabilities capability = true ∧ (capability ∈ boardCapabilities → observed ≠ true) := by
  have apart : powerCapability ∉ boardCapabilities := by decide
  rw [available_gatePower, available_inferPower, available_inferPower, declared_inferPower, declared_gateRedcon4]
  simp only [available_gateRedcon4]
  cases observed with
  | true =>
    by_cases power : capability = powerCapability
    · simp [power]
    · simp only [List.mem_cons, power, false_or, Bool.true_eq_false, imp_false, not_or, false_and, and_self, or_false, true_or,
        not_true_eq_false, and_false, or_self, Bool.not_eq_true, if_false, ne_eq, and_iff_left_iff_imp, and_imp]
      intro _ outside owned
      exact absurd owned outside
  | false =>
    by_cases power : capability = powerCapability
    · have declared := available_declared capabilities powerCapability
      simp only [power, List.mem_cons, apart, or_false, imp_self, and_true, implies_true, true_and, false_implies, if_true,
        ne_eq, Bool.false_eq_true, not_false_eq_true]
      constructor
      · rintro (available | ⟨is, owned⟩)
        · exact ⟨declared available, Or.inl available⟩
        · exact ⟨is, Or.inr owned⟩
      · rintro ⟨is, available | owned⟩
        · exact Or.inl available
        · exact Or.inr ⟨is, owned⟩
    · simp only [List.mem_cons, power, false_or, implies_true, and_true, true_and, false_and, or_false, true_or, if_false,
        ne_eq, Bool.false_eq_true, not_false_eq_true, and_iff_left_iff_imp]
      intro available owned declared
      exact Or.inr ⟨declared, capability, owned, available⟩

theorem available_gates :
    capabilityIsAvailable (applyCapabilityDependencyGates capabilities observed) capability = true ↔
      Holds (capabilityIsDeclared capabilities · = true) (capabilityIsAvailable capabilities · = true) (observed = true)
        capability := by
  unfold applyCapabilityDependencyGates
  rw [available_gateControl]
  simp only [controlCapabilityDeclared, controlCapabilityAvailable, Bool.or_eq_true, available_gateBoard, available_powered,
    declared_gateBoard, declared_gatePower, declared_inferPower, declared_gateRedcon4]
  have board : boardCapability ≠ powerCapability := by decide
  have mcp : mcpCapability ≠ powerCapability := by decide
  have mavlink : mavlinkCapability ≠ powerCapability := by decide
  simp only [if_neg board, if_neg mcp, if_neg mavlink]
  unfold Holds
  by_cases power : capability = powerCapability
  · have control : powerCapability ∉ controlAndVideo := by decide
    have video : powerCapability ≠ videoCapability := by decide
    simp only [power, control, video, if_true, false_implies, and_true]
  · have owned : boardCapability ∈ boardCapabilities ∧ mcpCapability ∈ boardCapabilities ∧
        mavlinkCapability ∈ boardCapabilities ∧ ∀ name ∈ controlAndVideo, name ∈ boardCapabilities := by decide
    have control : mcpCapability ∈ controlAndVideo ∧ mavlinkCapability ∈ controlAndVideo ∧
        videoCapability ∈ controlAndVideo := by decide
    have below := owned.2.2.2 capability
    simp only [power, if_false, owned, control, true_implies]
    constructor
    · rintro ⟨⟨⟨available, unobserved⟩, above⟩, controlled⟩
      refine ⟨available, unobserved, fun control declared => (above control declared).1, ?_⟩
      intro video declared
      exact (controlled video declared).imp (·.1.1) (·.1.1)
    · rintro ⟨available, unobserved, above, controlled⟩
      refine ⟨⟨⟨available, unobserved⟩, fun control declared => ⟨above control declared, unobserved (below control)⟩⟩, ?_⟩
      intro video declared
      have under := video ▸ control.2.2
      have clear := unobserved (below under)
      exact (controlled video declared).imp (fun seen => ⟨⟨seen, clear⟩, fun declared => ⟨above under declared, clear⟩⟩)
        fun seen => ⟨⟨seen, clear⟩, fun declared => ⟨above under declared, clear⟩⟩

section closure
variable {declared reported : String → Prop} {boundary : Prop}

theorem holds_iff {capability : String} (other : capability ≠ powerCapability) :
    Holds declared reported boundary capability ↔ reported capability ∧ (capability ∈ boardCapabilities → ¬ boundary) ∧
      (capability ∈ controlAndVideo → declared boardCapability → reported boardCapability) ∧
      (capability = videoCapability → declared mcpCapability ∨ declared mavlinkCapability →
        reported mcpCapability ∨ reported mavlinkCapability) :=
  iff_of_eq (if_neg other)

theorem holds_power :
    Holds declared reported boundary powerCapability ↔ declared powerCapability ∧ ¬ boundary ∧
      (reported powerCapability ∨ ∃ owned ∈ boardCapabilities, reported owned) :=
  iff_of_eq (if_pos rfl)

theorem ne_power_of_owned {capability : String} (owned : capability ∈ boardCapabilities) : capability ≠ powerCapability := by
  rintro rfl
  exact absurd owned (by decide)

theorem Holds.powered {capability : String} (owned : capability ∈ boardCapabilities) (power : declared powerCapability)
    (holds : Holds declared reported boundary capability) : Holds declared reported boundary powerCapability := by
  obtain ⟨seen, clear, _⟩ := (holds_iff (ne_power_of_owned owned)).mp holds
  exact holds_power.mpr ⟨power, clear owned, Or.inr ⟨capability, owned, seen⟩⟩

theorem owned_of_control {capability : String} (control : capability ∈ controlAndVideo) : capability ∈ boardCapabilities :=
  List.mem_cons_of_mem _ control

theorem Holds.boarded {capability : String} (control : capability ∈ controlAndVideo) (board : declared boardCapability)
    (holds : Holds declared reported boundary capability) : Holds declared reported boundary boardCapability := by
  have owned := owned_of_control control
  obtain ⟨_, clear, above, _⟩ := (holds_iff (ne_power_of_owned owned)).mp holds
  refine (holds_iff (by decide)).mpr ⟨above control board, fun _ => clear owned, ?_, ?_⟩
  · intro control
    exact absurd control (by decide)
  · intro video
    exact absurd video (by decide)

theorem Holds.controlled (control : declared mcpCapability ∨ declared mavlinkCapability)
    (holds : Holds declared reported boundary videoCapability) :
    Holds declared reported boundary mcpCapability ∨ Holds declared reported boundary mavlinkCapability := by
  obtain ⟨_, clear, above, controlled⟩ := (holds_iff (by decide)).mp holds
  have clear := clear (by decide)
  have board := above (by decide)
  have apart : ∀ capability ∈ [mcpCapability, mavlinkCapability],
      capability ≠ powerCapability ∧ capability ≠ videoCapability := by decide
  have stands : ∀ capability ∈ [mcpCapability, mavlinkCapability], reported capability →
      Holds declared reported boundary capability := by
    intro capability among seen
    obtain ⟨power, video⟩ := apart capability among
    exact (holds_iff power).mpr ⟨seen, fun _ => clear, fun _ => board, fun same => absurd same video⟩
  exact (controlled rfl control).imp (stands mcpCapability (by decide)) (stands mavlinkCapability (by decide))

theorem Holds.clear {capability : String} (among : capability ∈ powerCapability :: boardCapabilities)
    (holds : Holds declared reported boundary capability) : ¬ boundary := by
  rcases List.mem_cons.mp among with rfl | owned
  · exact (holds_power.mp holds).2.1
  · exact ((holds_iff (ne_power_of_owned owned)).mp holds).2.1 owned

theorem holds_agent : Holds declared reported boundary agentCapability ↔ reported agentCapability := by
  rw [holds_iff (by decide)]
  have owned : agentCapability ∉ boardCapabilities := by decide
  have control : agentCapability ∉ controlAndVideo := by decide
  have video : agentCapability ≠ videoCapability := by decide
  simp only [owned, control, video, false_implies, and_true]

end closure

end Txing.Rig.CapabilityGates
