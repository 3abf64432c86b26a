import Txing.Agent.ControllerShadow
import Txing.Agent.Ledger
import Txing.Library.Fallible

/-! What a document that the controller accepts holds, and that a saved snapshot is read back out of the document that the
update is merged into. -/

namespace Txing.Agent
open Txing.Library ShadowFields

structure Consistent (state : ActivationState) : Prop where
  timestamp : 0 ≤ state.sourceTimestampMs
  inactive : 0 ≤ state.inactiveObservedAt
  versioned : state.observed = decide (0 < state.projectionVersion)
  stamped : state.observed = decide (0 < state.sourceTimestampMs)
  unobserved : state.observed = false → state.active = false ∧ state.inactiveObservedAt = 0
  since : state.observed = true → state.active = false → 0 < state.inactiveObservedAt
  held : ∀ activation, state.activation = some activation → state.observed = true ∧ activation.id ≠ "" ∧
    0 ≤ activation.startedAt ∧ activation.startedAt < activation.deadline ∧ activation.deadline - activation.startedAt ≤ 3000

structure Complete (run : RunReservation) : Prop where
  named : run.runId ≠ ""
  released : run.release ≠ ""
  activated : run.activationId ≠ ""
  requested : run.request ≠ "" ∧ run.request.utf8ByteSize ≤ 2048
  identified : run.phase = .running → run.microvmId ≠ ""

structure Legal (snapshot : ControllerSnapshot) : Prop where
  version : 0 ≤ snapshot.shadowVersion
  unverified : 0 ≤ snapshot.unverifiedSince
  stopping : 0 ≤ snapshot.stopRequestedAt
  activation : Consistent snapshot.state.activation
  run : ∀ run, snapshot.state.run = some run → snapshot.state.activation.activation ≠ none ∧ Complete run

section reading
variable {fields : Fields} {name : String}

theorem str_ok {value : String} (read : str fields name = .ok value) : value ≠ "" := by
  unfold str at read
  split at read
  next =>
    split at read
    next => cases read
    next named =>
      cases read
      exact named
  next => cases read

theorem number_ok {value : ℤ} (read : number fields name = .ok value) : 0 ≤ value := by
  unfold number at read
  split at read
  next =>
    split at read
    next => cases read
    next valid =>
      cases read
      omega
  next => cases read

theorem numberOr_ok {value : ℤ} (read : numberOr fields name 0 = .ok value) : 0 ≤ value := by
  unfold numberOr at read
  split at read
  next => exact number_ok read
  next =>
    cases read
    exact le_rfl

theorem parseObservation_ok {controller : Fields} {state : ActivationState} (read : parseObservation controller = .ok state) :
    Consistent state := by
  unfold parseObservation at read
  obtain ⟨version, versioned, read⟩ := bind_ok read
  obtain ⟨timestamp, stamped, read⟩ := bind_ok read
  obtain ⟨inactive, since, read⟩ := bind_ok read
  obtain ⟨observed, -, read⟩ := bind_ok read
  obtain ⟨active, -, read⟩ := bind_ok read
  have positive := number_ok versioned
  have later := number_ok stamped
  have after := number_ok since
  split at read
  next => cases read
  next consistent =>
    cases read
    simp only [not_or, not_and, ne_eq, not_not, Bool.not_eq_true, gt_iff_lt] at consistent
    obtain ⟨seen, stamped, blank, known⟩ := consistent
    refine ⟨later, after, ?_, stamped, ?_, ?_, nofun⟩
    · rw [seen]
      simp
    · exact fun unseen => by simpa [unseen] using blank (by simpa using unseen)
    · intro seen off
      have known := known seen (by simpa using off)
      show 0 < inactive
      omega

theorem parseActivation_ok {observed : Bool} {value : Fields} {activation : Activation}
    (read : parseActivation observed value = .ok activation) : observed = true ∧ activation.id ≠ "" ∧
      0 ≤ activation.startedAt ∧ activation.startedAt < activation.deadline ∧
      activation.deadline - activation.startedAt ≤ 3000 := by
  unfold parseActivation at read
  obtain ⟨id, named, read⟩ := bind_ok read
  obtain ⟨startedAt, started, read⟩ := bind_ok read
  obtain ⟨deadline, -, read⟩ := bind_ok read
  split at read
  next => cases read
  next valid =>
    cases read
    have after := number_ok started
    simp only [not_or, Bool.not_eq_true, Bool.not_eq_false'] at valid
    refine ⟨valid.1, str_ok named, after, ?_, ?_⟩
    · show startedAt < deadline
      omega
    · show deadline - startedAt ≤ 3000
      omega

theorem parseRun_ok {controller value : Fields} {run : RunReservation} (read : parseRun controller value = .ok run) :
    Complete run := by
  unfold parseRun at read
  obtain ⟨runId, named, read⟩ := bind_ok read
  obtain ⟨release, released, read⟩ := bind_ok read
  obtain ⟨activationId, activated, read⟩ := bind_ok read
  obtain ⟨request, requested, read⟩ := bind_ok read
  obtain ⟨phaseName, -, read⟩ := bind_ok read
  obtain ⟨phase, -, read⟩ := bind_ok read
  split at read
  next => cases read
  next short =>
    obtain ⟨microvmId, -, read⟩ := bind_ok read
    split at read
    next => cases read
    next identified =>
      cases read
      refine ⟨str_ok named, str_ok released, str_ok activated, ⟨str_ok requested, not_lt.mp short⟩, ?_⟩
      intro running unknown
      exact identified ⟨running, unknown⟩

theorem parseHeld_ok {observation state : ActivationState} {value : Option Fields} (consistent : Consistent observation)
    (read : parseHeld observation value = .ok state) : Consistent state := by
  cases value with
  | none =>
    cases read
    exact consistent
  | some value =>
    obtain ⟨activation, held, read⟩ := bind_ok read
    cases read
    refine { consistent with held := ?_ }
    rintro _ ⟨⟩
    exact parseActivation_ok held

theorem parseAssigned_ok {controller : Fields} {state : ActivationState} {value : Option Fields}
    {assigned : Option RunReservation} (read : parseAssigned controller state value = .ok assigned) :
    ∀ run, assigned = some run → state.activation ≠ none ∧ Complete run := by
  intro run found
  subst found
  cases value with
  | none =>
    unfold parseAssigned at read
    dsimp only at read
    split at read <;> cases read
  | some value =>
    unfold parseAssigned at read
    dsimp only at read
    split at read
    next => cases read
    next held =>
      obtain ⟨run, parsed, read⟩ := bind_ok read
      cases read
      exact ⟨held, parseRun_ok parsed⟩

/-- A document is read under its version, with the time that its lifecycle was verified. -/
structure Reads (version : ℤ) (reported : Fields) (snapshot : ControllerSnapshot) : Prop where
  numbered : snapshot.shadowVersion = version
  lifecycle : ∃ lifecycle, object reported "lifecycle" = .ok lifecycle ∧
    numberOr lifecycle "verifiedAt" 0 = .ok snapshot.verifiedAt
  legal : 0 ≤ version → Legal snapshot

theorem parseReported_ok {version : ℤ} {reported : Fields} {snapshot : ControllerSnapshot}
    (read : parseReported version reported = .ok snapshot) : Reads version reported snapshot := by
  unfold parseReported at read
  obtain ⟨lifecycle, present, read⟩ := bind_ok read
  obtain ⟨verifiedAt, verified, read⟩ := bind_ok read
  obtain ⟨lastError, -, read⟩ := bind_ok read
  have blank : Consistent {} := ⟨le_rfl, le_rfl, rfl, rfl, fun _ => ⟨rfl, rfl⟩, nofun, nofun⟩
  dsimp only at read
  split at read
  next =>
    split at read
    next => cases read
    next =>
      cases read
      exact ⟨rfl, ⟨lifecycle, present, verified⟩, fun positive => ⟨positive, le_rfl, le_rfl, blank, nofun⟩⟩
  next =>
    obtain ⟨controller, -, read⟩ := bind_ok read
    obtain ⟨unverifiedSince, unverified, read⟩ := bind_ok read
    obtain ⟨stopRequestedAt, stopping, read⟩ := bind_ok read
    obtain ⟨observation, observed, read⟩ := bind_ok read
    obtain ⟨activation, held, read⟩ := bind_ok read
    obtain ⟨run, assigned, read⟩ := bind_ok read
    cases read
    refine ⟨rfl, ⟨lifecycle, present, verified⟩, fun positive => ?_⟩
    exact ⟨positive, numberOr_ok unverified, numberOr_ok stopping,
      parseHeld_ok (parseObservation_ok observed) held, parseAssigned_ok assigned⟩

end reading

namespace ControllerSnapshot

/-- What is read back after the save of a snapshot over the document that held `old`. A run that is not verified any more
keeps the time of the old document. -/
def persisted (snapshot old : ControllerSnapshot) (version now verifiedAt : ℤ) : ControllerSnapshot where
  shadowVersion := version
  verifiedAt := snapshot.state.run.elim old.verifiedAt fun run => if run.phase = .stopping then old.verifiedAt else verifiedAt
  unverifiedSince := snapshot.unverifiedSince
  stopRequestedAt := snapshot.state.run.elim 0 fun run => if run.phase = .stopping then snapshot.stopTime now else 0
  lastError := snapshot.lastError
  state := snapshot.state

end ControllerSnapshot

section writing
variable {fields : Fields} {name : String}

theorem str_of_lookup {value : String} (set : fields.lookup name = some (.string value)) (named : value ≠ "") :
    str fields name = .ok value := by
  unfold str
  rw [set]
  exact if_neg named

theorem number_of_lookup {value : ℤ} (set : fields.lookup name = some (int value)) (positive : 0 ≤ value) :
    number fields name = .ok value := by
  unfold number
  rw [set]
  show (if (value : ℚ).den ≠ 1 ∨ (value : ℚ).num < 0 then _ else Except.ok (value : ℚ).num) = _
  rw [Rat.den_intCast, Rat.num_intCast, if_neg (by omega)]

theorem flag_of_lookup {value : Bool} (set : fields.lookup name = some (.bool value)) : flag fields name = .ok value := by
  unfold flag
  rw [set]

theorem object_of_lookup {value : Fields} (set : fields.lookup name = some (.object value)) :
    object fields name = .ok value := by
  unfold object
  rw [set]

theorem numberOr_of_lookup {value default : ℤ} (set : fields.lookup name = some (int value)) (positive : 0 ≤ value) :
    numberOr fields name default = .ok value := by
  unfold numberOr valueExists
  rw [set]
  exact number_of_lookup set positive

theorem numberOr_of_absent {default : ℤ} (absent : fields.lookup name = none) : numberOr fields name default = .ok default := by
  unfold numberOr valueExists
  rw [absent]
  rfl

theorem strOr_of_lookup {value default : String} (set : fields.lookup name = some (.string value)) (named : value ≠ "") :
    strOr fields name default = .ok value := by
  unfold strOr valueExists
  rw [set]
  exact str_of_lookup set named

theorem strOr_of_absent {default : String} (absent : fields.lookup name = none) : strOr fields name default = .ok default := by
  unfold strOr valueExists
  rw [absent]
  rfl

theorem strOr_merge {current patch : Fields} {value : String}
    (set : patch.lookup name = some (if value = "" then .null else .string value)) :
    strOr (current.merge patch) name "" = .ok value := by
  by_cases blank : value = ""
  · rw [if_pos blank] at set
    rw [strOr_of_absent (Fields.merge_deleted set), blank]
  · rw [if_neg blank] at set
    exact strOr_of_lookup (Fields.merge_string set) blank

theorem RunPhase.parse_name (phase : RunPhase) : RunPhase.parse phase.name = .ok phase := by
  cases phase <;> rfl

theorem RunPhase.name_ne (phase : RunPhase) : phase.name ≠ "" := by
  cases phase <;> decide

variable {current : Fields} {snapshot : ControllerSnapshot} {now verifiedAt : ℤ}

theorem Consistent.accepted {state : ActivationState} (consistent : Consistent state) :
    ¬ (state.observed ≠ decide ((state.projectionVersion : ℤ) > 0) ∨ state.observed ≠ decide (state.sourceTimestampMs > 0) ∨
      (!state.observed ∧ (state.active ∨ state.inactiveObservedAt ≠ 0)) ∨
      (state.observed ∧ !state.active ∧ state.inactiveObservedAt = 0)) := by
  rintro (wrong | wrong | ⟨unseen, wrong⟩ | ⟨seen, off, wrong⟩)
  · apply wrong
    rw [consistent.versioned]
    simp
  · exact wrong consistent.stamped
  · obtain ⟨off, never⟩ := consistent.unobserved (by simpa using unseen)
    obtain on | seen := wrong
    · exact absurd on (by simp [off])
    · exact seen never
  · have since := consistent.since seen (by simpa using off)
    omega

theorem parseObservation_merge (consistent : Consistent snapshot.state.activation) :
    parseObservation (current.merge (snapshot.controllerPatch now)) =
      .ok { snapshot.state.activation with activation := none } := by
  unfold parseObservation
  rw [number_of_lookup (Fields.merge_number rfl) (Int.natCast_nonneg _),
    number_of_lookup (Fields.merge_number rfl) consistent.timestamp,
    number_of_lookup (Fields.merge_number rfl) consistent.inactive, flag_of_lookup (Fields.merge_bool rfl),
    flag_of_lookup (Fields.merge_bool rfl)]
  exact if_neg consistent.accepted

theorem parseActivation_merge {activation : Activation} (consistent : Consistent snapshot.state.activation)
    (held : snapshot.state.activation.activation = some activation) :
    parseActivation snapshot.state.activation.observed (current.merge (ControllerSnapshot.activationPatch activation)) =
      .ok activation := by
  obtain ⟨seen, named, positive, ordered, short⟩ := consistent.held activation held
  unfold parseActivation
  rw [str_of_lookup (Fields.merge_string rfl) named, number_of_lookup (Fields.merge_number rfl) positive,
    number_of_lookup (Fields.merge_number rfl) (by omega)]
  apply if_neg
  rintro (unseen | late | long)
  · simp [seen] at unseen
  · omega
  · omega

theorem parseHeld_merge {reported : Fields} (consistent : Consistent snapshot.state.activation) :
    parseHeld { snapshot.state.activation with activation := none }
        ((reported.merge (snapshot.reportedPatch now verifiedAt)).object "activation") =
      .ok snapshot.state.activation := by
  have set : (snapshot.reportedPatch now verifiedAt).lookup "activation" =
    some (snapshot.state.activation.activation.elim .null fun activation =>
      .object (ControllerSnapshot.activationPatch activation)) := rfl
  cases held : snapshot.state.activation.activation with
  | none =>
    rw [held] at set
    rw [Fields.object, Fields.merge_deleted set]
    show Except.ok _ = Except.ok _
    rw [← held]
  | some activation =>
    rw [held] at set
    rw [Fields.object, Fields.merge_object set]
    show (parseActivation snapshot.state.activation.observed _ >>= _) = _
    rw [parseActivation_merge consistent held]
    show Except.ok { snapshot.state.activation with activation := some activation } = _
    rw [← held]

theorem parseRun_merge {controller value : Fields} {run : RunReservation} (found : snapshot.state.run = some run)
    (complete : Complete run) :
    parseRun (controller.merge (snapshot.controllerPatch now)) (value.merge (ControllerSnapshot.runPatch run)) = .ok run := by
  have lookups : (snapshot.controllerPatch now).lookup "runActivationId" = some (.string run.activationId) ∧
      (snapshot.controllerPatch now).lookup "launchRequest" = some (.string run.request) ∧
      (snapshot.controllerPatch now).lookup "runPhase" = some (.string run.phase.name) := by
    unfold ControllerSnapshot.controllerPatch
    rw [found]
    exact ⟨rfl, rfl, rfl⟩
  unfold parseRun
  rw [str_of_lookup (Fields.merge_string rfl) complete.named, str_of_lookup (Fields.merge_string rfl) complete.released,
    str_of_lookup (Fields.merge_string lookups.1) complete.activated,
    str_of_lookup (Fields.merge_string lookups.2.1) complete.requested.1,
    str_of_lookup (Fields.merge_string lookups.2.2) run.phase.name_ne, strOr_merge rfl]
  show (RunPhase.parse run.phase.name >>= _) = _
  rw [run.phase.parse_name]
  have short : ¬ run.request.utf8ByteSize > 2048 := not_lt.mpr complete.requested.2
  have identified : ¬ (run.phase = .running ∧ run.microvmId = "") := fun both => complete.identified both.1 both.2
  exact (if_neg short).trans (if_neg identified)

theorem parseAssigned_merge {reported controller : Fields} (legal : Legal snapshot) :
    parseAssigned (controller.merge (snapshot.controllerPatch now)) snapshot.state.activation
        ((reported.merge (snapshot.reportedPatch now verifiedAt)).object "run") = .ok snapshot.state.run := by
  have set : (snapshot.reportedPatch now verifiedAt).lookup "run" =
    some (snapshot.state.run.elim .null fun run => .object (ControllerSnapshot.runPatch run)) := rfl
  cases found : snapshot.state.run with
  | none =>
    have lookups : (snapshot.controllerPatch now).lookup "runActivationId" = some .null ∧
        (snapshot.controllerPatch now).lookup "runPhase" = some .null ∧
        (snapshot.controllerPatch now).lookup "launchRequest" = some .null := by
      unfold ControllerSnapshot.controllerPatch
      rw [found]
      exact ⟨rfl, rfl, rfl⟩
    rw [found] at set
    rw [Fields.object, Fields.merge_deleted set]
    apply if_neg
    unfold valueExists
    rw [Fields.merge_deleted lookups.1, Fields.merge_deleted lookups.2.1, Fields.merge_deleted lookups.2.2]
    decide
  | some run =>
    obtain ⟨held, complete⟩ := legal.run run found
    rw [found] at set
    rw [Fields.object, Fields.merge_object set]
    show (if snapshot.state.activation.activation = none then _ else _) = _
    rw [if_neg held, parseRun_merge found complete]
    rfl

theorem stopTime_merge {controller : Fields} (legal : Legal snapshot) (positive : 0 ≤ now) :
    numberOr (controller.merge (snapshot.controllerPatch now)) "stopRequestedAt" 0 =
      .ok (snapshot.state.run.elim 0 fun run => if run.phase = .stopping then snapshot.stopTime now else 0) := by
  have set : (snapshot.controllerPatch now).lookup "stopRequestedAt" =
      some (snapshot.state.run.elim .null fun run => if run.phase = .stopping then int (snapshot.stopTime now) else .null) := by
    unfold ControllerSnapshot.controllerPatch
    cases snapshot.state.run <;> rfl
  have nonneg : 0 ≤ snapshot.stopTime now := by
    unfold ControllerSnapshot.stopTime
    split
    · exact legal.stopping
    · exact positive
  cases found : snapshot.state.run with
  | none =>
    rw [found] at set
    exact numberOr_of_absent (Fields.merge_deleted set)
  | some run =>
    rw [found] at set
    dsimp only [Option.elim_some] at set ⊢
    split at set
    next stopping =>
      rw [if_pos stopping]
      exact numberOr_of_lookup (Fields.merge_number set) nonneg
    next moving =>
      rw [if_neg moving]
      exact numberOr_of_absent (Fields.merge_deleted set)

/-- The lifecycle is verified at the time of the save, or as it was before. -/
theorem verifiedAt_merge {lifecycle : Fields} {before : ℤ} (positive : 0 ≤ verifiedAt)
    (read : numberOr lifecycle "verifiedAt" 0 = .ok before) :
    numberOr (lifecycle.merge (snapshot.lifecyclePatch now verifiedAt)) "verifiedAt" 0 =
      .ok (snapshot.state.run.elim before fun run => if run.phase = .stopping then before else verifiedAt) := by
  have untouched (absent : (snapshot.lifecyclePatch now verifiedAt).lookup "verifiedAt" = none) :
      numberOr (lifecycle.merge (snapshot.lifecyclePatch now verifiedAt)) "verifiedAt" 0 = .ok before := by
    have same : (lifecycle.merge (snapshot.lifecyclePatch now verifiedAt)).lookup "verifiedAt" =
      lifecycle.lookup "verifiedAt" := Fields.merge_untouched absent
    unfold numberOr valueExists number at read ⊢
    rw [same]
    exact read
  cases found : snapshot.state.run with
  | none =>
    apply untouched
    unfold ControllerSnapshot.lifecyclePatch
    rw [found]
    rfl
  | some run =>
    dsimp only [Option.elim_some]
    split
    next stopping =>
      apply untouched
      unfold ControllerSnapshot.lifecyclePatch
      rw [found]
      dsimp only
      rw [if_neg (not_not.mpr stopping)]
      rfl
    next moving =>
      have set : (snapshot.lifecyclePatch now verifiedAt).lookup "verifiedAt" = some (int verifiedAt) := by
        unfold ControllerSnapshot.lifecyclePatch
        rw [found]
        dsimp only
        rw [if_pos moving]
        rfl
      exact numberOr_of_lookup (Fields.merge_number set) positive

/-- A legal snapshot is read back out of every document that the controller could read before. -/
theorem parseReported_merge {version next : ℤ} {reported : Fields} {old : ControllerSnapshot} (legal : Legal snapshot)
    (reads : Reads version reported old) (positive : 0 ≤ now) (verified : 0 ≤ verifiedAt) :
    parseReported next (reported.merge (snapshot.reportedPatch now verifiedAt)) =
      .ok (snapshot.persisted old next now verifiedAt) := by
  obtain ⟨lifecycle, present, before⟩ := reads.lifecycle
  have fields : Json.fields (reported.lookup "lifecycle") = lifecycle := by
    unfold object at present
    split at present
    next value found =>
      cases present
      rw [found]
      rfl
    next => cases present
  have controls : (reported.merge (snapshot.reportedPatch now verifiedAt)).lookup "controller" =
    some (.object ((Json.fields (reported.lookup "controller")).merge (snapshot.controllerPatch now))) :=
    Fields.merge_object rfl
  have exists_ : valueExists (reported.merge (snapshot.reportedPatch now verifiedAt)) "controller" = true := by
    unfold valueExists
    rw [controls]
  unfold parseReported
  rw [object_of_lookup (Fields.merge_object rfl), fields]
  show (numberOr (lifecycle.merge _) "verifiedAt" 0 >>= _) = _
  rw [verifiedAt_merge verified before]
  show (strOr _ "lastError" "" >>= _) = _
  rw [strOr_merge rfl]
  show (if (!valueExists _ "controller") = true then _ else _) = _
  rw [exists_, if_neg (by decide), object_of_lookup controls]
  show (numberOr (Fields.merge _ _) "unverifiedSince" 0 >>= _) = _
  rw [numberOr_of_lookup (Fields.merge_number rfl) legal.unverified]
  show (numberOr (Fields.merge _ _) "stopRequestedAt" 0 >>= _) = _
  rw [stopTime_merge legal positive]
  show (parseObservation (Fields.merge _ _) >>= _) = _
  rw [parseObservation_merge legal.activation]
  show (parseHeld _ _ >>= _) = _
  rw [parseHeld_merge legal.activation]
  show (parseAssigned (Fields.merge _ _) _ _ >>= _) = _
  rw [parseAssigned_merge legal]
  rfl

end writing
end Txing.Agent
