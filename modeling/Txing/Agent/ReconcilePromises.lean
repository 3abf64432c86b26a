import Txing.Agent.Ledger

/-! A pass keeps its promises, step by step as it is written. -/

namespace Txing.Agent
variable {old mid : ControllerSnapshot}
  {α : Type} {thing : String} {kept : Ledger} {ends : α → Ledger → Prop} {observation : ProjectionObservation}

theorem Observes.latest {state after : ActivationState} {now budgetSeconds : ℤ}
    {change : ActivationChange} (observes : Observes state observation now budgetSeconds after change)
    (verified : change ≠ .unverified ∧ change ≠ .stale) :
    observation.version = after.projectionVersion ∧ observation.sourceTimestampMs = after.sourceTimestampMs := by
  cases observes with
  | unverified => exact absurd rfl verified.1
  | stale => exact absurd rfl verified.2
  | repeated known version active timestamp =>
    unfold ActivationState.refresh
    split
    · exact ⟨version, timestamp⟩
    · exact ⟨version, timestamp⟩
  | inactive => exact ⟨rfl, rfl⟩
  | active => exact ⟨rfl, rfl⟩
  | activated => exact ⟨rfl, rfl⟩

theorem follows_observeActivation {state : ActivationState} {now budgetSeconds : ℤ}
    {next : ActivationState × ActivationChange → Controlling α}
    (follows : ∀ after change, Observes state observation now budgetSeconds after change →
      Follows thing kept (next (after, change)) ends) :
    Follows thing kept (observeActivation state observation now budgetSeconds (some Backend.identity) >>= next) ends := by
  obtain ⟨after, change, observes, -, returned⟩ | ⟨seen, newer, known, before, returned⟩ :=
    observeActivation_cases state observation now budgetSeconds (some Backend.identity)
  · rw [returned]
    exact follows after change observes
  · have allocates : Follows thing kept (newActivation state now budgetSeconds (some Backend.identity)) fun next after =>
        Allocates state now budgetSeconds next ∧ after = kept := by
      unfold newActivation
      split
      next => exact follows_throw
      next timely =>
        refine follows_silent rfl fun id => ?_
        split
        next => exact follows_throw
        next good => exact follows_pure ⟨allocates_of_timely timely good, rfl⟩
    have activates : Follows thing kept
        (observeActivation state observation now budgetSeconds (some Backend.identity)) fun value after =>
        Observes state observation now budgetSeconds value.1 value.2 ∧ after = kept := by
      rw [returned]
      apply follows_bind allocates
      rintro next after ⟨allocated, rfl⟩
      exact follows_pure ⟨.activated seen newer known before allocated, rfl⟩
    apply follows_bind activates
    rintro ⟨after, change⟩ _ ⟨observes, rfl⟩
    exact follows after change observes

/-- What the first half of a pass has done: the activation of the snapshot is up to date. -/
structure Sees (old snapshot : ControllerSnapshot) (current : CurrentLifecycle) (observed : Option ProjectionObservation) :
    Prop where
  activation : Advances old.state.activation snapshot.state.activation
  version : snapshot.shadowVersion = old.shadowVersion
  run : snapshot.state.run = old.state.run
  stopTime : snapshot.stopRequestedAt = old.stopRequestedAt
  unverified : snapshot.unverifiedSince = old.unverifiedSince
  active : current = .active → ∃ observation, observed = some observation ∧ observation.active = some true ∧
    observation.version = snapshot.state.activation.projectionVersion ∧
    observation.sourceTimestampMs = snapshot.state.activation.sourceTimestampMs

variable {current : CurrentLifecycle}

theorem Sees.unchanged {observed : Option ProjectionObservation} (off : current ≠ .active) :
    Sees old old current observed :=
  ⟨.inl rfl, rfl, rfl, rfl, rfl, fun on => absurd on off⟩

variable {pass : Pass}

theorem follows_observe (positive : 0 < pass.now.1) {supported : Option Bool}
    {next : ControllerSnapshot × CurrentLifecycle → Controlling α}
    (follows : ∀ snapshot current observed, Sees old snapshot current observed →
      Follows thing { kept with observed } (next (snapshot, current)) ends) :
    Follows thing kept (pass.observe old supported >>= next) ends := by
  have sees : Follows thing kept (pass.observe old supported) fun value after =>
      ∃ observed, after = { kept with observed } ∧ Sees old value.1 value.2 observed := by
    unfold Pass.observe
    split
    next => exact follows_pure ⟨kept.observed, rfl, .unchanged (by simp)⟩
    next => exact follows_pure ⟨kept.observed, rfl, .unchanged (by simp)⟩
    next =>
      apply follows_projection
      intro observed
      cases observed with
      | none => exact follows_pure ⟨none, rfl, .unchanged (by simp)⟩
      | some observation =>
        dsimp only
        split
        next => exact follows_pure ⟨_, rfl, .unchanged (by simp)⟩
        next active seen =>
          apply follows_observeActivation
          intro after change observes
          have advances : Advances old.state.activation after := .inr ⟨_, _, _, _, positive, observes⟩
          dsimp only
          split
          next verified =>
            apply follows_pure
            refine ⟨_, rfl, advances, rfl, rfl, rfl, rfl, ?_⟩
            intro on
            refine ⟨observation, rfl, ?_, observes.latest verified⟩
            cases active with
            | true => exact seen
            | false => cases on
          next =>
            apply follows_pure
            exact ⟨_, rfl, advances, rfl, rfl, rfl, rfl, by simp⟩
  apply follows_bind sees
  rintro ⟨snapshot, current⟩ _ ⟨observed, rfl, held⟩
  exact follows snapshot current observed held

/-- What the second half does before it reserves a run: at most it stops the one there is. -/
structure Settles (mid new : ControllerSnapshot) : Prop where
  version : new.shadowVersion = mid.shadowVersion
  activation : new.state.activation = mid.state.activation
  stops : mid.Stops new
  stopTime : new.stopRequestedAt = mid.stopRequestedAt
  unverified : new.unverifiedSince = mid.unverifiedSince ∨ 0 ≤ new.unverifiedSince

section settling
variable {mid new : ControllerSnapshot} {current : CurrentLifecycle} {decisionTime : ℤ}

theorem Settles.stop (settles : Settles mid new) : Settles mid new.stop where
  version := settles.version
  activation := settles.activation
  stops := by
    right
    show new.state.run.map RunReservation.stop = mid.state.run.map RunReservation.stop
    obtain same | same := settles.stops
    · rw [same]
    · rw [same, Option.map_map]
      rfl
  stopTime := settles.stopTime
  unverified := settles.unverified

theorem settles_noteVerification (snapshot : ControllerSnapshot) (supported : Option Bool) :
    Settles snapshot (snapshot.noteVerification current supported) := by
  unfold ControllerSnapshot.noteVerification
  split
  · exact ⟨rfl, rfl, .inl rfl, rfl, .inl rfl⟩
  · split <;> exact ⟨rfl, rfl, .inl rfl, rfl, .inl rfl⟩

theorem Settles.checkVerified (settles : Settles mid new) : Settles mid (new.checkVerified decisionTime) := by
  unfold ControllerSnapshot.checkVerified
  split
  · exact { settles.stop with }
  · exact settles

theorem fence_cases (snapshot : ControllerSnapshot) (current : CurrentLifecycle) (decisionTime : ℤ) :
    snapshot.fence current decisionTime = snapshot.stop ∨
      snapshot.fence current decisionTime = snapshot ∧ ∀ run, snapshot.state.run = some run →
        activationAuthorized snapshot.state.activation decisionTime = true ∧ snapshot.state.bound run = true := by
  unfold ControllerSnapshot.fence ControllerState.fenceRun ControllerSnapshot.stop ControllerState.stop
  split
  next absent =>
    right
    refine ⟨rfl, ?_⟩
    intro run found
    rw [absent] at found
    cases found
  next run found =>
    split
    next =>
      left
      rw [found]
      rfl
    next live =>
      right
      refine ⟨rfl, ?_⟩
      intro other found'
      rw [found] at found'
      cases found'
      simp only [not_or, Bool.not_eq_true, Bool.not_eq_false'] at live
      exact live.2

theorem Settles.fence (settles : Settles mid new) : Settles mid (new.fence current decisionTime) := by
  obtain same | ⟨same, -⟩ := fence_cases new current decisionTime
  · rw [same]
    exact settles.stop
  · rw [same]
    exact settles

theorem authorized_of_fence {snapshot : ControllerSnapshot} {run : RunReservation}
    (found : (snapshot.fence current decisionTime).state.run = some run) (moving : run.phase ≠ .stopping) :
    activationAuthorized (snapshot.fence current decisionTime).state.activation decisionTime = true ∧
      (snapshot.fence current decisionTime).state.bound run = true := by
  obtain same | ⟨same, live⟩ := fence_cases snapshot current decisionTime
  · rw [same] at found
    exact absurd (phase_of_stopped found) moving
  · rw [same] at found ⊢
    exact live run found

theorem supersede_cases (snapshot : ControllerSnapshot) (current : CurrentLifecycle) (decisionTime : ℤ) :
    snapshot.supersede current decisionTime = snapshot ∨
      ∃ run, snapshot.state.run = some run ∧ run.microvmId = "" ∧ current = .active ∧
        activationAuthorized snapshot.state.activation decisionTime = true ∧
        snapshot.supersede current decisionTime =
          { snapshot with state := { snapshot.state with run := none }, stopRequestedAt := 0 } := by
  unfold ControllerSnapshot.supersede
  split
  next => exact .inl rfl
  next run found =>
    split
    next met => exact .inr ⟨run, found, met.2.1, met.2.2.1, met.2.2.2.1, rfl⟩
    next => exact .inl rfl

theorem reserveRun_ok {state after : ControllerState} {runId release exactRequest : String} {made : Bool}
    (free : state.run = none) (authorized : activationAuthorized state.activation decisionTime = true)
    (returned : state.reserveRun .active decisionTime runId release exactRequest = .ok (after, made)) :
    ∃ run, after = { state with run := some run } ∧ Reserved run ∧ state.bound run = true := by
  unfold ControllerState.reserveRun at returned
  rw [if_neg (by simp [free, authorized])] at returned
  split at returned
  next => cases returned
  next valid =>
    cases returned
    simp only [not_or, Bool.not_eq_true, Bool.not_eq_false', gt_iff_lt, not_lt] at valid
    obtain ⟨identity, released, requested, short⟩ := valid
    refine ⟨_, rfl, ⟨rfl, rfl, ?_, ?_, requested, short⟩, ?_⟩
    · rintro rfl
      exact absurd identity (by decide)
    · rintro rfl
      exact absurd released (by decide)
    · unfold activationAuthorized at authorized
      unfold ControllerState.bound
      cases held : state.activation.activation with
      | none =>
        rw [held] at authorized
        simp at authorized
      | some activation => simp

end settling

theorem follows_limitUnverified (positive : 0 < pass.now.1) {snapshot : ControllerSnapshot}
    {anchor : Anchor} (settles : Settles mid snapshot) {next : ControllerSnapshot × ℤ × Anchor → Controlling α}
    (follows : ∀ snapshot decisionTime anchor time, Settles mid snapshot → 0 < decisionTime → decisionTime ≤ maxInt64 →
      Follows thing { kept with time } (next (snapshot, decisionTime, anchor)) ends) :
    Follows thing kept (pass.limitUnverified snapshot current anchor >>= next) ends := by
  have limits : Follows thing kept (pass.limitUnverified snapshot current anchor) fun value after =>
      ∃ time, after = { kept with time } ∧ Settles mid value.1 ∧ 0 < value.2.1 ∧ value.2.1 ≤ maxInt64 := by
    have verified : Settles mid { snapshot with unverifiedSince := 0 } := { settles with unverified := .inr le_rfl }
    unfold Pass.limitUnverified
    split
    next => exact follows_pure ⟨kept.time, rfl, verified, positive, pass.now.2⟩
    next run found =>
      split
      · exact follows_pure ⟨kept.time, rfl, verified, positive, pass.now.2⟩
      apply follows_currentTime
      intro time anchor after fits
      dsimp only
      split
      · exact follows_pure ⟨_, rfl, { settles with unverified := .inr after.le }, after, fits⟩
      split
      · exact follows_pure ⟨_, rfl, settles.stop, after, fits⟩
      split
      next =>
        have defers : Follows thing { kept with time := some time } (Pass.mayDefer snapshot run time)
            fun _ after => after = { kept with time := some time } := by
          unfold Pass.mayDefer
          split
          next =>
            exact follows_silent rfl fun verified => follows_pure rfl
          next => exact follows_pure rfl
        apply follows_bind defers
        rintro mayDefer _ rfl
        apply follows_currentTime
        intro later anchor after fits
        apply follows_pure
        refine ⟨_, rfl, ?_, after, fits⟩
        dsimp only
        split
        next => exact settles
        next => exact settles.stop
      next => exact follows_pure ⟨_, rfl, settles, after, fits⟩
  apply follows_bind limits
  rintro ⟨snapshot, decisionTime, anchor⟩ _ ⟨time, rfl, settled, after, fits⟩
  exact follows snapshot decisionTime anchor time settled after fits

structure Prepared (kept : Ledger) (old snapshot : ControllerSnapshot) (current : CurrentLifecycle) (decisionTime : ℤ) :
    Prop where
  writes : Writes kept.Known old snapshot decisionTime
  authorized : ∀ run, snapshot.state.run = some run → run.phase ≠ .stopping →
    activationAuthorized snapshot.state.activation decisionTime = true ∧ snapshot.state.bound run = true
  reserved : old.Stored → ∀ run, snapshot.state.run = some run → run.phase ≠ .stopping → run.microvmId = "" →
    run.phase = .reserved
  active : current = .active → ∃ observation, kept.observed = some observation ∧ observation.active = some true ∧
    observation.version = snapshot.state.activation.projectionVersion ∧
    observation.sourceTimestampMs = snapshot.state.activation.sourceTimestampMs

theorem Stops.phase_of_stored {new : ControllerSnapshot} (stops : old.Stops new) (stored : old.Stored)
    {run : RunReservation} (found : new.state.run = some run) (moving : run.phase ≠ .stopping)
    (unknown : run.microvmId = "") : run.phase = .reserved := by
  obtain same | same := stops
  · rw [same] at found
    cases phase : run.phase with
    | reserved => rfl
    | running => exact absurd unknown (stored run found phase)
    | stopping => exact absurd phase moving
  · rw [same] at found
    exact absurd (phase_of_stopped found) moving

section preparing
variable {old mid settled : ControllerSnapshot} {current : CurrentLifecycle} {decisionTime : ℤ}
  {observed : Option ProjectionObservation} (sees : Sees old mid current observed) (settles : Settles mid settled)
  (fits : decisionTime ≤ maxInt64)

include sees settles in
theorem stops_of_sees : old.Stops settled := by
  have stops := settles.stops
  unfold ControllerSnapshot.Stops at stops ⊢
  rw [sees.run] at stops
  exact stops

include sees settles in
theorem active_of_sees (on : current = .active) : ∃ observation, observed = some observation ∧
    observation.active = some true ∧ observation.version = settled.state.activation.projectionVersion ∧
    observation.sourceTimestampMs = settled.state.activation.sourceTimestampMs := by
  rw [settles.activation]
  exact sees.active on

include sees settles fits in
theorem prepared_kept (seen : kept.observed = observed)
    (authorized : ∀ run, settled.state.run = some run → run.phase ≠ .stopping →
      activationAuthorized settled.state.activation decisionTime = true ∧ settled.state.bound run = true) :
    Prepared kept old settled current decisionTime where
  writes :=
    { version := settles.version.trans sees.version
      activation := settles.activation ▸ sees.activation
      run := .of_stops (stops_of_sees sees settles)
      fit := fun run found moving => .inr (authorized run found moving)
      stopTime := .inl (settles.stopTime.trans sees.stopTime)
      unverified := sees.unverified ▸ settles.unverified
      fits := fits }
  authorized := authorized
  reserved := fun stored _ found moving unknown =>
    Stops.phase_of_stored (stops_of_sees sees settles) stored found moving unknown
  active := seen ▸ active_of_sees sees settles

include sees settles fits in
/-- A new run is reserved in the place of none, or of one that was never identified. -/
theorem prepared_reserved (seen : kept.observed = observed) {new : ControllerSnapshot} {run : RunReservation}
    (free : ∀ run, settled.state.run = some run → run.microvmId = "") (reserved : Reserved run)
    (same : new.shadowVersion = settled.shadowVersion ∧ new.unverifiedSince = settled.unverifiedSince)
    (stopTime : new.stopRequestedAt = settled.stopRequestedAt ∨ new.stopRequestedAt = 0)
    (held : new.state = { settled.state with run := some run })
    (authorized : activationAuthorized settled.state.activation decisionTime = true)
    (bound : settled.state.bound run = true) : Prepared kept old new current decisionTime := by
  have stops := stops_of_sees sees settles
  have superseded : ∀ before, old.state.run = some before → before.microvmId = "" := by
    intro before found
    obtain same | same := stops
    · exact free before (same.trans found)
    · rw [found] at same
      exact free before.stop same
  have activation : new.state.activation = settled.state.activation := by rw [held]
  have only : ∀ other, new.state.run = some other → other = run := by
    intro other found
    rw [held] at found
    cases found
    rfl
  have moving : run.phase ≠ .stopping := by
    rw [reserved.phase]
    decide
  have allowed : ∀ other, new.state.run = some other → other.phase ≠ .stopping →
      activationAuthorized new.state.activation decisionTime = true ∧ new.state.bound other = true := by
    intro other found _
    rw [only other found, held]
    exact ⟨authorized, bound⟩
  constructor
  · constructor
    · exact same.1.trans (settles.version.trans sees.version)
    · rw [activation]
      exact settles.activation ▸ sees.activation
    · rw [held]
      exact .reserved superseded reserved
    · exact fun other found moving => .inr (allowed other found moving)
    · apply stopTime.imp
      · exact fun same => same.trans (settles.stopTime.trans sees.stopTime)
      · exact fun zero => ⟨zero, fun other found => only other found ▸ moving⟩
    · rw [same.2]
      exact sees.unverified ▸ settles.unverified
    · exact fits
  · exact allowed
  · intro _ other found _ _
    rw [only other found]
    exact reserved.phase
  · rw [activation]
    exact seen ▸ active_of_sees sees settles

end preparing

theorem follows_reserve {settled : ControllerSnapshot} {decisionTime : ℤ}
    (sees : Sees old mid current kept.observed) (settles : Settles mid settled) (fits : decisionTime ≤ maxInt64)
    (authorized : ∀ run, settled.state.run = some run → run.phase ≠ .stopping →
      activationAuthorized settled.state.activation decisionTime = true ∧ settled.state.bound run = true)
    {next : ControllerSnapshot → Controlling α}
    (follows : ∀ snapshot, Prepared kept old snapshot current decisionTime → Follows thing kept (next snapshot) ends) :
    Follows thing kept (pass.reserve (settled.supersede current decisionTime) current decisionTime >>= next) ends := by
  -- the identity and the request of a new run, which is then reserved
  have reserves : ∀ snapshot : ControllerSnapshot, snapshot.state.run = none →
      activationAuthorized snapshot.state.activation decisionTime = true → current = .active →
      Follows thing kept (pass.reserve snapshot current decisionTime) fun value after => after = kept ∧
        ∃ run, value = { snapshot with state := { snapshot.state with run := some run } } ∧ Reserved run ∧
          snapshot.state.bound run = true := by
    rintro snapshot free live rfl
    unfold Pass.reserve
    split
    next activation held =>
      rw [if_pos ⟨rfl, live⟩]
      refine follows_silent rfl fun runId => ?_
      refine follows_silent rfl fun exactRequest => ?_
      apply follows_except
      rintro ⟨state, made⟩ returned
      obtain ⟨run, rfl, reserved, bound⟩ := reserveRun_ok free live returned
      exact follows_pure ⟨rfl, run, rfl, reserved, bound⟩
    next none =>
      unfold activationAuthorized at live
      cases held : snapshot.state.activation.activation with
      | none =>
        rw [held] at live
        simp at live
      | some activation => exact (none activation free held).elim
  obtain same | ⟨run, found, unknown, on, live, same⟩ := supersede_cases settled current decisionTime
  · rw [same]
    cases holds : settled.state.run with
    | some run =>
      have skips : pass.reserve settled current decisionTime = pure settled := by
        unfold Pass.reserve
        rw [holds]
      rw [skips]
      exact follows settled (prepared_kept sees settles fits rfl authorized)
    | none =>
      by_cases due : current = .active ∧ activationAuthorized settled.state.activation decisionTime = true
      · apply follows_bind (reserves settled holds due.2 due.1)
        rintro _ after ⟨same, run, rfl, reserved, bound⟩
        subst same
        apply follows
        refine prepared_reserved sees settles fits rfl ?_ reserved ⟨rfl, rfl⟩ (.inl rfl) rfl due.2 bound
        intro run found
        rw [holds] at found
        cases found
      · have skips : pass.reserve settled current decisionTime = pure settled := by
          unfold Pass.reserve
          rw [holds]
          split
          next => rw [if_neg due]
          next => rfl
        rw [skips]
        exact follows settled (prepared_kept sees settles fits rfl authorized)
  · rw [same]
    refine follows_bind (reserves _ rfl ?_ on) ?_
    · exact live
    rintro _ after ⟨same, fresh, rfl, reserved, bound⟩
    subst same
    apply follows
    refine prepared_reserved sees settles fits rfl ?_ reserved ⟨rfl, rfl⟩ (.inr rfl) rfl live bound
    intro other found'
    rw [found] at found'
    cases found'
    exact unknown

theorem follows_prepare (positive : 0 < pass.now.1) {anchor : Anchor}
    {next : ControllerSnapshot × CurrentLifecycle × ℤ × Anchor → Controlling α}
    (follows : ∀ snapshot current decisionTime anchor time observed,
      Prepared { kept with observed, time } old snapshot current decisionTime → 0 < decisionTime →
      Follows thing { kept with observed, time } (next (snapshot, current, decisionTime, anchor)) ends) :
    Follows thing kept (pass.prepare old anchor >>= next) ends := by
  have prepares : Follows thing kept (pass.prepare old anchor) fun value after =>
      ∃ time observed, after = { kept with observed, time } ∧ Prepared after old value.1 value.2.1 value.2.2.1 ∧
        0 < value.2.2.1 := by
    unfold Pass.prepare
    refine follows_silent rfl fun supported => ?_
    apply follows_observe positive
    intro mid current observed sees
    dsimp only
    apply follows_limitUnverified positive (settles_noteVerification mid supported)
    intro snapshot decisionTime anchor time settles after fits
    dsimp only
    apply follows_reserve sees settles.checkVerified.fence fits
    · intro run found moving
      exact authorized_of_fence found moving
    intro snapshot prepared
    exact follows_pure ⟨time, observed, rfl, prepared, after⟩
  apply follows_bind prepares
  rintro ⟨snapshot, current, decisionTime, anchor⟩ _ ⟨time, observed, rfl, prepared, after⟩
  exact follows snapshot current decisionTime anchor time observed prepared after

section ledgers
variable {latest snapshot : ControllerSnapshot} {run : RunReservation} {runId id : String} {now : ℤ}

theorem mem_gone (known : (runId, id) ∈ kept.known)
    (apart : ∀ run, latest.state.run = some run → run.runId ≠ runId) : id ∈ kept.gone latest := by
  unfold Ledger.gone
  apply List.mem_map.mpr
  refine ⟨(runId, id), List.mem_filter.mpr ⟨known, ?_⟩, rfl⟩
  cases found : latest.state.run with
  | none => rfl
  | some run => simpa using apart run found

theorem terminable_of_saved (found : snapshot.state.run = some run) (stopping : run.phase = .stopping)
    (named : id ≠ "") (same : run.microvmId = id) : (kept.saving snapshot).Terminable id := by
  left
  apply List.mem_append_left
  unfold ControllerSnapshot.fenced
  rw [found]
  dsimp only
  rw [if_pos ⟨stopping, same ▸ named⟩, same]
  exact List.mem_singleton_self _

theorem assigns_iff (run : RunReservation) : latest.assigns run = true ↔
    ∃ now, latest.state.run = some now ∧ now.runId = run.runId ∧ now.microvmId = run.microvmId := by
  unfold ControllerSnapshot.assigns
  cases latest.state.run <;> simp

theorem terminable_of_stop (assigned : latest.assigns run = true) (named : run.microvmId ≠ "") :
    (kept.saving latest.stop).Terminable run.microvmId := by
  obtain ⟨now, found, -, same⟩ := (assigns_iff run).mp assigned
  have stopped : latest.stop.state.run = some now.stop := congrArg (Option.map RunReservation.stop) found
  exact terminable_of_saved stopped rfl named same

theorem known_of_read (read : latest ∈ kept.reads) (found : latest.state.run = some run) (named : run.microvmId ≠ "") :
    kept.Known run.runId run.microvmId :=
  .inr ⟨latest, read, run, found, rfl, rfl, named⟩

/-- What `accept_launch` refuses may be terminated once that is saved. -/
theorem terminable_of_accepts {after : ControllerState} (read : latest ∈ kept.reads) (known : kept.Known runId id)
    (named : id ≠ "") (gone : (∀ run, latest.state.run = some run → run.runId ≠ runId) → id ∈ kept.safe)
    (accepts : Accepts latest.state runId id now after .stopUnassigned) :
    (kept.saving { latest with state := after }).Terminable id := by
  cases accepts with
  | unassigned apart =>
    by_cases mine : ∃ run, latest.state.run = some run ∧ run.runId = runId
    · obtain ⟨run, found, mine⟩ := mine
      obtain ⟨known', other⟩ := apart run found mine
      refine .inr (.inr (.inr ⟨runId, run.microvmId, id, ?_, known, other⟩))
      exact mine ▸ known_of_read read found known'
    · left
      apply List.mem_append_right
      apply gone
      intro run found same
      exact mine ⟨run, found, same⟩
  | @stopped run found mine same =>
    exact terminable_of_saved rfl rfl named rfl
  | assigned _ _ _ _ _ _ _ kept => exact absurd rfl kept

theorem Writes.known {old : ControllerSnapshot} (writes : Writes kept.Known old snapshot now) (read : old ∈ kept.reads)
    (found : snapshot.state.run = some run) (named : run.microvmId ≠ "") : kept.Known run.runId run.microvmId := by
  have move := writes.run
  rw [found] at move
  generalize before : old.state.run = earlier at move
  cases move with
  | kept => exact known_of_read read before named
  | stopped first => exact .inr ⟨old, read, first, before, rfl, rfl, named⟩
  | identified belongs => exact belongs
  | reserved _ reserved => exact absurd reserved.unknown named

theorem confirmRunStopped_assigns (assigned : latest.assigns run = true) (named : run.microvmId ≠ "") :
    latest.state.stop.confirmRunStopped run.runId run.microvmId = ({ latest.state with run := none }, true) := by
  obtain ⟨now, found, same, vm⟩ := (assigns_iff run).mp assigned
  unfold ControllerState.confirmRunStopped ControllerState.stop
  rw [found]
  dsimp only [Option.map_some, RunReservation.stop]
  rw [if_neg]
  simp [same, vm, named]

end ledgers

section after
variable {pass : Pass} {old snapshot latest : ControllerSnapshot} {savedRun : RunReservation} {current : CurrentLifecycle}
  {anchor : Anchor} {decisionTime : ℤ}

theorem writes_stop {known : String → String → Prop} {now : ℤ} (fits : now ≤ maxInt64) : Writes known latest latest.stop now :=
  .stopped rfl (.inl rfl) rfl rfl rfl fits

theorem follows_attach {launched : CloudRun} (named : launched.id ≠ "") (attempts : ℕ)
    (known : (savedRun.runId, launched.id) ∈ kept.known) :
    Follows thing kept (Pass.attach savedRun launched attempts anchor) fun _ _ => True := by
  induction attempts generalizing kept anchor with
  | zero => exact follows_pure trivial
  | succ attempts ih =>
    apply follows_read
    intro latest
    apply follows_currentTime
    intro afterLaunch anchor positive fits
    apply follows_except
    rintro ⟨state, result⟩ returned
    have accepts := (acceptLaunch_ok returned).2
    have read : latest ∈ ({ kept.reading latest with time := some afterLaunch } : Ledger).reads := List.mem_cons_self
    dsimp only
    refine follows_guard trivial fun _ => ?_
    apply follows_save read (accepts.writes named (.inl known) fits)
    · rw [if_pos rfl]
      split
      next unassigned =>
        apply follows_terminate
        · subst unassigned
          apply terminable_of_accepts read (.inl known) named _ accepts
          intro apart
          exact List.mem_append_left _ (mem_gone known apart)
        exact follows_pure trivial
      next => exact follows_pure trivial
    · exact ih known

theorem follows_launch (prepared : Prepared kept old snapshot current decisionTime) (read : old ∈ kept.reads)
    (found : snapshot.state.run = some savedRun) (unknown : savedRun.microvmId = "") :
    Follows thing (kept.saving snapshot) (Pass.launch snapshot savedRun current anchor) fun _ _ => True := by
  unfold Pass.launch
  refine follows_guard trivial fun moving => ?_
  simp only [not_or, not_not] at moving
  obtain ⟨moving, rfl⟩ := moving
  apply follows_currentTime
  intro beforeLaunch anchor positive fits
  dsimp only
  split
  next =>
    apply follows_read
    intro latest
    split
    next =>
      apply follows_save List.mem_cons_self (writes_stop fits)
      · exact follows_pure trivial
      · exact follows_pure trivial
    next => exact follows_pure trivial
  next authorized =>
    simp only [Bool.not_eq_true, Bool.not_eq_false'] at authorized
    obtain ⟨observation, observed, active, version, timestamp⟩ := prepared.active rfl
    have bound := (prepared.authorized savedRun found moving).2
    unfold activationAuthorized at authorized
    unfold ControllerState.bound at bound
    cases held : snapshot.state.activation.activation with
    | none =>
      rw [held] at bound
      cases bound
    | some activation =>
      rw [held] at bound authorized
      simp only [Option.any_some, decide_eq_true_eq, Bool.and_eq_true] at bound authorized
      apply follows_call
      · refine ⟨snapshot, activation, observation, beforeLaunch, ?_⟩
        exact
          { saved := rfl, holds := found, moving := moving, unknown := unknown, current := held, bound := bound
            reserved := fun stored => prepared.reserved (stored old read) savedRun found moving unknown
            observed := observed, active := active, version := version, timestamp := timestamp, sampled := rfl
            started := authorized.2.1, unexpired := authorized.2.2 }
      intro launched
      split
      next => exact follows_throw
      next named => exact follows_attach named 3 List.mem_cons_self

theorem follows_clearTerminated (named : savedRun.microvmId ≠ "") :
    Follows thing kept (pass.clearTerminated snapshot savedRun) fun _ _ => True := by
  unfold Pass.clearTerminated
  split
  · exact follows_throw
  apply follows_read
  intro latest
  split
  next assigned =>
    rw [confirmRunStopped_assigns assigned named]
    obtain ⟨run, found, -, same⟩ := (assigns_iff savedRun).mp assigned
    have writes : Writes (kept.reading latest).Known latest { latest with state := { latest.state with run := none } }
        pass.now := by
      refine ⟨rfl, .inl rfl, ?_, by simp, .inl rfl, .inl rfl, pass.now.2⟩
      rw [found]
      exact .cleared (same ▸ named)
    apply follows_save List.mem_cons_self writes
    · exact follows_pure trivial
    · exact follows_pure trivial
  next => exact follows_pure trivial

theorem follows_stopSuspended {host : CloudRun} (named : savedRun.microvmId ≠ "") :
    Follows thing kept (pass.stopSuspended savedRun host) fun _ _ => True := by
  unfold Pass.stopSuspended
  apply follows_read
  intro latest
  split
  next assigned =>
    apply follows_save List.mem_cons_self (writes_stop pass.now.2)
    · rw [if_pos rfl]
      split
      next =>
        apply follows_terminate (terminable_of_stop assigned named)
        exact follows_pure trivial
      next => exact follows_pure trivial
    · exact follows_pure trivial
  next => exact follows_pure trivial

variable (known : kept.Known savedRun.runId savedRun.microvmId)
include known

theorem follows_assign (named : savedRun.microvmId ≠ "") :
    Follows thing kept (Pass.assign snapshot savedRun current anchor) fun _ _ => True := by
  unfold Pass.assign
  refine follows_silent rfl fun stillSupported => ?_
  apply follows_projection
  intro fresh
  refine follows_guard trivial fun _ => ?_
  apply follows_currentTime
  intro verifiedAt anchor _ _
  apply follows_read
  intro latest
  split
  next mine =>
    apply follows_currentTime
    intro assignedAt anchor positive fits
    dsimp only
    refine follows_guard trivial fun _ => ?_
    apply follows_except
    rintro ⟨state, result⟩ returned
    have accepts := (acceptLaunch_ok returned).2
    have known : ({ kept.reading latest with time := some assignedAt } : Ledger).Known savedRun.runId savedRun.microvmId :=
      known.imp_right fun ⟨read, seen, rest⟩ => ⟨read, List.mem_cons_of_mem _ seen, rest⟩
    refine follows_save List.mem_cons_self (accepts.writes named known fits) ?_ ?_
    · rw [if_pos rfl]
      split
      next unassigned =>
        apply follows_terminate
        · cases unassigned
          refine terminable_of_accepts List.mem_cons_self known named ?_ accepts
          intro apart
          obtain ⟨run, found, same⟩ := (Option.any_eq_true _ _).mp mine.1
          exact absurd (of_decide_eq_true same) (apart run found)
        exact follows_pure trivial
      next => exact follows_pure trivial
    · exact follows_pure trivial
  next => exact follows_pure trivial

theorem follows_follow (named : savedRun.microvmId ≠ "")
    (fenced : savedRun.phase = .stopping → kept.Terminable savedRun.microvmId) :
    Follows thing kept (pass.follow snapshot savedRun current anchor) fun _ _ => True := by
  unfold Pass.follow
  refine follows_silent rfl fun host => ?_
  split
  · exact follows_throw
  split
  · exact follows_clearTerminated named
  split
  · exact follows_stopSuspended named
  split
  next stopping =>
    split
    next =>
      apply follows_terminate (fenced stopping)
      exact follows_pure trivial
    next => exact follows_pure trivial
  next =>
    split
    next => exact follows_assign known named
    next => exact follows_pure trivial

end after

/-- A pass keeps its promises from whatever is known before it. -/
theorem follows_reconcile (pass : Pass) : Follows thing kept (reconcile pass) fun _ _ => True := by
  unfold reconcile
  split
  next => exact follows_throw
  next valid =>
    have positive : 0 < pass.now.1 := by
      by_contra negative
      exact valid (.inl (not_lt.mp negative))
    refine follows_silent rfl fun steady => ?_
    apply follows_read
    intro old
    apply follows_prepare positive
    intro snapshot current decisionTime anchor time observed prepared _
    have read : old ∈ ({ kept.reading old with observed, time } : Ledger).reads := List.mem_cons_self
    apply follows_save read prepared.writes
    · rw [if_pos rfl]
      dsimp only
      split
      next => exact follows_pure trivial
      next savedRun found =>
        split
        next unknown => exact follows_launch prepared read found unknown
        next named =>
          refine follows_follow ?_ named ?_
          · exact prepared.writes.known read found named
          · intro stopping
            exact terminable_of_saved found stopping named rfl
    · exact follows_pure trivial

end Txing.Agent
