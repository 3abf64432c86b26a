import Txing.Agent.SharedShadow
import Txing.Library.Sequential

/-! A pass over a run that is stopping and whose MicroVM is terminated, with nobody else at work on the shadow: it clears the
run, provided that the clock has not gone back behind what the document remembers. -/

namespace Txing.Agent.TerminalCleanup
open Txing.Library

/-- The surroundings of the pass: the updates arrive, the clocks work, a new identity is a new one, and the MicroVM is
terminated. -/
structure Cooperates (held : ControllerSnapshot) (supported : Option Bool) (projection : Option ProjectionObservation)
    (answer : Answer) : Prop where
  answered : answer.fate = .answered
  steady : ∃ time, answer.reply .steady = .ok time
  clock : ∀ anchor, ∃ sampled steady time after, answer.reply (.clock anchor) = .ok (sampled, steady) ∧
    anchor.time sampled steady = .ok (time, after)
  supported : answer.reply .supported = .ok supported
  projection : answer.reply .projection = .ok projection
  identity : ∃ id : String, answer.reply .identity = .ok id ∧ validIdentity id = true ∧
    ∀ activation, held.state.activation.activation = some activation → activation.id ≠ id
  terminated : ∀ id, answer.reply (.get id) = .ok ⟨id, "TERMINATED"⟩

/-- The pass is not before the last inactive report, if it is to begin an activation, and the deadline is a time. -/
def Startable (pass : Pass) (held : ControllerSnapshot) (supported : Option Bool)
    (projection : Option ProjectionObservation) : Prop :=
  supported = some true → ∀ observation, projection = some observation → observation.active = some true →
    Newer held.state.activation observation pass.now → held.state.activation.observed = true →
    held.state.activation.active = false →
    held.state.activation.inactiveObservedAt ≤ pass.now ∧
      held.state.activation.inactiveObservedAt ≤ maxInt64 - pass.activationBudgetSeconds

/-- The clock is not behind the times in the document. -/
def Orderly (pass : Pass) (held : ControllerSnapshot) (supported : Option Bool)
    (projection : Option ProjectionObservation) : Prop :=
  held.verifiedAt ≤ pass.now ∧ Startable pass held supported projection

def Cleaned (outcome : Except String ReconcileResult) (cloud : Cloud) : Prop :=
  (∃ result, outcome = .ok result) ∧ ∃ held, parseControllerShadow cloud.shadow.document = .ok held ∧ held.state.run = none

variable {α : Type} {held : ControllerSnapshot} {supported : Option Bool} {projection : Option ProjectionObservation}

def serve (held : ControllerSnapshot) (supported : Option Bool) (projection : Option ProjectionObservation) (cloud : Cloud)
    (request : ControllerCall) (answer : { answer // Cooperates held supported projection answer }) :
    Cloud × ControllerReply request :=
  cloud.serve request answer

def Meets (held : ControllerSnapshot) (supported : Option Bool) (projection : Option ProjectionObservation)
    (program : Controlling α) (ends : Except String α → Cloud → Prop) (cloud : Cloud) : Prop :=
  program.run.Meets (serve held supported projection) ends cloud

section rules
variable {ends : Except String α → Cloud → Prop} {cloud : Cloud} {request : ControllerCall}
  {next : ControllerYield request → Controlling α}

theorem meets_perform (goes : ∀ answer, Cooperates held supported projection answer → ∃ value after,
      cloud.serve request answer = (after, .ok value) ∧ Meets held supported projection (next value) ends after) :
    Meets held supported projection (perform request >>= next) ends cloud := by
  rintro ⟨answer, cooperates⟩
  obtain ⟨value, after, served, meets⟩ := goes answer cooperates
  show Process.Meets _ ends (Process.bind (.done (cloud.serve request answer).2) _) (cloud.serve request answer).1
  rw [served]
  exact meets

theorem meets_pure {value : α} (holds : ends (.ok value) cloud) :
    Meets held supported projection (pure value : Controlling α) ends cloud :=
  holds

theorem meets_failed (goes : ∀ answer, Cooperates held supported projection answer → ∃ error,
      cloud.serve request answer = (cloud, .error error) ∧ ends (.error error) cloud) :
    Meets held supported projection (perform request >>= next) ends cloud := by
  rintro ⟨answer, cooperates⟩
  obtain ⟨error, served, holds⟩ := goes answer cooperates
  show Process.Meets _ ends (Process.bind (.done (cloud.serve request answer).2) _) (cloud.serve request answer).1
  rw [served]
  exact holds

theorem meets_read {read : ControllerSnapshot} {next : ControllerSnapshot → Controlling α}
    (holds : parseControllerShadow cloud.shadow.document = .ok read)
    (goes : Meets held supported projection (next read) ends cloud) :
    Meets held supported projection (Backend.read >>= next) ends cloud := by
  apply meets_perform
  intro answer cooperates
  exact ⟨read, cloud, congrArg (Prod.mk cloud) ((if_pos cooperates.answered).trans holds), goes⟩

theorem meets_save {snapshot : ControllerSnapshot} {now verifiedAt : ℤ} {next : Bool → Controlling α}
    (patched : controllerShadowPatch snapshot now verifiedAt =
      .ok (updateOf snapshot.shadowVersion (snapshot.reportedPatch now verifiedAt)))
    (version : snapshot.shadowVersion = cloud.shadow.version) (room : cloud.shadow.version < maxInt64)
    (goes : ∀ time, Meets held supported projection (next true) ends (cloud.saving snapshot now verifiedAt time)) :
    Meets held supported projection (Backend.save snapshot now verifiedAt >>= next) ends cloud := by
  apply meets_perform
  intro answer cooperates
  refine ⟨true, cloud.saving snapshot now verifiedAt answer.time, ?_, goes answer.time⟩
  unfold Cloud.serve
  dsimp only
  rw [patched, cooperates.answered]
  exact if_pos (accepts_of_version version room)

theorem meets_asked (apart : request.served = false)
    (goes : ∀ answer, Cooperates held supported projection answer → ∃ value, answer.reply request = .ok value ∧
      Meets held supported projection (next value) ends cloud) :
    Meets held supported projection (perform request >>= next) ends cloud := by
  apply meets_perform
  intro answer cooperates
  obtain ⟨value, replied, meets⟩ := goes answer cooperates
  refine ⟨value, cloud, ?_, meets⟩
  rw [← replied]
  cases request <;> first | rfl | cases apart

theorem meets_currentTime {anchor : Anchor} {next : ℤ × Anchor → Controlling α}
    (goes : ∀ time after, 0 < time → time ≤ maxInt64 → Meets held supported projection (next (time, after)) ends cloud) :
    Meets held supported projection (currentTime anchor >>= next) ends cloud := by
  apply Process.meets_attempt
  apply meets_asked rfl
  intro answer cooperates
  obtain ⟨sampled, steady, time, after, replied, read⟩ := cooperates.clock anchor
  refine ⟨(sampled, steady), replied, ?_⟩
  obtain ⟨positive, fits⟩ := Anchor.time_ok read
  show Process.Meets _ _ (.done (anchor.time sampled steady)) cloud
  rw [read]
  exact goes time after positive fits

end rules

/-- What a pass keeps of the snapshot while it prepares it: the run is the same, and all the rest can be saved. -/
structure Carries (held snapshot : ControllerSnapshot) : Prop where
  version : snapshot.shadowVersion = held.shadowVersion
  run : snapshot.state.run = held.state.run
  activation : Advances held.state.activation snapshot.state.activation
  projected : snapshot.state.activation.projectionVersion ≤ maxInt64
  stopTime : snapshot.stopRequestedAt = held.stopRequestedAt
  unverified : 0 ≤ snapshot.unverifiedSince
  verified : 0 ≤ snapshot.verifiedAt

section preparing
variable {snapshot : ControllerSnapshot} {run : RunReservation}

theorem RunReservation.stop_of_stopping (stopping : run.phase = .stopping) : run.stop = run := by
  cases run
  cases stopping
  rfl

variable (carries : Carries held snapshot)
include carries

theorem Carries.noteVerification (current : CurrentLifecycle) (supported : Option Bool) :
    Carries held (snapshot.noteVerification current supported) := by
  unfold ControllerSnapshot.noteVerification
  split
  · exact { carries with }
  · split
    · exact { carries with }
    · exact { carries with }

variable (found : held.state.run = some run)
include found

/-- The run is stopping already, so that it is stopped changes nothing. -/
theorem Carries.stop (stopping : run.phase = .stopping) : Carries held snapshot.stop := by
  refine { carries with run := ?_ }
  show snapshot.state.run.map RunReservation.stop = _
  rw [carries.run, found, Option.map_some, RunReservation.stop_of_stopping stopping]

theorem Carries.checkVerified (stopping : run.phase = .stopping) {decisionTime : ℤ} (positive : 0 < decisionTime) :
    Carries held (snapshot.checkVerified decisionTime) ∧ (snapshot.checkVerified decisionTime).verifiedAt ≤ decisionTime := by
  unfold ControllerSnapshot.checkVerified
  split
  next => exact ⟨{ carries.stop found stopping with verified := le_rfl }, positive.le⟩
  next timely => exact ⟨carries, not_lt.mp timely⟩

theorem Carries.fence (stopping : run.phase = .stopping) (current : CurrentLifecycle) (decisionTime : ℤ) :
    Carries held (snapshot.fence current decisionTime) := by
  have same : snapshot.state.fenceRun current decisionTime = snapshot.state := by
    unfold ControllerState.fenceRun
    rw [carries.run, found]
    dsimp only
    split
    · rw [RunReservation.stop_of_stopping stopping, ← found, ← carries.run]
    · rfl
  unfold ControllerSnapshot.fence
  rw [same]
  exact carries

theorem Carries.supersede (named : run.microvmId ≠ "")
    (current : CurrentLifecycle) (decisionTime : ℤ) : snapshot.supersede current decisionTime = snapshot := by
  unfold ControllerSnapshot.supersede
  rw [carries.run, found]
  exact if_neg fun superseded => named superseded.2.1

end preparing

section observing
variable {pass : Pass} {ends : Except String α → Cloud → Prop} {cloud : Cloud} {observation : ProjectionObservation}
  {change : ActivationChange} {after : ActivationState} {budgetSeconds : ℤ}

theorem Observes.projected {before : ActivationState} {now : ℤ}
    (observes : Observes before observation now budgetSeconds after change)
    (fits : before.projectionVersion ≤ maxInt64) (seen : observation.version ≤ maxInt64) :
    after.projectionVersion ≤ maxInt64 := by
  cases observes with
  | repeated =>
    unfold ActivationState.refresh
    split
    · exact fits
    · exact fits
  | inactive => exact seen
  | active => exact seen
  | activated => exact seen
  | _ => exact fits

theorem observeActivation_starts {m : Type → Type} [Monad m] [MonadExceptOf String m] {state : ActivationState}
    {now : ℤ} {newId : Option (m String)}
    (seen : observation.active = some true) (newer : Newer state observation now) (known : state.observed = true)
    (before : state.active = false) :
    observeActivation state observation now budgetSeconds newId = (do
      let next ← newActivation state now budgetSeconds newId
      pure (state.record observation true now (some next), .activated)) := by
  have version := newer.version
  have timestamp := newer.timestamp
  have time := newer.time
  have later := newer.later known
  unfold observeActivation
  rw [seen]
  dsimp only
  rw [if_neg (by omega), if_neg (by omega), if_neg (by omega), if_pos ⟨rfl, known, by rw [before]; rfl⟩]

def Pass.regard (pass : Pass) (snapshot : ControllerSnapshot) (active : Bool) :
    ActivationState × ActivationChange → Controlling (ControllerSnapshot × CurrentLifecycle)
  | (activation, change) =>
    let snapshot := { snapshot with state := { snapshot.state with activation } }
    if change ≠ .unverified ∧ change ≠ .stale then
      pure ({ snapshot with verifiedAt := pass.now }, if active then .active else .inactive)
    else pure (snapshot, .unavailable)

theorem Carries.observes (carries : Carries held held) (positive : 0 < pass.now.1)
    (observes : Observes held.state.activation observation pass.now budgetSeconds after change)
    (seen : observation.version ≤ maxInt64) :
    Carries held { held with state := { held.state with activation := after } } :=
  { carries with
    activation := .inr ⟨observation, pass.now, budgetSeconds, change, positive, observes⟩
    projected := Observes.projected observes carries.projected seen }

theorem meets_regard (carries : Carries held held) (positive : 0 < pass.now.1) {active : Bool}
    (observes : Observes held.state.activation observation pass.now budgetSeconds after change)
    (seen : observation.version ≤ maxInt64) {ends : Except String (ControllerSnapshot × CurrentLifecycle) → Cloud → Prop}
    (goes : ∀ snapshot current, Carries held snapshot → ends (.ok (snapshot, current)) cloud) :
    Meets held supported projection (Pass.regard pass held active (after, change)) ends cloud := by
  have carries := carries.observes positive observes seen
  unfold Pass.regard
  dsimp only
  split
  · exact goes _ _ { carries with verified := positive.le }
  · exact goes _ _ carries

theorem meets_observe (positive : 0 < pass.now.1)
    (budget : 0 < pass.activationBudgetSeconds ∧ pass.activationBudgetSeconds ≤ 3000)
    (carries : Carries held held) (consistent : Consistent held.state.activation)
    (bounded : ∀ observation, projection = some observation → observation.version ≤ maxInt64)
    {next : ControllerSnapshot × CurrentLifecycle → Controlling α}
    (refused : ¬ Startable pass held supported projection → ∀ error, ends (.error error) cloud)
    (goes : Startable pass held supported projection → ∀ snapshot current, Carries held snapshot →
      Meets held supported projection (next (snapshot, current)) ends cloud) :
    Meets held supported projection (pass.observe held supported >>= next) ends cloud := by
  cases supported with
  | none => exact goes nofun held .unavailable carries
  | some declared =>
    cases declared with
    | false => exact goes nofun held .inactive carries
    | true =>
      apply Process.meets_attempt
      apply meets_asked rfl
      intro answer cooperates
      refine ⟨projection, cooperates.projection, ?_⟩
      cases projection with
      | none => exact goes nofun held .unavailable carries
      | some observation =>
        have seen := bounded observation rfl
        dsimp only
        cases shown : observation.active with
        | none =>
          refine goes ?_ held .unavailable carries
          rintro - _ ⟨⟩ active
          rw [shown] at active
          cases active
        | some active =>
          show Meets held _ _ (observeActivation held.state.activation observation pass.now pass.activationBudgetSeconds
            (some Backend.identity) >>= Pass.regard pass held active) _ cloud
          by_cases starts : active = true ∧ Newer held.state.activation observation pass.now ∧
              held.state.activation.observed = true ∧ held.state.activation.active = false
          · obtain ⟨rfl, newer, known, before⟩ := starts
            rw [observeActivation_starts shown newer known before]
            have since := consistent.since known before
            apply Process.meets_attempt
            apply Process.meets_attempt
            unfold newActivation
            by_cases late : held.state.activation.inactiveObservedAt ≤ pass.now ∧
                held.state.activation.inactiveObservedAt ≤ maxInt64 - pass.activationBudgetSeconds
            · have startable : Startable pass held (some true) (some observation) := by
                rintro - _ ⟨⟩ - - - -
                exact late
              have timely : ¬ (held.state.activation.inactiveObservedAt ≤ 0 ∨
                  held.state.activation.inactiveObservedAt > pass.now ∨ pass.activationBudgetSeconds ≤ 0 ∨
                  pass.activationBudgetSeconds > 3000 ∨
                  held.state.activation.inactiveObservedAt > maxInt64 - pass.activationBudgetSeconds) := by omega
              rw [if_neg timely]
              apply meets_asked rfl
              intro answer cooperates
              obtain ⟨id, replied, valid, new⟩ := cooperates.identity
              have good : ¬ (!validIdentity id ∨
                  (held.state.activation.activation.any fun activation => activation.id = id)) := by
                rintro (invalid | used)
                · rw [valid] at invalid
                  cases invalid
                · obtain ⟨activation, current, same⟩ := (Option.any_eq_true _ _).mp used
                  exact new activation current (of_decide_eq_true same)
              refine ⟨id, replied, ?_⟩
              rw [if_neg good]
              apply meets_pure
              apply meets_pure
              exact meets_regard carries positive
                (.activated shown newer known before (allocates_of_timely timely good)) seen (goes startable)
            · rw [if_pos (by omega)]
              exact refused (fun startable => late (startable rfl observation rfl shown newer known before)) _
          · have startable : Startable pass held (some true) (some observation) := by
              rintro - _ ⟨⟩ active newer known before
              rw [shown] at active
              cases active
              exact absurd ⟨rfl, newer, known, before⟩ starts
            obtain ⟨after, change, observes, -, returned⟩ | ⟨active, newer, known, before, -⟩ :=
              observeActivation_cases held.state.activation observation pass.now pass.activationBudgetSeconds
                (some Backend.identity)
            · rw [returned]
              exact meets_regard carries positive observes seen (goes startable)
            · rw [shown] at active
              cases active
              exact absurd ⟨rfl, newer, known, before⟩ starts

theorem meets_limitUnverified (positive : 0 < pass.now.1) {snapshot : ControllerSnapshot} {run : RunReservation}
    (carries : Carries held snapshot) (found : held.state.run = some run) (stopping : run.phase = .stopping)
    {current : CurrentLifecycle} {anchor : Anchor} {next : ControllerSnapshot × ℤ × Anchor → Controlling α}
    (goes : ∀ snapshot decisionTime anchor, Carries held snapshot → 0 < decisionTime → decisionTime ≤ maxInt64 →
      Meets held supported projection (next (snapshot, decisionTime, anchor)) ends cloud) :
    Meets held supported projection (pass.limitUnverified snapshot current anchor >>= next) ends cloud := by
  unfold Pass.limitUnverified
  rw [carries.run, found]
  dsimp only
  split
  · exact goes _ _ _ { carries with unverified := le_rfl } positive pass.now.2
  apply Process.meets_attempt
  apply meets_currentTime
  intro time after later fits
  dsimp only
  split
  · exact goes _ _ _ { carries with unverified := later.le } later fits
  split
  · exact goes _ _ _ (carries.stop found stopping) later fits
  split
  next =>
    have deferred : Pass.mayDefer snapshot run time = pure false := by
      apply if_neg
      rw [stopping]
      exact fun running => nomatch running.1
    rw [deferred]
    apply meets_currentTime
    intro time after later fits
    exact goes _ _ _ (carries.stop found stopping) later fits
  next => exact goes _ _ _ carries later fits

theorem meets_prepare (positive : 0 < pass.now.1)
    (budget : 0 < pass.activationBudgetSeconds ∧ pass.activationBudgetSeconds ≤ 3000)
    (carries : Carries held held) (consistent : Consistent held.state.activation)
    (bounded : ∀ observation, projection = some observation → observation.version ≤ maxInt64)
    {run : RunReservation} (found : held.state.run = some run) (stopping : run.phase = .stopping) (named : run.microvmId ≠ "")
    {anchor : Anchor} {next : ControllerSnapshot × CurrentLifecycle × ℤ × Anchor → Controlling α}
    (refused : ¬ Startable pass held supported projection → ∀ error, ends (.error error) cloud)
    (goes : Startable pass held supported projection → ∀ snapshot current decisionTime anchor, Carries held snapshot →
      snapshot.verifiedAt ≤ decisionTime → 0 < decisionTime →
      Meets held supported projection (next (snapshot, current, decisionTime, anchor)) ends cloud) :
    Meets held supported projection (pass.prepare held anchor >>= next) ends cloud := by
  unfold Pass.prepare
  apply Process.meets_attempt
  apply meets_asked rfl
  intro answer cooperates
  refine ⟨supported, cooperates.supported, ?_⟩
  refine meets_observe positive budget carries consistent bounded refused ?_
  intro startable snapshot current carries
  apply meets_limitUnverified positive (carries.noteVerification current supported) found stopping
  intro snapshot decisionTime anchor carries later fits
  obtain ⟨carries, timely⟩ := carries.checkVerified found stopping later
  replace carries := carries.fence found stopping current decisionTime
  have same := carries.supersede found named current decisionTime
  dsimp only
  rw [same]
  have reserved : pass.reserve ((snapshot.checkVerified decisionTime).fence current decisionTime) current decisionTime =
      pure ((snapshot.checkVerified decisionTime).fence current decisionTime) := by
    unfold Pass.reserve
    rw [carries.run, found]
  rw [reserved]
  exact goes startable _ _ _ _ carries timely later

end observing

theorem verifiedAt_nonneg {shadow : AgentShadow} (holds : parseControllerShadow shadow.document = .ok held) :
    0 ≤ held.verifiedAt := by
  obtain ⟨-, reported, -, parsed⟩ := parse_document.mp holds
  obtain ⟨lifecycle, -, verified⟩ := (parseReported_ok parsed).lifecycle
  exact numberOr_ok verified

theorem Carries.legal {snapshot : ControllerSnapshot} (carries : Carries held snapshot) (legal : Legal held) :
    Legal snapshot where
  version := carries.version ▸ legal.version
  unverified := carries.unverified
  stopping := carries.stopTime ▸ legal.stopping
  activation := legal.activation.advances carries.activation
  run run found := by
    obtain ⟨active, complete⟩ := legal.run run (carries.run ▸ found)
    exact ⟨carries.activation.held active, complete⟩

section clearing
variable {pass : Pass} {cloud : Cloud} {latest : ControllerSnapshot} {run : RunReservation}

theorem confirm_stopping {state : ControllerState} (found : state.run = some run) (stopping : run.phase = .stopping)
    (named : run.microvmId ≠ "") :
    state.stop.confirmRunStopped run.runId run.microvmId = ({ state with run := none }, true) := by
  have same : state.stop = state := by
    unfold ControllerState.stop
    rw [found, Option.map_some, RunReservation.stop_of_stopping stopping, ← found]
  rw [same]
  unfold ControllerState.confirmRunStopped
  rw [found]
  dsimp only
  rw [if_neg]
  rintro (apart | moving | unnamed | other)
  · exact apart rfl
  · exact moving stopping
  · exact named unnamed
  · exact other rfl

/-- The second half of the pass: the run is read again and cleared, unless the clock is behind the verification that the
document has kept. -/
theorem meets_clearTerminated {snapshot : ControllerSnapshot} (found : snapshot.state.run = some run)
    (stopping : run.phase = .stopping) (named : run.microvmId ≠ "")
    (holds : parseControllerShadow cloud.shadow.document = .ok latest) (same : latest.state.run = some run)
    (positive : 0 < pass.now.1) (projected : latest.state.activation.projectionVersion ≤ maxInt64)
    (room : cloud.shadow.version < maxInt64) {ends : Except String ReconcileResult → Cloud → Prop}
    (cleared : latest.verifiedAt ≤ pass.now → ∀ result cloud, Cleaned (.ok result) cloud → ends (.ok result) cloud)
    (refused : ¬ latest.verifiedAt ≤ pass.now → ∀ error, ends (.error error) cloud) :
    Meets held supported projection (pass.clearTerminated snapshot run) ends cloud := by
  obtain ⟨numbered, legal⟩ := legal_of_document holds
  unfold Pass.clearTerminated
  rw [confirm_stopping found stopping named, if_neg (by simp)]
  apply meets_read holds
  have assigned : latest.assigns run = true := by
    unfold ControllerSnapshot.assigns
    rw [same]
    simp
  rw [if_pos assigned, confirm_stopping same stopping named]
  dsimp only
  have blank : Legal { latest with state := { latest.state with run := none } } := { legal with run := nofun }
  have verified := verifiedAt_nonneg holds
  by_cases timely : latest.verifiedAt ≤ pass.now
  · apply meets_save (controllerShadowPatch_of_legal blank projected positive.le verified timely) numbered room
    intro time
    refine cleared timely .again _ ⟨⟨_, rfl⟩, _, parse_saved blank holds positive.le verified, rfl⟩
  · apply meets_failed
    intro answer cooperates
    refine ⟨"invalid controller shadow times or version", ?_, refused timely _⟩
    have patched : controllerShadowPatch { latest with state := { latest.state with run := none } } pass.now latest.verifiedAt =
        .error "invalid controller shadow times or version" := by
      apply if_pos
      dsimp only
      omega
    unfold Cloud.serve
    dsimp only
    rw [patched]

end clearing

/-- For every document with a run that is stopping and has a MicroVM, and every pass whose surroundings cooperate: the pass
comes to its end and leaves the shadow without a run, exactly if the clock is not behind the times of the document. -/
theorem cleaned_iff_orderly (shadow : AgentShadow) (held : ControllerSnapshot) (run : RunReservation) (pass : Pass)
    (supported : Option Bool) (projection : Option ProjectionObservation)
    (holds : parseControllerShadow shadow.document = .ok held) (found : held.state.run = some run)
    (stopping : run.phase = .stopping) (named : run.microvmId ≠ "") (room : shadow.version + 1 < maxInt64)
    (projected : held.state.activation.projectionVersion ≤ maxInt64)
    (bounded : ∀ observation, projection = some observation → observation.version ≤ maxInt64)
    (positive : 0 < pass.now.1) (released : pass.release ≠ "")
    (budget : 0 < pass.activationBudgetSeconds ∧ pass.activationBudgetSeconds ≤ 3000)
    (answers : ℕ → { answer // Cooperates held supported projection answer }) :
    Cleaned ((reconcile pass).run.exec (serve held supported projection) answers { shadow }).2
        ((reconcile pass).run.exec (serve held supported projection) answers { shadow }).1 ↔
      Orderly pass held supported projection := by
  obtain ⟨numbered, legal⟩ := legal_of_document holds
  have carries : Carries held held :=
    ⟨rfl, rfl, .inl rfl, projected, rfl, legal.unverified, verifiedAt_nonneg holds⟩
  have fits : shadow.version < maxInt64 := by omega
  have failed (error : String) (cloud : Cloud) : ¬ Cleaned (.error error) cloud := fun cleaned => nomatch cleaned.1
  have meets : Meets held supported projection (reconcile pass)
      (fun outcome cloud => Cleaned outcome cloud ↔ Orderly pass held supported projection) { shadow } := by
    unfold reconcile
    rw [if_neg (by
      rintro (early | unreleased | short | long)
      · omega
      · exact released unreleased
      · omega
      · omega)]
    apply meets_asked rfl
    intro answer cooperates
    obtain ⟨time, replied⟩ := cooperates.steady
    refine ⟨time, replied, ?_⟩
    apply meets_read holds
    refine meets_prepare positive budget carries legal.activation bounded found stopping named ?_ ?_
    · exact fun late error => iff_of_false (failed error _) fun orderly => late orderly.2
    intro startable snapshot current decisionTime anchor carries timely later
    have writable := carries.legal legal
    apply meets_save (controllerShadowPatch_of_legal writable carries.projected later.le carries.verified timely)
      (carries.version.trans numbered) fits
    intro time
    rw [if_pos rfl]
    have mine : snapshot.state.run = some run := carries.run.trans found
    rw [mine]
    dsimp only
    rw [if_neg named]
    unfold Pass.follow
    apply meets_asked rfl
    intro answer cooperates
    refine ⟨⟨run.microvmId, "TERMINATED"⟩, cooperates.terminated _, ?_⟩
    rw [if_neg (not_not.mpr rfl), if_pos rfl]
    have saved : parseControllerShadow
        (Cloud.saving { shadow } snapshot decisionTime snapshot.verifiedAt time).shadow.document =
        .ok (snapshot.persisted held (shadow.version + 1) decisionTime snapshot.verifiedAt) :=
      parse_saved writable holds later.le carries.verified
    have next : (Cloud.saving { shadow } snapshot decisionTime snapshot.verifiedAt time).shadow.version < maxInt64 := room
    have kept : (snapshot.persisted held (shadow.version + 1) decisionTime snapshot.verifiedAt).verifiedAt = held.verifiedAt := by
      show snapshot.state.run.elim held.verifiedAt _ = _
      rw [mine, Option.elim_some, if_pos stopping]
    apply meets_clearTerminated mine stopping named saved mine positive carries.projected next
    · intro timely result cloud cleaned
      rw [kept] at timely
      exact iff_of_true cleaned ⟨timely, startable⟩
    · intro late error
      rw [kept] at late
      exact iff_of_false (failed error _) fun orderly => late orderly.1
  exact Process.exec_meets meets answers

section runs

def stopping : RunReservation := ⟨"r", "a", "1.0.0", "exact", "vm", .stopping⟩

/-- A stopping run, in a document that was last verified at 110. -/
def kept : ControllerSnapshot where
  shadowVersion := 2
  verifiedAt := 110
  stopRequestedAt := 111
  state := ⟨⟨2, 2, 100, true, true, some ⟨"a", 100, 3100⟩⟩, some stopping⟩

def shadow : AgentShadow where
  version := 2
  state := fieldsOf [("reported", .object (fieldsOf [("lastError", .null),
    ("activation", .object (ControllerSnapshot.activationPatch ⟨"a", 100, 3100⟩)),
    ("run", .object (ControllerSnapshot.runPatch stopping)), ("controller", .object (kept.controllerPatch 111)),
    ("lifecycle", .object (fieldsOf [("state", .string "stopping"), ("verifiedAt", int 110)]))]))]
  stamp := ⟨111, by decide⟩

/-- The device has no agent any more, and its MicroVM is terminated. -/
def replies : (request : ControllerCall) → ControllerReply request
  | .steady => .ok (0 : ℤ)
  | .clock anchor => .ok ((⟨125, by decide⟩, anchor.steady) : Seconds × ℤ)
  | .supported => .ok (some false)
  | .projection => .ok none
  | .identity => .ok "b"
  | .get id => .ok ⟨id, "TERMINATED"⟩
  | _ => .error "unavailable"

def answer : Answer := ⟨replies, .answered, ⟨125, by decide⟩⟩

def pass (now : Seconds) : Pass := ⟨now, "1.0.0", 3000⟩

theorem answer_cooperates : Cooperates kept (some false) none answer where
  answered := rfl
  steady := ⟨(0 : ℤ), rfl⟩
  clock anchor := by
    have fits := anchor.wall.2
    have still : (anchor.steady - anchor.steady).tdiv 1000000000 = 0 := by rw [Int.sub_self]; rfl
    have time : ∃ time after, anchor.time ⟨125, by decide⟩ anchor.steady = .ok (time, after) := by
      unfold Anchor.time
      dsimp only
      rw [still, if_neg (by decide), if_neg (by omega)]
      split
      · exact ⟨_, _, rfl⟩
      · exact ⟨_, _, rfl⟩
    obtain ⟨time, after, read⟩ := time
    exact ⟨_, _, time, after, rfl, read⟩
  supported := rfl
  projection := rfl
  identity := by
    refine ⟨"b", rfl, by decide, ?_⟩
    rintro _ ⟨⟩
    decide
  terminated _ := rfl

theorem punctual_cleaned :
    Cleaned ((reconcile (pass ⟨125, by decide⟩)).run.exec (serve kept (some false) none) (fun _ => ⟨answer, answer_cooperates⟩)
        { shadow }).2
      ((reconcile (pass ⟨125, by decide⟩)).run.exec (serve kept (some false) none) (fun _ => ⟨answer, answer_cooperates⟩)
        { shadow }).1 :=
  (cleaned_iff_orderly shadow kept stopping (pass ⟨125, by decide⟩) (some false) none (by decide +kernel) rfl rfl (by decide)
    (by decide) (by decide) nofun (by decide) (by decide) (by decide) _).mpr ⟨by decide, nofun⟩

/-- Six seconds before the verification, the first save succeeds, and the one that is to clear the run is refused. -/
theorem early_uncleaned :
    ((reconcile (pass ⟨104, by decide⟩)).run.exec Cloud.serve (fun _ => answer) { shadow }).2 =
        .error "invalid controller shadow times or version" ∧
      parseControllerShadow
          ((reconcile (pass ⟨104, by decide⟩)).run.exec Cloud.serve (fun _ => answer) { shadow }).1.shadow.document =
        .ok { kept with shadowVersion := 3, lastError := "agent capability is not declared" } := by
  decide +kernel

end runs
end Txing.Agent.TerminalCleanup
