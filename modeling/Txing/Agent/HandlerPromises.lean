import Txing.Agent.ReconcilePromises

/-! The other programs of the controller keep the same promises as a pass. -/

namespace Txing.Agent
open Txing.Library

variable {α : Type} {kept : Ledger}

section rules
variable {thing : String} {ends : α → Ledger → Prop}

theorem follows_agentShadow {next : Option ControllerSnapshot → Controlling α}
    (missing : Follows thing { kept with unlisted := true } (next none) ends)
    (follows : ∀ snapshot, Follows thing (kept.reading snapshot) (next (some snapshot)) ends) :
    Follows thing kept (Backend.agentShadow >>= next) ends := by
  apply follows_call
  · exact trivial
  intro shadow
  cases shadow with
  | none => exact missing
  | some snapshot => exact follows snapshot

theorem follows_capability {next : Option Bool → Controlling α}
    (missing : Follows thing { kept with unlisted := true } (next none) ends)
    (follows : ∀ supported, Follows thing kept (next (some supported)) ends) :
    Follows thing kept (Backend.capability >>= next) ends := by
  apply follows_call
  · exact trivial
  intro capability
  cases capability with
  | none => exact missing
  | some supported => exact follows supported

theorem follows_status {id : String} {next : Json → Controlling α}
    (follows : ∀ status, Follows thing (kept.identifying thing id status) (next status) ends) :
    Follows thing kept (Backend.status id >>= next) ends := by
  apply follows_call
  · exact trivial
  exact follows

end rules

section stopping
variable {thing : String} {latest : ControllerSnapshot} {run : RunReservation} {known : String → String → Prop}

theorem writes_note {now : ℤ} {lastError : String} (fits : now ≤ maxInt64) :
    Writes known latest { latest with lastError } now :=
  .same rfl rfl rfl rfl fits

theorem writes_stop_note {now : ℤ} {lastError : String} (fits : now ≤ maxInt64) :
    Writes known latest { latest.stop with lastError } now :=
  .stopped rfl (.inl rfl) rfl rfl rfl fits

end stopping

section sampling
variable (host : Host) {latest : ControllerSnapshot}

/-- Only of a run with a MicroVM can the runtime be said to have stopped. -/
theorem named_of_stopped {run : RunReservation} {thing : String} {status : Json}
    (assigned : latest.assigns run = true) (stopped : runtimeStoppedFor latest thing status = true) :
    run.microvmId ≠ "" := by
  obtain ⟨now, found, -, same⟩ := (assigns_iff run).mp assigned
  unfold runtimeStoppedFor at stopped
  split at stopped
  next =>
    rw [found] at stopped
    simp only [Option.any_some, Bool.and_eq_true, decide_eq_true_eq] at stopped
    rw [← same]
    exact stopped.2.1.1.1.1.1.2
  next => cases stopped

theorem follows_publishSample {vm : CloudRun} {status : Json} (read : latest ∈ kept.reads) :
    Follows host.thing kept (host.publishSample latest vm status) fun _ _ => True := by
  unfold Host.publishSample
  refine follows_silent rfl fun now => ?_
  refine follows_guard trivial fun _ => ?_
  apply follows_capability
  · exact follows_throw
  intro supported
  cases supported with
  | false => exact follows_pure trivial
  | true =>
    refine follows_silent rfl fun fresh => ?_
    refine follows_guard trivial fun _ => ?_
    refine follows_silent rfl fun now => ?_
    apply follows_except
    rintro ⟨endpoint, runtime⟩ _
    apply follows_call
    · exact read
    intro _
    exact follows_pure trivial

theorem follows_sampleThing (stopOnly : Bool) :
    Follows host.thing kept (host.sampleThing stopOnly) fun _ _ => True := by
  unfold Host.sampleThing
  apply follows_read
  intro snapshot
  split
  next => exact follows_pure trivial
  next run found =>
    refine follows_guard trivial fun _ => ?_
    refine follows_silent rfl fun vm => ?_
    refine follows_guard trivial fun _ => ?_
    apply follows_status
    intro status
    apply follows_read
    intro latest
    refine follows_guard trivial fun assigned => ?_
    simp only [not_or, Bool.not_eq_true, Bool.not_eq_false'] at assigned
    split
    next stopped =>
      refine follows_silent rfl fun now => ?_
      apply follows_save List.mem_cons_self (writes_stop now.2)
      · rw [if_pos rfl]
        apply follows_end
        · -- a runtime that stopped has named its MicroVM
          apply terminable_of_stop assigned.1
          exact named_of_stopped assigned.1 stopped
        · exact fun _ => trivial
      · exact follows_pure trivial
    next =>
      refine follows_guard trivial fun _ => ?_
      exact follows_publishSample host List.mem_cons_self

end sampling
section notes
variable {thing : String}

theorem follows_noteSampleError : Follows thing kept noteSampleError fun _ _ => True := by
  unfold noteSampleError
  apply follows_read
  intro snapshot
  split
  next =>
    refine follows_silent rfl fun now => ?_
    apply follows_save List.mem_cons_self (writes_note now.2)
    · exact follows_pure trivial
    · exact follows_pure trivial
  next => exact follows_pure trivial

theorem follows_noteFailure (detail : String) : Follows thing kept (noteFailure detail) fun _ _ => True := by
  unfold noteFailure
  apply follows_read
  intro snapshot
  refine follows_silent rfl fun now => ?_
  apply follows_save List.mem_cons_self (writes_note now.2)
  · exact follows_pure trivial
  · exact follows_pure trivial

theorem follows_drainFence (image : String) : Follows thing kept (drainFence image) fun _ _ => True := by
  unfold drainFence
  apply follows_agentShadow
  · exact follows_pure trivial
  intro snapshot
  dsimp only
  split
  next => exact follows_pure trivial
  next run found =>
    refine follows_silent rfl fun launched => ?_
    refine follows_guard trivial fun _ => ?_
    refine follows_guard trivial fun _ => ?_
    refine follows_silent rfl fun now => ?_
    apply follows_end
    · exact ⟨snapshot, List.mem_cons_self, writes_stop_note now.2⟩
    · exact fun _ => trivial

theorem follows_drainKnownAssignment : Follows thing kept drainKnownAssignment fun _ _ => True := by
  unfold drainKnownAssignment
  apply follows_agentShadow
  · exact follows_pure trivial
  intro snapshot
  dsimp only
  split
  next => exact follows_pure trivial
  next run found =>
    refine follows_guard trivial fun named => ?_
    refine follows_silent rfl fun expected => ?_
    refine follows_silent rfl fun described => ?_
    refine follows_guard trivial fun _ => ?_
    refine follows_silent rfl fun now => ?_
    apply follows_save List.mem_cons_self (writes_stop_note now.2)
    · rw [if_pos rfl]
      have stopped : ({ snapshot.stop with
          lastError := "automation disabled; image inventory unavailable or mismatched" } : ControllerSnapshot).state.run =
          some run.stop := congrArg (Option.map RunReservation.stop) found
      refine follows_guard trivial fun _ => ?_
      split
      next =>
        apply follows_terminate (terminable_of_saved stopped rfl named rfl)
        exact follows_pure trivial
      next => exact follows_pure trivial
    · exact follows_pure trivial

end notes

section orphans
variable {thing id runId : String} {snapshot : ControllerSnapshot} {status : Json}

theorem identifying_known (claimed : runtimeIdentity id status = some (thing, runId)) :
    kept.identifying thing id status = { kept with known := (runId, id) :: kept.known } := by
  unfold Ledger.identifying
  rw [claimed]
  exact if_pos rfl

theorem identifying_foreign {owner : String} (claimed : runtimeIdentity id status = some (owner, runId))
    (apart : owner ≠ thing) : kept.identifying thing id status = { kept with foreign := id :: kept.foreign } := by
  unfold Ledger.identifying
  rw [claimed]
  exact if_neg apart

variable {ends : α → Ledger → Prop}

theorem follows_examineThing {next : Option Bool × Option ControllerSnapshot × Bool → Controlling α}
    (missing : ∀ supported, Follows thing { kept with unlisted := true } (next (supported, none, true)) ends)
    (found : ∀ supported snapshot, Follows thing (kept.reading snapshot) (next (supported, some snapshot, false)) ends) :
    Follows thing kept (examineThing >>= next) ends := by
  have examines : Follows thing kept examineThing fun value after =>
      (∃ supported, value = (supported, none, true) ∧ after = { kept with unlisted := true }) ∨
        ∃ supported snapshot, value = (supported, some snapshot, false) ∧ after = kept.reading snapshot := by
    unfold examineThing
    apply follows_capability
    · exact follows_pure (.inl ⟨_, rfl, rfl⟩)
    intro supported
    apply follows_agentShadow
    · exact follows_pure (.inl ⟨_, rfl, rfl⟩)
    intro snapshot
    exact follows_pure (.inr ⟨_, snapshot, rfl, rfl⟩)
  apply follows_bind examines
  rintro value after (⟨supported, rfl, rfl⟩ | ⟨supported, snapshot, rfl, rfl⟩)
  · exact missing supported
  · exact found supported snapshot

theorem follows_readObservation {next : Option ProjectionObservation → Controlling α}
    (follows : ∀ observed, Follows thing kept (next observed) ends) :
    Follows thing kept (readObservation >>= next) ends := by
  have reads : Follows thing kept readObservation fun _ after => after = kept := by
    have one : Process.Attempts (ledger thing) (· = kept) (· = kept)
        (do
          let observation ← Backend.observation
          pure (some observation) : Controlling (Option ProjectionObservation)) fun _ after => after = kept := by
      apply Process.attempts_call
      · exact trivial
      · exact fun _ => rfl
      · exact fun observation => Process.attempts_pure fun after same => same
    exact Process.attempts_tryCatch one fun _ => Process.attempts_pure fun after same => same
  apply follows_bind reads
  rintro observed _ rfl
  exact follows observed

/-- The snapshot that was read, perhaps with a report of inactivity. -/
structure Regards (read snapshot : ControllerSnapshot) : Prop where
  activation : Advances read.state.activation snapshot.state.activation
  version : snapshot.shadowVersion = read.shadowVersion
  run : snapshot.state.run = read.state.run
  stopTime : snapshot.stopRequestedAt = read.stopRequestedAt
  unverified : snapshot.unverifiedSince = read.unverifiedSince

theorem regards_observeOrphanInactive (read : ControllerSnapshot) (observation : ProjectionObservation) (now : ℤ) :
    Regards read (read.observeOrphanInactive observation now) := by
  have unchanged : Regards read read := ⟨.inl rfl, rfl, rfl, rfl, rfl⟩
  unfold ControllerSnapshot.observeOrphanInactive
  split
  next => exact unchanged
  next verified =>
    simp only [not_or, not_le, ne_eq, not_not] at verified
    split
    next => exact unchanged
    next activation change returned =>
      split
      · exact unchanged
      refine ⟨.inr ⟨observation, now, 3000, change, verified.2.2, ?_⟩, rfl, rfl, rfl, rfl⟩
      obtain ⟨after, change', observes, -, same⟩ | ⟨seen, -⟩ :=
        observeActivation_cases (m := Except String) read.state.activation observation now 3000 none
      · rw [same] at returned
        cases returned
        exact observes
      · rw [verified.2.1] at seen
        cases seen

theorem follows_observeOrphan {supported : Option Bool} {now : ℤ} {next : Option ControllerSnapshot → Controlling α}
    (follows : ∀ regarded, Regards snapshot regarded → Follows thing kept (next (some regarded)) ends) :
    Follows thing kept (observeOrphan supported (some snapshot) runId id now >>= next) ends := by
  have observes : Follows thing kept (observeOrphan supported (some snapshot) runId id now) fun value after =>
      after = kept ∧ ∃ regarded, value = some regarded ∧ Regards snapshot regarded := by
    have unchanged : Regards snapshot snapshot := ⟨.inl rfl, rfl, rfl, rfl, rfl⟩
    unfold observeOrphan
    dsimp only
    split
    next =>
      apply follows_readObservation
      intro observed
      apply follows_pure
      refine ⟨rfl, _, rfl, ?_⟩
      cases observed with
      | none => exact unchanged
      | some observation => exact regards_observeOrphanInactive snapshot observation now
    next => exact follows_pure ⟨rfl, snapshot, rfl, unchanged⟩
  apply follows_bind observes
  rintro _ _ ⟨rfl, regarded, rfl, regards⟩
  exact follows regarded regards

/-- A runtime whose run the shadow does not hold may be terminated. -/
theorem terminable_of_action {regarded : ControllerSnapshot} {supported : Option Bool} {missing stopped : Bool} {now : ℤ}
    (regards : Regards snapshot regarded) (known : (runId, id) ∈ kept.known)
    (action : orphanAction supported (some regarded) missing runId id stopped now = .terminate) :
    (kept.reading snapshot).Terminable id := by
  have apart : regarded.mayAssign runId id = false := by
    unfold orphanAction at action
    split at action
    · cases action
    split at action
    · cases action
    dsimp only at action
    split at action
    next none =>
      unfold ControllerSnapshot.mayAssign
      rw [none]
      rfl
    next run found =>
      split at action
      next =>
        split at action <;> cases action
      next apart => simpa using apart
  unfold ControllerSnapshot.mayAssign at apart
  rw [regards.run] at apart
  by_cases mine : ∃ run, snapshot.state.run = some run ∧ run.runId = runId
  · obtain ⟨run, found, mine⟩ := mine
    rw [found] at apart
    simp only [Option.any_some, Bool.and_eq_false_iff, decide_eq_false_iff_not, mine, not_true_eq_false, false_or,
      Bool.or_eq_false_iff] at apart
    refine .inr (.inr (.inr ⟨runId, run.microvmId, id, ?_, .inl known, apart.2⟩))
    exact .inr ⟨snapshot, List.mem_cons_self, run, found, mine, rfl, apart.1⟩
  · left
    apply List.mem_append_left
    apply mem_gone known
    intro run found same
    exact mine ⟨run, found, same⟩

theorem bindStoppingOrphan_some {regarded fenced : ControllerSnapshot}
    (bound : regarded.bindStoppingOrphan runId id = some fenced) :
    id ≠ "" ∧ ∃ run, regarded.state.run = some run ∧ run.runId = runId ∧ (run.microvmId = "" ∨ run.microvmId = id) ∧
      fenced = { regarded with
        state := { regarded.state with run := some { run with microvmId := id, phase := .stopping } } } := by
  unfold ControllerSnapshot.bindStoppingOrphan at bound
  split at bound
  next => cases bound
  next valid =>
    simp only [not_or, Bool.not_eq_true, Bool.not_eq_false'] at valid
    obtain ⟨-, named, assigned⟩ := valid
    obtain ⟨run, found, same⟩ := (Option.any_eq_true _ _).mp assigned
    simp only [Bool.and_eq_true, Bool.or_eq_true, decide_eq_true_eq] at same
    cases bound
    refine ⟨named, run, found, same.1, same.2, ?_⟩
    rw [found]
    rfl

theorem follows_terminateConfirmedOrphan (host : Host) (id : String) :
    Follows host.thing kept (host.terminateConfirmedOrphan id) fun _ _ => True := by
  unfold Host.terminateConfirmedOrphan
  refine follows_silent rfl fun vm => ?_
  refine follows_guard trivial fun _ => ?_
  apply follows_status
  intro status
  split
  next => exact follows_pure trivial
  next owner runId claimed =>
    split
    next apart =>
      rw [identifying_foreign claimed apart]
      refine follows_silent rfl fun decided => ?_
      split
      next =>
        apply follows_end
        · exact .inr (.inl List.mem_cons_self)
        · exact fun _ => trivial
      next => exact follows_pure trivial
    next same =>
      obtain rfl : owner = host.thing := not_not.mp same
      rw [identifying_known claimed]
      apply follows_examineThing
      · intro supported
        dsimp only
        refine follows_silent rfl fun now => ?_
        have skips : Follows host.thing { kept with known := (runId, id) :: kept.known, unlisted := true }
            (observeOrphan supported none runId id now.1) fun value after => value = none ∧ after.unlisted = true :=
          follows_pure ⟨rfl, rfl⟩
        apply follows_bind skips
        rintro _ after ⟨rfl, unlisted⟩
        split
        next => exact follows_pure trivial
        next => exact follows_pure trivial
        next =>
          apply follows_end
          · exact .inr (.inr (.inl unlisted))
          · exact fun _ => trivial
        next => exact follows_pure trivial
      · intro supported snapshot
        dsimp only
        refine follows_silent rfl fun now => ?_
        apply follows_observeOrphan
        intro regarded regards
        split
        next => exact follows_pure trivial
        next => exact follows_pure trivial
        next action =>
          apply follows_end
          · exact terminable_of_action regards List.mem_cons_self action
          · exact fun _ => trivial
        next =>
          split
          next => exact follows_pure trivial
          next fenced bound =>
            obtain ⟨named, run, found, rfl, same, rfl⟩ := bindStoppingOrphan_some bound
            refine follows_silent rfl fun now => ?_
            refine follows_save List.mem_cons_self ?_ ?_ ?_
            · rw [regards.run] at found
              refine ⟨regards.version, regards.activation, ?_, ?_, (.inl regards.stopTime), .inl regards.unverified, now.2⟩
              · rw [found]
                exact .identified (.inl List.mem_cons_self) named same (.inl rfl)
              · rintro _ ⟨⟩ moving
                exact absurd rfl moving
            · rw [if_pos rfl]
              apply follows_end
              · exact terminable_of_saved rfl rfl named rfl
              · exact fun _ => trivial
            · exact follows_pure trivial

end orphans
end Txing.Agent
