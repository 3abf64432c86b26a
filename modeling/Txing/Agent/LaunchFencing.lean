import Txing.Agent.ReconcilePromises

/-! A pass launches a run only after it has saved exactly that reservation, and while the activation lasts. -/

namespace Txing.Agent.LaunchFencing
open Txing.Library

def lastTime (exchanges : List (Exchange ControllerReply)) : Option ℤ :=
  exchanges.foldl (fun time exchange =>
    match exchange with
    | ⟨.clock anchor, .ok (sampled, steady)⟩ => (anchor.time sampled steady).toOption.map Prod.fst
    | _ => time) none

section calls

theorem currentTime_only (anchor : Anchor) : Process.Only (· ≠ .agentShadow) (currentTime anchor).run :=
  Process.only_attempt (Process.only_ask _ (by simp)) fun _ => Process.only_pure _

theorem attach_only (savedRun : RunReservation) (launched : CloudRun) (attempts : ℕ) (anchor : Anchor) :
    Process.Only (· ≠ .agentShadow) (Pass.attach savedRun launched attempts anchor).run := by
  induction attempts generalizing anchor with
  | zero => exact Process.only_pure _
  | succ attempts ih =>
    unfold Pass.attach
    repeat' first
      | exact ih _ | exact currentTime_only _ | exact Process.only_ask _ (by simp) | exact Process.only_pure _
      | refine Process.only_attempt ?_ fun _ => ?_ | split | dsimp only

theorem prepare_only (pass : Pass) (snapshot : ControllerSnapshot) (anchor : Anchor) :
    Process.Only (· ≠ .agentShadow) (pass.prepare snapshot anchor).run := by
  unfold Pass.prepare
  repeat' first
    | exact currentTime_only _ | exact Process.only_ask _ (by simp) | exact Process.only_pure _
    | refine Process.only_attempt ?_ fun _ => ?_ | split | unfold Pass.observe | unfold Pass.limitUnverified
    | unfold Pass.mayDefer | unfold Pass.reserve | unfold observeActivation | unfold newActivation

/-- The ledger also serves programs that look at the shadow through `agentShadow`, which a pass never calls. -/
theorem reconcile_only (pass : Pass) : Process.Only (· ≠ .agentShadow) (reconcile pass).run := by
  unfold reconcile
  repeat' first
    | exact prepare_only pass _ _ | exact attach_only _ _ _ _ | exact currentTime_only _ | exact Process.only_ask _ (by simp)
    | exact Process.only_pure _ | refine Process.only_attempt ?_ fun _ => ?_ | split
    | unfold Pass.launch | unfold Pass.follow | unfold Pass.clearTerminated

end calls

section history
variable {thing : String} {kept : Ledger} {exchanges : List (Exchange ControllerReply)}

theorem note_time (kept : Ledger) (request : ControllerCall) (value : ControllerYield request) :
    (kept.note thing request value).time =
      match (⟨request, .ok value⟩ : Exchange ControllerReply) with
      | ⟨.clock anchor, .ok (sampled, steady)⟩ => (anchor.time sampled steady).toOption.map Prod.fst
      | _ => kept.time := by
  cases request with
  | agentShadow => cases value <;> rfl
  | save => cases value <;> rfl
  | capability => cases value <;> rfl
  | status id =>
    unfold Ledger.note Ledger.identifying
    dsimp only
    split
    · rfl
    · split <;> rfl
  | _ => rfl

structure Recalls (kept : Ledger) (exchanges : List (Exchange ControllerReply)) : Prop where
  reads : ∀ snapshot ∈ kept.reads, ⟨.read, .ok snapshot⟩ ∈ exchanges
  observed : ∀ observation, kept.observed = some observation → ⟨.projection, .ok (some observation)⟩ ∈ exchanges
  saved : ∀ snapshot, kept.saved = some snapshot → ∃ now verifiedAt, ⟨.save snapshot now verifiedAt, .ok true⟩ ∈ exchanges
  time : kept.time = lastTime exchanges

theorem Recalls.note (recalls : Recalls kept exchanges) {request : ControllerCall} (other : request ≠ .agentShadow)
    (value : ControllerYield request) : Recalls (kept.note thing request value) (exchanges ++ [⟨request, .ok value⟩]) := by
  obtain ⟨reads, observed, saved⟩ := note_cases thing kept request value
  constructor
  · intro snapshot read
    obtain known | same | same := reads snapshot read
    · exact List.mem_append_left _ (recalls.reads snapshot known)
    · exact same ▸ List.mem_append_right _ (List.mem_singleton_self _)
    · exact absurd (congrArg Sigma.fst same) other
  · intro observation held
    obtain same | ⟨observed, same, now⟩ := observed
    · exact List.mem_append_left _ (recalls.observed observation (same ▸ held))
    · rw [now] at held
      subst held
      exact same ▸ List.mem_append_right _ (List.mem_singleton_self _)
  · intro snapshot held
    obtain same | ⟨saved, time, verifiedAt, same, now⟩ := saved
    · obtain ⟨time, verifiedAt, kept⟩ := recalls.saved snapshot (same ▸ held)
      exact ⟨time, verifiedAt, List.mem_append_left _ kept⟩
    · rw [now] at held
      cases held
      exact ⟨time, verifiedAt, same ▸ List.mem_append_right _ (List.mem_singleton_self _)⟩
  · rw [note_time, recalls.time, lastTime, lastTime, List.foldl_append]
    rfl

theorem recalls_summary (thing : String) (exchanges : List (Exchange ControllerReply))
    (others : ∀ exchange ∈ exchanges, exchange.1 ≠ .agentShadow) : Recalls ((ledger thing).summary exchanges) exchanges := by
  induction exchanges using List.reverseRecOn with
  | nil =>
    refine ⟨?_, ?_, ?_, rfl⟩
    · intro snapshot read
      exact absurd read List.not_mem_nil
    · intro observation held
      cases held
    · intro snapshot held
      cases held
  | append_singleton exchanges exchange ih =>
    rw [Process.Tracker.summary_snoc]
    obtain ⟨earlier, last⟩ := List.forall_mem_append.mp others
    replace ih := ih earlier
    obtain ⟨request, reply⟩ := exchange
    cases reply with
    | ok value => exact ih.note (last _ (List.mem_singleton_self _)) value
    | error error =>
      refine ⟨?_, ?_, ?_, ?_⟩
      · exact fun snapshot read => List.mem_append_left _ (ih.reads snapshot read)
      · exact fun observation held => List.mem_append_left _ (ih.observed observation held)
      · intro snapshot held
        obtain ⟨time, verifiedAt, saved⟩ := ih.saved snapshot held
        exact ⟨time, verifiedAt, List.mem_append_left _ saved⟩
      · show ((ledger thing).summary exchanges).time = _
        rw [ih.time, lastTime, lastTime, List.foldl_append]
        cases request <;> rfl

end history

/-- Whatever the backend replies, as long as it knows the MicroVM of every run that it gives as running: the launch of a run
comes after an accepted save of exactly that run, reserved, without a MicroVM and for the activation that the snapshot
holds, whose projection this pass has read as active; and it comes at a time inside of the activation. -/
theorem launch_fenced (pass : Pass) (exchanges : List (Exchange ControllerReply)) (run : RunReservation)
    (stored : ∀ snapshot, (⟨.read, .ok snapshot⟩ : Exchange ControllerReply) ∈ exchanges → snapshot.Stored)
    (made : (reconcile pass).run.nextCall exchanges = some (.launch run)) :
    ∃ snapshot now verifiedAt activation observation time,
      (⟨.save snapshot now verifiedAt, .ok true⟩ : Exchange ControllerReply) ∈ exchanges ∧
      snapshot.state.run = some run ∧ run.phase = .reserved ∧ run.microvmId = "" ∧
      snapshot.state.activation.activation = some activation ∧ run.activationId = activation.id ∧
      (⟨.projection, .ok (some observation)⟩ : Exchange ControllerReply) ∈ exchanges ∧ observation.active = some true ∧
      observation.version = snapshot.state.activation.projectionVersion ∧
      observation.sourceTimestampMs = snapshot.state.activation.sourceTimestampMs ∧
      lastTime exchanges = some time ∧ activation.startedAt ≤ time ∧ time < activation.deadline := by
  have recalls := recalls_summary "" exchanges ((reconcile_only pass).exchanged made)
  have follows : Follows "" {} (reconcile pass) fun _ _ => True := follows_reconcile pass
  have keeps := follows [] rfl
  have allowed : ((ledger "").summary exchanges).allows (.launch run) := keeps.asks_of_nextCall made
  obtain ⟨snapshot, activation, observation, time, fenced⟩ := allowed
  obtain ⟨now, verifiedAt, saved⟩ := recalls.saved snapshot fenced.saved
  refine ⟨snapshot, now, verifiedAt, activation, observation, time, saved, fenced.holds, ?_, fenced.unknown, fenced.current,
    fenced.bound, recalls.observed observation fenced.observed, fenced.active, fenced.version, fenced.timestamp, ?_,
    fenced.started, fenced.unexpired⟩
  · exact fenced.reserved fun read known => stored read (recalls.reads read known)
  · rw [← recalls.time]
    exact fenced.sampled

section runs

def pass : Pass := ⟨⟨150, by decide⟩, "1.0.0", 100⟩

def activation : Activation := ⟨"a", 100, 200⟩

def idle : ControllerSnapshot where
  shadowVersion := 3
  state := { activation := ⟨5, 7, 100, true, true, some activation⟩ }

def observation : ProjectionObservation := ⟨5, some true, 7⟩

/-- The calls before the launch of a run that the pass has saved in this snapshot. -/
def launching (read : ControllerSnapshot) (asked : List (Exchange ControllerReply)) (saved : ControllerSnapshot) :
    List (Exchange ControllerReply) :=
  [⟨.steady, .ok (0 : ℤ)⟩, ⟨.read, .ok read⟩, ⟨.supported, .ok (some true)⟩, ⟨.projection, .ok (some observation)⟩] ++ asked ++
    [⟨.save saved 150 150, .ok true⟩, ⟨.clock ⟨pass.now, 0⟩, .ok ((⟨151, by decide⟩, 0) : Seconds × ℤ)⟩]

def fresh : RunReservation := ⟨"r", "a", "1.0.0", "exact", "", .reserved⟩

def reserving : List (Exchange ControllerReply) :=
  launching idle [⟨.identity, .ok "r"⟩, ⟨.request "r" activation 150, .ok "exact"⟩]
    { idle with verifiedAt := 150, state := { idle.state with run := some fresh } }

theorem stored_of_reserving (snapshot : ControllerSnapshot)
    (given : (⟨.read, .ok snapshot⟩ : Exchange ControllerReply) ∈ reserving) : snapshot.Stored := by
  simp [reserving, launching] at given
  cases given
  intro run found
  cases found

theorem reserving_fenced : ∃ snapshot now verifiedAt activation observation time,
    (⟨.save snapshot now verifiedAt, .ok true⟩ : Exchange ControllerReply) ∈ reserving ∧
    snapshot.state.run = some fresh ∧ fresh.phase = .reserved ∧ fresh.microvmId = "" ∧
    snapshot.state.activation.activation = some activation ∧ fresh.activationId = activation.id ∧
    (⟨.projection, .ok (some observation)⟩ : Exchange ControllerReply) ∈ reserving ∧ observation.active = some true ∧
    observation.version = snapshot.state.activation.projectionVersion ∧
    observation.sourceTimestampMs = snapshot.state.activation.sourceTimestampMs ∧
    lastTime reserving = some time ∧ activation.startedAt ≤ time ∧ time < activation.deadline :=
  launch_fenced pass reserving fresh stored_of_reserving (by decide +kernel)

/-- A run that is given as running although nobody knows its MicroVM. -/
def lost : RunReservation := ⟨"r", "a", "1.0.0", "exact", "", .running⟩

/-- It is launched again as it is. -/
theorem lost_launched :
    (reconcile pass).run.nextCall
      (launching { idle with state := { idle.state with run := some lost } } []
        { idle with verifiedAt := 150, state := { idle.state with run := some lost } }) = some (.launch lost) ∧
      lost.phase ≠ .reserved := by
  decide +kernel

end runs
end Txing.Agent.LaunchFencing
