import Txing.Agent.SharedShadow

/-! What the controller saves is read back as it was, with the time of the first save of a run as stopping, as long as no
save comes at a time before the verification that it carries. -/

namespace Txing.Agent
open Txing.Library

def Saved.stops (saved : Saved) (runId : String) : Bool :=
  saved.snapshot.state.run.any fun run => run.runId = runId && run.phase = .stopping

/-- When the run was first saved as stopping, if it was last saved so. -/
def firstStop (runId : String) : List Saved → Option ℤ
  | [] => none
  | saved :: earlier => if saved.stops runId then some ((firstStop runId earlier).getD saved.now) else none

/-- The stop time that the shadow holds is the first one. A save at the time zero leaves none. -/
structure Sticky (saves : List Saved) (held : ControllerSnapshot) : Prop where
  stopping : ∀ run, held.state.run = some run → run.phase = .stopping →
    ∃ first, firstStop run.runId saves = some first ∧ 0 ≤ first ∧ (0 < first → held.stopRequestedAt = first)
  moving : (∀ run, held.state.run = some run → run.phase ≠ .stopping) →
    held.stopRequestedAt = 0 ∧ ∀ runId, firstStop runId saves = none

section sticky
variable {saves : List Saved} {held snapshot : ControllerSnapshot} {known : String → String → Prop} {now : ℤ} {time : Stamp}

theorem Sticky.of_idle (idle : held.state.run = none) (unstopped : held.stopRequestedAt = 0) : Sticky [] held where
  stopping run found := by
    rw [idle] at found
    cases found
  moving _ := ⟨unstopped, fun _ => rfl⟩

variable {run : RunReservation}

theorem firstStop_cons (found : snapshot.state.run = some run) (stopping : run.phase = .stopping) :
    firstStop run.runId (⟨snapshot, now, time⟩ :: saves) = some ((firstStop run.runId saves).getD now) := by
  apply if_pos
  unfold Saved.stops
  rw [found, Option.any_some, stopping]
  simp

theorem firstStop_moving (moving : ∀ run, snapshot.state.run = some run → run.phase ≠ .stopping) (runId : String) :
    firstStop runId (⟨snapshot, now, time⟩ :: saves) = none := by
  apply if_neg
  intro stops
  obtain ⟨run, found, stops⟩ := (Option.any_eq_true _ _).mp stops
  rw [Bool.and_eq_true] at stops
  exact moving run found (of_decide_eq_true stops.2)

theorem RunMove.of_stopping {before : Option RunReservation} (moved : RunMove known before (some run))
    (stopping : run.phase = .stopping) : ∃ earlier, before = some earlier ∧ earlier.runId = run.runId := by
  cases moved with
  | kept => exact ⟨run, rfl, rfl⟩
  | stopped earlier => exact ⟨earlier, rfl, rfl⟩
  | @identified earlier => exact ⟨earlier, rfl, rfl⟩
  | reserved _ reserved =>
    rw [reserved.phase] at stopping
    cases stopping

theorem Sticky.stopTime (sticky : Sticky saves held) (writes : Writes known held snapshot now) (positive : 0 ≤ now)
    (found : snapshot.state.run = some run) (stopping : run.phase = .stopping) :
    ∃ first, (firstStop run.runId saves).getD now = first ∧ 0 ≤ first ∧ (0 < first → snapshot.stopTime now = first) := by
  have same : snapshot.stopRequestedAt = held.stopRequestedAt :=
    writes.stopTime.resolve_right fun apart => apart.2 run found stopping
  obtain ⟨earlier, before, named⟩ := (found ▸ writes.run).of_stopping stopping
  unfold ControllerSnapshot.stopTime
  rw [same]
  by_cases already : earlier.phase = .stopping
  · obtain ⟨first, since, nonneg, kept⟩ := sticky.stopping earlier before already
    rw [named] at since
    refine ⟨first, by rw [since, Option.getD_some], nonneg, ?_⟩
    intro later
    rw [kept later]
    exact if_pos later.ne'
  · obtain ⟨unstopped, never⟩ := sticky.moving fun other other_found => by
      rw [before] at other_found
      cases other_found
      exact already
    refine ⟨now, by rw [never, Option.getD_none], positive, ?_⟩
    intro _
    rw [unstopped]
    exact if_neg (not_not.mpr rfl)

theorem Sticky.saved (sticky : Sticky saves held) (writes : Writes known held snapshot now) (positive : 0 ≤ now)
    {version verifiedAt : ℤ} :
    Sticky (⟨snapshot, now, time⟩ :: saves) (snapshot.persisted held version now verifiedAt) where
  stopping run found stopping := by
    replace found : snapshot.state.run = some run := found
    obtain ⟨first, since, nonneg, kept⟩ := sticky.stopTime writes positive found stopping
    refine ⟨first, ?_, nonneg, ?_⟩
    · rw [firstStop_cons found stopping, since]
    · intro later
      show snapshot.state.run.elim 0 _ = first
      rw [found, Option.elim_some, if_pos stopping]
      exact kept later
  moving moving := by
    refine ⟨?_, firstStop_moving moving⟩
    show snapshot.state.run.elim 0 _ = 0
    cases found : snapshot.state.run with
    | none => rfl
    | some run => exact if_neg (moving run found)

theorem Step.sticky {cloud next : Cloud} {after : ControllerSnapshot} {kept : Ledger} {answer : Answer}
    {request : ControllerCall} {reply : ControllerReply request} (step : Step cloud held kept answer request next reply after)
    (sticky : Sticky cloud.saves held) : Sticky next.saves after := by
  cases step with
  | saved writes positive => exact sticky.saved writes positive
  | published => exact ⟨sticky.stopping, sticky.moving⟩
  | _ => exact sticky

theorem firstStop_positive {runId : String} {first : ℤ} (since : firstStop runId saves = some first)
    (positive : ∀ saved ∈ saves, 0 < saved.now) : 0 < first := by
  induction saves generalizing first with
  | nil => cases since
  | cons saved earlier ih =>
    unfold firstStop at since
    split at since
    next =>
      cases since
      cases before : firstStop runId earlier with
      | none => exact positive saved List.mem_cons_self
      | some time => exact ih before fun other member => positive other (List.mem_cons_of_mem _ member)
    next => cases since

end sticky

namespace ShadowPersistence

/-- A save at a time that is not before the verification it carries. -/
def timely : ControllerCall → Bool
  | .save snapshot now verifiedAt =>
    0 < now && 0 ≤ verifiedAt && verifiedAt ≤ now && snapshot.state.activation.projectionVersion ≤ maxInt64
  | _ => true

variable {Name : Type} [DecidableEq Name]

def Timely (pool : Pool Cloud (fun _ : Name => Operation) ControllerReply Unit) :
    PoolEvent (fun _ : Name => Operation) Answer → Prop
  | .begin _ _ => True
  | .step name _ => ∀ request ∈ pool.due name, timely request = true

instance decidableTimely (pool : Pool Cloud (fun _ : Name => Operation) ControllerReply Unit)
    (event : PoolEvent (fun _ : Name => Operation) Answer) : Decidable (Timely pool event) :=
  match event with
  | .begin _ _ => isTrue trivial
  | .step name _ => inferInstanceAs (Decidable (∀ request ∈ pool.due name, timely request = true))

/-- The save makes an update; whatever document that is merged into, as long as the controller can read that, the result is
read with the same state, error and time of the first failed verification; and where the update is accepted, the stop time
of a stopping run is the time of its first save as stopping. -/
def Survives (cloud : Cloud) (snapshot : ControllerSnapshot) (now verifiedAt : ℤ) : Prop :=
  ∃ update, controllerShadowPatch snapshot now verifiedAt = .ok update ∧
    ∀ (earlier : AgentShadow) old time, parseControllerShadow earlier.document = .ok old →
      ∃ read, parseControllerShadow (earlier.merge update time).document = .ok read ∧ read.state = snapshot.state ∧
        read.lastError = snapshot.lastError ∧ read.unverifiedSince = snapshot.unverifiedSince ∧
        (cloud.shadow.accepts update = true → ∀ run, snapshot.state.run = some run → run.phase = .stopping →
          firstStop run.runId (⟨snapshot, now, time⟩ :: cloud.saves) = some read.stopRequestedAt)

/-- In every run of any number of operations over a shadow that held no run, in which all saves were timely, every timely
save that is due survives. -/
theorem saved_survives (host : Host) (shadow : AgentShadow) (held : ControllerSnapshot)
    (holds : parseControllerShadow shadow.document = .ok held) (idle : held.state.run = none)
    (unstopped : held.stopRequestedAt = 0) (events : List (PoolEvent (fun _ : Name => Operation) Answer))
    (along : (controllers Name host).interleaving.Along Timely (poolOf Name { shadow }) events) (name : Name)
    (snapshot : ControllerSnapshot) (now verifiedAt : ℤ)
    (due : ((controllers Name host).interleaving.run (poolOf Name { shadow }) events).due name =
      some (.save snapshot now verifiedAt)) (fine : timely (.save snapshot now verifiedAt) = true) :
    Survives ((controllers Name host).interleaving.run (poolOf Name { shadow }) events).shared snapshot now verifiedAt := by
  obtain ⟨held, sound, sticky, positive⟩ := run_sound Name host Timely
    (fun cloud held _ => Sticky cloud.saves held ∧ ∀ saved ∈ cloud.saves, 0 < saved.now) (fun _ _ _ _ both => both)
    (by
      intro pool name answer request reply next held after ledgers good due sound both allowed step
      refine ⟨step.sticky both.1, ?_⟩
      have fine := good request due
      cases step with
      | saved =>
        intro saved member
        obtain rfl | member := List.mem_cons.mp member
        · simp only [timely, Bool.and_eq_true, decide_eq_true_eq] at fine
          exact fine.1.1.1
        · exact both.2 saved member
      | _ => exact both.2)
    holds ⟨.of_idle idle unstopped, fun _ member => by cases member⟩ along
  have allowed := Site.allows_of_due (lawful_run Name host { shadow } events) due
  obtain ⟨old, read, writes⟩ := allowed
  obtain ⟨legal, -, current⟩ := sound.read name old read
  replace legal := legal.writes writes
  simp only [timely, Bool.and_eq_true, decide_eq_true_eq] at fine
  have patched := controllerShadowPatch_of_legal legal fine.2 fine.1.1.1.le fine.1.1.2 fine.1.2
  refine ⟨_, patched, ?_⟩
  intro earlier before time readable
  refine ⟨_, parse_saved legal readable fine.1.1.1.le fine.1.1.2, rfl, rfl, rfl, ?_⟩
  intro accepted run found stopping
  obtain rfl := current (writes.version.symm.trans (accepts_updateOf accepted).1)
  obtain ⟨first, since, -, kept⟩ := sticky.stopTime writes fine.1.1.1.le found stopping
  have later : 0 < first := by
    rw [← since]
    cases before : firstStop run.runId _ with
    | none => exact fine.1.1.1
    | some time => exact firstStop_positive before positive
  rw [firstStop_cons found stopping, since]
  show _ = some (snapshot.state.run.elim 0 _)
  rw [found, Option.elim_some, if_pos stopping, kept later]

def lastState (start : ControllerState) (saves : List Saved) : ControllerState :=
  saves.head?.elim start fun saved => saved.snapshot.state

/-- Each save is a legal move from what the save before it has left. -/
def Serialized (start : ControllerState) : List Saved → Prop
  | [] => True
  | saved :: earlier =>
    (∃ known read, Writes known read saved.snapshot saved.now ∧ read.state = lastState start earlier) ∧
      Serialized start earlier

/-- The shadow can be read and holds what the last save has left, and no save has overwritten another unread. -/
def NoneLost (start : ControllerState) (cloud : Cloud) : Prop :=
  ∃ held, parseControllerShadow cloud.shadow.document = .ok held ∧ held.state = lastState start cloud.saves ∧
    Serialized start cloud.saves

/-- However the operations of any number of threads are interleaved, and whichever updates and replies get lost. -/
theorem saves_serialized (host : Host) (shadow : AgentShadow) (held : ControllerSnapshot)
    (holds : parseControllerShadow shadow.document = .ok held)
    (events : List (PoolEvent (fun _ : Name => Operation) Answer)) :
    NoneLost held.state ((controllers Name host).interleaving.run (poolOf Name { shadow }) events).shared := by
  let cloud : Cloud := { shadow }
  have start : held.state = lastState held.state cloud.saves ∧ Serialized held.state cloud.saves := ⟨rfl, trivial⟩
  obtain ⟨now, sound, same, serialized⟩ := run_sound Name host (fun _ _ => True)
    (fun cloud now _ => now.state = lastState held.state cloud.saves ∧ Serialized held.state cloud.saves)
    (fun _ _ _ _ both => both)
    (by
      intro pool name answer request reply next now after ledgers _ due sound both allowed step
      cases step with
      | saved writes => exact ⟨rfl, ⟨_, now, writes, both.1⟩, both.2⟩
      | published => exact both
      | _ => exact both)
    holds start (Reaction.along_of_forall _ (fun _ _ _ => trivial) _)
  exact ⟨now, sound.holds, same, serialized⟩

section runs

def host : Host := ⟨"lamp", fun _ _ _ _ => .error "no sample"⟩

/-- What a pass and a drain are answered when the projection shows this and the clock reads that. -/
def replies (observed : ProjectionObservation) (time : Seconds) : (request : ControllerCall) → ControllerReply request
  | .steady => .ok (0 : ℤ)
  | .supported => .ok (some true)
  | .projection => .ok (some observed)
  | .identity => .ok "x"
  | .request _ _ _ => .ok "exact"
  | .seconds => .ok time
  | .launchImage _ => .ok "image"
  | _ => .error "unavailable"

def answer (observed : ProjectionObservation) (time : Seconds) : Answer :=
  ⟨replies observed time, .answered, ⟨100, by decide⟩⟩

def pass (now : Seconds) : Pass := ⟨now, "1.0.0", 3000⟩

/-- A pass sees the device inactive, one ten seconds later sees it active and reserves a run, and then the controller is
switched off. -/
def draining (time : Seconds) : List (PoolEvent (fun _ : ℕ => Operation) Answer) :=
  .begin 0 (.reconcile (pass ⟨100, by decide⟩)) ::
      List.replicate 5 (.step 0 (answer ⟨1, some false, 1⟩ ⟨100, by decide⟩)) ++
    .begin 0 (.reconcile (pass ⟨110, by decide⟩)) ::
      List.replicate 8 (.step 0 (answer ⟨2, some true, 2⟩ ⟨110, by decide⟩)) ++
    .begin 1 (.drainFence "image") :: List.replicate 3 (.step 1 (answer ⟨2, some true, 2⟩ time))

def fenced : ControllerSnapshot where
  shadowVersion := 3
  verifiedAt := 110
  lastError := "automation disabled"
  state := ⟨⟨2, 2, 100, true, true, some ⟨"x", 100, 3100⟩⟩, some ⟨"x", "x", "1.0.0", "exact", "", .stopping⟩⟩

theorem late_survives :
    Survives ((controllers ℕ host).interleaving.run (poolOf ℕ { shadow := defaultAgentShadow })
      (draining ⟨120, by decide⟩)).shared fenced 120 110 :=
  saved_survives host defaultAgentShadow { shadowVersion := 1 } (by decide +kernel) rfl rfl (draining ⟨120, by decide⟩)
    (by decide +kernel) 1 fenced 120 110 (by decide +kernel) (by decide +kernel)

/-- Five seconds before the verification, the drain cannot save. -/
theorem early_refused :
    ((controllers ℕ host).interleaving.run (poolOf ℕ { shadow := defaultAgentShadow }) (draining ⟨105, by decide⟩)).due 1 =
        some (.save fenced 105 110) ∧
      controllerShadowPatch fenced 105 110 = .error "invalid controller shadow times or version" := by
  decide +kernel

theorem draining_serialized :
    NoneLost {} ((controllers ℕ host).interleaving.run (poolOf ℕ { shadow := defaultAgentShadow })
      (draining ⟨120, by decide⟩)).shared :=
  saves_serialized host defaultAgentShadow { shadowVersion := 1 } (by decide +kernel) (draining ⟨120, by decide⟩)

end runs

end ShadowPersistence
end Txing.Agent
