import Txing.Agent.SharedShadow

/-! The controller never terminates a MicroVM that it still assigns. A run that is stopping stays so until it is gone, it
never comes back, and its MicroVM is its own; so what a program has found out about a MicroVM before it terminates it is
still true then and ever after. -/

namespace Txing.Agent.TerminationSafety
open Txing.Library

/-- The MicroVM has lost its run: it was launched for a run that is stopping or gone. -/
def Gone (vm : String → String) (cloud : Cloud) (held : ControllerSnapshot) (id : String) : Prop :=
  ∃ runId ∈ cloud.used, vm runId = id ∧ ∀ run, held.state.run = some run → run.runId = runId → run.phase = .stopping

/-- A run that the shadow has held, with its own MicroVM if it has one. -/
def Own (vm : String → String) (cloud : Cloud) (snapshot : ControllerSnapshot) : Prop :=
  ∀ run, snapshot.state.run = some run → run.runId ∈ cloud.used ∧ (run.microvmId ≠ "" → vm run.runId = run.microvmId)

structure Truthful (vm : String → String) (cloud : Cloud) (held : ControllerSnapshot) (kept : Ledger) : Prop where
  reads : ∀ read ∈ kept.reads, Own vm cloud read
  known : ∀ pair ∈ kept.known, pair.1 ∈ cloud.used ∧ vm pair.1 = pair.2
  saved : ∀ snapshot, kept.saved = some snapshot → Own vm cloud snapshot
  safe : ∀ id ∈ kept.safe, Gone vm cloud held id
  foreign : ∀ id ∈ kept.foreign, ∀ runId, vm runId ≠ id
  listed : kept.unlisted = false

structure Parted {Name : Type} (vm : String → String) (cloud : Cloud) (held : ControllerSnapshot)
    (ledgers : Name → Ledger) : Prop where
  own : Own vm cloud held
  launched : ∀ runId ∈ cloud.launched, runId ∈ cloud.used
  truthful : ∀ name, Truthful vm cloud held (ledgers name)
  terminated : ∀ id ∈ cloud.terminated, Gone vm cloud held id ∨ ∀ runId, vm runId ≠ id

/-- What the surroundings keep to. `vm` is the MicroVM that a run of this Thing is launched with, however often it is
launched. A runtime that tells its identity tells the run that it was launched for, and the registry knows the Thing. -/
structure Honest (thing : String) (vm : String → String) (launched : List String) (answer : Answer) : Prop where
  launches : ∀ run launched, answer.reply (.launch run) = .ok launched → launched.id = vm run.runId
  names : ∀ id status owner runId, answer.reply (.status id) = .ok status → runtimeIdentity id status = some (owner, runId) →
    if owner = thing then runId ∈ launched ∧ vm runId = id else ∀ own, vm own ≠ id
  listed : answer.reply .capability ≠ .ok none

/-- The identity of a new reservation that is saved has never been in the shadow. A save for another version is refused,
whatever it holds. -/
def fresh (cloud : Cloud) : ControllerCall → Bool
  | .save snapshot _ _ =>
    snapshot.shadowVersion ≠ cloud.shadow.version || snapshot.state.run.all fun run =>
      run.phase ≠ .reserved || run.microvmId ≠ "" || run.runId ∉ cloud.used ||
        match parseControllerShadow cloud.shadow.document with
        | .ok held => held.state.run = some run
        | .error _ => false
  | _ => true

section surroundings
variable {Name : Type} (pool : Pool Cloud (fun _ : Name => Operation) ControllerReply Unit)

def Fresh : PoolEvent (fun _ : Name => Operation) Answer → Prop
  | .begin _ _ => True
  | .step name _ => ∀ request ∈ pool.due name, fresh pool.shared request = true

instance decidableFresh (event : PoolEvent (fun _ : Name => Operation) Answer) : Decidable (Fresh pool event) :=
  match event with
  | .begin _ _ => isTrue trivial
  | .step name _ => inferInstanceAs (Decidable (∀ request ∈ pool.due name, fresh pool.shared request = true))

def Faithful (thing : String) (vm : String → String) (event : PoolEvent (fun _ : Name => Operation) Answer) : Prop :=
  (∀ name answer, event = .step name answer → Honest thing vm pool.shared.launched answer) ∧ Fresh pool event

end surroundings

section stable
variable {vm : String → String} {cloud next : Cloud} {held after : ControllerSnapshot} {kept : Ledger} {id : String}

/-- A step keeps the runs that were used, and one of them that is stopping or gone stays so. -/
structure Later (cloud : Cloud) (held : ControllerSnapshot) (next : Cloud) (after : ControllerSnapshot) : Prop where
  used : ∀ runId ∈ cloud.used, runId ∈ next.used
  stays : ∀ runId ∈ cloud.used, (∀ run, held.state.run = some run → run.runId = runId → run.phase = .stopping) →
    ∀ run, after.state.run = some run → run.runId = runId → run.phase = .stopping

variable (later : Later cloud held next after)
include later

theorem Later.gone (gone : Gone vm cloud held id) : Gone vm next after id := by
  obtain ⟨runId, used, same, stopping⟩ := gone
  exact ⟨runId, later.used runId used, same, later.stays runId used stopping⟩

theorem Later.own {snapshot : ControllerSnapshot} (own : Own vm cloud snapshot) : Own vm next snapshot :=
  fun run found => ⟨later.used _ (own run found).1, (own run found).2⟩

theorem Later.truthful (truthful : Truthful vm cloud held kept) : Truthful vm next after kept where
  reads read known := later.own (truthful.reads read known)
  known pair member := ⟨later.used _ (truthful.known pair member).1, (truthful.known pair member).2⟩
  saved snapshot saved := later.own (truthful.saved snapshot saved)
  safe id member := later.gone (truthful.safe id member)
  foreign := truthful.foreign
  listed := truthful.listed

omit later

theorem Later.refl (used : next.used = cloud.used) (same : after.state = held.state) : Later cloud held next after := by
  refine ⟨fun runId member => used ▸ member, ?_⟩
  intro runId _ stopping run found
  rw [same] at found
  exact stopping run found

theorem Truthful.belongs (truthful : Truthful vm cloud held kept) {runId : String} (known : kept.Known runId id) :
    vm runId = id := by
  obtain pair | ⟨read, member, run, found, rfl, rfl, named⟩ := known
  · exact (truthful.known _ pair).2
  · exact (truthful.reads read member run found).2 named

/-- Only what has lost its run, or never had one here, is terminated. -/
theorem Truthful.terminable (truthful : Truthful vm cloud held kept) (terminable : kept.Terminable id) :
    Gone vm cloud held id ∨ ∀ runId, vm runId ≠ id := by
  obtain safe | foreign | unlisted | ⟨runId, first, second, one, two, apart⟩ := terminable
  · exact .inl (truthful.safe id safe)
  · exact .inr (truthful.foreign id foreign)
  · rw [truthful.listed] at unlisted
    cases unlisted
  · exact absurd ((truthful.belongs one).symm.trans (truthful.belongs two)) apart

end stable

section saving
variable {vm : String → String} {cloud : Cloud} {held snapshot : ControllerSnapshot} {kept : Ledger} {now verifiedAt : ℤ}
  {time : Stamp}

theorem used_saving {runId : String} (used : runId ∈ cloud.used) :
    runId ∈ (cloud.saving snapshot now verifiedAt time).used := by
  show runId ∈ snapshot.state.run.elim cloud.used _
  cases snapshot.state.run with
  | none => exact used
  | some run => exact List.mem_cons_of_mem _ used

/-- A run that was used stays stopped through a save, since only a run with a new identity is reserved. -/
theorem later_saving (writes : Writes kept.Known held snapshot now)
    (fresh : ∀ run, snapshot.state.run = some run → run.phase = .reserved → run.microvmId = "" → held.state.run ≠ some run →
      run.runId ∉ cloud.used) {version : ℤ} :
    Later cloud held (cloud.saving snapshot now verifiedAt time) (snapshot.persisted held version now verifiedAt) := by
  refine ⟨fun runId => used_saving, ?_⟩
  intro runId used stopping run found mine
  replace found : snapshot.state.run = some run := found
  have moved := writes.run
  rw [found] at moved
  generalize before : held.state.run = old at moved
  cases moved with
  | kept => exact stopping run before mine
  | stopped earlier => rfl
  | @identified earlier id phase _ _ _ step =>
    obtain ended | ⟨moving, -⟩ := step
    · exact ended
    · exact absurd (stopping earlier before mine) moving
  | reserved _ reserved =>
    by_cases same : held.state.run = some run
    · exact stopping run same mine
    · exact absurd (mine ▸ used) (fresh run found reserved.phase reserved.unknown same)

theorem own_saving (own : Own vm cloud held) (truthful : Truthful vm cloud held kept)
    (writes : Writes kept.Known held snapshot now) : Own vm (cloud.saving snapshot now verifiedAt time) snapshot := by
  intro run found
  have member : run.runId ∈ (cloud.saving snapshot now verifiedAt time).used := by
    show run.runId ∈ snapshot.state.run.elim cloud.used _
    rw [found]
    exact List.mem_cons_self
  refine ⟨member, ?_⟩
  intro named
  have moved := writes.run
  rw [found] at moved
  generalize before : held.state.run = old at moved
  cases moved with
  | kept => exact (own run before).2 named
  | stopped earlier => exact (own earlier before).2 named
  | identified belongs => exact truthful.belongs belongs
  | reserved _ reserved => exact absurd reserved.unknown named

end saving

section noting
variable {vm : String → String} {thing : String} {cloud : Cloud} {held : ControllerSnapshot} {kept : Ledger}
  (truthful : Truthful vm cloud held kept)
include truthful

theorem Truthful.reading (own : Own vm cloud held) : Truthful vm cloud held (kept.reading held) := by
  refine { truthful with reads := ?_, safe := ?_ }
  · intro read known
    obtain rfl | known := List.mem_cons.mp known
    · exact own
    · exact truthful.reads read known
  · intro id member
    obtain gone | member := List.mem_append.mp member
    · obtain ⟨pair, listed, rfl⟩ := List.mem_map.mp gone
      obtain ⟨listed, absent⟩ := List.mem_filter.mp listed
      obtain ⟨used, same⟩ := truthful.known pair listed
      refine ⟨pair.1, used, same, ?_⟩
      intro run found mine
      rw [found] at absent
      exact absurd mine (of_decide_eq_true absent)
    · exact truthful.safe id member

theorem Truthful.saving {snapshot : ControllerSnapshot}
    (own : Own vm cloud snapshot) (same : held.state = snapshot.state) : Truthful vm cloud held (kept.saving snapshot) := by
  refine { truthful with saved := ?_, safe := ?_ }
  · rintro _ ⟨⟩
    exact own
  · intro id member
    obtain fenced | member := List.mem_append.mp member
    · unfold ControllerSnapshot.fenced at fenced
      split at fenced
      next => cases fenced
      next run found =>
        split at fenced
        next stopping =>
          obtain rfl := List.mem_singleton.mp fenced
          refine ⟨run.runId, (own run found).1, (own run found).2 stopping.2, ?_⟩
          intro current holds _
          rw [same, found] at holds
          cases holds
          exact stopping.1
        next => cases fenced
    · exact truthful.safe id member

theorem Truthful.identifying {id : String} {status : Json}
    (names : ∀ owner runId, runtimeIdentity id status = some (owner, runId) →
      if owner = thing then runId ∈ cloud.used ∧ vm runId = id else ∀ own, vm own ≠ id) :
    Truthful vm cloud held (kept.identifying thing id status) := by
  unfold Ledger.identifying
  split
  next => exact truthful
  next owner runId identity =>
    have told := names owner runId identity
    split
    next mine =>
      rw [if_pos mine] at told
      refine { truthful with known := ?_ }
      intro pair member
      obtain rfl | member := List.mem_cons.mp member
      · exact told
      · exact truthful.known pair member
    next other =>
      rw [if_neg other] at told
      refine { truthful with foreign := ?_ }
      intro id member
      obtain rfl | member := List.mem_cons.mp member
      · exact told
      · exact truthful.foreign id member

theorem Truthful.launching {runId id : String} (used : runId ∈ cloud.used)
    (same : vm runId = id) : Truthful vm cloud held { kept with known := (runId, id) :: kept.known } := by
  refine { truthful with known := ?_ }
  intro pair member
  obtain rfl | member := List.mem_cons.mp member
  · exact ⟨used, same⟩
  · exact truthful.known pair member

end noting

section steps
variable {Name : Type} [DecidableEq Name] {vm : String → String} {thing : String} {cloud next : Cloud}
  {held after : ControllerSnapshot} {ledgers : Name → Ledger} {name : Name}
  {pool : Pool Cloud (fun _ : Name => Operation) ControllerReply Unit} {kept : Ledger}

theorem Parted.move (parted : Parted vm cloud held ledgers) (later : Later cloud held next after) (own : Own vm next after)
    (launched : ∀ runId ∈ next.launched, runId ∈ next.used)
    (terminated : ∀ id ∈ next.terminated, id ∈ cloud.terminated ∨ Gone vm next after id ∨ ∀ runId, vm runId ≠ id)
    (truthful : Truthful vm next after kept) : Parted vm next after (Function.update ledgers name kept) where
  own := own
  launched := launched
  truthful other := by
    by_cases same : other = name
    · subst same
      rw [Function.update_self]
      exact truthful
    · rw [Function.update_of_ne same]
      exact later.truthful (parted.truthful other)
  terminated id member := by
    obtain member | fine := terminated id member
    · exact (parted.terminated id member).imp later.gone fun apart => apart
    · exact fine

theorem Parted.still (parted : Parted vm cloud held ledgers) (truthful : Truthful vm cloud held kept) :
    Parted vm cloud held (Function.update ledgers name kept) :=
  parted.move (.refl rfl rfl) parted.own parted.launched (fun _ member => .inl member) truthful

omit [DecidableEq Name] in
theorem truthful_asked {answer : Answer} (honest : Honest thing vm pool.shared.launched answer)
    (launched : ∀ runId ∈ pool.shared.launched, runId ∈ pool.shared.used) (truthful : Truthful vm pool.shared held kept)
    {request : ControllerCall} (apart : request.served = false) {reply : ControllerReply request}
    (replied : reply = answer.reply request) :
    Truthful vm pool.shared held ((ledger thing).after kept ⟨request, reply⟩) := by
  cases reply with
  | error => exact truthful
  | ok value =>
    cases request with
    | status id =>
      apply truthful.identifying
      intro owner runId identity
      have told := honest.names id value owner runId replied.symm identity
      split at told
      next mine =>
        rw [if_pos mine]
        exact ⟨launched runId told.1, told.2⟩
      next other =>
        rw [if_neg other]
        exact told
    | capability =>
      cases value with
      | none => exact absurd replied.symm honest.listed
      | some supported => exact truthful
    | clock => exact ⟨truthful.reads, truthful.known, truthful.saved, truthful.safe, truthful.foreign, truthful.listed⟩
    | projection => exact ⟨truthful.reads, truthful.known, truthful.saved, truthful.safe, truthful.foreign, truthful.listed⟩
    | read => cases apart
    | agentShadow => cases apart
    | save => cases apart
    | publish => cases apart
    | launch => cases apart
    | terminate => cases apart
    | _ => exact truthful

theorem Parted.step {answer : Answer} {request : ControllerCall} {reply : ControllerReply request}
    (faithful : Faithful pool thing vm (.step name answer)) (due : pool.due name = some request)
    (sound : Sound pool.shared held ledgers) (parted : Parted vm pool.shared held ledgers)
    (allowed : (ledgers name).allows request)
    (step : Step pool.shared held (ledgers name) answer request next reply after) :
    Parted vm next after (Function.update ledgers name ((ledger thing).after (ledgers name) ⟨request, reply⟩)) := by
  have truthful := parted.truthful name
  cases step with
  | asked apart replied => exact parted.still (truthful_asked (faithful.1 name answer rfl) parted.launched truthful apart replied)
  | failed => exact parted.still truthful
  | read => exact parted.still (truthful.reading parted.own)
  | seen => exact parted.still (truthful.reading parted.own)
  | refused => exact parted.still truthful
  | unpublished => exact parted.still truthful
  | @saved snapshot now verifiedAt reply writes positive verified fits =>
    have fresh (run : RunReservation) (found : snapshot.state.run = some run) (reserved : run.phase = .reserved)
        (unknown : run.microvmId = "") (new : held.state.run ≠ some run) : run.runId ∉ pool.shared.used := by
      have fresh := faithful.2 _ due
      have current : snapshot.shadowVersion = pool.shared.shadow.version :=
        writes.version.trans (legal_of_document sound.holds).1
      unfold TerminationSafety.fresh at fresh
      dsimp only at fresh
      rw [found, sound.holds] at fresh
      simpa [current, reserved, unknown, new] using fresh
    have later : Later pool.shared held (pool.shared.saving snapshot now verifiedAt answer.time)
      (snapshot.persisted held (pool.shared.shadow.version + 1) now verifiedAt) := later_saving writes fresh
    have own : Own vm (pool.shared.saving snapshot now verifiedAt answer.time) snapshot := own_saving parted.own truthful writes
    have still := later.truthful truthful
    apply parted.move later own
    · exact fun runId member => used_saving (parted.launched runId member)
    · exact fun _ member => .inl member
    · cases reply with
      | error => exact still
      | ok saved =>
        cases saved with
        | false => exact still
        | true => exact still.saving own rfl
  | @published snapshot endpoint runtime reply fits =>
    have later : Later pool.shared held (pool.shared.publishing pool.shared.shadow.version endpoint runtime answer.time)
      { held with shadowVersion := pool.shared.shadow.version + 1 } := .refl rfl rfl
    apply parted.move later (later.own parted.own) parted.launched (fun _ member => .inl member)
    cases reply <;> exact later.truthful truthful
  | @launched run reply replied =>
    obtain ⟨snapshot, activation, observation, time, fenced⟩ := allowed
    have used := (truthful.saved snapshot fenced.saved run fenced.holds).1
    have later : Later pool.shared held { pool.shared with launched := run.runId :: pool.shared.launched } held := .refl rfl rfl
    apply parted.move later (later.own parted.own) _ (fun _ member => .inl member)
    · cases reply with
      | error => exact later.truthful truthful
      | ok launched =>
        exact (later.truthful truthful).launching used ((faithful.1 name answer rfl).launches run launched replied.symm).symm
    · intro runId member
      obtain rfl | member := List.mem_cons.mp member
      · exact used
      · exact parted.launched runId member
  | @terminated id reply =>
    have later : Later pool.shared held { pool.shared with terminated := id :: pool.shared.terminated } held := .refl rfl rfl
    apply parted.move later (later.own parted.own) parted.launched
    · intro other member
      obtain rfl | member := List.mem_cons.mp member
      · exact .inr ((truthful.terminable allowed).imp later.gone fun apart => apart)
      · exact .inl member
    · cases reply <;> exact later.truthful truthful

end steps

theorem truthful_new {vm : String → String} {cloud : Cloud} {held : ControllerSnapshot} : Truthful vm cloud held {} where
  reads _ known := absurd known List.not_mem_nil
  known _ member := absurd member List.not_mem_nil
  saved _ saved := by cases saved
  safe _ member := absurd member List.not_mem_nil
  foreign _ member := absurd member List.not_mem_nil
  listed := rfl

/-- In every interleaving of any number of operations of the controller over the shadow of a Thing, a MicroVM whose
termination was ever requested is not the one of a run that the shadow holds, unless that run is stopping. -/
theorem terminated_unassigned {Name : Type} [DecidableEq Name] (host : Host) (vm : String → String)
    (injective : Function.Injective vm) (cloud : Cloud) (held : ControllerSnapshot)
    (holds : parseControllerShadow cloud.shadow.document = .ok held) (own : Own vm cloud held)
    (launched : ∀ runId ∈ cloud.launched, runId ∈ cloud.used) (unterminated : cloud.terminated = [])
    (events : List (PoolEvent (fun _ : Name => Operation) Answer))
    (along : (controllers Name host).interleaving.Along (fun pool => Faithful pool host.thing vm) (poolOf Name cloud) events) :
    ∃ held, parseControllerShadow
        ((controllers Name host).interleaving.run (poolOf Name cloud) events).shared.shadow.document = .ok held ∧
      ∀ run, held.state.run = some run → run.microvmId ≠ "" →
        run.microvmId ∈ ((controllers Name host).interleaving.run (poolOf Name cloud) events).shared.terminated →
        run.phase = .stopping := by
  have start : Parted vm cloud held fun _ : Name => {} := by
    refine ⟨own, launched, fun _ => truthful_new, ?_⟩
    rw [unterminated]
    exact fun _ member => absurd member List.not_mem_nil
  obtain ⟨held, sound, parted⟩ := run_sound Name host (fun pool => Faithful pool host.thing vm) (Parted vm)
    (fun _ _ _ _ parted => parted.still truthful_new)
    (fun pool name answer request reply next held after ledgers faithful due sound parted allowed step =>
      parted.step faithful due sound allowed step)
    holds start along
  refine ⟨held, sound.holds, ?_⟩
  intro run found named called
  have mine := (parted.own run found).2 named
  obtain ⟨runId, -, same, stopping⟩ | apart := parted.terminated run.microvmId called
  · exact stopping run found (injective (mine.trans same.symm))
  · exact absurd mine (apart run.runId)

section runs

def host : Host := ⟨"lamp", fun _ _ _ _ => .error "no sample"⟩

def assigned : ControllerSnapshot where
  shadowVersion := 1
  verifiedAt := 110
  state := ⟨⟨2, 2, 100, true, true, some ⟨"a", 100, 3100⟩⟩, some ⟨"r", "a", "1.0.0", "exact", "r", .running⟩⟩

def cloud : Cloud where
  shadow := defaultAgentShadow.merge (updateOf 1 (assigned.reportedPatch 110 110)) ⟨110, by decide⟩
  used := ["r"]
  launched := ["r"]

def status : Json := .object (fieldsOf [("thingId", .string "lamp"), ("runId", .string "r"), ("microvmId", .string "r")])

/-- The device is seen inactive, and its MicroVM runs. -/
def replies (capability : Option Bool) (told : Except String Json) : (request : ControllerCall) → ControllerReply request
  | .steady => .ok (0 : ℤ)
  | .supported => .ok (some true)
  | .projection => .ok (some ⟨3, some false, 3⟩)
  | .get id => .ok ⟨id, "RUNNING"⟩
  | .status _ => told
  | .capability => .ok capability
  | .seconds => .ok ⟨120, by decide⟩
  | _ => .error "unavailable"

def answer (capability : Option Bool) (told : Except String Json) : Answer :=
  ⟨replies capability told, .answered, ⟨120, by decide⟩⟩

def stopping : List (PoolEvent (fun _ : ℕ => Operation) Answer) :=
  .begin 0 (.reconcile ⟨⟨120, by decide⟩, "1.0.0", 3000⟩) :: List.replicate 7 (.step 0 (answer (some true) (.error "unavailable")))

/-- The orphan check of the same MicroVM, for a Thing that the registry does not know. -/
def unlisted : List (PoolEvent (fun _ : ℕ => Operation) Answer) :=
  .begin 0 (.terminateConfirmedOrphan "r") :: List.replicate 5 (.step 0 (answer none (.ok status)))

/-- It is stopped by a pass that sees the device inactive. -/
theorem stopping_unassigned : ∃ held, parseControllerShadow
      ((controllers ℕ host).interleaving.run (poolOf ℕ cloud) stopping).shared.shadow.document = .ok held ∧
    ∀ run, held.state.run = some run → run.microvmId ≠ "" →
      run.microvmId ∈ ((controllers ℕ host).interleaving.run (poolOf ℕ cloud) stopping).shared.terminated →
      run.phase = .stopping := by
  apply terminated_unassigned host id Function.injective_id cloud { assigned with shadowVersion := 2 } (by decide +kernel)
  · rintro _ ⟨⟩
    decide
  · exact fun _ member => member
  · rfl
  · apply Reaction.along_and
    · apply Reaction.along_of_forall
      rintro event member pool name answer rfl
      have same : name = 0 ∧ answer = TerminationSafety.answer (some true) (.error "unavailable") := by
        simpa [stopping, List.mem_replicate] using member
      obtain ⟨-, rfl⟩ := same
      exact ⟨nofun, nofun, nofun⟩
    · decide +kernel

/-- Its termination is requested although it is still assigned. -/
theorem unlisted_assigned :
    ((controllers ℕ host).interleaving.run (poolOf ℕ cloud) unlisted).shared.terminated = ["r"] ∧
      (parseControllerShadow ((controllers ℕ host).interleaving.run (poolOf ℕ cloud) unlisted).shared.shadow.document) =
        .ok { assigned with shadowVersion := 2 } := by
  decide +kernel

end runs
end Txing.Agent.TerminationSafety
