import Txing.CloudMcu.TaskCalls

/-! How a tick that powers the device on comes to the one task it keeps: it lists the tasks, launches one of its
own when there is none, and stops every other task that its last list has shown. -/

namespace Txing.CloudMcu.TaskElection
open Txing.Library PowerShadow Handlers TaskCalls
open Txing.Rig.Sparkplug (Payload)
open Process (attempts_bind attempts_done attempts_pure only_attempt only_pure)

/-- The task to keep: the first of those wanted that was found, and without such a one the first of all. -/
def Elected (wanted found : List String) (kept : String) : Prop :=
  kept ∈ found ∧
    match wanted.find? (· ∈ found) with
    | some preferred => kept = preferred
    | none => ∀ other ∈ found, kept ≤ other

section election
variable {wanted found : List String} {kept other : String}

theorem Elected.unique (one : Elected wanted found kept) (two : Elected wanted found other) : kept = other := by
  obtain ⟨member, first⟩ := one
  obtain ⟨member', first'⟩ := two
  split at first
  next preferred chosen =>
    rw [chosen] at first'
    exact first.trans first'.symm
  next none =>
    rw [none] at first'
    exact String.le_antisymm (first other member') (first' kept member)

/-- Two ticks that want the same task do not keep two tasks that both have found. -/
theorem Elected.agree {others : List String} (one : Elected wanted found kept) (two : Elected wanted others other)
    (here : other ∈ found) (there : kept ∈ others) (few : wanted.length ≤ 1) : kept = other := by
  match wanted, few with
  | [], _ => exact String.le_antisymm (one.2 other here) (two.2 kept there)
  | [wish], _ =>
    obtain ⟨member, first⟩ := one
    obtain ⟨member', first'⟩ := two
    by_cases inFound : wish ∈ found <;> by_cases inOthers : wish ∈ others <;>
      simp only [List.find?_cons, List.find?_nil, inFound, inOthers, decide_true, decide_false] at first first'
    · exact first.trans first'.symm
    · exact absurd (first ▸ there) inOthers
    · exact absurd (first' ▸ here) inFound
    · exact String.le_antisymm (first other here) (first' kept there)

theorem Elected.congr {others : List String} (same : ∀ arn, arn ∈ found ↔ arn ∈ others) :
    Elected wanted found kept ↔ Elected wanted others kept := by
  simp only [Elected, same]

end election

section choice

theorem pairwise_sortTasks (tasks : List EcsTaskState) :
    (sortTasks tasks).Pairwise fun one other => one.taskARN ≤ other.taskARN := by
  have : Std.Total fun one other : EcsTaskState => one.taskARN ≤ other.taskARN := ⟨fun _ _ => String.le_total _ _⟩
  have : IsTrans _ fun one other : EcsTaskState => one.taskARN ≤ other.taskARN := ⟨fun _ _ _ => String.le_trans⟩
  exact List.pairwise_insertionSort _ _

def keepIndex (trackedTaskARN : String) (active : List EcsTaskState) : ℕ :=
  if trackedTaskARN ≠ "" then ((sortTasks active).findIdx? fun task => task.taskARN = trackedTaskARN).getD 0 else 0

def arns (tasks : List EcsTaskState) : List String := tasks.map (·.taskARN)

variable {trackedTaskARN : String} {active : List EcsTaskState} {task : EcsTaskState}

theorem arns_sortTasks (arn : String) : arn ∈ arns (sortTasks active) ↔ arn ∈ arns active := by
  simp only [arns, sortTasks, List.mem_map, List.mem_insertionSort]

theorem containsTask_iff (tasks : List EcsTaskState) (arn : String) : containsTask tasks arn = true ↔ arn ∈ arns tasks := by
  simp only [containsTask, arns, List.any_eq_true, List.mem_map, decide_eq_true_eq]

theorem keepIndex_lt (trackedTaskARN : String) (some : active ≠ []) :
    keepIndex trackedTaskARN active < (sortTasks active).length := by
  have positive : 0 < (sortTasks active).length := by
    rw [sortTasks, List.length_insertionSort]
    exact List.length_pos_iff.mpr some
  unfold keepIndex
  split
  · cases found : (sortTasks active).findIdx? fun task => task.taskARN = trackedTaskARN with
    | none => exact positive
    | some index => exact (List.findIdx?_eq_some_iff_getElem.mp found).1
  · exact positive

theorem elected_keepIndex (kept : (sortTasks active)[keepIndex trackedTaskARN active]? = some task) :
    Elected ([trackedTaskARN].filter (· ≠ "")) (arns active) task.taskARN := by
  have member : task.taskARN ∈ arns active :=
    (arns_sortTasks _).mp (List.mem_map_of_mem (List.mem_of_getElem? kept))
  have least (zero : keepIndex trackedTaskARN active = 0) : ∀ other ∈ arns active, task.taskARN ≤ other := by
    intro other inside
    rw [zero] at kept
    obtain ⟨rest, sorted⟩ : ∃ rest, sortTasks active = task :: rest := by
      cases same : sortTasks active with
      | nil => simp [same] at kept
      | cons head rest =>
        rw [same, List.getElem?_cons_zero] at kept
        cases kept
        exact ⟨rest, rfl⟩
    have order := pairwise_sortTasks active
    rw [sorted, List.pairwise_cons] at order
    have inside := (arns_sortTasks _).mpr inside
    rw [sorted] at inside
    obtain ⟨one, among, rfl⟩ := List.mem_map.mp inside
    obtain rfl | among := List.mem_cons.mp among
    · exact String.le_refl _
    · exact order.1 one among
  refine ⟨member, ?_⟩
  by_cases blank : trackedTaskARN = ""
  · subst blank
    exact least rfl
  by_cases present : trackedTaskARN ∈ arns active
  · simp only [List.filter_cons, blank, ne_eq, not_false_eq_true, decide_true, if_true, List.filter_nil,
      List.find?_cons, present]
    obtain ⟨index, found⟩ : ∃ index, (sortTasks active).findIdx? (fun task => task.taskARN = trackedTaskARN) = some index := by
      rw [← Option.isSome_iff_exists, List.findIdx?_isSome, List.any_eq_true]
      obtain ⟨one, inside, same⟩ := List.mem_map.mp ((arns_sortTasks _).mpr present)
      exact ⟨one, inside, decide_eq_true same⟩
    obtain ⟨bound, same, -⟩ := List.findIdx?_eq_some_iff_getElem.mp found
    rw [keepIndex, if_pos blank, found, Option.getD_some, List.getElem?_eq_getElem bound] at kept
    cases kept
    exact of_decide_eq_true same
  · simp only [List.filter_cons, blank, ne_eq, not_false_eq_true, decide_true, if_true, List.filter_nil,
      List.find?_cons, present, decide_false, List.find?_nil]
    apply least
    have absent : (sortTasks active).findIdx? (fun task => task.taskARN = trackedTaskARN) = none := by
      rw [List.findIdx?_eq_none_iff]
      intro one inside
      apply decide_eq_false
      rintro rfl
      exact present ((arns_sortTasks _).mp (List.mem_map_of_mem inside))
    rw [keepIndex, if_pos blank, absent, Option.getD_none]

theorem mem_erased (distinct : (arns active).Nodup)
    (kept : (sortTasks active)[keepIndex trackedTaskARN active]? = some task) (arn : String) :
    arn ∈ arns ((sortTasks active).eraseIdx (keepIndex trackedTaskARN active)) ↔ arn ∈ arns active ∧ arn ≠ task.taskARN := by
  have distinct : (arns (sortTasks active)).Nodup :=
    ((List.perm_insertionSort _ active).map _).nodup_iff.mpr distinct
  have listed : arn ∈ arns active ↔ arn ∈ arns (sortTasks active) := (arns_sortTasks arn).symm
  rw [listed]
  clear listed
  generalize sortTasks active = sorted at *
  generalize keepIndex trackedTaskARN active = index at *
  constructor
  · intro erased
    obtain ⟨one, inside, rfl⟩ := List.mem_map.mp erased
    obtain ⟨place, apart, there⟩ := List.mem_eraseIdx_iff_getElem?.mp inside
    refine ⟨List.mem_map_of_mem (List.mem_of_getElem? there), ?_⟩
    intro same
    apply apart
    have bound : place < (arns sorted).length := by
      simpa only [arns, List.length_map] using (List.getElem?_eq_some_iff.mp there).1
    apply (List.getElem?_inj bound distinct).mp
    simp only [arns, List.getElem?_map, there, kept, Option.map_some, same]
  · rintro ⟨inside, apart⟩
    obtain ⟨one, among, rfl⟩ := List.mem_map.mp inside
    obtain ⟨place, there⟩ := List.mem_iff_getElem?.mp among
    apply List.mem_map_of_mem
    refine List.mem_eraseIdx_iff_getElem?.mpr ⟨place, ?_, there⟩
    rintro rfl
    rw [kept] at there
    cases there
    exact apart rfl

end choice

/-- What a tick has come to: the power state it has read, the task it has launched, the active tasks that its
last list has shown (its own one among them), and those it has stopped. -/
structure Round where
  read : Option PowerState := none
  launched : Option EcsTaskState := none
  found : Option (List String) := none
  stopped : List String := []

namespace Round
variable (round : Round)

def tracked : Option String := round.read.bind (·.ecsTaskARN)

def wanted : List String :=
  round.tracked.toList ++ (arns round.launched.toList).filter (· ≠ "")

def Elects (kept : String) : Prop :=
  ∃ found, round.found = some found ∧ Elected round.wanted found kept

def Awake : Prop := ∀ power, round.read = some power → power.desiredRedcon = redconWakeup

/-- It has elected a task, unless the one it has launched was not active. -/
def Concludes : Prop :=
  round.Awake → (∃ kept, round.Elects kept) ∨ ∃ task, round.launched = some task ∧ task.isActive = false

def listed (tasks : List EcsTaskState) : Round :=
  { round with found := some (arns ((tasks ++ round.launched.toList).filter (·.isActive))) }

def described (task : Option EcsTaskState) : Round :=
  { round with found := round.found.map fun found =>
      found ++ (arns (task.toList.filter (·.isActive))).filter (· ∉ found) }

def after : (request : AwsCall) → request.Value → Round
  | .getThingShadow _, document => { round with read := some (powerStateFromShadow document) }
  | .listDeviceTasks _, tasks => round.listed tasks
  | .describeTask _, task => round.described task
  | .runTask _ _, task => { round with launched := some task, found := none }
  | .stopTask taskARN, _ => { round with stopped := taskARN :: round.stopped }
  | _, _ => round

def Fits : AwsCall → Prop
  | .getThingShadow _ => round.read = none
  | .listDeviceTasks _ => round.read ≠ none ∧ round.found = none
  | .describeTask taskARN => round.found ≠ none ∧
      if round.launched.isSome then taskARN ∈ arns round.launched.toList else round.tracked = some taskARN
  | .runTask _ _ => round.found = some [] ∧ round.launched = none
  | .stopTask taskARN => ∃ kept found, round.found = some found ∧ round.Elects kept ∧ taskARN ∈ found ∧ taskARN ≠ kept
  | .updateThingShadow _ update => ∃ power found, update = PowerState.shadowUpdate power ∧
      power.desiredRedcon = redconWakeup ∧ round.Concludes ∧ round.found = some found ∧
      (∀ taskARN ∈ found, taskARN ∈ round.stopped ∨ round.Elects taskARN) ∧
      ∀ kept, power.ecsTaskARN = some kept → round.Elects kept
  | _ => True

theorem Elects.unique {round : Round} {kept other : String} (one : round.Elects kept) (two : round.Elects other) :
    kept = other := by
  obtain ⟨found, listed, elected⟩ := one
  obtain ⟨found', listed', elected'⟩ := two
  cases listed.symm.trans listed'
  exact elected.unique elected'

theorem Elects.member {round : Round} {kept : String} {found : List String} (elects : round.Elects kept)
    (listed : round.found = some found) : kept ∈ found := by
  obtain ⟨found', listed', elected⟩ := elects
  cases listed.symm.trans listed'
  exact elected.1

end Round

def electing : Process.Tracker AwsReply Round where
  start := {}
  after
    | round, ⟨request, .ok value⟩ => round.after request value
    | round, ⟨_, .error _⟩ => round
  allows round request := round.Awake → round.Fits request

section programs
variable {α β : Type} {before : Round → Prop}

/-- From the rounds before it, the program keeps the promise and ends as said, unless a call fails. -/
abbrev Proceeds (before : Round → Prop) (program : Aws α) (ends : α → Round → Prop) : Prop :=
  Process.Attempts electing (fun _ => True) before program ends

theorem proceeds_aws (request : AwsCall) {ends : request.Value → Round → Prop}
    (allowed : ∀ round, before round → round.Fits request)
    (follows : ∀ round, before round → ∀ value, ends value (round.after request value)) :
    Proceeds before (aws request) ends := by
  apply Process.tracks_ask
  · intro round met _
    exact allowed round met
  · intro round met reply
    cases reply with
    | error => trivial
    | ok value => exact follows round met value

theorem foldl_active (tasks found : List EcsTaskState) (distinct : (arns found).Nodup) :
    (arns (tasks.foldl (fun active task =>
      if task.isActive && !containsTask active task.taskARN then active ++ [task] else active) found)).Nodup ∧
    ∀ arn, arn ∈ arns (tasks.foldl (fun active task =>
      if task.isActive && !containsTask active task.taskARN then active ++ [task] else active) found) ↔
        arn ∈ arns found ∨ arn ∈ arns (tasks.filter (·.isActive)) := by
  induction tasks generalizing found with
  | nil => exact ⟨distinct, fun arn => by simp [arns]⟩
  | cons task rest ih =>
    rw [List.foldl_cons]
    by_cases active : task.isActive <;> by_cases present : task.taskARN ∈ arns found <;>
      have known := containsTask_iff found task.taskARN
    · rw [if_neg (by simp [known.mpr present])]
      refine ⟨(ih found distinct).1, fun arn => ((ih found distinct).2 arn).trans ?_⟩
      rw [List.filter_cons_of_pos active]
      constructor
      · exact Or.imp_right (List.mem_cons_of_mem _)
      · rintro (old | new)
        · exact Or.inl old
        · obtain rfl | new := List.mem_cons.mp new
          · exact Or.inl present
          · exact Or.inr new
    · have fresh : containsTask found task.taskARN = false := by
        rwa [← Bool.not_eq_true, known]
      rw [if_pos (by simp [active, fresh])]
      have longer : arns (found ++ [task]) = arns found ++ [task.taskARN] := List.map_append
      have wider : (arns (found ++ [task])).Nodup := by
        rw [longer]
        exact List.nodup_append.mpr ⟨distinct, List.nodup_singleton _, by
          rintro one inside _ (_ | ⟨_, ⟨⟩⟩) rfl
          exact present inside⟩
      refine ⟨(ih _ wider).1, fun arn => ((ih _ wider).2 arn).trans ?_⟩
      rw [List.filter_cons_of_pos active, longer, List.mem_append, List.mem_singleton, or_assoc]
      exact or_congr_right List.mem_cons.symm
    · rw [if_neg (by simp [active]), List.filter_cons_of_neg active]
      exact ih found distinct
    · rw [if_neg (by simp [active]), List.filter_cons_of_neg active]
      exact ih found distinct

section active
variable {round : Round} {trackedTaskARN : String}

def Round.Asks (round : Round) (trackedTaskARN : String) : Prop :=
  trackedTaskARN ≠ "" →
    if round.launched.isSome then trackedTaskARN ∈ arns round.launched.toList else round.tracked = some trackedTaskARN

/-- What is found is what is active of the tasks and of the tick's own. -/
def Shows (round : Round) (tasks : List EcsTaskState) (now : Round) : Prop :=
  ∃ found, now = { round with found := some found } ∧
    ∀ arn, arn ∈ found ↔ arn ∈ arns ((tasks ++ round.launched.toList).filter (·.isActive))

theorem proceeds_withTracked (tasks : List EcsTaskState) (asks : round.Asks trackedTaskARN) :
    Proceeds (Shows round tasks) (withTracked tasks trackedTaskARN) (Shows round) := by
  unfold withTracked
  split
  next missing =>
    have lookup : Proceeds (Shows round tasks) (describeTask trackedTaskARN)
        fun task => Shows round (tasks ++ task.toList) := by
      apply proceeds_aws (.describeTask trackedTaskARN)
      · rintro now ⟨found, rfl, -⟩
        exact ⟨nofun, asks missing.1⟩
      · rintro now ⟨found, rfl, same⟩ task
        refine ⟨_, rfl, ?_⟩
        intro arn
        have seen := same arn
        simp only [arns, List.filter_append, List.map_append, List.mem_append, List.mem_filter,
          decide_eq_true_eq] at seen ⊢
        tauto
    exact attempts_bind lookup fun task => attempts_pure fun _ met => met
  next present => exact attempts_pure fun _ met => met

def Finds (round : Round) (active : List EcsTaskState) (now : Round) : Prop :=
  (arns active).Nodup ∧ ∃ found, now = { round with found := some found } ∧
    ∀ arn, arn ∈ found ↔ arn ∈ arns active ∨ arn ∈ arns (round.launched.toList.filter (·.isActive))

theorem proceeds_activeDeviceTasks (thingName : String) (asks : round.Asks trackedTaskARN) (read : round.read ≠ none)
    (unlisted : round.found = none) :
    Proceeds (· = round) (activeDeviceTasks thingName trackedTaskARN) (Finds round) := by
  have list : Proceeds (· = round) (listDeviceTasks thingName) (Shows round) := by
    apply proceeds_aws (.listDeviceTasks thingName)
    · rintro now rfl
      exact ⟨read, unlisted⟩
    · rintro now rfl tasks
      exact ⟨_, rfl, fun _ => Iff.rfl⟩
  apply attempts_bind list
  intro tasks
  apply attempts_bind (proceeds_withTracked tasks asks)
  intro tasks
  apply attempts_pure
  rintro now ⟨found, rfl, same⟩
  obtain ⟨distinct, members⟩ := foldl_active tasks [] List.nodup_nil
  refine ⟨((List.perm_insertionSort _ _).map _).nodup_iff.mpr distinct, found, rfl, ?_⟩
  intro arn
  rw [same, arns_sortTasks, members, arns, List.filter_append, List.map_append, List.mem_append]
  exact or_congr_left (or_iff_right List.not_mem_nil).symm

end active

section keeping
variable {round : Round} {found : List String}

def Stopping (round : Round) (gone : List String) (now : Round) : Prop :=
  ∃ stopped, now = { round with stopped := stopped } ∧ ∀ arn ∈ gone, arn ∈ stopped

theorem proceeds_stopTasks (taskARNs gone : List String) (listed : round.found = some found) {kept : String}
    (elected : round.Elects kept) (others : ∀ arn ∈ taskARNs, arn ∈ found ∧ arn ≠ kept) :
    Proceeds (Stopping round gone) (stopTasks taskARNs) fun _ => Stopping round (gone ++ taskARNs) := by
  induction taskARNs generalizing gone with
  | nil =>
    rw [List.append_nil]
    exact attempts_done
  | cons taskARN rest ih =>
    have stop : Proceeds (Stopping round gone) (stopTask taskARN) fun _ => Stopping round (gone ++ [taskARN]) := by
      apply proceeds_aws (.stopTask taskARN)
      · rintro now ⟨stopped, rfl, -⟩
        exact ⟨kept, found, listed, elected, others taskARN List.mem_cons_self⟩
      · rintro now ⟨stopped, rfl, before⟩ _
        refine ⟨taskARN :: stopped, rfl, ?_⟩
        intro arn member
        obtain old | new := List.mem_append.mp member
        · exact List.mem_cons_of_mem _ (before arn old)
        · exact List.mem_singleton.mp new ▸ List.mem_cons_self
    apply attempts_bind stop
    intro _
    rw [List.append_cons gone taskARN rest]
    exact ih (gone ++ [taskARN]) fun arn member => others arn (List.mem_cons_of_mem _ member)

structure Keeping (round : Round) (kept : Option EcsTaskState) (now : Round) : Prop where
  same : ∃ stopped, now = { round with stopped := stopped }
  stopped : ∀ found, now.found = some found → ∀ arn ∈ found, arn ∈ now.stopped ∨ now.Elects arn
  chosen : ∀ task, kept = some task → now.Elects task.taskARN
  bare : kept = none → now.found = some []

theorem proceeds_keepSingleActiveTask (trackedTaskARN : String) (active : List EcsTaskState)
    (listed : round.found = some found) (distinct : (arns active).Nodup) (same : ∀ arn, arn ∈ found ↔ arn ∈ arns active)
    (wish : ∀ kept, Elected ([trackedTaskARN].filter (· ≠ "")) found kept → Elected round.wanted found kept) :
    Proceeds (· = round) (keepSingleActiveTask trackedTaskARN active) (Keeping round) := by
  show Proceeds _ (stopTasks (arns ((sortTasks active).eraseIdx (keepIndex trackedTaskARN active))) >>=
    fun _ => pure (sortTasks active)[keepIndex trackedTaskARN active]?) _
  cases kept : (sortTasks active)[keepIndex trackedTaskARN active]? with
  | none =>
    have empty : active = [] := by
      by_contra some
      have bound := keepIndex_lt trackedTaskARN some
      rw [List.getElem?_eq_getElem bound] at kept
      cases kept
    subst empty
    have bare : round.found = some [] := by
      rw [listed, List.eq_nil_iff_forall_not_mem.mpr fun arn member => List.not_mem_nil ((same arn).mp member)]
    have nothing : arns ((sortTasks []).eraseIdx (keepIndex trackedTaskARN [])) = [] := rfl
    rw [nothing]
    have idle : Proceeds (· = round) (stopTasks []) fun _ now => now = round := attempts_done
    apply attempts_bind idle
    intro _
    apply attempts_pure
    rintro now rfl
    refine ⟨⟨_, rfl⟩, ?_, nofun, fun _ => bare⟩
    intro found' there arn member
    cases bare.symm.trans there
    cases member
  | some task =>
    have elected : round.Elects task.taskARN :=
      ⟨found, listed, wish _ ((Elected.congr same).mpr (elected_keepIndex kept))⟩
    have stop := proceeds_stopTasks (arns ((sortTasks active).eraseIdx (keepIndex trackedTaskARN active))) []
      listed elected fun arn erased => by
        have other := (mem_erased distinct kept arn).mp erased
        exact ⟨(same arn).mpr other.1, other.2⟩
    apply attempts_bind (stop.weaken (fun now here => ⟨round.stopped, here, nofun⟩) fun _ _ met => met)
    intro _
    apply attempts_pure
    rintro now ⟨stopped, rfl, gone⟩
    refine ⟨⟨stopped, rfl⟩, ?_, ?_, nofun⟩
    · intro found' there arn member
      cases listed.symm.trans there
      by_cases chosen : arn = task.taskARN
      · exact Or.inr (chosen ▸ elected)
      · exact Or.inl (gone arn ((mem_erased distinct kept arn).mpr ⟨(same arn).mp member, chosen⟩))
    · rintro _ ⟨⟩
      exact elected

end keeping

structure Settles (power : PowerState) (round : Round) : Prop where
  desired : power.desiredRedcon = redconWakeup
  decided : ∃ found, round.found = some found ∧ ∀ arn ∈ found, arn ∈ round.stopped ∨ round.Elects arn
  kept : ∀ arn, power.ecsTaskARN = some arn → round.Elects arn
  concludes : round.Concludes

section running
variable {tick : CloudMcuTick} {power : PowerState} {found : List String}

theorem Keeping.settles {round now : Round} {kept : Option EcsTaskState}
    (keeping : Keeping round kept now) (awake : power.desiredRedcon = redconWakeup) (listed : round.found = some found)
    (idle : kept = none → ∃ task, round.launched = some task ∧ task.isActive = false) :
    Settles (PowerState.withTask power kept) now := by
  obtain ⟨⟨stopped, rfl⟩, gone, chosen, -⟩ := keeping
  cases kept with
  | none => exact ⟨awake, ⟨found, listed, gone found listed⟩, nofun, fun _ => Or.inr (idle rfl)⟩
  | some task =>
    refine ⟨awake, ⟨found, listed, gone found listed⟩, ?_, fun _ => Or.inl ⟨_, chosen task rfl⟩⟩
    rintro _ ⟨⟩
    exact chosen task rfl

theorem withLaunched {task : EcsTaskState} {listed : List EcsTaskState} (distinct : (arns listed).Nodup)
    (same : ∀ arn, arn ∈ found ↔ arn ∈ arns listed ∨ arn ∈ arns ([task].filter (·.isActive))) :
    (arns (if task.isActive && !containsTask listed task.taskARN then listed ++ [task] else listed)).Nodup ∧
      ∀ arn, arn ∈ found ↔
        arn ∈ arns (if task.isActive && !containsTask listed task.taskARN then listed ++ [task] else listed) := by
  have folded := foldl_active [task] listed distinct
  rw [List.foldl_cons, List.foldl_nil] at folded
  exact ⟨folded.1, fun arn => (same arn).trans (folded.2 arn).symm⟩

def preferred (tracked : Option String) (own : String) (active : List EcsTaskState) : String :=
  match tracked with
  | some known => if containsTask active known then known else own
  | none => own

theorem elected_preferred {tracked : Option String} {own kept : String} {active : List EcsTaskState}
    (named : tracked ≠ some "") (same : ∀ arn, arn ∈ found ↔ arn ∈ arns active)
    (elected : Elected ([preferred tracked own active].filter (· ≠ "")) found kept) :
    Elected (tracked.toList ++ [own].filter (· ≠ "")) found kept := by
  cases tracked with
  | none => exact elected
  | some known =>
    by_cases present : known ∈ arns active
    · have filled : known ≠ "" := fun blank => named (congrArg some blank)
      have wish : preferred (some known) own active = known := if_pos ((containsTask_iff _ _).mpr present)
      have here : known ∈ found := (same known).mpr present
      rw [wish, List.filter_cons_of_pos (by simpa using filled)] at elected
      refine ⟨elected.1, ?_⟩
      have chosen := elected.2
      rw [List.find?_cons_of_pos (by simpa using here)] at chosen
      rw [Option.toList_some, List.singleton_append, List.find?_cons_of_pos (by simpa using here)]
      exact chosen
    · have wish : preferred (some known) own active = own :=
        if_neg fun inside => present ((containsTask_iff _ _).mp inside)
      rw [wish] at elected
      refine ⟨elected.1, ?_⟩
      rw [Option.toList_some, List.singleton_append,
        List.find?_cons_of_neg (by simpa using fun inside => present ((same known).mp inside))]
      exact elected.2

theorem proceeds_each {program : Aws α} {ends : α → Round → Prop}
    (each : ∀ round, before round → Proceeds (· = round) program ends) : Proceeds before program ends :=
  fun past met => each _ met past rfl

theorem proceeds_launchTask (awake : power.desiredRedcon = redconWakeup) (named : power.ecsTaskARN ≠ some "") :
    Proceeds (fun round => round.read = some power ∧ round.found = some [] ∧ round.launched = none)
      (launchTask tick power) Settles := by
  have run : Proceeds (fun round => round.read = some power ∧ round.found = some [] ∧ round.launched = none)
      (runTask tick.thingName tick.rigID)
      fun task round => round.read = some power ∧ round.found = none ∧ round.launched = some task := by
    apply proceeds_aws (.runTask _ _)
    · intro round met
      exact met.2
    · intro round met task
      exact ⟨met.1, rfl, rfl⟩
  apply attempts_bind run
  intro task
  apply proceeds_each
  rintro round ⟨read, unlisted, launched⟩
  have asks : round.Asks task.taskARN := by
    intro _
    rw [launched]
    exact List.mem_cons_self
  apply attempts_bind (proceeds_activeDeviceTasks _ asks (by rw [read]; nofun) unlisted)
  intro listed
  apply proceeds_each
  rintro now ⟨distinct, found, rfl, shown⟩
  rw [launched] at shown
  obtain ⟨distinct, same⟩ := withLaunched distinct shown
  have keep : Proceeds (· = { round with found := some found }) (keepSingleActiveTask _ _) _ :=
    proceeds_keepSingleActiveTask (preferred power.ecsTaskARN task.taskARN _) _ rfl distinct same
      fun kept elected => by
        have chosen := elected_preferred named same elected
        simp only [Round.wanted, Round.tracked, read, launched, Option.bind_some]
        exact chosen
  apply attempts_bind keep
  intro kept
  apply attempts_pure
  intro now keeping
  apply keeping.settles awake rfl
  rintro rfl
  obtain ⟨stopped, rfl⟩ := keeping.same
  cases keeping.bare rfl
  refine ⟨task, launched, ?_⟩
  by_contra active
  rw [Bool.not_eq_false] at active
  apply List.not_mem_nil ((shown task.taskARN).mpr (Or.inr _))
  exact List.mem_map_of_mem (List.mem_filter.mpr ⟨List.mem_cons_self, active⟩)

theorem proceeds_ensureTaskRunning (awake : power.desiredRedcon = redconWakeup) (named : power.ecsTaskARN ≠ some "") :
    Proceeds (· = { read := some power }) (ensureTaskRunning tick power) Settles := by
  have asks : Round.Asks { read := some power } (stringPtr power.ecsTaskARN) := by
    intro filled
    cases tracked : power.ecsTaskARN with
    | none => exact absurd (by rw [tracked]; rfl) filled
    | some known => exact tracked
  apply attempts_bind (proceeds_activeDeviceTasks _ asks nofun rfl)
  intro active
  apply proceeds_each
  rintro now ⟨distinct, found, rfl, same⟩
  have same : ∀ arn, arn ∈ found ↔ arn ∈ arns active := fun arn => (same arn).trans (or_iff_left List.not_mem_nil)
  have wish : ∀ kept, Elected ([stringPtr power.ecsTaskARN].filter (· ≠ "")) found kept →
      Elected (Round.wanted ⟨some power, none, some found, []⟩) found kept := by
    intro kept elected
    simp only [Round.wanted, Round.tracked, Option.bind_some]
    cases tracked : power.ecsTaskARN with
    | none =>
      rw [tracked] at elected
      exact elected
    | some known =>
      rw [tracked] at elected named
      have filled : known ≠ "" := fun blank => named (congrArg some blank)
      rw [stringPtr, Option.getD_some, List.filter_cons_of_pos (by simpa using filled)] at elected
      exact elected
  apply attempts_bind (proceeds_keepSingleActiveTask (stringPtr power.ecsTaskARN) active rfl distinct same wish)
  intro kept
  cases kept with
  | some task =>
    apply attempts_pure
    intro now keeping
    exact keeping.settles awake rfl nofun
  | none =>
    apply (proceeds_launchTask awake named).weaken _ fun _ _ met => met
    intro now keeping
    obtain ⟨stopped, rfl⟩ := keeping.same
    exact ⟨rfl, keeping.bare rfl, rfl⟩

end running

section conclusion
variable (tick : CloudMcuTick) (nowMs : Int64)

theorem proceeds_check (checked : Except String α) : Proceeds before (check checked) fun _ => before := by
  intro past met
  cases checked with
  | error => exact .done trivial
  | ok value => exact .done met

theorem proceeds_publishReport (previousPower : PowerState) (actualRedcon : UInt8) (finished : Option PendingCommand) :
    Proceeds before (publishReport tick nowMs previousPower actualRedcon finished) fun _ => before := by
  apply attempts_bind (proceeds_check _)
  intro topic
  have send (payload : Payload) : Proceeds before (publish topic payload) fun _ => before :=
    proceeds_aws (.publish topic payload) (fun _ _ => trivial) fun _ met _ => met
  exact attempts_bind (send _) fun _ => attempts_done

theorem Settles.report {power reported : PowerState} {round : Round} (settles : Settles power round)
    (desired : reported.desiredRedcon = power.desiredRedcon) (task : reported.ecsTaskARN = power.ecsTaskARN) :
    Settles reported round :=
  ⟨desired.trans settles.desired, settles.decided, fun arn kept => settles.kept arn (task.symm.trans kept),
    settles.concludes⟩

theorem proceeds_writeBack (previousPower power : PowerState) (response : Response) :
    Proceeds (Settles power) (writeBack tick previousPower power >>= fun _ => pure response) fun _ => Round.Concludes := by
  have write : Proceeds (Settles power) (writeBack tick previousPower power) fun _ => Settles power := by
    unfold writeBack
    split
    · exact attempts_done
    · apply proceeds_aws (.updateThingShadow _ _)
      · intro round met
        obtain ⟨found, listed, stopped⟩ := met.decided
        exact ⟨power, found, rfl, met.desired, met.concludes, listed, stopped, met.kept⟩
      · intro round met _
        exact met
  exact attempts_bind write fun _ => attempts_pure fun _ met => met.concludes

theorem proceeds_concludeTick (previousPower power : PowerState) :
    Proceeds (Settles power) (concludeTick tick nowMs previousPower power) fun _ => Round.Concludes := by
  unfold concludeTick
  extract_lets actualRedcon finished settled reported
  have desired : settled.desiredRedcon = power.desiredRedcon := by
    simp only [settled]
    split <;> rfl
  have task : settled.ecsTaskARN = power.ecsTaskARN := by
    simp only [settled]
    split <;> rfl
  split
  · apply attempts_bind (proceeds_publishReport tick nowMs _ _ _)
    intro messageType
    apply (proceeds_writeBack tick previousPower reported _).weaken _ fun _ _ met => met
    intro round met
    exact met.report desired task
  · apply (proceeds_writeBack tick previousPower settled _).weaken _ fun _ _ met => met
    intro round met
    exact met.report desired task

end conclusion

section tick
variable (tick : CloudMcuTick) (nowMs : Int64)

def Later : AwsCall → Prop
  | .getThingShadow _ => False
  | _ => True

theorem only_aws (request : AwsCall) (later : Later request) : (aws request).run.Only Later :=
  Process.only_ask request later

theorem only_writeBack (previousPower power : PowerState) (response : Response) :
    (writeBack tick previousPower power >>= fun _ => pure response : Aws Response).run.Only Later := by
  have write : (writeBack tick previousPower power).run.Only Later := by
    unfold writeBack
    split
    · exact only_pure _
    · exact only_aws (.updateThingShadow _ _) trivial
  exact only_attempt write fun _ => only_pure _

theorem only_concludeTick (previousPower power : PowerState) :
    (concludeTick tick nowMs previousPower power).run.Only Later := by
  unfold concludeTick
  extract_lets actualRedcon finished settled reported
  split
  · have report : (publishReport tick nowMs previousPower actualRedcon finished).run.Only Later :=
      only_attempt (only_pure _) fun _ =>
        only_attempt (only_aws (.publish _ _) trivial) fun _ => only_pure _
    exact only_attempt report fun _ => only_writeBack tick previousPower _ _
  · exact only_writeBack tick previousPower _ _

theorem only_settleTask (power : PowerState) : (settleTask tick power).run.Only Later := by
  apply (settleTask_settles tick power).weaken _ fun _ _ => trivial
  intro request task
  cases request <;> first | exact task.elim | trivial

theorem proceeds_asleep {power : PowerState} {program : Aws α} (asleep : power.desiredRedcon ≠ redconWakeup)
    (only : program.run.Only Later) :
    Proceeds (fun round => round.read = some power) program fun _ => Round.Concludes := by
  have tracks : program.run.Tracks electing (fun round => round.read = some power)
      fun _ round => True ∧ round.read = some power := by
    apply Process.Calls.tracks only
    · intro round request read _ awake
      exact absurd (awake power read) asleep
    · intro round request reply read later
      cases reply with
      | error => exact read
      | ok value => cases request <;> first | exact later.elim | exact read
  apply tracks.weaken (fun _ met => met)
  intro result round met
  cases result with
  | error => trivial
  | ok value => exact fun awake => absurd (awake power met.2) asleep

theorem named_powerStateFromShadow (document : Document) : (powerStateFromShadow document).ecsTaskARN ≠ some "" := by
  cases document with
  | absent => nofun
  | unreported => nofun
  | reported fields =>
    show textValue fields.ecsTaskArn ≠ some ""
    cases fields.ecsTaskArn with
    | string value =>
      rw [textValue]
      split
      next filled => exact fun same => filled (Option.some.inj same)
      next => nofun
    | null => nofun
    | bool => nofun
    | number => nofun
    | other => nofun

theorem handleTickWithNow_proceeds : Proceeds (· = {}) (handleTickWithNow tick nowMs) fun _ => Round.Concludes := by
  apply attempts_bind (proceeds_check _)
  intro _
  have get : Proceeds (· = {}) (getThingShadow tick.thingName)
      fun document round => round = { read := some (powerStateFromShadow document) } := by
    apply proceeds_aws (.getThingShadow _)
    · rintro round rfl
      rfl
    · rintro round rfl document
      rfl
  apply attempts_bind get
  intro document
  by_cases awake : (powerStateFromShadow document).desiredRedcon = redconWakeup
  · have settle : Proceeds (· = { read := some (powerStateFromShadow document) })
        (settleTask tick (powerStateFromShadow document)) Settles := by
      rw [settleTask, if_pos awake]
      exact proceeds_ensureTaskRunning awake (named_powerStateFromShadow document)
    exact attempts_bind settle fun power => proceeds_concludeTick tick nowMs _ power
  · apply (proceeds_asleep awake _).weaken _ fun _ _ met => met
    · exact only_attempt (only_settleTask tick _) fun power => only_concludeTick tick nowMs _ power
    · rintro round rfl
      rfl

end tick
end programs

end Txing.CloudMcu.TaskElection
