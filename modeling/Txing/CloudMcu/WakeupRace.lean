import Txing.CloudMcu.TaskElection

/-! Two ticks beside each other that both power the device on. Each keeps one task of those it has found and stops
the others, so what one of them keeps must not be what the other one stops. -/

namespace Txing.CloudMcu.WakeupRace
open Txing.Library PowerShadow Handlers TaskElection

/-- The device's part of AWS: its shadow, the tasks that were ever launched for it, and those that nobody has
stopped. A task does not stop by itself. -/
structure Cloud where
  shadow : Document
  known : List String
  running : List String
  named : ∀ arn ∈ known, trimSpace arn = arn ∧ arn ≠ ""
  owned : ∀ arn ∈ running, arn ∈ known

/-- How far ECS has come with a task that is not stopped. -/
inductive Phase where
  | provisioning
  | pending
  | activating
  | running

def Phase.text : Phase → String
  | .provisioning => "PROVISIONING"
  | .pending => "PENDING"
  | .activating => "ACTIVATING"
  | .running => "RUNNING"

/-- What is open in an answer: the ARN of a new task, the state of those that run, and whether ECS still
describes those that were stopped. -/
structure Answer where
  launched : String := ""
  phase : String → Phase := fun _ => .running
  remembers : Bool := true

def Answer.running (answer : Answer) (arn : String) : EcsTaskState := ⟨arn, some (answer.phase arn).text⟩

def Answer.describes (answer : Answer) (cloud : Cloud) (arn : String) : Option EcsTaskState :=
  if arn ∈ cloud.running then some (answer.running arn)
  else if arn ∈ cloud.known ∧ answer.remembers then some ⟨arn, some "STOPPED"⟩ else none

namespace Cloud

def launch (cloud : Cloud) (arn : String) (proper : trimSpace arn = arn ∧ arn ≠ "") : Cloud where
  shadow := cloud.shadow
  known := arn :: cloud.known
  running := cloud.running ++ [arn]
  named := List.forall_mem_cons.mpr ⟨proper, cloud.named⟩
  owned := by
    intro other member
    obtain old | new := List.mem_append.mp member
    · exact List.mem_cons_of_mem _ (cloud.owned other old)
    · exact List.mem_singleton.mp new ▸ List.mem_cons_self

def stop (cloud : Cloud) (arn : String) : Cloud where
  shadow := cloud.shadow
  known := cloud.known
  running := cloud.running.filter (· ≠ arn)
  named := cloud.named
  owned other member := cloud.owned other (List.mem_filter.mp member).1

end Cloud

/-- Every call succeeds. No ARN is given twice; a launch that has got one is none. -/
def serve (cloud : Cloud) (request : AwsCall) (answer : Answer) : Cloud × AwsReply request :=
  match request with
  | .getThingShadow _ => (cloud, .ok cloud.shadow)
  | .updateThingShadow _ update => ({ cloud with shadow := cloud.shadow.merge update }, .ok ())
  | .listDeviceTasks _ => (cloud, .ok (cloud.running.map answer.running))
  | .describeTask arn => (cloud, .ok (answer.describes cloud arn))
  | .runTask _ _ =>
    if proper : (trimSpace answer.launched = answer.launched ∧ answer.launched ≠ "") ∧ answer.launched ∉ cloud.known then
      (cloud.launch answer.launched proper.1, .ok (answer.running answer.launched))
    else (cloud, .error "InvalidParameterException")
  | .stopTask arn => (cloud.stop arn, .ok ())
  | .describeThing _ => (cloud, .ok ⟨none, fun _ => ""⟩)
  | .publish _ _ => (cloud, .ok ())
  | .sendTickBatch _ => (cloud, .ok ())

inductive Waker where
  | one
  | two
  deriving DecidableEq, Repr

def Waker.other : Waker → Waker
  | .one => .two
  | .two => .one

abbrev Input (_ : Waker) := CloudMcuTick × Int64

def cloudMcu : Site Cloud Answer Input AwsReply (Except String Response) where
  serve := serve
  program _ := fun (tick, nowMs) => (handleTickWithNow tick nowMs).run

abbrev Waking := Pool Cloud Input AwsReply (Except String Response)

def invoked (cloud : Cloud) (ticks : (name : Waker) → Input name) : Waking where
  shared := cloud
  threads name := some ⟨ticks name, [], cloudMcu.program name (ticks name)⟩

def steps (calls : List (Waker × Answer)) : List (PoolEvent Input Answer) :=
  calls.map fun call => .step call.1 call.2

def roundOf (pool : Waking) (name : Waker) : Round := electing.summary (pool.past name)

def launching (round : Round) : Bool := round.launched.isSome && round.found.isNone

/-- No task is launched while the other tick has launched one and not listed the tasks since. -/
def timely (pool : Waking) : PoolEvent Input Answer → Bool
  | .step name _ =>
    match pool.threads name with
    | some ⟨_, _, .call (.runTask _ _) _⟩ => !launching (roundOf pool name.other)
    | _ => true
  | .begin _ _ => false

def succeeded (pool : Waking) (name : Waker) : Bool :=
  match pool.threads name with
  | some ⟨_, _, .done (.ok _)⟩ => true
  | _ => false

def AwakeAtLast (pool : Waking) : Prop :=
  succeeded pool .one = true ∧ succeeded pool .two = true → pool.shared.running ≠ []

instance (pool : Waking) : Decidable (AwakeAtLast pool) := inferInstanceAs (Decidable (_ ∧ _ → _))

/-- The device is to be awake, and the task that its shadow names is one of its own. -/
structure WakeupDue (cloud : Cloud) : Prop where
  desired : (powerStateFromShadow cloud.shadow).desiredRedcon = redconWakeup
  tracked : ∀ arn, (powerStateFromShadow cloud.shadow).ecsTaskARN = some arn → arn ∈ cloud.known

section round
variable {origin : Option String} {cloud : Cloud} {mine yours : Round}

/-- What a tick protects: the task it has elected, or the one it has launched. -/
def Guards (round : Round) (arn : String) : Prop :=
  round.Elects arn ∨ round.found = none ∧ arn ∈ arns round.launched.toList

def Takes (round : Round) (arn : String) : Prop :=
  ∃ kept found, round.found = some found ∧ round.Elects kept ∧ arn ∈ found ∧ arn ≠ kept

/-- Of what the tick has found only the elected task runs. -/
def Alone (cloud : Cloud) (round : Round) : Prop :=
  ∃ kept found, round.found = some found ∧ round.Elects kept ∧ ∀ arn ∈ found, arn ∈ cloud.running → arn = kept

structure Beside (origin : Option String) (cloud : Cloud) (mine yours : Round) : Prop where
  awake : mine.Awake
  tracked : ∀ arn, mine.tracked = some arn → arn ∈ cloud.known
  unread : mine.read = none → mine.found = none ∧ mine.launched = none
  launched : ∀ task, mine.launched = some task → task.isActive = true ∧ task.taskARN ∈ cloud.known ∧ task.taskARN ≠ ""
  found : ∀ found, mine.found = some found → ∀ arn ∈ found, arn ∈ cloud.known
  own : ∀ found task, mine.found = some found → mine.launched = some task →
    task.taskARN ∈ found ∧ ∀ arn ∈ found, arn = task.taskARN ∨ arn ∈ arns yours.launched.toList
  cleared : mine.launched ≠ none ∨ mine.found = some [] →
    ∀ arn ∈ cloud.running, arn ∈ arns mine.launched.toList ∨ arn ∈ arns yours.launched.toList
  missing : ∀ found arn, mine.found = some found → mine.launched = none → mine.tracked = some arn → arn ∉ found →
    arn ∉ cloud.running
  late : ∀ found task, mine.launched ≠ none → mine.found = some found → yours.found = none → yours.launched = some task →
    task.taskARN ∉ found
  safe : ∀ arn, Guards mine arn → arn ∈ cloud.running ∨ Takes yours arn
  agreed : mine.read ≠ none → mine.tracked = origin ∨ Alone cloud yours
  stopped : ∀ arn ∈ mine.stopped, arn ∈ cloud.known ∧ arn ∉ cloud.running

structure Sound (origin : Option String) (cloud : Cloud) (mine yours : Round) : Prop where
  first : Beside origin cloud mine yours
  second : Beside origin cloud yours mine
  due : WakeupDue cloud
  shadow : (powerStateFromShadow cloud.shadow).ecsTaskARN = origin ∨ Alone cloud mine ∨ Alone cloud yours
  apart : ∀ arn other, mine.Elects arn → yours.Elects other → Takes yours arn → Takes mine other → False
  turns : ¬ (launching mine = true ∧ launching yours = true)

theorem Sound.symm (sound : Sound origin cloud mine yours) : Sound origin cloud yours mine where
  first := sound.second
  second := sound.first
  due := sound.due
  shadow := sound.shadow.imp_right Or.symm
  apart arn other one two taken taking := sound.apart other arn two one taking taken
  turns both := sound.turns both.symm

theorem not_elects (unlisted : mine.found = none) (arn : String) : ¬ mine.Elects arn := by
  rintro ⟨found, listed, -⟩
  cases unlisted.symm.trans listed

theorem not_takes (unlisted : mine.found = none) (arn : String) : ¬ Takes mine arn := by
  rintro ⟨kept, found, listed, -⟩
  cases unlisted.symm.trans listed

theorem not_alone (unlisted : mine.found = none) : ¬ Alone cloud mine := by
  rintro ⟨kept, found, listed, -⟩
  cases unlisted.symm.trans listed

/-- A task runs at last: what one tick has elected is not stopped, or what the other one has. -/
theorem Sound.running (sound : Sound origin cloud mine yours) (one : mine.Concludes) (two : yours.Concludes) :
    cloud.running ≠ [] := by
  intro empty
  have elects {round beside : Round} (here : Beside origin cloud round beside) (concludes : round.Concludes) :
      ∃ kept, round.Elects kept := by
    refine (concludes here.awake).resolve_right ?_
    rintro ⟨task, launched, idle⟩
    exact absurd (here.launched task launched).1 (by rw [idle]; nofun)
  obtain ⟨kept, elected⟩ := elects sound.first one
  obtain ⟨other, elected'⟩ := elects sound.second two
  have gone (arn : String) : arn ∉ cloud.running := empty ▸ List.not_mem_nil
  exact sound.apart kept other elected elected' ((sound.first.safe kept (Or.inl elected)).resolve_left (gone kept))
    ((sound.second.safe other (Or.inl elected')).resolve_left (gone other))

theorem sound_read (sound : Sound origin cloud mine yours) (unread : mine.read = none) :
    Sound origin cloud { mine with read := some (powerStateFromShadow cloud.shadow) } yours := by
  obtain ⟨unlisted, unlaunched⟩ := sound.first.unread unread
  have untold (arn : String) : ¬ Takes mine arn := not_takes unlisted arn
  refine ⟨⟨?_, sound.due.tracked, nofun, sound.first.launched, sound.first.found, ?_, sound.first.cleared, ?_, ?_, ?_,
    ?_, sound.first.stopped⟩, ?_, sound.due, ?_, ?_, sound.turns⟩
  · rintro power ⟨⟩
    exact sound.due.desired
  · intro found task listed
    cases unlisted.symm.trans listed
  · intro found arn listed
    cases unlisted.symm.trans listed
  · intro found task launched
    exact absurd unlaunched launched
  · rintro arn (elects | ⟨-, launched⟩)
    · exact absurd elects (not_elects (by exact unlisted) arn)
    · rw [show Round.launched _ = none from unlaunched] at launched
      cases launched
  · intro _
    obtain same | alone | alone := sound.shadow
    · exact Or.inl same
    · exact (not_alone unlisted alone).elim
    · exact Or.inr alone
  · exact { sound.second with
      safe := fun arn guards => Or.inl ((sound.second.safe arn guards).resolve_right (untold arn))
      agreed := fun read => Or.inl ((sound.second.agreed read).resolve_right (not_alone unlisted)) }
  · obtain same | alone | alone := sound.shadow
    · exact Or.inl same
    · exact (not_alone unlisted alone).elim
    · exact Or.inr (Or.inr alone)
  · intro arn other elects
    exact absurd elects (not_elects (by exact unlisted) arn)

section stop
variable {arn kept : String} {found : List String}

theorem mem_stop (other : String) : other ∈ (cloud.stop arn).running ↔ other ∈ cloud.running ∧ other ≠ arn := by
  simp only [Cloud.stop, List.mem_filter, decide_eq_true_eq]

theorem Alone.stop (alone : Alone cloud mine) (arn : String) : Alone (cloud.stop arn) mine := by
  obtain ⟨kept, found, listed, elects, only⟩ := alone
  exact ⟨kept, found, listed, elects, fun other inside runs => only other inside ((mem_stop other).mp runs).1⟩

theorem sound_stop (sound : Sound origin cloud mine yours) (taken : Takes mine arn) :
    Sound origin (cloud.stop arn) { mine with stopped := arn :: mine.stopped } yours := by
  have taking := taken
  obtain ⟨kept, found, listed, elects, inside, apart⟩ := taking
  have runs (other : String) (runs : other ∈ (cloud.stop arn).running) : other ∈ cloud.running :=
    ((mem_stop other).mp runs).1
  refine ⟨{ sound.first with
      cleared := fun bare other there => sound.first.cleared bare other (runs other there)
      missing := fun found other listed unlaunched tracked absent there =>
        sound.first.missing found other listed unlaunched tracked absent (runs other there)
      safe := ?_
      agreed := fun read => (sound.first.agreed read).imp_right fun alone => alone.stop arn
      stopped := ?_ }, { sound.second with
      cleared := fun bare other there => sound.second.cleared bare other (runs other there)
      missing := fun found other listed unlaunched tracked absent there =>
        sound.second.missing found other listed unlaunched tracked absent (runs other there)
      safe := ?_
      agreed := fun read => (sound.second.agreed read).imp_right fun alone => alone.stop arn
      stopped := ?_ }, ⟨sound.due.desired, sound.due.tracked⟩, ?_, sound.apart, sound.turns⟩
  · intro other guards
    have own : other ≠ arn := by
      obtain elected | ⟨unlisted, -⟩ := guards
      · exact (Round.Elects.unique elected elects).trans_ne (Ne.symm apart)
      · cases listed.symm.trans unlisted
    exact (sound.first.safe other guards).imp_left fun there => (mem_stop other).mpr ⟨there, own⟩
  · intro other member
    obtain rfl | old := List.mem_cons.mp member
    · exact ⟨sound.first.found found listed _ inside, fun there => ((mem_stop _).mp there).2 rfl⟩
    · exact ⟨(sound.first.stopped other old).1, fun there => (sound.first.stopped other old).2 (runs other there)⟩
  · intro other guards
    obtain there | taken' := sound.second.safe other guards
    · by_cases same : other = arn
      · exact Or.inr (same ▸ taken)
      · exact Or.inl ((mem_stop other).mpr ⟨there, same⟩)
    · exact Or.inr taken'
  · intro other old
    exact ⟨(sound.second.stopped other old).1, fun there => (sound.second.stopped other old).2 (runs other there)⟩
  · exact sound.shadow.imp_right (Or.imp (fun alone => alone.stop arn) fun alone => alone.stop arn)

end stop

section list

theorem active_running (answer : Answer) (arn : String) : (answer.running arn).isActive = true := by
  show (decide ((answer.phase arn).text ≠ "STOPPED") && decide ((answer.phase arn).text ≠ "DEPROVISIONING")) = true
  cases answer.phase arn <;> decide

theorem mem_listed (answer : Answer) (active : ∀ task, mine.launched = some task → task.isActive = true) (arn : String) :
    arn ∈ arns ((cloud.running.map answer.running ++ mine.launched.toList).filter (·.isActive)) ↔
      arn ∈ cloud.running ∨ arn ∈ arns mine.launched.toList := by
  have all : ∀ task ∈ cloud.running.map answer.running ++ mine.launched.toList, task.isActive = true := by
    intro task member
    obtain listed | own := List.mem_append.mp member
    · obtain ⟨other, -, rfl⟩ := List.mem_map.mp listed
      exact active_running answer other
    · exact active task (Option.mem_toList.mp own)
  have same : arns (cloud.running.map answer.running) = cloud.running := by
    rw [arns, List.map_map]
    exact List.map_id _
  rw [List.filter_eq_self.mpr all, arns, List.map_append, List.mem_append]
  exact or_congr_left (by rw [← arns, same])

variable {found : List String}

theorem apart_listed (sound : Sound origin cloud mine yours) (read : mine.read ≠ none) (unlisted : mine.found = none)
    (members : ∀ arn, arn ∈ found ↔ arn ∈ cloud.running ∨ arn ∈ arns mine.launched.toList) {arn other : String}
    (elects : Elected mine.wanted found arn) (elects' : yours.Elects other) (taken : Takes yours arn)
    (taking : other ∈ found) : arn = other := by
  obtain ⟨kept, others, listed, elected, inside, apart⟩ := taken
  cases elected.unique elects'
  have inside' : other ∈ others := elects'.member listed
  cases launched : mine.launched with
  | none =>
    have runs : ∀ arn, arn ∈ found → arn ∈ cloud.running := by
      intro arn member
      rw [members, launched] at member
      exact member.resolve_right List.not_mem_nil
    cases launched' : yours.launched with
    | none =>
      obtain same | ⟨kept, others', listed', elected', only⟩ := sound.first.agreed read
      · have read' : yours.read ≠ none := by
          intro unread
          cases (sound.second.unread unread).1.symm.trans listed
        have same' := (sound.second.agreed read').resolve_right (not_alone unlisted)
        have wanted : yours.wanted = mine.wanted := by
          simp only [Round.wanted, same, same', launched, launched']
        obtain ⟨others', listed', elected'⟩ := elects'
        cases listed.symm.trans listed'
        rw [wanted] at elected'
        apply elects.agree elected' taking inside
        rw [Round.wanted, launched]
        cases mine.tracked with
        | none => exact Nat.zero_le _
        | some => exact Nat.le_refl _
      · cases listed.symm.trans listed'
        exact (only arn inside (runs arn elects.1)).trans (elected'.unique elects')
    | some task =>
      have alone : ∀ arn ∈ found, arn = task.taskARN := by
        intro arn member
        have owned := sound.second.cleared (Or.inl (by rw [launched']; exact Option.some_ne_none _)) arn (runs arn member)
        rw [launched, launched'] at owned
        exact List.mem_singleton.mp (owned.resolve_right List.not_mem_nil)
      exact (alone arn elects.1).trans (alone other taking).symm
  | some task =>
    have owned : ∀ arn ∈ found, arn = task.taskARN ∨ arn ∈ arns yours.launched.toList := by
      intro arn member
      have own : arn ∈ arns mine.launched.toList ∨ arn ∈ arns yours.launched.toList := by
        obtain runs | own := (members arn).mp member
        · exact sound.first.cleared (Or.inl (by rw [launched]; exact Option.some_ne_none _)) arn runs
        · exact Or.inl own
      rw [launched] at own
      exact own.imp_left List.mem_singleton.mp
    cases launched' : yours.launched with
    | none =>
      have alone : ∀ arn ∈ found, arn = task.taskARN := by
        intro arn member
        have own := owned arn member
        rw [launched'] at own
        exact own.resolve_right List.not_mem_nil
      exact (alone arn elects.1).trans (alone other taking).symm
    | some task' =>
      have absent := sound.second.late others task (by rw [launched']; exact Option.some_ne_none _) listed unlisted launched
      rw [launched'] at owned
      have theirs : ∀ arn ∈ found, arn ∈ others → arn = task'.taskARN := by
        intro arn member inside
        refine List.mem_singleton.mp ((owned arn member).resolve_left ?_)
        rintro rfl
        exact absent inside
      exact (theirs arn elects.1 inside).trans (theirs other taking inside').symm

theorem sound_list (sound : Sound origin cloud mine yours) (answer : Answer) (read : mine.read ≠ none)
    (unlisted : mine.found = none) : Sound origin cloud (mine.listed (cloud.running.map answer.running)) yours := by
  have members : ∀ arn, _ ↔ arn ∈ cloud.running ∨ arn ∈ arns mine.launched.toList :=
    mem_listed answer fun task launched => (sound.first.launched task launched).1
  unfold Round.listed
  generalize arns ((cloud.running.map answer.running ++ mine.launched.toList).filter (·.isActive)) = found at *
  have known : ∀ arn ∈ found, arn ∈ cloud.known := by
    intro arn member
    obtain runs | own := (members arn).mp member
    · exact cloud.owned arn runs
    · obtain ⟨task, launched, rfl⟩ := List.mem_map.mp own
      exact (sound.first.launched task (Option.mem_toList.mp launched)).2.1
  refine ⟨{ sound.first with
      unread := fun unread => absurd unread read
      found := ?_
      own := ?_
      cleared := ?_
      missing := ?_
      late := ?_
      safe := ?_ }, { sound.second with
      late := nofun
      safe := fun arn guards => Or.inl ((sound.second.safe arn guards).resolve_right (not_takes unlisted arn))
      agreed := fun read => Or.inl ((sound.second.agreed read).resolve_right (not_alone unlisted)) },
    sound.due, ?_, ?_, ?_⟩
  · rintro _ ⟨⟩
    exact known
  · rintro _ task ⟨⟩ launched
    have mine' : arns mine.launched.toList = [task.taskARN] := by
      rw [show mine.launched = some task from launched]
      rfl
    refine ⟨(members _).mpr (Or.inr (mine' ▸ List.mem_singleton_self _)), ?_⟩
    intro arn member
    have own : arn ∈ arns mine.launched.toList ∨ arn ∈ arns yours.launched.toList := by
      obtain runs | own := (members arn).mp member
      · exact sound.first.cleared (Or.inl (by rw [show mine.launched = some task from launched]; nofun)) arn runs
      · exact Or.inl own
    rw [mine'] at own
    exact own.imp_left List.mem_singleton.mp
  · rintro (launched | bare) arn runs
    · exact sound.first.cleared (Or.inl launched) arn runs
    · cases bare
      cases (members arn).mpr (Or.inl runs)
  · rintro _ arn ⟨⟩ _ _ absent runs
    exact absent ((members arn).mpr (Or.inl runs))
  · rintro _ task launched ⟨⟩ unlisted' launched'
    refine (sound.turns ⟨?_, ?_⟩).elim
    · simp only [launching, unlisted, Option.isNone_none, Bool.and_true, Option.isSome_iff_ne_none]
      exact launched
    · rw [launching, unlisted', launched']
      rfl
  · rintro arn (⟨_, ⟨⟩, elected⟩ | ⟨⟨⟩, -⟩)
    obtain runs | own := (members arn).mp elected.1
    · exact Or.inl runs
    · exact sound.first.safe arn (Or.inr ⟨unlisted, own⟩)
  · exact sound.shadow.imp_right fun alone => Or.inr (alone.resolve_left (not_alone unlisted))
  · rintro arn other ⟨_, ⟨⟩, elects⟩ elects' taken ⟨kept, _, ⟨⟩, elected, inside, apart⟩
    apply apart
    have same := apart_listed sound read unlisted members elects elects' taken inside
    exact same.symm.trans (Round.Elects.unique ⟨found, rfl, elects⟩ elected)
  · rintro ⟨mine', -⟩
    simp [launching] at mine'

end list

section launch
variable {arn : String} {proper : trimSpace arn = arn ∧ arn ≠ ""}

theorem mem_launch (other : String) : other ∈ (cloud.launch arn proper).running ↔ other ∈ cloud.running ∨ other = arn := by
  simp only [Cloud.launch, List.mem_append, List.mem_singleton]

section fresh
variable (proper : trimSpace arn = arn ∧ arn ≠ "") (fresh : arn ∉ cloud.known)
include fresh

theorem idle_launch (other : String) (known : other ∈ cloud.known) (idle : other ∉ cloud.running) :
    other ∉ (cloud.launch arn proper).running := by
  intro runs
  obtain old | rfl := (mem_launch other).mp runs
  · exact idle old
  · exact fresh known

theorem Alone.launch (alone : Alone cloud mine)
    (known : ∀ found, mine.found = some found → ∀ arn ∈ found, arn ∈ cloud.known) :
    Alone (cloud.launch arn proper) mine := by
  obtain ⟨kept, found, listed, elects, only⟩ := alone
  refine ⟨kept, found, listed, elects, ?_⟩
  intro other inside runs
  obtain old | rfl := (mem_launch other).mp runs
  · exact only other inside old
  · exact absurd (known found listed _ inside) fresh

variable (sound : Sound origin cloud mine yours)
include sound

theorem beside_launching (answer : Answer) (bare : mine.found = some [])
    (unlaunched : mine.launched = none) (read : mine.read ≠ none) :
    Beside origin (cloud.launch arn proper) { mine with launched := some (answer.running arn), found := none } yours where
  awake := sound.first.awake
  tracked other tracked := List.mem_cons_of_mem _ (sound.first.tracked other tracked)
  unread unread := absurd unread read
  launched := by
    rintro _ ⟨⟩
    exact ⟨active_running answer arn, List.mem_cons_self, proper.2⟩
  found := nofun
  own := nofun
  cleared := by
    rintro - other runs
    obtain old | rfl := (mem_launch other).mp runs
    · have theirs := sound.first.cleared (Or.inr bare) other old
      rw [unlaunched] at theirs
      exact Or.inr (theirs.resolve_left List.not_mem_nil)
    · exact Or.inl (List.mem_singleton_self _)
  missing := nofun
  late := nofun
  safe := by
    rintro other (elects | ⟨-, own⟩)
    · exact absurd elects (not_elects rfl other)
    · exact Or.inl ((mem_launch other).mpr (Or.inr (List.mem_singleton.mp own)))
  agreed _ := (sound.first.agreed read).imp_right fun alone => alone.launch proper fresh sound.second.found
  stopped other old :=
    have before := sound.first.stopped other old
    ⟨List.mem_cons_of_mem _ before.1, idle_launch proper fresh other before.1 before.2⟩

theorem beside_launched (answer : Answer) (bare : mine.found = some [])
    (unlaunched : mine.launched = none) (lonely : ¬ Alone cloud mine) :
    Beside origin (cloud.launch arn proper) yours { mine with launched := some (answer.running arn), found := none } where
  awake := sound.second.awake
  tracked other tracked := List.mem_cons_of_mem _ (sound.second.tracked other tracked)
  unread := sound.second.unread
  launched task launched :=
    have before := sound.second.launched task launched
    ⟨before.1, List.mem_cons_of_mem _ before.2.1, before.2.2⟩
  found found listed other inside := List.mem_cons_of_mem _ (sound.second.found found listed other inside)
  own := by
    intro found task listed launched
    have before := sound.second.own found task listed launched
    rw [unlaunched] at before
    exact ⟨before.1, fun other inside => Or.inl ((before.2 other inside).resolve_right List.not_mem_nil)⟩
  cleared := by
    intro cleared other runs
    obtain old | rfl := (mem_launch other).mp runs
    · have theirs := sound.second.cleared cleared other old
      rw [unlaunched] at theirs
      exact Or.inl (theirs.resolve_right List.not_mem_nil)
    · exact Or.inr (List.mem_singleton_self _)
  missing found other listed unlaunched tracked absent :=
    idle_launch proper fresh other (sound.second.tracked other tracked)
      (sound.second.missing found other listed unlaunched tracked absent)
  late := by
    rintro found _ launched listed - ⟨⟩ inside
    exact fresh (sound.second.found found listed _ inside)
  safe := by
    intro other guards
    have untold : ¬ Takes mine other := by
      rintro ⟨kept, found, listed, elects, inside, -⟩
      cases bare.symm.trans listed
      cases inside
    exact Or.inl ((mem_launch other).mpr (Or.inl ((sound.second.safe other guards).resolve_right untold)))
  agreed read := Or.inl ((sound.second.agreed read).resolve_right lonely)
  stopped other old :=
    have before := sound.second.stopped other old
    ⟨List.mem_cons_of_mem _ before.1, idle_launch proper fresh other before.1 before.2⟩

theorem sound_launch (answer : Answer) (bare : mine.found = some [])
    (unlaunched : mine.launched = none) (turn : launching yours = false) :
    Sound origin (cloud.launch arn proper) { mine with launched := some (answer.running arn), found := none } yours := by
  have read : mine.read ≠ none := by
    intro unread
    cases (sound.first.unread unread).1.symm.trans bare
  have lonely : ¬ Alone cloud mine := by
    rintro ⟨kept, found, listed, elects, -⟩
    cases elects.member bare
  refine ⟨beside_launching proper fresh sound answer bare unlaunched read,
    beside_launched proper fresh sound answer bare unlaunched lonely, ⟨sound.due.desired, ?_⟩, ?_, ?_, ?_⟩
  · intro other tracked
    exact List.mem_cons_of_mem _ (sound.due.tracked other tracked)
  · exact sound.shadow.imp_right fun alone =>
      Or.inr ((alone.resolve_left lonely).launch proper fresh sound.second.found)
  · intro other _ elects
    exact absurd elects (not_elects rfl other)
  · rintro ⟨-, both⟩
    rw [turn] at both
    cases both

end fresh
end launch

section describe

theorem described_same (sound : Sound origin cloud mine yours) (answer : Answer) {arn : String}
    (asked : mine.Fits (.describeTask arn)) : mine.described (answer.describes cloud arn) = mine := by
  obtain ⟨listed, asked⟩ := asked
  obtain ⟨found, listed⟩ := Option.ne_none_iff_exists'.mp listed
  have present : arn ∈ cloud.running → arn ∈ found := by
    intro runs
    cases launched : mine.launched with
    | none =>
      rw [launched] at asked
      by_contra absent
      exact sound.first.missing found arn listed launched asked absent runs
    | some task =>
      rw [launched] at asked
      rw [List.mem_singleton.mp asked]
      exact (sound.first.own found task listed launched).1
  have nothing : (arns ((answer.describes cloud arn).toList.filter (·.isActive))).filter (· ∉ found) = [] := by
    rw [List.filter_eq_nil_iff]
    intro other shown
    obtain ⟨task, active, rfl⟩ := List.mem_map.mp shown
    obtain ⟨there, active⟩ := List.mem_filter.mp active
    rw [Option.mem_toList, Answer.describes] at there
    split at there
    next runs =>
      cases there
      have shown : (answer.running arn).taskARN ∈ found := present runs
      simpa using shown
    next idle =>
      split at there
      next known =>
        cases there
        exact absurd active Bool.false_ne_true
      next forgotten => cases there
  unfold Round.described
  rw [listed, Option.map_some, nothing, List.append_nil, ← listed]

end describe

section update

theorem tracked_written (power : PowerState) (proper : ∀ arn, power.ecsTaskARN = some arn → trimSpace arn = arn ∧ arn ≠ "") :
    (powerStateFromShadow (.reported power.shadowUpdate)).ecsTaskARN = power.ecsTaskARN := by
  show textValue (stringPtrValue power.ecsTaskARN) = power.ecsTaskARN
  cases task : power.ecsTaskARN with
  | none => rfl
  | some arn =>
    obtain ⟨trimmed, filled⟩ := proper arn task
    rw [stringPtrValue, textValue, trimmed, if_pos filled]

theorem desired_written (power : PowerState) (desired : power.desiredRedcon = redconWakeup) :
    (powerStateFromShadow (.reported power.shadowUpdate)).desiredRedcon = redconWakeup := by
  show (if numberAsUint64 (uint64Value power.desiredRedcon.toUInt64) = _ then _ else _) = _
  rw [desired]
  decide +kernel

theorem sound_update (sound : Sound origin cloud mine yours) {thingName : String} {update : Reported}
    (fits : mine.Fits (.updateThingShadow thingName update)) :
    Sound origin { cloud with shadow := cloud.shadow.merge update } mine yours := by
  obtain ⟨power, found, rfl, desired, concludes, listed, stopped, kept⟩ := fits
  have known : ∀ arn, power.ecsTaskARN = some arn → arn ∈ cloud.known := fun arn task =>
    sound.first.found found listed arn ((kept arn task).member listed)
  have tracked := tracked_written power fun arn task => cloud.named arn (known arn task)
  obtain ⟨chosen, elects⟩ : ∃ chosen, mine.Elects chosen := by
    refine (concludes sound.first.awake).resolve_right ?_
    rintro ⟨task, launched, idle⟩
    exact absurd (sound.first.launched task launched).1 (by rw [idle]; nofun)
  refine ⟨{ sound.first with }, { sound.second with }, ⟨desired_written power desired, ?_⟩, Or.inr (Or.inl ?_),
    sound.apart, sound.turns⟩
  · intro arn task
    exact known arn (tracked.symm.trans task)
  · refine ⟨chosen, found, listed, elects, ?_⟩
    intro arn inside runs
    obtain gone | elected := stopped arn inside
    · exact absurd runs (sound.first.stopped arn gone).2
    · exact elected.unique elects

end update

theorem sound_step (sound : Sound origin cloud mine yours) {request : AwsCall} (answer : Answer)
    (fits : mine.Fits request) (turn : ∀ thingName rigID, request = .runTask thingName rigID → launching yours = false) :
    Sound origin (serve cloud request answer).1 (electing.after mine ⟨request, (serve cloud request answer).2⟩) yours := by
  cases request with
  | getThingShadow thingName => exact sound_read sound fits
  | updateThingShadow thingName update => exact sound_update sound fits
  | listDeviceTasks thingName => exact sound_list sound answer fits.1 fits.2
  | describeTask arn =>
    show Sound origin cloud (mine.described (answer.describes cloud arn)) yours
    rw [described_same sound answer fits]
    exact sound
  | runTask thingName rigID =>
    unfold serve
    split
    next proper => exact sound_launch proper.1 proper.2 sound answer fits.1 fits.2 (turn _ _ rfl)
    next => exact sound
  | stopTask arn =>
    obtain ⟨kept, found, taken⟩ := fits
    exact sound_stop sound ⟨kept, found, taken⟩
  | describeThing thingName => exact sound
  | publish topic payload => exact sound
  | sendTickBatch ticks => exact sound

theorem beside_start (origin : Option String) (cloud : Cloud) : Beside origin cloud {} {} where
  awake := nofun
  tracked := nofun
  unread _ := ⟨rfl, rfl⟩
  launched := nofun
  found := nofun
  own := nofun
  cleared := by
    rintro (launched | ⟨⟨⟩⟩)
    exact absurd rfl launched
  missing := nofun
  late := nofun
  safe arn guards := by
    obtain elects | ⟨-, ⟨⟩⟩ := guards
    exact absurd elects (not_elects rfl arn)
  agreed read := absurd rfl read
  stopped := nofun

theorem sound_start (due : WakeupDue cloud) : Sound (powerStateFromShadow cloud.shadow).ecsTaskARN cloud {} {} where
  first := beside_start _ cloud
  second := beside_start _ cloud
  due := due
  shadow := Or.inl rfl
  apart arn _ elects := absurd elects (not_elects rfl arn)
  turns both := by cases both.1

end round

section race

def promise (name : Waker) (_ : Input name) : Contract AwsReply (Except String Response) :=
  electing.contract (Process.ended (fun _ => True) fun _ => Round.Concludes)

theorem program_keeps (name : Waker) (input : Input name) :
    (cloudMcu.program name input).Keeps (promise name input) [] :=
  handleTickWithNow_proceeds input.1 input.2 [] rfl

def PoolSound (origin : Option String) (pool : Waking) : Prop :=
  ∀ name, Sound origin pool.shared (roundOf pool name) (roundOf pool name.other)

theorem poolSound_of (origin : Option String) (pool : Waking) (name : Waker)
    (sound : Sound origin pool.shared (roundOf pool name) (roundOf pool name.other)) : PoolSound origin pool := by
  rintro (_ | _) <;> cases name <;> first | exact sound | exact sound.symm

theorem other_ne (name : Waker) : name.other ≠ name := by cases name <;> nofun

theorem poolSound_made {origin : Option String} {pool : Waking} {name : Waker} {answer : Answer}
    {running : Running (Input name) AwsReply (Except String Response)} {request : AwsCall}
    {resume : AwsReply request → Process AwsCall AwsReply (Except String Response)} (sound : PoolSound origin pool)
    (found : pool.threads name = some running) (due : running.rest = .call request resume)
    (asked : (promise name running.input).asks running.past request) (turn : timely pool (.step name answer) = true) :
    PoolSound origin (pool.advance name running ⟨request, (serve pool.shared request answer).2⟩
      (serve pool.shared request answer).1 (resume (serve pool.shared request answer).2)) := by
  apply poolSound_of origin _ name
  have here := sound name
  have mine : roundOf (pool.advance name running ⟨request, (serve pool.shared request answer).2⟩
      (serve pool.shared request answer).1 (resume (serve pool.shared request answer).2)) name =
      electing.after (roundOf pool name) ⟨request, (serve pool.shared request answer).2⟩ := by
    rw [roundOf, Pool.past_advance found, Process.Tracker.summary_snoc, roundOf]
  have yours : roundOf (pool.advance name running ⟨request, (serve pool.shared request answer).2⟩
      (serve pool.shared request answer).1 (resume (serve pool.shared request answer).2)) name.other =
      roundOf pool name.other := by
    rw [roundOf, Pool.past_advance_of_ne (other_ne name), roundOf]
  rw [mine, yours]
  have known : electing.summary running.past = roundOf pool name := by rw [roundOf, pool.past_running name found]
  have fits : (roundOf pool name).Fits request := by
    rw [← known]
    exact asked (known ▸ here.first.awake)
  apply sound_step here answer fits
  rintro thingName rigID rfl
  obtain ⟨input, past, rest⟩ := running
  dsimp only at due
  subst due
  rw [timely, found] at turn
  exact Bool.not_eq_true' _ ▸ turn

theorem concludes_of_succeeded {pool : Waking} {name : Waker} (lawful : Site.Lawful promise pool)
    (done : succeeded pool name = true) : (roundOf pool name).Concludes := by
  unfold succeeded at done
  split at done
  next input past response found =>
    have kept := lawful name _ found
    rw [roundOf, pool.past_running name found]
    cases kept with
    | done ends => exact ends
  next => cases done

/-- When no task is launched between the other tick's launch and its next list, a task is running at last. -/
theorem awakeAtLast_of_timely (cloud : Cloud) (ticks : (name : Waker) → Input name) (calls : List (Waker × Answer))
    (due : WakeupDue cloud) (along : cloudMcu.interleaving.Along (timely · ·) (invoked cloud ticks) (steps calls)) :
    AwakeAtLast (cloudMcu.interleaving.run (invoked cloud ticks) (steps calls)) := by
  obtain ⟨sound, lawful⟩ := Site.run_holds program_keeps
    (PoolSound (powerStateFromShadow cloud.shadow).ecsTaskARN) (fun _ _ _ _ _ _ begun => by cases begun)
    (fun pool name answer running request resume sound found due asked turn =>
      poolSound_made sound found due asked turn)
    (fun _ => sound_start due) (by rintro name running ⟨⟩; exact program_keeps name (ticks name)) along
  intro both
  exact (sound .one).running (concludes_of_succeeded lawful both.1) (concludes_of_succeeded lawful both.2)

end race

section runs

def asleepCloud : Cloud where
  shadow := .reported { defaultPowerState with desiredRedcon := redconWakeup }.shadowUpdate
  known := []
  running := []
  named := nofun
  owned := nofun

def sameTick (_ : Waker) : CloudMcuTick × Int64 := (newTick "mcu" "town" "rig" 0 1000, 1000)

def launches (arn : String) : Answer := { launched := arn }

def inTurn : List (Waker × Answer) :=
  [(.one, {}), (.one, {}), (.one, launches "arn:a"), (.one, {}), (.one, {}), (.one, {}),
    (.two, {}), (.two, {}), (.two, {}), (.two, {})]

/-- Both ticks see no task, and both launch one before either lists the tasks again. -/
def atOnce : List (Waker × Answer) :=
  [(.one, {}), (.one, {}), (.two, {}), (.two, {}), (.one, launches "arn:a"), (.two, launches "arn:b"),
    (.one, {}), (.one, {}), (.two, {}), (.two, {}), (.two, {}), (.one, {}), (.one, {}), (.two, {}), (.two, {})]

theorem asleepCloud_due : WakeupDue asleepCloud where
  desired := by decide +kernel
  tracked := by
    intro arn task
    exact absurd (task.symm.trans (by decide +kernel : _ = none)) nofun

theorem inTurn_one_running :
    (cloudMcu.interleaving.run (invoked asleepCloud sameTick) (steps inTurn)).shared.running = ["arn:a"] ∧
      AwakeAtLast (cloudMcu.interleaving.run (invoked asleepCloud sameTick) (steps inTurn)) :=
  ⟨by decide +kernel, awakeAtLast_of_timely asleepCloud sameTick inTurn asleepCloud_due (by decide +kernel)⟩

/-- Each of the two stops the task of the other, and both succeed. -/
theorem atOnce_none_running :
    WakeupDue asleepCloud ∧ ¬ AwakeAtLast (cloudMcu.interleaving.run (invoked asleepCloud sameTick) (steps atOnce)) :=
  ⟨asleepCloud_due, by decide +kernel⟩

end runs

end Txing.CloudMcu.WakeupRace
