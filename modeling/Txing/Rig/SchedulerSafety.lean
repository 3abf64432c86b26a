import Txing.Library.Tally
import Txing.Rig.ThreadScheduler

/-! What the scheduler of the Thread adapter keeps in every run: one piece of work for a device at a time, a worker
left for commands, commands in their order, and cycles that are counted to their end. -/

namespace Txing.Rig.SchedulerSafety
open Txing.Library Protocol ThreadAdapter ThreadScheduler
open Function (update update_eq_self update_of_ne update_self)

/-- What a goroutine has in hand: the work it has taken, and whether it discovers for a cycle. -/
structure Focus where
  held : Option ScheduledWork := none
  discovering : Bool := false

namespace Focus

def after (focus : Focus) : (request : SchedulerCall) → SchedulerReply request → Focus
  | .requestMaintenance, begun => { focus with discovering := begun }
  | .nextWork, work => { focus with held := work }
  | .complete _, _ => { focus with held := none }
  | .startCycle _, _ => { focus with discovering := false }
  | .finishMaintenanceCycle, _ => { focus with discovering := false }
  | _, _ => focus

def Fits (focus : Focus) : SchedulerCall → Prop
  | .requestMaintenance => focus = {}
  | .nextWork => focus = {}
  | .complete work => focus = { held := some work }
  | .startCycle _ => focus = { discovering := true }
  | .finishMaintenanceCycle => focus = { discovering := true }
  | _ => True

end Focus

def tracker : Process.Tracker SchedulerReply Focus where
  start := {}
  after focus exchange := focus.after exchange.1 exchange.2
  allows := Focus.Fits

section programs
variable {α : Type} {before : Focus → Prop}

abbrev Does (before : Focus → Prop) (program : Routine α) (ends : α → Focus → Prop) : Prop :=
  program.Tracks tracker before ends

theorem does_ask (request : SchedulerCall) {ends : SchedulerReply request → Focus → Prop}
    (allowed : ∀ focus, before focus → focus.Fits request)
    (follows : ∀ focus, before focus → ∀ reply, ends reply (focus.after request reply)) :
    Does before (perform request) ends :=
  Process.tracks_ask request allowed follows

def Neutral : SchedulerCall → Prop
  | .setActivePollCancel _ => True
  | .cancel _ => True
  | .clearActivePollCancel _ => True
  | .endpointThingNames => True
  | .inRuntime _ _ => True
  | .submitCommand _ => True
  | _ => False

theorem does_neutral (request : SchedulerCall) (neutral : Neutral request) :
    Does before (perform request) fun _ => before := by
  apply does_ask request
  · intro focus _
    cases request <;> first | exact neutral.elim | trivial
  · intro focus met reply
    cases request <;> first | exact neutral.elim | exact met

theorem does_inContext (context : Option ℕ) (work : Work Unit) : Does before (inContext context work) fun _ => before := by
  have any : ∀ program : Process ThreadCall ThreadReply (Except String Unit), program.Only fun _ => True := by
    intro program past
    induction program generalizing past with
    | done result => exact .done trivial
    | call request resume ih => exact .call trivial fun reply => ih reply _
  have neutral : (inContext context work).Only Neutral := (any work.run).via fun _ _ => trivial
  apply (Process.Calls.tracks neutral _ _).weaken (fun _ met => met) fun _ _ met => met.2
  · intro focus request _ neutral
    cases request <;> first | exact neutral.elim | trivial
  · intro focus request reply met neutral
    cases request <;> first | exact neutral.elim | exact met

theorem does_complete (work : ScheduledWork) :
    Does (· = { held := some work }) (perform (.complete work)) fun _ focus => focus = {} := by
  apply does_ask (.complete work) (fun _ met => met)
  rintro focus rfl _
  rfl

theorem does_pollDevice (poll : Poll) :
    Does (· = { held := some (.poll poll) }) (pollDevice poll) fun _ focus => focus = {} := by
  apply Process.tracks_bind (does_neutral (.setActivePollCancel _) trivial)
  intro context
  apply Process.tracks_bind (does_inContext _ _)
  intro _
  apply Process.tracks_bind (does_neutral (.cancel _) trivial)
  intro _
  apply Process.tracks_bind (does_neutral (.clearActivePollCancel _) trivial)
  intro _
  exact does_complete _

theorem does_worker : Does (· = {}) worker fun _ focus => focus = {} := by
  have take : Does (· = {}) (perform .nextWork) fun work focus => focus = { held := work } := by
    apply does_ask .nextWork (fun _ met => met)
    rintro focus rfl work
    rfl
  apply Process.tracks_bind take
  intro work
  match work with
  | none => exact Process.tracks_pure fun _ met => met
  | some (.command command) => exact Process.tracks_bind (does_inContext none _) fun _ => does_complete _
  | some (.poll poll) => exact does_pollDevice poll

theorem does_maintain : Does (· = { discovering := true }) maintain fun _ focus => focus = {} := by
  apply Process.tracks_bind (does_inContext none _)
  intro found
  cases found with
  | error error =>
    apply does_ask .finishMaintenanceCycle (fun _ met => met)
    rintro focus rfl _
    rfl
  | ok _ =>
    apply Process.tracks_bind (does_neutral .endpointThingNames trivial)
    intro thingNames
    apply does_ask (.startCycle thingNames) (fun _ met => met)
    rintro focus rfl _
    rfl

theorem does_requestMaintenance : Does (· = {}) requestMaintenance fun _ focus => focus = {} := by
  have request : Does (· = {}) (perform .requestMaintenance) fun begun focus => focus = { discovering := begun } := by
    apply does_ask .requestMaintenance (fun _ met => met)
    rintro focus rfl begun
    rfl
  apply Process.tracks_bind request
  intro begun
  cases begun with
  | true => exact does_maintain
  | false => exact Process.tracks_pure fun _ met => met

variable {n : ℕ}

theorem program_keeps (name : Fin n) (duty : Duty) :
    ((site n).program name duty).Keeps (tracker.contract fun _ focus => focus = {}) [] := by
  cases duty with
  | submit command => exact does_neutral (.submitCommand command) trivial [] rfl
  | maintenance => exact does_requestMaintenance [] rfl
  | work => exact does_worker [] rfl

end programs

section holding
variable {n : ℕ} {active : String → Bool} {held : Fin n → Option ScheduledWork} {name : Fin n} {work : ScheduledWork}

/-- A device is active while a goroutine holds work for it, and only one does. -/
structure Holding (active : String → Bool) (held : Fin n → Option ScheduledWork) : Prop where
  active : ∀ thingName, active thingName = true ↔ ∃ name work, held name = some work ∧ work.thingName = thingName
  apart : ∀ one other work work', held one = some work → held other = some work' → work.thingName = work'.thingName →
    one = other

theorem Holding.take (holding : Holding active held) (free : held name = none)
    (available : active work.thingName = false) :
    Holding (update active work.thingName true) (update held name (some work)) := by
  have idle {other : Fin n} {work' : ScheduledWork} (taken : held other = some work') :
      work'.thingName ≠ work.thingName := by
    intro same
    have busy := (holding.active work.thingName).mpr ⟨other, work', taken, same⟩
    rw [available] at busy
    cases busy
  constructor
  · intro thingName
    by_cases same : thingName = work.thingName
    · subst same
      rw [update_self]
      exact iff_of_true rfl ⟨name, work, update_self .., rfl⟩
    · rw [update_of_ne same, holding.active]
      constructor
      · rintro ⟨other, work', taken, rfl⟩
        refine ⟨other, work', ?_, rfl⟩
        rw [update_of_ne]
        · exact taken
        · rintro rfl
          cases free.symm.trans taken
      · rintro ⟨other, work', taken, rfl⟩
        by_cases here : other = name
        · subst here
          rw [update_self] at taken
          cases taken
          exact absurd rfl same
        · rw [update_of_ne here] at taken
          exact ⟨other, work', taken, rfl⟩
  · intro one other work' work'' taken taken' same
    by_cases here : one = name <;> by_cases there : other = name
    · exact here.trans there.symm
    · subst here
      rw [update_self] at taken
      cases taken
      rw [update_of_ne there] at taken'
      exact absurd same.symm (idle taken')
    · subst there
      rw [update_self] at taken'
      cases taken'
      rw [update_of_ne here] at taken
      exact absurd same (idle taken)
    · rw [update_of_ne here] at taken
      rw [update_of_ne there] at taken'
      exact holding.apart one other work' work'' taken taken' same

theorem Holding.complete (holding : Holding active held) (holds : held name = some work) :
    Holding (update active work.thingName false) (update held name none) := by
  have left {other : Fin n} {work' : ScheduledWork} (taken : update held name none other = some work') :
      other ≠ name ∧ held other = some work' := by
    by_cases here : other = name
    · subst here
      rw [update_self] at taken
      cases taken
    · rw [update_of_ne here] at taken
      exact ⟨here, taken⟩
  constructor
  · intro thingName
    by_cases same : thingName = work.thingName
    · subst same
      rw [update_self]
      refine iff_of_false Bool.false_ne_true ?_
      rintro ⟨other, work', taken, equal⟩
      exact (left taken).1 (holding.apart other name work' work (left taken).2 holds equal)
    · rw [update_of_ne same, holding.active]
      constructor
      · rintro ⟨other, work', taken, rfl⟩
        refine ⟨other, work', ?_, rfl⟩
        rw [update_of_ne]
        · exact taken
        · rintro rfl
          cases holds.symm.trans taken
          exact same rfl
      · rintro ⟨other, work', taken, rfl⟩
        exact ⟨other, work', (left taken).2, rfl⟩
  · intro one other work' work'' taken taken' same
    exact holding.apart one other work' work'' (left taken).2 (left taken').2 same

end holding

section queue
/-- For each device the commands are started as they were submitted, and the others still wait. -/
def Ordered (submitted started commands : List CapabilityCommand) : Prop :=
  ∀ thingName, submitted.filter (·.thingName = thingName) =
    started.filter (·.thingName = thingName) ++ commands.filter (·.thingName = thingName)

variable {submitted started commands left : List CapabilityCommand} {command : CapabilityCommand}

theorem Ordered.submit (ordered : Ordered submitted started commands) (command : CapabilityCommand) :
    Ordered (submitted ++ [command]) started (commands ++ [command]) := by
  intro thingName
  rw [List.filter_append, List.filter_append, ordered, List.append_assoc]

/-- The commands before the one that is taken are for devices that are active, and this one is for none of them. -/
theorem Ordered.start (ordered : Ordered submitted started commands) {active : String → Bool}
    (taken : Scheduler.takeFirst (fun command => !active command.thingName) commands = some (command, left)) :
    Ordered submitted (started ++ [command]) left := by
  obtain ⟨front, back, rfl, rfl, free, busy⟩ := Scheduler.takeFirst_some taken
  intro thingName
  rw [ordered, List.filter_append, List.filter_append, List.filter_append, List.append_assoc, List.filter_cons]
  by_cases same : command.thingName = thingName
  · have none : front.filter (·.thingName = thingName) = [] := by
      rw [List.filter_eq_nil_iff]
      intro other member equal
      have apart := busy other member
      rw [of_decide_eq_true equal, ← same] at apart
      rw [free] at apart
      cases apart
    simp [none, same]
  · simp [same]

end queue

section polling
variable {n : ℕ} {s : Scheduler} {running : Fin n → Option Poll} {discovering : Fin n → Bool} {name : Fin n} {poll : Poll}

def Due (polls : List Poll) (running : Fin n → Option Poll) (poll : Poll) : Prop :=
  poll ∈ polls ∨ ∃ name, running name = some poll

def ofCycle (cycle : ℕ) (poll : Option Poll) : Bool := poll.any (·.cycle = cycle)

structure Polling (s : Scheduler) (running : Fin n → Option Poll) (discovering : Fin n → Bool) : Prop where
  counted : s.runningPolls = tally Option.isSome running
  bounded : s.runningPolls ≤ s.workers - 1
  pending : ∀ cycle, s.pending cycle = s.polls.countP (·.cycle = cycle) + tally (ofCycle cycle) running
  current : ∀ poll, Due s.polls running poll → poll.cycle + 1 = s.cycles
  idle : ∀ name, discovering name = true → ∀ poll, ¬ Due s.polls running poll
  single : ∀ one other, discovering one = true → discovering other = true → one = other
  maintenance : s.maintenanceActive = false ↔
    (∀ name, discovering name = false) ∧ ∀ poll, ¬ Due s.polls running poll

theorem Polling.request (polling : Polling s running discovering) (ready : s.maintenanceActive = false) :
    Polling { s with maintenanceActive := true } running (update discovering name true) := by
  obtain ⟨still, none⟩ := polling.maintenance.mp ready
  have here {other : Fin n} (busy : update discovering name true other = true) : other = name := by
    by_contra apart
    rw [update_of_ne apart, still] at busy
    cases busy
  refine ⟨polling.counted, polling.bounded, polling.pending, polling.current, fun _ _ => none, ?_, ?_⟩
  · intro one other first second
    exact (here first).trans (here second).symm
  · refine iff_of_false nofun ?_
    rintro ⟨all, -⟩
    have busy := all name
    rw [update_self] at busy
    cases busy

theorem Polling.finish (polling : Polling s running discovering) (busy : discovering name = true) :
    Polling { s with maintenanceActive := false } running (update discovering name false) := by
  have still (other : Fin n) : update discovering name false other = false := by
    by_cases here : other = name
    · rw [here, update_self]
    · rw [update_of_ne here, ← Bool.not_eq_true]
      exact fun also => here (polling.single other name also busy)
  refine ⟨polling.counted, polling.bounded, polling.pending, polling.current, ?_, ?_, ?_⟩
  · intro other also
    rw [still] at also
    cases also
  · intro one other also
    rw [still] at also
    cases also
  · exact iff_of_true rfl ⟨still, polling.idle name busy⟩

variable {polls : List Poll}

theorem count_of_none (none : ∀ poll, ¬ Due polls running poll) (cycle : ℕ) :
    polls = [] ∧ tally (ofCycle cycle) running = 0 := by
  refine ⟨List.eq_nil_iff_forall_not_mem.mpr fun poll member => none poll (Or.inl member), tally_eq_zero.mpr ?_⟩
  intro other
  cases held : running other with
  | none => rfl
  | some poll => exact absurd (Or.inr ⟨other, held⟩) (none poll)

theorem Polling.busy (polling : Polling s running discovering) (due : Due s.polls running poll) :
    s.maintenanceActive = true ∧ ∀ name, discovering name = false := by
  constructor
  · rw [← Bool.not_eq_false]
    exact fun ended => (polling.maintenance.mp ended).2 poll due
  · intro name
    rw [← Bool.not_eq_true]
    exact fun also => polling.idle name also poll due

theorem Polling.start (polling : Polling s running discovering) (busy : discovering name = true)
    (thingNames : List String) :
    Polling (s.startCycle thingNames) running (update discovering name false) := by
  unfold Scheduler.startCycle
  split
  next => exact polling.finish busy
  next some =>
    have none := polling.idle name busy
    have still := ((polling.finish busy).maintenance.mp rfl).1
    have fresh (cycle : ℕ) : s.polls = [] ∧ tally (ofCycle cycle) running = 0 := count_of_none none cycle
    have queued (poll : Poll) (due : Due (s.polls ++ thingNames.map (⟨·, s.cycles⟩)) running poll) :
        poll.cycle = s.cycles := by
      obtain member | ⟨other, held⟩ := due
      · obtain old | new := List.mem_append.mp member
        · exact absurd (Or.inl old) (none poll)
        · obtain ⟨thingName, -, rfl⟩ := List.mem_map.mp new
          rfl
      · exact absurd (Or.inr ⟨other, held⟩) (none poll)
    refine ⟨polling.counted, polling.bounded, ?_, ?_, ?_, ?_, ?_⟩
    · intro cycle
      show update s.pending s.cycles _ cycle = ((s.polls ++ _).countP _ : ℤ) + _
      rw [(fresh cycle).1, (fresh cycle).2, List.nil_append]
      by_cases same : cycle = s.cycles
      · subst same
        have all : (thingNames.map (Poll.mk · s.cycles)).countP (·.cycle = s.cycles) = thingNames.length := by
          rw [List.countP_map, List.countP_eq_length]
          exact fun _ _ => decide_eq_true rfl
        rw [update_self, all]
        rfl
      · have others : (thingNames.map (Poll.mk · s.cycles)).countP (·.cycle = cycle) = 0 := by
          rw [List.countP_map, List.countP_eq_zero]
          exact fun _ _ equal => same (of_decide_eq_true equal).symm
        have before := polling.pending cycle
        rw [(fresh cycle).1, (fresh cycle).2] at before
        rw [update_of_ne same, before, others]
        rfl
    · intro poll due
      exact congrArg (· + 1) (queued poll due)
    · intro other also
      rw [still] at also
      cases also
    · intro one other also
      rw [still] at also
      cases also
    · refine iff_of_false ?_ ?_
      · intro ended
        have idle := (polling.maintenance.mp ended).1 name
        rw [busy] at idle
        cases idle
      · rintro ⟨-, nothing⟩
        obtain ⟨thingName, rest, rfl⟩ := List.exists_cons_of_ne_nil some
        exact nothing ⟨thingName, s.cycles⟩ (Or.inl (List.mem_append_right _ List.mem_cons_self))

theorem due_take {front back : List Poll} (free : running name = none) (other : Poll) :
    Due (front ++ back) (update running name (some poll)) other ↔ Due (front ++ poll :: back) running other := by
  constructor
  · rintro (member | ⟨one, held⟩)
    · rw [List.mem_append] at member
      exact Or.inl (List.mem_append.mpr (member.imp_right (List.mem_cons_of_mem _)))
    · by_cases here : one = name
      · subst here
        rw [update_self] at held
        cases held
        exact Or.inl (List.mem_append_right _ List.mem_cons_self)
      · rw [update_of_ne here] at held
        exact Or.inr ⟨one, held⟩
  · rintro (member | ⟨one, held⟩)
    · obtain first | rest := List.mem_append.mp member
      · exact Or.inl (List.mem_append_left _ first)
      · obtain rfl | rest := List.mem_cons.mp rest
        · exact Or.inr ⟨name, update_self ..⟩
        · exact Or.inl (List.mem_append_right _ rest)
    · refine Or.inr ⟨one, ?_⟩
      rw [update_of_ne]
      · exact held
      · rintro rfl
        cases free.symm.trans held

theorem Polling.take (polling : Polling s running discovering) (free : running name = none)
    {active : String → Bool} {rest : List Poll}
    (taken : Scheduler.takeFirst (fun poll => !s.active poll.thingName) s.polls = some (poll, rest))
    (room : s.runningPolls < s.workers - 1) :
    Polling { s with polls := rest, active := active, runningPolls := s.runningPolls + 1 }
      (update running name (some poll)) discovering := by
  obtain ⟨front, back, queue, rfl, -, -⟩ := Scheduler.takeFirst_some taken
  have same (other : Poll) : Due (front ++ back) (update running name (some poll)) other ↔
      Due s.polls running other := by
    rw [queue]
    exact due_take free other
  refine ⟨?_, Int.add_one_le_of_lt room, ?_, ?_, ?_, polling.single, ?_⟩
  · have more := tally_update Option.isSome running name (some poll)
    rw [free] at more
    show s.runningPolls + 1 = _
    rw [polling.counted]
    have own : (some poll).isSome.toNat = 1 := rfl
    have none : (Option.none : Option Poll).isSome.toNat = 0 := rfl
    omega
  · intro cycle
    have more := tally_update (ofCycle cycle) running name (some poll)
    rw [free] at more
    show s.pending cycle = ((front ++ back).countP _ : ℤ) + (tally _ (update running name (some poll)) : ℤ)
    have own : (ofCycle cycle (some poll)).toNat = if decide (poll.cycle = cycle) = true then 1 else 0 := by
      by_cases here : poll.cycle = cycle <;> simp [ofCycle, here]
    have none : (ofCycle cycle Option.none).toNat = 0 := rfl
    rw [polling.pending, queue, List.countP_append, List.countP_append, List.countP_cons]
    omega
  · intro other due
    exact polling.current other ((same other).mp due)
  · intro one also other due
    exact polling.idle one also other ((same other).mp due)
  · exact polling.maintenance.trans (and_congr_right fun _ => forall_congr' fun other => not_congr (same other).symm)

theorem due_complete {other : Poll} (due : Due polls (update running name none) other) : Due polls running other := by
  obtain member | ⟨one, held⟩ := due
  · exact Or.inl member
  · by_cases here : one = name
    · subst here
      rw [update_self] at held
      cases held
    · rw [update_of_ne here] at held
      exact Or.inr ⟨one, held⟩

theorem counted_of_due (due : Due polls running poll) :
    0 < polls.countP (·.cycle = poll.cycle) + tally (ofCycle poll.cycle) running := by
  obtain member | ⟨one, held⟩ := due
  · have counted : 0 < polls.countP (·.cycle = poll.cycle) := List.countP_pos_iff.mpr ⟨poll, member, decide_eq_true rfl⟩
    omega
  · have counted : tally (ofCycle poll.cycle) running ≠ 0 := by
      intro zero
      have none := tally_eq_zero.mp zero one
      rw [held] at none
      simp [ofCycle] at none
    omega

theorem Polling.complete (polling : Polling s running discovering) (holds : running name = some poll) :
    Polling (s.complete (.poll poll)) (update running name none) discovering := by
  have due : Due s.polls running poll := Or.inr ⟨name, holds⟩
  obtain ⟨active, still⟩ := polling.busy due
  have pending (cycle : ℕ) : update s.pending poll.cycle (s.pending poll.cycle - 1) cycle =
      (s.polls.countP (·.cycle = cycle) : ℤ) + (tally (ofCycle cycle) (update running name none) : ℤ) := by
    have less := tally_update (ofCycle cycle) running name none
    rw [holds] at less
    have none : (ofCycle cycle Option.none).toNat = 0 := rfl
    by_cases same : cycle = poll.cycle
    · subst same
      have own : (ofCycle poll.cycle (some poll)).toNat = 1 := by simp [ofCycle]
      rw [update_self, polling.pending]
      omega
    · have other : (ofCycle cycle (some poll)).toNat = 0 := by simp [ofCycle, Ne.symm same]
      rw [update_of_ne same, polling.pending]
      omega
  have last := pending poll.cycle
  rw [update_self] at last
  refine ⟨?_, ?_, pending, ?_, ?_, polling.single, ?_⟩
  · have less := tally_update Option.isSome running name none
    rw [holds] at less
    show s.runningPolls - 1 = _
    rw [polling.counted]
    have own : (some poll).isSome.toNat = 1 := rfl
    have none : (Option.none : Option Poll).isSome.toNat = 0 := rfl
    omega
  · have bounded := polling.bounded
    show s.runningPolls - 1 ≤ (s.workers : ℤ) - 1
    omega
  · intro other later
    exact polling.current other (due_complete later)
  · intro one also
    rw [still] at also
    cases also
  · show (if s.pending poll.cycle - 1 = 0 then false else s.maintenanceActive) = false ↔ _
    split
    next ended =>
      refine iff_of_true rfl ⟨still, ?_⟩
      intro other later
      have cycle : other.cycle = poll.cycle := by
        have one := polling.current other (due_complete later)
        have two := polling.current poll due
        omega
      have counted : 0 < s.polls.countP (·.cycle = other.cycle) +
          tally (ofCycle other.cycle) (update running name none) := counted_of_due later
      rw [cycle] at counted
      omega
    next more =>
      refine iff_of_false (by rw [active]; nofun) ?_
      rintro ⟨-, none⟩
      apply more
      obtain ⟨unqueued, unheld⟩ : s.polls = [] ∧ _ := count_of_none none poll.cycle
      rw [last, unqueued, unheld]
      rfl

end polling

section safety
variable {n : ℕ}

def pollOf : Option ScheduledWork → Option Poll
  | some (.poll poll) => some poll
  | _ => none

structure Sound (limit : ℕ) (adapter : Adapter) (foci : Fin n → Focus) : Prop where
  workers : adapter.scheduler.workers = limit
  holding : Holding adapter.scheduler.active fun name => (foci name).held
  ordered : Ordered adapter.submitted adapter.started adapter.scheduler.commands
  polling : Polling adapter.scheduler (fun name => pollOf (foci name).held) fun name => (foci name).discovering

section step
variable {limit : ℕ} {adapter : Adapter} {foci : Fin n → Focus} {name : Fin n}

/-- What has to be shown when one goroutine takes something else in hand. -/
theorem sound_of {focus : Focus} (workers : adapter.scheduler.workers = limit)
    (holding : Holding adapter.scheduler.active (update (fun name => (foci name).held) name focus.held))
    (ordered : Ordered adapter.submitted adapter.started adapter.scheduler.commands)
    (polling : Polling adapter.scheduler (update (fun name => pollOf (foci name).held) name (pollOf focus.held))
      (update (fun name => (foci name).discovering) name focus.discovering)) :
    Sound limit adapter (update foci name focus) := by
  have field {β : Type} (of : Focus → β) : (fun other => of (update foci name focus other)) =
      update (fun other => of (foci other)) name (of focus) :=
    funext fun other => Function.apply_update (fun _ => of) foci name focus other
  refine ⟨workers, ?_, ordered, ?_⟩
  · rw [field Focus.held]
    exact holding
  · rw [field fun focus => pollOf focus.held, field Focus.discovering]
    exact polling

variable (sound : Sound limit adapter foci)
include sound

theorem sound_unmoved : Sound limit adapter (update foci name (foci name)) := by
  rw [update_eq_self]
  exact sound

theorem sound_request (idle : foci name = {}) :
    Sound limit { adapter with scheduler := adapter.scheduler.requestMaintenance.1 }
      (update foci name { foci name with discovering := adapter.scheduler.requestMaintenance.2 }) := by
  cases active : adapter.scheduler.maintenanceActive with
  | true =>
    have refused : adapter.scheduler.requestMaintenance = (adapter.scheduler, false) := if_pos active
    rw [refused, idle]
    show Sound limit adapter (update foci name {})
    rw [← idle, update_eq_self]
    exact sound
  | false =>
    have begun : adapter.scheduler.requestMaintenance =
        ({ adapter.scheduler with maintenanceActive := true }, true) := if_neg (by rw [active]; nofun)
    rw [begun]
    apply sound_of
    · exact sound.workers
    · rw [update_eq_self]
      exact sound.holding
    · exact sound.ordered
    · rw [update_eq_self]
      exact sound.polling.request active

theorem sound_next (idle : foci name = {}) :
    Sound limit { adapter with
        scheduler := adapter.scheduler.nextWork.1
        started := adapter.started ++ Adapter.startedCommand adapter.scheduler.nextWork.2 }
      (update foci name { foci name with held := adapter.scheduler.nextWork.2 }) := by
  have free : (foci name).held = none := by rw [idle]
  have wait : Sound limit { adapter with started := adapter.started ++ [] }
      (update foci name { foci name with held := none }) := by
    rw [List.append_nil, idle]
    show Sound limit adapter (update foci name {})
    rw [← idle, update_eq_self]
    exact sound
  unfold Scheduler.nextWork
  split
  next command rest taken =>
    obtain ⟨front, back, -, -, available, -⟩ := Scheduler.takeFirst_some taken
    have ready : adapter.scheduler.active (ScheduledWork.command command).thingName = false :=
      (Bool.not_eq_true' _).mp available
    apply sound_of
    · exact sound.workers
    · exact sound.holding.take free ready
    · exact sound.ordered.start taken
    · have same : pollOf (some (.command command)) = pollOf (foci name).held := by rw [free]; rfl
      show Polling _ (update _ name (pollOf (some (.command command)))) _
      rw [same, update_eq_self, update_eq_self]
      exact { sound.polling with }
  next none =>
    split
    next room =>
      split
      next poll rest taken =>
        obtain ⟨front, back, -, -, available, -⟩ := Scheduler.takeFirst_some taken
        have ready : adapter.scheduler.active (ScheduledWork.poll poll).thingName = false :=
          (Bool.not_eq_true' _).mp available
        apply sound_of
        · exact sound.workers
        · exact sound.holding.take free ready
        · show Ordered adapter.submitted (adapter.started ++ []) adapter.scheduler.commands
          rw [List.append_nil]
          exact sound.ordered
        · rw [update_eq_self]
          exact sound.polling.take (by rw [free]; rfl) taken room
      next none => exact wait
    next full => exact wait

theorem sound_complete {work : ScheduledWork} (holds : foci name = { held := some work }) :
    Sound limit { adapter with scheduler := adapter.scheduler.complete work }
      (update foci name { foci name with held := none }) := by
  have held : (foci name).held = some work := by rw [holds]
  cases work with
  | command command =>
    apply sound_of
    · exact sound.workers
    · exact sound.holding.complete held
    · exact sound.ordered
    · have same : pollOf none = pollOf (foci name).held := by rw [held]; rfl
      show Polling _ (update _ name (pollOf none)) _
      rw [same, update_eq_self, update_eq_self]
      exact { sound.polling with }
  | poll poll =>
    apply sound_of
    · exact sound.workers
    · exact sound.holding.complete held
    · exact sound.ordered
    · rw [update_eq_self]
      exact sound.polling.complete (by rw [held]; rfl)

theorem sound_start (busy : foci name = { discovering := true }) (thingNames : List String) :
    Sound limit { adapter with scheduler := adapter.scheduler.startCycle thingNames }
      (update foci name { foci name with discovering := false }) := by
  have workers : (adapter.scheduler.startCycle thingNames).workers = limit := by
    unfold Scheduler.startCycle
    split <;> exact sound.workers
  apply sound_of
  · exact workers
  · rw [update_eq_self]
    unfold Scheduler.startCycle
    split <;> exact sound.holding
  · unfold Scheduler.startCycle
    split <;> exact sound.ordered
  · rw [update_eq_self]
    exact sound.polling.start (by rw [busy]) thingNames

theorem sound_finish (busy : foci name = { discovering := true }) :
    Sound limit { adapter with scheduler := adapter.scheduler.finishMaintenanceCycle }
      (update foci name { foci name with discovering := false }) := by
  apply sound_of
  · exact sound.workers
  · rw [update_eq_self]
    exact sound.holding
  · exact sound.ordered
  · rw [update_eq_self]
    exact sound.polling.finish (by rw [busy])

theorem sound_step {request : SchedulerCall} (fits : (foci name).Fits request) (answer : ThreadAnswer) :
    Sound limit (adapter.serve request answer).1
      (update foci name ((foci name).after request (adapter.serve request answer).2)) := by
  cases request with
  | requestMaintenance => exact sound_request sound fits
  | nextWork => exact sound_next sound fits
  | complete work => exact sound_complete sound fits
  | startCycle thingNames => exact sound_start sound fits thingNames
  | finishMaintenanceCycle => exact sound_finish sound fits
  | submitCommand command =>
    exact sound_unmoved ⟨sound.workers, sound.holding, sound.ordered.submit command, { sound.polling with }⟩
  | setActivePollCancel _ | cancel _ | clearActivePollCancel _ =>
    exact sound_unmoved ⟨sound.workers, sound.holding, sound.ordered, { sound.polling with }⟩
  | endpointThingNames => exact sound_unmoved sound
  | inRuntime context request => exact sound_unmoved ⟨sound.workers, sound.holding, sound.ordered, sound.polling⟩

end step

theorem sound_newScheduler (workers : ℕ) (runtime : Runtime) :
    Sound (newScheduler workers).workers ⟨newScheduler workers, runtime, [], [], []⟩ fun _ : Fin n => {} := by
  have quiet (poll : Poll) : ¬ Due [] (fun _ : Fin n => Option.none) poll := by
    rintro (⟨⟨⟩⟩ | ⟨_, ⟨⟩⟩)
  have none : tally Option.isSome (fun _ : Fin n => (Option.none : Option Poll)) = 0 := tally_eq_zero.mpr fun _ => rfl
  have room : 2 ≤ (newScheduler workers).workers := by
    show 2 ≤ if workers < 2 then 2 else workers
    split <;> omega
  refine ⟨rfl, ⟨?_, nofun⟩, fun _ => rfl, ?_, ?_, ?_, ?_, nofun, nofun, ?_⟩
  · intro thingName
    refine iff_of_false Bool.false_ne_true ?_
    rintro ⟨_, _, ⟨⟩, _⟩
  · show (0 : ℤ) = (tally Option.isSome (fun _ : Fin n => (Option.none : Option Poll)) : ℤ)
    rw [none]
    rfl
  · show (0 : ℤ) ≤ ((newScheduler workers).workers : ℤ) - 1
    omega
  · intro cycle
    show (0 : ℤ) = ((0 : ℕ) : ℤ) + (tally (ofCycle cycle) (fun _ : Fin n => Option.none) : ℤ)
    rw [(count_of_none quiet cycle).2]
    rfl
  · intro poll due
    exact absurd due (quiet poll)
  · exact iff_of_true rfl ⟨fun _ => rfl, quiet⟩

def focusOf (pool : Scheduling n) (name : Fin n) : Focus := Site.summaries tracker pool name

def runsPoll (focus : Focus) : Bool := (pollOf focus.held).isSome
def runsPollOf (cycle : ℕ) (focus : Focus) : Bool := ofCycle cycle (pollOf focus.held)

/-- One piece of work for a device at a time; a worker is left; the commands of a device are started as they were
submitted, each once, and those that are not started wait; the counter of a cycle is right; and there is maintenance
exactly while some goroutine discovers or some poll is queued or running. -/
structure Safe (workers : ℕ) (pool : Scheduling n) : Prop where
  apart : ∀ one other work work', (focusOf pool one).held = some work → (focusOf pool other).held = some work' →
    work.thingName = work'.thingName → one = other
  workerLeft : tally runsPoll (focusOf pool) + 1 ≤ (newScheduler workers).workers
  ordered : Ordered pool.shared.submitted pool.shared.started pool.shared.scheduler.commands
  pending : ∀ cycle, pool.shared.scheduler.pending cycle =
    pool.shared.scheduler.polls.countP (·.cycle = cycle) + tally (runsPollOf cycle) (focusOf pool)
  maintenance : pool.shared.scheduler.maintenanceActive = false ↔
    (∀ name, (focusOf pool name).discovering = false) ∧ pool.shared.scheduler.polls = [] ∧
      ∀ name, runsPoll (focusOf pool name) = false

theorem Sound.safe {workers : ℕ} {pool : Scheduling n}
    (sound : Sound (newScheduler workers).workers pool.shared (focusOf pool)) : Safe workers pool where
  apart := sound.holding.apart
  workerLeft := by
    have counted : pool.shared.scheduler.runningPolls = (tally runsPoll (focusOf pool) : ℤ) := sound.polling.counted
    have bounded := sound.polling.bounded
    have limit := sound.workers
    omega
  ordered := sound.ordered
  pending := sound.polling.pending
  maintenance := by
    rw [sound.polling.maintenance]
    apply and_congr_right
    intro _
    constructor
    · intro none
      refine ⟨(count_of_none none 0).1, ?_⟩
      intro name
      cases held : pollOf (focusOf pool name).held with
      | none => rw [runsPoll, held]; rfl
      | some poll => exact absurd (Or.inr ⟨name, held⟩) (none poll)
    · rintro ⟨unqueued, unheld⟩ poll (member | ⟨name, held⟩)
      · rw [unqueued] at member
        cases member
      · have held : pollOf (focusOf pool name).held = some poll := held
        have idle := unheld name
        rw [runsPoll, held] at idle
        cases idle

theorem scheduler_safe (workers : ℕ) (runtime : Runtime) (events : List (PoolEvent (fun _ : Fin n => Duty) ThreadAnswer)) :
    Safe workers ((site n).interleaving.run (started n workers runtime) events) := by
  have start : (fun focus : Focus => focus = {}) tracker.start := rfl
  have along : (site n).interleaving.Along (fun _ _ => True) (started n workers runtime) events :=
    Reaction.along_of_forall _ (fun _ _ _ => trivial) _
  obtain ⟨sound, -⟩ := Site.run_tracked start program_keeps (Sound (newScheduler workers).workers)
    (fun _ foci name sound idle => by
      rw [show tracker.start = foci name from idle.symm, update_eq_self]
      exact sound)
    (fun _ _ answer _ _ _ sound _ _ fits _ => sound_step sound fits answer)
    (sound_newScheduler workers runtime) (fun _ _ absent => by cases absent) along
  exact sound.safe

end safety

end Txing.Rig.SchedulerSafety
