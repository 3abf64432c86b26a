import Mathlib.Data.List.Basic
import Mathlib.Logic.Function.Basic

/-! `LatestAsyncValueRunner` (`async-latest.ts`), one event for each callback that the microtask queue runs. A value is known by
the number of the `push` that brought it; `close` is never called. -/

namespace Txing.Office.LatestRunner

/-- A call of `drain` and the promise `loop` made of it. -/
inductive Phase where
  /-- The promise of the worker is pending. -/
  | working
  /-- It is settled, and the rest of `drain` is queued. -/
  | resuming (fulfilled : Bool)
  /-- The promise of `drain` is settled, and the callback given to `finally` is queued. -/
  | settled
  | over
  deriving DecidableEq

structure Runner where
  running : Option ℕ := none
  pendingValue : Option ℕ := none
  /-- The calls of `drain`, by number. -/
  loops : ℕ → Phase := fun _ => .over
  drains : ℕ := 0
  pushes : ℕ := 0
  /-- What became of the values, the last first: given to the worker, replaced by the next one, or cleared. -/
  given : List ℕ := []
  replaced : List ℕ := []
  cleared : List ℕ := []

inductive Event where
  | push
  | clear
  | settle (loop : ℕ) (fulfilled : Bool)
  | resume (loop : ℕ)
  | finish (loop : ℕ)

namespace Runner

def enter (s : Runner) (loop : ℕ) (phase : Phase) : Runner := { s with loops := Function.update s.loops loop phase }

def drain (s : Runner) (loop : ℕ) : Runner :=
  match s.pendingValue with
  | some nextValue => { s with pendingValue := none, given := nextValue :: s.given }.enter loop .working
  | none => s.enter loop .settled

def push (s : Runner) (value : ℕ) : Runner :=
  let s := { s with pendingValue := some value }
  if s.running.isSome then s
  else
    let loop := s.drains
    { ({ s with drains := s.drains + 1 }).drain loop with running := some loop }

/-- A callback that is not queued does not run. -/
def next (s : Runner) : Event → Runner
  | .push => { s with pushes := s.pushes + 1, replaced := s.pendingValue.toList ++ s.replaced }.push s.pushes
  | .clear => { s with pendingValue := none, cleared := s.pendingValue.toList ++ s.cleared }
  | .settle loop fulfilled => if s.loops loop = .working then s.enter loop (.resuming fulfilled) else s
  | .resume loop =>
    if s.loops loop = .resuming true then s.drain loop
    else if s.loops loop = .resuming false then s.enter loop .settled
    else s
  | .finish loop =>
    if s.loops loop = .settled then
      let s := s.enter loop .over
      let s := if s.running = some loop then { s with running := none } else s
      match s.pendingValue with
      | some value => s.push value
      | none => s
    else s

structure Booked (s : Runner) : Prop where
  ordered : s.given.Pairwise (· > ·)
  known : ∀ n ∈ s.given, n < s.pushes
  fresh : ∀ value, s.pendingValue = some value → value < s.pushes ∧ ∀ n ∈ s.given, n < value
  later : ∀ n ∈ s.replaced, n + 1 < s.pushes
  fate : ∀ n < s.pushes, n ∈ s.given ∨ n ∈ s.replaced ∨ n ∈ s.cleared ∨ s.pendingValue = some n

structure Sound (s : Runner) : Prop where
  booked : s.Booked
  live : ∀ loop, s.loops loop ≠ .over ↔ s.running = some loop
  idle : s.running = none → s.pendingValue = none

variable {s : Runner} {loop value : ℕ} {phase : Phase}

theorem live_enter {running : Option ℕ} (live : ∀ loop, s.loops loop ≠ .over ↔ s.running = some loop)
    (before : s.running = none ∨ s.running = some loop) (here : phase ≠ .over ↔ running = some loop)
    (away : ∀ other, other ≠ loop → running ≠ some other) (other : ℕ) :
    (s.enter loop phase).loops other ≠ .over ↔ running = some other := by
  unfold enter
  dsimp only
  by_cases same : other = loop
  · subst same
    rwa [Function.update_self]
  · rw [Function.update_of_ne same, live]
    refine iff_of_false ?_ (away other same)
    rcases before with none | this
    · simp [none]
    · simpa [this] using Ne.symm same

theorem live_stay (live : ∀ loop, s.loops loop ≠ .over ↔ s.running = some loop) (here : s.running = some loop)
    (goes : phase ≠ .over) (other : ℕ) : (s.enter loop phase).loops other ≠ .over ↔ s.running = some other := by
  refine live_enter live (.inr here) (iff_of_true goes here) ?_ other
  intro other apart
  simpa [here] using Ne.symm apart

theorem Booked.enter (booked : s.Booked) : (s.enter loop phase).Booked :=
  ⟨booked.ordered, booked.known, booked.fresh, booked.later, booked.fate⟩

theorem Booked.drain (booked : s.Booked) (loop : ℕ) : (s.drain loop).Booked := by
  unfold Runner.drain
  split
  next value waits =>
    obtain ⟨pushed, newest⟩ := booked.fresh value waits
    refine ⟨List.pairwise_cons.mpr ⟨newest, booked.ordered⟩, List.forall_mem_cons.mpr ⟨pushed, booked.known⟩, ?_,
      booked.later, ?_⟩
    · intro other waits
      cases waits
    · intro n early
      rcases booked.fate n early with given | replaced | cleared | pending
      · exact .inl (List.mem_cons_of_mem _ given)
      · exact .inr (.inl replaced)
      · exact .inr (.inr (.inl cleared))
      · rw [waits] at pending
        exact .inl (List.mem_cons.mpr (.inl (Option.some.inj pending).symm))
  · exact booked.enter

theorem drain_enters (s : Runner) (loop : ℕ) :
    ∃ phase, phase ≠ .over ∧ (s.drain loop).loops = (s.enter loop phase).loops ∧ (s.drain loop).running = s.running := by
  unfold drain
  split
  · exact ⟨.working, nofun, rfl, rfl⟩
  · exact ⟨.settled, nofun, rfl, rfl⟩

/-- A value that is pushed waits for the loop that runs, or a new loop gives it to the worker. -/
theorem Booked.push (booked : { s with pendingValue := some value }.Booked)
    (live : ∀ loop, s.loops loop ≠ .over ↔ s.running = some loop) : (s.push value).Sound := by
  unfold Runner.push
  dsimp only
  split
  next runs => exact ⟨booked, live, fun none => absurd runs (by rw [none]; exact Bool.false_ne_true)⟩
  next rests =>
    have stopped : s.running = none := by simpa using rests
    have drained := Booked.drain (s := { s with pendingValue := some value, drains := s.drains + 1 })
      ⟨booked.ordered, booked.known, booked.fresh, booked.later, booked.fate⟩ s.drains
    refine ⟨⟨drained.ordered, drained.known, drained.fresh, drained.later, drained.fate⟩, ?_, nofun⟩
    refine live_enter live (.inl stopped) (iff_of_true nofun rfl) ?_
    intro other apart
    simpa using Ne.symm apart

theorem Sound.next (sound : s.Sound) (event : Event) : (s.next event).Sound := by
  obtain ⟨booked, live, idle⟩ := sound
  cases event with
  | push =>
    rw [Runner.next]
    refine Booked.push ?_ live
    refine ⟨booked.ordered, fun n given => Nat.lt_succ_of_lt (booked.known n given), ?_, ?_, ?_⟩
    · rintro value ⟨⟩
      exact ⟨Nat.lt_succ_self _, booked.known⟩
    · intro n member
      rcases List.mem_append.mp member with now | before
      · have pushed := (booked.fresh n (Option.mem_toList.mp now)).1
        exact Nat.succ_lt_succ pushed
      · exact Nat.lt_succ_of_lt (booked.later n before)
    · intro n early
      rcases Nat.lt_succ_iff_lt_or_eq.mp early with before | rfl
      · rcases booked.fate n before with given | replaced | cleared | pending
        · exact .inl given
        · exact .inr (.inl (List.mem_append_right _ replaced))
        · exact .inr (.inr (.inl cleared))
        · exact .inr (.inl (List.mem_append_left _ (Option.mem_toList.mpr pending)))
      · exact .inr (.inr (.inr rfl))
  | clear =>
    refine ⟨⟨booked.ordered, booked.known, nofun, booked.later, ?_⟩, live, fun _ => rfl⟩
    intro n early
    rcases booked.fate n early with given | replaced | cleared | pending
    · exact .inl given
    · exact .inr (.inl replaced)
    · exact .inr (.inr (.inl (List.mem_append_right _ cleared)))
    · exact .inr (.inr (.inl (List.mem_append_left _ (Option.mem_toList.mpr pending))))
  | settle loop fulfilled =>
    rw [Runner.next]
    split
    next working =>
      have here := (live loop).mp (by simp [working])
      exact ⟨booked.enter, live_stay live here nofun, idle⟩
    · exact ⟨booked, live, idle⟩
  | resume loop =>
    rw [Runner.next]
    split
    next resuming =>
      have here := (live loop).mp (by simp [resuming])
      obtain ⟨phase, goes, loops, running⟩ := drain_enters s loop
      refine ⟨booked.drain loop, ?_, ?_⟩
      · rw [loops, running]
        exact live_stay live here goes
      · rw [running, here]
        exact nofun
    split
    next rejected =>
      have here := (live loop).mp (by simp [rejected])
      exact ⟨booked.enter, live_stay live here nofun, idle⟩
    · exact ⟨booked, live, idle⟩
  | finish loop =>
    rw [Runner.next]
    split
    next settled =>
      have here := (live loop).mp (by simp [settled])
      have ended (other : ℕ) : (s.enter loop .over).loops other ≠ .over ↔ (none : Option ℕ) = some other := by
        refine live_enter live (.inr here) ?_ ?_ other
        · exact iff_of_false (· rfl) nofun
        · exact fun _ _ => nofun
      have kept : s.running = (s.enter loop .over).running := rfl
      dsimp only
      rw [← kept, if_pos here]
      split
      next value waits =>
        exact Booked.push ⟨booked.ordered, booked.known, waits ▸ booked.fresh, booked.later, waits ▸ booked.fate⟩ ended
      next none => exact ⟨⟨booked.ordered, booked.known, booked.fresh, booked.later, booked.fate⟩, ended, fun _ => none⟩
    · exact ⟨booked, live, idle⟩

theorem sound_run (events : List Event) : (events.foldl next {}).Sound := by
  have start : Sound {} := ⟨⟨.nil, nofun, nofun, nofun, nofun⟩, fun _ => by simp, fun _ => rfl⟩
  exact List.foldlRecOn events next start fun s sound event _ => sound.next event

/-- A value that waits is handed to the worker by the callbacks of the loop that runs, also when the worker has failed. -/
theorem hands_on (events : List Event) (fulfilled : Bool) (waits : (events.foldl next {}).pendingValue = some value) :
    ∃ loop, ((events ++ [Event.settle loop fulfilled, .resume loop, .finish loop]).foldl next {}).given =
      value :: (events.foldl next {}).given := by
  have sound := sound_run events
  simp only [List.foldl_append]
  generalize events.foldl next {} = s at sound waits
  cases runs : s.running with
  | none =>
    rw [sound.idle runs] at waits
    cases waits
  | some loop =>
    refine ⟨loop, ?_⟩
    match phase : s.loops loop with
    | .over => exact absurd phase ((sound.live loop).mpr runs)
    | .settled => simp [next, push, drain, enter, phase, waits, runs]
    | .working => cases fulfilled <;> simp [next, push, drain, enter, phase, waits, runs]
    | .resuming ended => cases ended <;> simp [next, push, drain, enter, phase, waits, runs]

end Runner

end Txing.Office.LatestRunner
