import Mathlib.Data.List.Basic

/-! Event-driven programs as reactions: a state and an event determine the next
state and the calls the program makes. Whatever the surroundings decide (replies,
failures, scheduling) is carried by the event, so one run is one list of events. -/

namespace Txing.Library

/-- What a program does with one event: its next state and the calls it makes, in order. -/
def Reaction (State Event Output : Type) := State → Event → State × List Output

namespace Reaction
variable {State Event Output : Type} (react : Reaction State Event Output)
  {good fine : State → Event → Prop} {events : List Event} {Watcher : Type}

def next (state : State) (event : Event) : State := (react state event).1

def emits (state : State) (event : Event) : List Output := (react state event).2

def run (state : State) : List Event → State
  | [] => state
  | event :: rest => run (react.next state event) rest

def trace (state : State) : List Event → List Output
  | [] => []
  | event :: rest => react.emits state event ++ trace (react.next state event) rest

/-- Every step of the run meets a condition on the state before it and its event. -/
def Along (good : State → Event → Prop) (state : State) : List Event → Prop
  | [] => True
  | event :: rest => good state event ∧ Along good (react.next state event) rest

instance decidableAlong {good : State → Event → Prop} [∀ state event, Decidable (good state event)] (state : State)
    (events : List Event) : Decidable (react.Along good state events) :=
  match events with
  | [] => isTrue trivial
  | event :: rest =>
    have : Decidable (react.Along good (react.next state event) rest) :=
      decidableAlong (react.next state event) rest
    inferInstanceAs (Decidable (good state event ∧ react.Along good (react.next state event) rest))

variable (state : State)

@[simp] theorem run_nil : react.run state [] = state := rfl

@[simp] theorem run_cons (event : Event) (rest : List Event) :
    react.run state (event :: rest) = react.run (react.next state event) rest := rfl

@[simp] theorem trace_nil : react.trace state [] = [] := rfl

@[simp] theorem trace_cons (event : Event) (rest : List Event) :
    react.trace state (event :: rest) =
      react.emits state event ++ react.trace (react.next state event) rest := rfl

theorem run_append (first second : List Event) :
    react.run state (first ++ second) = react.run (react.run state first) second := by
  induction first generalizing state with
  | nil => rfl
  | cons event rest ih => exact ih (react.next state event)

theorem trace_append (first second : List Event) :
    react.trace state (first ++ second) =
      react.trace state first ++ react.trace (react.run state first) second := by
  induction first generalizing state with
  | nil => rfl
  | cons event rest ih =>
    simp only [List.cons_append, trace_cons, run_cons, List.append_assoc]
    rw [ih (react.next state event)]

theorem mem_trace {state : State} {output : Output} (made : output ∈ react.trace state events) :
    ∃ before event after, events = before ++ event :: after ∧
      output ∈ react.emits (react.run state before) event := by
  induction events generalizing state with
  | nil => cases made
  | cons event rest ih =>
    rcases List.mem_append.mp made with now | later
    · exact ⟨[], event, rest, rfl, now⟩
    · obtain ⟨before, next, after, split, found⟩ := ih later
      exact ⟨event :: before, next, after, by rw [split]; rfl, found⟩

theorem along_append {state : State} {first second : List Event} :
    react.Along good state (first ++ second) ↔
      react.Along good state first ∧ react.Along good (react.run state first) second := by
  induction first generalizing state with
  | nil => simp [Along]
  | cons event rest ih =>
    simp only [List.cons_append, Along, run_cons]
    rw [ih, and_assoc]

theorem along_and {first second : State → Event → Prop} {state : State} (one : react.Along first state events)
    (two : react.Along second state events) :
    react.Along (fun state event => first state event ∧ second state event) state events := by
  induction events generalizing state with
  | nil => trivial
  | cons event rest ih => exact ⟨⟨one.1, two.1⟩, ih one.2 two.2⟩

theorem along_imp (implies : ∀ state event, good state event → fine state event) {state : State}
    (along : react.Along good state events) :
    react.Along fine state events := by
  induction events generalizing state with
  | nil => trivial
  | cons event rest ih => exact ⟨implies state event along.1, ih along.2⟩

theorem along_of_forall (all : ∀ event ∈ events, ∀ state, good state event) (state : State) :
    react.Along good state events := by
  induction events generalizing state with
  | nil => trivial
  | cons event rest ih =>
    exact ⟨all event List.mem_cons_self state, ih (fun other member => all other (List.mem_cons_of_mem _ member)) _⟩

/-- What all calls of a run satisfy, the calls of each step satisfy. -/
theorem along_of_trace {fine : Output → Prop} {state : State} (all : ∀ output ∈ react.trace state events, fine output) :
    react.Along (fun state event => ∀ output ∈ react.emits state event, fine output) state events := by
  induction events generalizing state with
  | nil => trivial
  | cons event rest ih =>
    exact ⟨fun output member => all output (List.mem_append_left _ member),
      ih fun output member => all output (List.mem_append_right _ member)⟩

variable (holds : State → Prop)
include holds

/-- An invariant of every step that meets the condition is an invariant of every such run. -/
theorem run_invariant
    (keeps : ∀ state event, holds state → good state event → holds (react.next state event)) {state : State}
    (start : holds state) (along : react.Along good state events) : holds (react.run state events) := by
  induction events generalizing state with
  | nil => exact start
  | cons event rest ih => exact ih (keeps state event start along.1) along.2

/-- Such an invariant may be used at every step of the run. -/
theorem along_invariant
    (keeps : ∀ state event, holds state → good state event → holds (react.next state event)) {state : State}
    (start : holds state) (along : react.Along good state events) :
    react.Along (fun state event => holds state ∧ good state event) state events := by
  induction events generalizing state with
  | nil => trivial
  | cons event rest ih => exact ⟨⟨start, along.1⟩, ih (keeps state event start along.1) along.2⟩

/-- The same for steps that need no condition. -/
theorem run_keeps (keeps : ∀ state event, holds state → holds (react.next state event))
    {state : State} (start : holds state) (events : List Event) :
    holds (react.run state events) := by
  induction events generalizing state with
  | nil => exact start
  | cons event rest ih => exact ih (keeps state event start)

/-- Conditions that agree wherever an invariant holds, agree along every run. -/
theorem along_iff (keeps : ∀ state event, holds state → good state event → holds (react.next state event))
    (same : ∀ state event, holds state → (good state event ↔ fine state event)) {state : State} (start : holds state)
    (events : List Event) :
    react.Along good state events ↔ react.Along fine state events := by
  induction events generalizing state with
  | nil => exact Iff.rfl
  | cons event rest ih =>
    constructor
    · rintro ⟨now, later⟩
      exact ⟨(same state event start).mp now, (ih (keeps state event start now)).mp later⟩
    · rintro ⟨now, later⟩
      have now := (same state event start).mpr now
      exact ⟨now, (ih (keeps state event start now)).mpr later⟩

omit holds

/-- Every state of a run has a property exactly if the first one has it and every step leads to one that does. -/
theorem along_next_iff {property : State → Prop} {state : State} (start : property state) :
    react.Along (fun state event => property (react.next state event)) state events ↔
      ∀ before after, events = before ++ after → property (react.run state before) := by
  induction events generalizing state with
  | nil =>
    refine iff_of_true trivial ?_
    intro before after split
    rw [(List.append_eq_nil_iff.mp split.symm).1]
    exact start
  | cons event rest ih =>
    constructor
    · rintro ⟨next, later⟩ before after split
      cases before with
      | nil => exact start
      | cons first before =>
        obtain ⟨rfl, same⟩ := List.cons.inj split
        exact (ih next).mp later before after same
    · intro all
      have next : property (react.next state event) := all [event] rest rfl
      refine ⟨next, (ih next).mpr ?_⟩
      intro before after split
      exact all (event :: before) after (by rw [split]; rfl)

/-- A debt that every step either pays or passes on is paid during the run or still open
at its end. -/
theorem paid_or_open {owed : State → Prop} {pays : Output → Prop}
    (passes : ∀ state event, owed state → good state event →
      (∃ output ∈ react.emits state event, pays output) ∨ owed (react.next state event)) {state : State}
    (start : owed state) (along : react.Along good state events) :
    (∃ output ∈ react.trace state events, pays output) ∨ owed (react.run state events) := by
  induction events generalizing state with
  | nil => exact Or.inr start
  | cons event rest ih =>
    rcases passes state event start along.1 with ⟨output, member, paid⟩ | still
    · exact Or.inl ⟨output, List.mem_append_left _ member, paid⟩
    · rcases ih still along.2 with ⟨output, member, paid⟩ | later
      · exact Or.inl ⟨output, List.mem_append_right _ member, paid⟩
      · exact Or.inr later

/-- The same program with someone who hears each of its calls. -/
def watched {Watcher : Type} (hear : Watcher → Output → Watcher) : Reaction (State × Watcher) Event Output :=
  fun both event =>
    ((react.next both.1 event, (react.emits both.1 event).foldl hear both.2), react.emits both.1 event)

theorem watched_run (hear : Watcher → Output → Watcher) (state : State) (watcher : Watcher) (events : List Event) :
    (react.watched hear).run (state, watcher) events =
      (react.run state events, (react.trace state events).foldl hear watcher) := by
  induction events generalizing state watcher with
  | nil => rfl
  | cons event rest ih =>
    rw [run_cons, run_cons, trace_cons, List.foldl_append]
    exact ih _ _

variable {hear : Watcher → Output → Watcher}

theorem watched_along {state : State} (along : react.Along good state events) (watcher : Watcher) :
    (react.watched hear).Along (fun both event => good both.1 event) (state, watcher) events := by
  induction events generalizing state watcher with
  | nil => trivial
  | cons event rest ih => exact ⟨along.1, ih along.2 _⟩

def listener {Watcher : Type} (hear : Watcher → Output → Watcher) : Reaction Watcher Output Empty :=
  fun watcher output => (hear watcher output, [])

theorem listener_run (hear : Watcher → Output → Watcher) (watcher : Watcher) (outputs : List Output) :
    (listener hear).run watcher outputs = outputs.foldl hear watcher := by
  induction outputs generalizing watcher with
  | nil => rfl
  | cons output rest ih => exact ih (hear watcher output)

/-- What someone finds right in the calls of each step, they find right in the calls of the run. -/
theorem listener_along {good : State × Watcher → Event → Prop} {fine : Watcher → Output → Prop}
    (each : ∀ both event, good both event → (listener hear).Along fine both.2 (react.emits both.1 event))
    {state : State} {watcher : Watcher} (along : (react.watched hear).Along good (state, watcher) events) :
    (listener hear).Along fine watcher (react.trace state events) := by
  induction events generalizing state watcher with
  | nil => trivial
  | cons event rest ih =>
    rw [trace_cons, along_append, listener_run]
    exact ⟨each _ event along.1, ih along.2⟩

end Reaction
end Txing.Library
