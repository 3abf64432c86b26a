import Mathlib.Algebra.Order.Group.Int
import Mathlib.Data.List.Basic
import Mathlib.Logic.Relation

/-! Loops that read a buffer from front to back, `for position < length { … }`, with a body that
may fail. A loop that is not through after the turns it was given is `unfinished`. -/

namespace Txing.Library

/-- How a decoder stops short of a value: it reports an error, it takes a slice outside its
buffer, or its loop goes on. -/
inductive Stop where
  | error (text : String)
  | outOfRange
  | unfinished
  deriving DecidableEq

abbrev Outcome (α : Type) := Except Stop α

/-- A value or a reported error. -/
def Answers {α : Type} : Outcome α → Prop
  | .ok _ => True
  | .error (.error _) => True
  | .error _ => False

instance {α : Type} (outcome : Outcome α) : Decidable (Answers outcome) :=
  match outcome with
  | .ok _ => isTrue trivial
  | .error (.error _) => isTrue trivial
  | .error .outOfRange => isFalse id
  | .error .unfinished => isFalse id

@[simp] theorem ok_bind {α β : Type} (value : α) (next : α → Outcome β) : ((.ok value : Outcome α) >>= next) = next value :=
  rfl

@[simp] theorem error_bind {α β : Type} (stop : Stop) (next : α → Outcome β) :
    ((.error stop : Outcome α) >>= next) = .error stop :=
  rfl

theorem Answers.bind {α β : Type} {outcome : Outcome α} {next : α → Outcome β} (first : Answers outcome)
    (second : ∀ value, Answers (next value)) : Answers (outcome >>= next) := by
  rcases outcome with (text | _ | _) | value
  · trivial
  · cases first
  · cases first
  · exact second value

namespace Scan
variable {State : Type} (position : State → ℤ) (length : ℤ) (body : State → Outcome State)
  {better : State → Outcome State} {fuel : ℕ}

def loop : ℕ → State → Outcome State
  | 0, _ => .error .unfinished
  | fuel + 1, state =>
    if position state < length then
      match body state with
      | .ok next => loop fuel next
      | .error stop => .error stop
    else .ok state

def Turn (state next : State) : Prop := position state < length ∧ body state = .ok next

def Visits : State → State → Prop := Relation.ReflTransGen (Turn position length body)

def Forward (start : State) : Prop :=
  ∀ state next, Visits position length body start state → Turn position length body state next →
    position state < position next

variable {position length body}

theorem Visits.refl (state : State) : Visits position length body state state := Relation.ReflTransGen.refl

theorem Visits.head {first second last : State} (turn : Turn position length body first second)
    (rest : Visits position length body second last) : Visits position length body first last :=
  Relation.ReflTransGen.head turn rest

theorem Visits.tail {first second last : State} (before : Visits position length body first second)
    (turn : Turn position length body second last) : Visits position length body first last :=
  Relation.ReflTransGen.tail before turn

variable {start : State}

theorem Forward.next {next : State} (forward : Forward position length body start)
    (turn : Turn position length body start next) : Forward position length body next := by
  intro state after visited
  exact forward state after (Visits.head turn visited)

variable {state : State}

theorem loop_stop (inside : position state < length) {stop : Stop}
    (stops : body state = .error stop) (fuel : ℕ) : loop position length body (fuel + 1) state = .error stop := by
  rw [loop, if_pos inside, stops]

theorem loop_turn {next : State} (turn : Turn position length body state next) (fuel : ℕ) :
    loop position length body (fuel + 1) state = loop position length body fuel next := by
  rw [loop, if_pos turn.1, turn.2]

theorem loop_done (outside : ¬ position state < length) (fuel : ℕ) :
    loop position length body (fuel + 1) state = .ok state := by
  rw [loop, if_neg outside]

/-- A loop that moves forward ends at the end of the buffer or where its body stops. -/
theorem loop_ends (forward : Forward position length body start)
    (enough : length - position start < fuel) (any : 0 < fuel) :
    (∃ state, Visits position length body start state ∧ ¬ position state < length ∧
      loop position length body fuel start = .ok state) ∨
    ∃ state stop, Visits position length body start state ∧ position state < length ∧
      body state = .error stop ∧ loop position length body fuel start = .error stop := by
  induction fuel generalizing start with
  | zero => omega
  | succ fuel ih =>
    by_cases inside : position start < length
    · cases outcome : body start with
      | error stop => exact Or.inr ⟨start, stop, Visits.refl start, inside, outcome, loop_stop inside outcome fuel⟩
      | ok next =>
        have turn : Turn position length body start next := ⟨inside, outcome⟩
        have further := forward start next (Visits.refl start) turn
        rw [loop_turn turn]
        rcases ih (forward.next turn) (by omega) (by omega) with ⟨state, visited, rest⟩ | ⟨state, stop, visited, rest⟩
        · exact Or.inl ⟨state, Visits.head turn visited, rest⟩
        · exact Or.inr ⟨state, stop, Visits.head turn visited, rest⟩
    · exact Or.inl ⟨start, Visits.refl start, inside, loop_done inside fuel⟩

/-- It stops where its body does, however far that is. -/
theorem loop_stops_at (forward : Forward position length body start)
    (visited : Visits position length body start state) (inside : position state < length) {stop : Stop}
    (stops : body state = .error stop) (enough : length - position start < fuel) (any : 0 < fuel) :
    loop position length body fuel start = .error stop := by
  induction visited using Relation.ReflTransGen.head_induction_on generalizing fuel with
  | refl =>
    cases fuel with
    | zero => omega
    | succ fuel => exact loop_stop inside stops fuel
  | head turn _ ih =>
    cases fuel with
    | zero => omega
    | succ fuel =>
      have further := forward _ _ (Visits.refl _) turn
      have before := turn.1
      rw [loop_turn turn]
      exact ih (forward.next turn) (by omega) (by omega)

/-- One turn as it should be: an error is reported, or the position moves forward within the buffer. -/
def Sound (position : State → ℤ) (length : ℤ) (body : State → Outcome State) (state : State) : Prop :=
  (∃ text, body state = .error (.error text)) ∨
    ∃ next, body state = .ok next ∧ position state < position next ∧ position next ≤ length

/-- The only way a turn can go wrong, which then stops the loop. -/
structure Guarded (position : State → ℤ) (length : ℤ) (body : State → Outcome State) (bad : State → Prop) : Prop where
  stops : ∀ state, position state < length → bad state → body state = .error .outOfRange
  goes : ∀ state, position state < length → ¬ bad state → Sound position length body state

namespace Guarded
variable {bad : State → Prop} (guarded : Guarded position length body bad)
include guarded

theorem congr {wrong : State → Prop} (same : ∀ state, bad state ↔ wrong state) : Guarded position length body wrong where
  stops := by
    intro state inside goes
    exact guarded.stops state inside ((same state).mpr goes)
  goes := by
    intro state inside fine
    apply guarded.goes state inside
    rwa [same state]

theorem forward (start : State) : Forward position length body start := by
  rintro state next _ ⟨inside, done⟩
  by_cases wrong : bad state
  · rw [guarded.stops state inside wrong] at done
    cases done
  · rcases guarded.goes state inside wrong with ⟨text, failed⟩ | ⟨other, moved, further, _⟩
    · rw [failed] at done
      cases done
    · rw [moved] at done
      cases done
      exact further

/-- The loop answers exactly when it never gets to a state at which its body goes wrong. -/
theorem answers_iff {start : State} {fuel : ℕ} (enough : length - position start < fuel) (any : 0 < fuel) :
    Answers (loop position length body fuel start) ↔
      ∀ state, Visits position length body start state → position state < length → ¬ bad state := by
  constructor
  · intro answers state visited inside wrong
    rw [loop_stops_at (guarded.forward start) visited inside (guarded.stops state inside wrong) enough any] at answers
    exact answers
  · intro never
    rcases loop_ends (guarded.forward start) enough any with ⟨state, _, _, result⟩ | ⟨state, stop, visited, inside, stops, result⟩
    · rw [result]
      trivial
    · rw [result]
      rcases guarded.goes state inside (never state visited inside) with ⟨text, failed⟩ | ⟨next, moved, _⟩
      · rw [failed] at stops
        cases stops
        trivial
      · rw [moved] at stops
        cases stops

/-- The same holds of its turns being sound. -/
theorem sound_iff (start : State) :
    (∀ state, Visits position length body start state → position state < length → Sound position length body state) ↔
      ∀ state, Visits position length body start state → position state < length → ¬ bad state := by
  constructor
  · intro sound state visited inside wrong
    have stops := guarded.stops state inside wrong
    rcases sound state visited inside with ⟨text, failed⟩ | ⟨next, moved, _⟩
    · rw [stops] at failed
      cases failed
    · rw [stops] at moved
      cases moved
  · intro never state visited inside
    exact guarded.goes state inside (never state visited inside)

/-- A loop that does not answer has taken a slice outside its buffer. -/
theorem outOfRange_of_not_answers {start : State} {fuel : ℕ} (enough : length - position start < fuel) (any : 0 < fuel)
    (silent : ¬ Answers (loop position length body fuel start)) :
    loop position length body fuel start = .error .outOfRange := by
  rw [guarded.answers_iff enough any] at silent
  push Not at silent
  obtain ⟨state, visited, inside, wrong⟩ := silent
  exact loop_stops_at (guarded.forward start) visited inside (guarded.stops state inside wrong) enough any

end Guarded

/-- What the first computation gives before its fuel is used up, the second gives as well. -/
def Settles {α : Type} (less more : Outcome α) : Prop := less ≠ .error .unfinished → more = less

theorem Settles.refl {α : Type} (outcome : Outcome α) : Settles outcome outcome := fun _ => rfl

theorem Settles.bind {α β : Type} {less more : Outcome α} (first : Settles less more) {next after : α → Outcome β}
    (second : ∀ value, Settles (next value) (after value)) : Settles (less >>= next) (more >>= after) := by
  intro done
  cases less with
  | error stop =>
    rw [first (fun running => done (by rw [running, error_bind]))]
    rfl
  | ok value =>
    rw [ok_bind] at done ⊢
    rw [first (by simp), ok_bind]
    exact second value done

theorem loop_settles (grows : ∀ state, Settles (body state) (better state)) {more : ℕ} (fits : fuel ≤ more)
    (state : State) :
    Settles (loop position length body fuel state) (loop position length better more state) := by
  induction fuel generalizing more state with
  | zero =>
    intro done
    exact absurd rfl done
  | succ fuel ih =>
    obtain ⟨more, rfl⟩ : ∃ less, more = less + 1 := ⟨more - 1, by omega⟩
    intro done
    by_cases inside : position state < length
    · cases outcome : body state with
      | error stop =>
        rw [loop_stop inside outcome] at done ⊢
        apply loop_stop inside
        rw [grows state (by rw [outcome]; exact done), outcome]
      | ok next =>
        have better_next : better state = .ok next := by
          rw [grows state (by rw [outcome]; simp), outcome]
        rw [loop_turn ⟨inside, outcome⟩] at done ⊢
        rw [loop_turn ⟨inside, better_next⟩]
        exact ih (by omega) next done
    · rw [loop_done inside, loop_done inside]

theorem Visits.settles (grows : ∀ state, Settles (body state) (better state))
    (visited : Visits position length body start state) : Visits position length better start state := by
  induction visited with
  | refl => exact Visits.refl start
  | tail _ turn ih =>
    apply Visits.tail ih
    refine ⟨turn.1, ?_⟩
    rw [grows _ (by rw [turn.2]; simp), turn.2]

/-- A loop over the encodings of some items, one after another, takes them up in their order. -/
theorem loop_items {Item Acc : Type} {data : List UInt8} (cursor : ℕ → Acc → State) (encode : Item → List UInt8)
    {take : Acc → Item → Acc} {items : List Item} (placed : ∀ offset acc, position (cursor offset acc) = offset)
    (whole : length = data.length) (reads : ∀ item ∈ items, ∀ offset acc rest, data.drop offset = encode item ++ rest →
      body (cursor offset acc) = .ok (cursor (offset + (encode item).length) (take acc item)))
    (longer : ∀ item ∈ items, encode item ≠ []) {offset : ℕ} {acc : Acc}
    (there : data.drop offset = items.flatMap encode) (inside : offset ≤ data.length) (enough : items.length < fuel) :
    loop position length body fuel (cursor offset acc) = .ok (cursor data.length (items.foldl take acc)) := by
  induction items generalizing offset acc fuel with
  | nil =>
    obtain ⟨fuel, rfl⟩ : ∃ less, fuel = less + 1 := ⟨fuel - 1, by simp at enough; omega⟩
    have last : data.length ≤ offset := List.drop_eq_nil_iff.mp there
    have same : offset = data.length := by omega
    subst same
    rw [loop_done (by rw [placed, whole]; omega)]
    rfl
  | cons item rest ih =>
    obtain ⟨fuel, rfl⟩ : ∃ less, fuel = less + 1 := ⟨fuel - 1, by simp at enough; omega⟩
    rw [List.flatMap_cons] at there
    have size : data.length - offset = (encode item).length + (rest.flatMap encode).length := by
      rw [← List.length_drop, there, List.length_append]
    have some : 0 < (encode item).length := List.length_pos_iff.mpr (longer item List.mem_cons_self)
    have turn : Turn position length body (cursor offset acc)
        (cursor (offset + (encode item).length) (take acc item)) := by
      constructor
      · rw [placed, whole]
        omega
      · exact reads item List.mem_cons_self offset acc _ there
    rw [loop_turn turn]
    apply ih
    · intro other member
      exact reads other (List.mem_cons_of_mem _ member)
    · intro other member
      exact longer other (List.mem_cons_of_mem _ member)
    · rw [← List.drop_drop, there, List.drop_left]
    · omega
    · simp only [List.length_cons] at enough
      omega

end Scan
end Txing.Library
