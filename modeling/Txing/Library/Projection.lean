import Txing.Library.Reaction

/-! A program seen through one of its parts: each step of the whole is a run of the part, and what
the part does is picked out of what the whole does. Runs project as their steps do. -/

namespace Txing.Library

/-- `moves` says what a step of the whole asks of the part. -/
structure Projection {State Event Output Part Move Heard : Type} (whole : Reaction State Event Output)
    (part : Reaction Part Move Heard) (view : State → Part) (pick : Output → Option Heard)
    (moves : State → Event → List Move) : Prop where
  next : ∀ state event, view (whole.next state event) = part.run (view state) (moves state event)
  emits : ∀ state event, (whole.emits state event).filterMap pick = part.trace (view state) (moves state event)

namespace Projection
variable {State Event Output Part Move Heard : Type} {whole : Reaction State Event Output}
  {part : Reaction Part Move Heard} {view : State → Part} {pick : Output → Option Heard} {moves : State → Event → List Move}

def movesAlong (whole : Reaction State Event Output) (moves : State → Event → List Move) (state : State) :
    List Event → List Move
  | [] => []
  | event :: rest => moves state event ++ movesAlong whole moves (whole.next state event) rest

variable (projection : Projection whole part view pick moves)
include projection

theorem run (state : State) (events : List Event) :
    view (whole.run state events) = part.run (view state) (movesAlong whole moves state events) := by
  induction events generalizing state with
  | nil => rfl
  | cons event rest ih => rw [whole.run_cons, ih, projection.next, movesAlong, part.run_append]

theorem trace (state : State) (events : List Event) :
    (whole.trace state events).filterMap pick = part.trace (view state) (movesAlong whole moves state events) := by
  induction events generalizing state with
  | nil => rfl
  | cons event rest ih =>
    rw [whole.trace_cons, List.filterMap_append, projection.emits, ih, projection.next, movesAlong, part.trace_append]

/-- What each step asks of the part meets the condition, so all that the run asks does. -/
theorem along {good : Part → Move → Prop} {state : State} {events : List Event}
    (each : whole.Along (fun state event => part.Along good (view state) (moves state event)) state events) :
    part.Along good (view state) (movesAlong whole moves state events) := by
  induction events generalizing state with
  | nil => trivial
  | cons event rest ih =>
    refine part.along_append.mpr ⟨each.1, ?_⟩
    rw [← projection.next]
    exact ih each.2

end Projection
end Txing.Library
