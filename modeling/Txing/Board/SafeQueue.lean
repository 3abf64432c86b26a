import Txing.Board.FlightClient

/-! The queue of safe-state requests: a request stays until the loop starts it, and a request that
found the queue full is covered by an equally strong one only under a condition. -/

namespace Txing.Board.SafeQueue
open Txing.Library FlightClient

section steps
variable (c : MAVLinkFlightClient) (event : FlightEvent)

inductive QueueStep (after : MAVLinkFlightClient) (notes : List FlightNote) : Prop where
  | same (unchanged : after.safe = c.safe) (quiet : ∀ request, .queued request ∉ notes ∧ .started request ∉ notes)
  | put (request : Accepted SafeStateRequest) (longer : after.safe = c.safe ++ [request])
      (reported : notes = [.queued request])
  | taken (request : Accepted SafeStateRequest) (shorter : c.safe = request :: after.safe)
      (reported : notes = [.started request])

private theorem offerSafe_step (request : SafeStateRequest) :
    QueueStep c (offerSafe c request).1 (offerSafe c request).2 := by
  unfold offerSafe
  split_ifs
  · exact .put ⟨request, c.accepted⟩ rfl rfl
  · exact .same rfl (by simp)

theorem queueStep : QueueStep c (flight.next c event) (flight.emits c event) := by
  cases event with
  | requestSafeState reason requestDisarm => exact offerSafe_step c _
  | requestNeutral reason => exact offerSafe_step c _
  | enterSafeState reason requestDisarm => exact offerSafe_step c _
  | takeSafe =>
    simp only [Reaction.next, Reaction.emits, flight]
    split
    next request rest serving queue => exact .taken request queue rfl
    next => exact .same rfl (by simp)
  | sendFrame _ | putFrame _ | streamOpened | takeFrame _ | safeReturned | serveEnded | disconnected
  | frameReceived _ | frameLost _ | callRun _ | callLost _ =>
    refine .same ?_ ?_ <;> simp only [Reaction.next, Reaction.emits, flight, offerFrame] <;>
      (repeat' split) <;> simp

end steps

/-- The queue keeps what it was given until the loop starts it, across every reconnect. -/
theorem safe_custody : Custody flight (fun c request => request ∈ c.safe) FlightNote.queued FlightNote.started where
  kept c event request inside := by
    cases queueStep c event with
    | same unchanged _ => exact Or.inl (unchanged ▸ inside)
    | put other longer _ => exact Or.inl (longer ▸ List.mem_append_left _ inside)
    | taken first shorter reported =>
      rw [shorter] at inside
      rcases List.mem_cons.mp inside with now | later
      · exact Or.inr (by rw [reported, now]; exact List.mem_singleton_self _)
      · exact Or.inl later
  origin c event request inside := by
    cases queueStep c event with
    | same unchanged _ => exact Or.inl (unchanged ▸ inside)
    | put other longer reported =>
      rw [longer] at inside
      rcases List.mem_append.mp inside with old | new
      · exact Or.inl old
      · exact Or.inr (by rw [reported, List.mem_singleton.mp new]; exact List.mem_singleton_self _)
    | taken first shorter _ => exact Or.inl (shorter ▸ List.mem_cons_of_mem _ inside)
  departs c event request reported := by
    cases queueStep c event with
    | same _ quiet => exact absurd reported (quiet request).2
    | put other _ report => simp [report] at reported
    | taken first shorter report =>
      simp only [report, List.mem_singleton, FlightNote.started.injEq] at reported
      rw [shorter, reported]
      exact List.mem_cons_self
  arrives c event request reported := by
    cases queueStep c event with
    | same _ quiet => exact absurd reported (quiet request).1
    | put other longer report =>
      simp only [report, List.mem_singleton, FlightNote.queued.injEq] at reported
      rw [longer, reported]
      exact List.mem_append_right _ (List.mem_singleton_self _)
    | taken first _ report => simp [report] at reported

def atLeast (requestDisarm : Bool) (request : SafeStateRequest) : Bool :=
  request.requestHold && (!requestDisarm || request.requestDisarm)

section call
variable (c : MAVLinkFlightClient) (before after : List FlightEvent) (reason : String) (requestDisarm : Bool)

/-- When `RequestSafeState` returns, a request at least as strong is queued or was started since
the call began. `before` and `after` is what others do between its beginning, its one attempt
at the queue, and its return. -/
def Covered : Prop :=
  let events := before ++ .requestSafeState reason requestDisarm :: after
  (∃ request ∈ (flight.run c events).safe, atLeast requestDisarm request.item = true) ∨
    ∃ request, .started request ∈ flight.trace c events ∧ atLeast requestDisarm request.item = true

/-- At the attempt the queue has room, or holds a request that strong, or one was started since
the call began; or another caller queues one before the call returns. -/
def RoomOrCover : Prop :=
  (flight.run c before).safe.length < safeCapacity ∨
    (∃ request ∈ (flight.run c before).safe, atLeast requestDisarm request.item = true) ∨
    (∃ request, .started request ∈ flight.trace c before ∧ atLeast requestDisarm request.item = true) ∨
    ∃ request, .queued request ∈ flight.trace (flight.run c before) after ∧ atLeast requestDisarm request.item = true

/-- What was in the queue at some time, or came later, is still there or was started. -/
private theorem covered_of_inside {start : MAVLinkFlightClient} {events : List FlightEvent}
    {request : Accepted SafeStateRequest} (strong : atLeast requestDisarm request.item = true)
    (inside : request ∈ start.safe ∨ .queued request ∈ flight.trace start events) :
    (∃ request ∈ (flight.run start events).safe, atLeast requestDisarm request.item = true) ∨
      ∃ request, .started request ∈ flight.trace start events ∧ atLeast requestDisarm request.item = true := by
  have fate : request ∈ (flight.run start events).safe ∨ .started request ∈ flight.trace start events :=
    inside.elim (fun old => safe_custody.run_kept old events) safe_custody.run_arrives
  rcases fate with still | started
  · exact Or.inl ⟨request, still, strong⟩
  · exact Or.inr ⟨request, started, strong⟩

private theorem inside_of_covered {start : MAVLinkFlightClient} {events : List FlightEvent}
    (covered : (∃ request ∈ (flight.run start events).safe, atLeast requestDisarm request.item = true) ∨
      ∃ request, .started request ∈ flight.trace start events ∧ atLeast requestDisarm request.item = true) :
    ∃ request, atLeast requestDisarm request.item = true ∧
      (request ∈ start.safe ∨ .queued request ∈ flight.trace start events) := by
  rcases covered with ⟨request, inside, strong⟩ | ⟨request, started, strong⟩
  · exact ⟨request, strong, safe_custody.run_origin inside⟩
  · exact ⟨request, strong, safe_custody.run_departs started⟩

private theorem full_attempt (full : ¬ (flight.run c before).safe.length < safeCapacity) :
    flight (flight.run c before) (.requestSafeState reason requestDisarm) = (flight.run c before, []) := by
  simp only [flight, offerSafe, if_neg full]

private theorem covered_split :
    Covered c before after reason requestDisarm ↔
      (∃ request, .started request ∈ flight.trace c before ∧ atLeast requestDisarm request.item = true) ∨
      ((∃ request ∈ (flight.run (flight.run c before) (.requestSafeState reason requestDisarm :: after)).safe,
          atLeast requestDisarm request.item = true) ∨
        ∃ request, .started request ∈ flight.trace (flight.run c before)
          (.requestSafeState reason requestDisarm :: after) ∧ atLeast requestDisarm request.item = true) := by
  unfold Covered
  simp only [flight.run_append, flight.trace_append, List.mem_append, or_and_right, exists_or]
  exact or_left_comm

theorem covered_iff : Covered c before after reason requestDisarm ↔ RoomOrCover c before after requestDisarm := by
  rw [covered_split]
  by_cases room : (flight.run c before).safe.length < safeCapacity
  · refine iff_of_true (Or.inr ?_) (Or.inl room)
    have strong : atLeast requestDisarm ⟨reason, requestDisarm, true, false⟩ = true := by
      cases requestDisarm <;> rfl
    have queued : .queued ⟨⟨reason, requestDisarm, true, false⟩, (flight.run c before).accepted⟩ ∈
        flight.emits (flight.run c before) (.requestSafeState reason requestDisarm) := by
      simp [Reaction.emits, flight, offerSafe, room]
    exact covered_of_inside requestDisarm strong (Or.inr (List.mem_append_left _ queued))
  · have dropped := full_attempt c before reason requestDisarm room
    have state : flight.run (flight.run c before) (.requestSafeState reason requestDisarm :: after) =
        flight.run (flight.run c before) after := by
      rw [flight.run_cons, Reaction.next, dropped]
    have trace : flight.trace (flight.run c before) (.requestSafeState reason requestDisarm :: after) =
        flight.trace (flight.run c before) after := by
      rw [flight.trace_cons, Reaction.next, Reaction.emits, dropped, List.nil_append]
    rw [state, trace]
    constructor
    · intro covered
      rcases covered with early | late
      · exact Or.inr (Or.inr (Or.inl early))
      · obtain ⟨request, strong, inside | queued⟩ := inside_of_covered requestDisarm late
        · exact Or.inr (Or.inl ⟨request, inside, strong⟩)
        · exact Or.inr (Or.inr (Or.inr ⟨request, queued, strong⟩))
    · intro condition
      rcases condition with fits | ⟨request, inside, strong⟩ | early | ⟨request, queued, strong⟩
      · exact absurd fits room
      · exact Or.inr (covered_of_inside requestDisarm strong (Or.inl inside))
      · exact Or.inl early
      · exact Or.inr (covered_of_inside requestDisarm strong (Or.inr queued))

end call

/-- The transport is down and eight watchdog trips have filled the queue. -/
def neutralFlood : List FlightEvent :=
  List.replicate 8 (.requestNeutral "MAVLink drive-input watchdog expired")

/-- A release with disarming then finds no place, and nothing in the queue holds or disarms. -/
theorem neutralFlood_uncovered :
    ¬ Covered (flight.run startMAVLinkFlightClient neutralFlood) [] [] "MAVLink active control released" true := by
  have weak : ∀ request ∈ (flight.run (flight.run startMAVLinkFlightClient neutralFlood)
      [.requestSafeState "MAVLink active control released" true]).safe, atLeast true request.item = false := by
    decide +kernel
  have idle : flight.trace (flight.run startMAVLinkFlightClient neutralFlood)
      [.requestSafeState "MAVLink active control released" true] = [] := by decide +kernel
  intro covered
  rcases covered with ⟨request, inside, strong⟩ | ⟨request, started, _⟩
  · rw [weak request inside] at strong
    cases strong
  · rw [List.nil_append, idle] at started
    cases started

end Txing.Board.SafeQueue
