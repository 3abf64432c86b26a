import Txing.Board.FlightClient

/-! Frames and stop requests travel separately: a frame accepted before a stop request can reach
the flight service after that request was executed, unless nothing older was under way then. -/

namespace Txing.Board.StaleFrames
open Txing.Library MavlinkFrame FlightClient
variable {c : MAVLinkFlightClient}

def underway (c : MAVLinkFlightClient) : List (Accepted Bytes) := c.outbound ++ c.wire

def pending (c : MAVLinkFlightClient) : List (Accepted SafeStateRequest) := c.safe ++ c.calls

/-- No frame accepted before a request was queued arrives after the request was executed. -/
def NoStaleDelivery (c : MAVLinkFlightClient) (events : List FlightEvent) : Prop :=
  ∀ before event between later after request frame, events = before ++ event :: (between ++ later :: after) →
    .executed request ∈ flight.emits (flight.run c before) event →
    .delivered frame ∈ flight.emits (flight.run c (before ++ event :: between)) later →
    ¬ frame.order < request.order

/-- When the service runs a safe-state call, no frame older than its request is under way. -/
def drained (c : MAVLinkFlightClient) : FlightEvent → Bool
  | .callRun index => (c.calls[index]?).all fun request => (underway c).all fun frame => request.order ≤ frame.order
  | _ => true

/-- Where a step's frames and requests come from: they were there, or the step accepted them. -/
structure Sources (c after : MAVLinkFlightClient) : Prop where
  frames : ∀ frame ∈ underway after, frame ∈ underway c ∨ frame.order = c.accepted
  requests : ∀ request ∈ pending after, request ∈ pending c ∨ request.order = c.accepted
  grows : c.accepted ≤ after.accepted

private theorem sources_offerSafe (c : MAVLinkFlightClient) (request : SafeStateRequest) :
    Sources c (offerSafe c request).1 := by
  unfold offerSafe
  split_ifs
  · refine ⟨fun frame there => Or.inl there, fun other there => ?_, Nat.le_succ _⟩
    simp only [pending, List.mem_append, List.mem_singleton] at there ⊢
    rcases there with (old | new) | running
    · exact Or.inl (Or.inl old)
    · exact Or.inr (by rw [new])
    · exact Or.inl (Or.inr running)
  · exact ⟨fun frame there => Or.inl there, fun other there => Or.inl there, Nat.le_refl _⟩

private theorem sources_offerFrame (c : MAVLinkFlightClient) (frame : Bytes) : Sources c (offerFrame c frame).1 := by
  unfold offerFrame
  split_ifs
  · refine ⟨fun other there => ?_, fun request there => Or.inl there, Nat.le_succ _⟩
    simp only [underway, List.mem_append, List.mem_singleton] at there ⊢
    rcases there with (old | new) | sent
    · exact Or.inl (Or.inl old)
    · exact Or.inr (by rw [new])
    · exact Or.inl (Or.inr sent)
  · exact ⟨fun other there => Or.inl there, fun request there => Or.inl there, Nat.le_refl _⟩

private theorem sources_of_subset {after : MAVLinkFlightClient} (frames : underway after ⊆ underway c)
    (requests : pending after ⊆ pending c) (same : after.accepted = c.accepted) : Sources c after :=
  ⟨fun _ there => Or.inl (frames there), fun _ there => Or.inl (requests there), Nat.le_of_eq same.symm⟩

private theorem append_eraseIdx_subset {α : Type} (first second : List α) (index : ℕ) :
    first ++ second.eraseIdx index ⊆ first ++ second := by
  intro item there
  rcases List.mem_append.mp there with one | two
  · exact List.mem_append_left _ one
  · exact List.mem_append_right _ ((List.eraseIdx_sublist second index).subset two)

theorem sources (c : MAVLinkFlightClient) (event : FlightEvent) : Sources c (flight.next c event) := by
  cases event with
  | requestSafeState reason requestDisarm => exact sources_offerSafe c _
  | requestNeutral reason => exact sources_offerSafe c _
  | enterSafeState reason requestDisarm => exact sources_offerSafe c _
  | putFrame index =>
    simp only [Reaction.next, flight]
    split
    next frame found =>
      have put := sources_offerFrame { c with sending := c.sending.eraseIdx index } frame
      exact ⟨put.frames, put.requests, put.grows⟩
    next => exact sources_of_subset (.refl _) (.refl _) rfl
  | takeFrame sent =>
    simp only [Reaction.next, flight]
    split
    next frame rest serving queue =>
      have moved : ∀ other, other ∈ rest ∨ other ∈ c.wire ∨ other = frame → other ∈ underway c := by
        intro other there
        simp only [underway, queue, List.mem_append, List.mem_cons]
        tauto
      split_ifs
      · refine sources_of_subset (fun other there => moved other ?_) (.refl _) rfl
        simpa [underway, or_assoc] using there
      · refine sources_of_subset (fun other there => moved other ?_) (.refl _) rfl
        simp only [underway, List.mem_append] at there
        tauto
    next => exact sources_of_subset (.refl _) (.refl _) rfl
  | takeSafe =>
    simp only [Reaction.next, flight]
    split
    next request rest serving queue =>
      refine sources_of_subset (.refl _) (fun other there => ?_) rfl
      simp only [pending, queue, List.mem_append, List.mem_cons] at there ⊢
      tauto
    next => exact sources_of_subset (.refl _) (.refl _) rfl
  | frameReceived index =>
    simp only [Reaction.next, flight]
    split
    · exact sources_of_subset (append_eraseIdx_subset _ _ index) (.refl _) rfl
    · exact sources_of_subset (.refl _) (.refl _) rfl
  | frameLost index =>
    exact sources_of_subset (append_eraseIdx_subset _ _ index) (.refl _) rfl
  | callRun index =>
    simp only [Reaction.next, flight]
    split
    · exact sources_of_subset (.refl _) (append_eraseIdx_subset _ _ index) rfl
    · exact sources_of_subset (.refl _) (.refl _) rfl
  | callLost index =>
    exact sources_of_subset (.refl _) (append_eraseIdx_subset _ _ index) rfl
  | sendFrame _ | streamOpened | safeReturned | serveEnded | disconnected =>
    simp only [Reaction.next, flight]
    split_ifs <;> exact sources_of_subset (.refl _) (.refl _) rfl

def Stamped (c : MAVLinkFlightClient) : Prop := ∀ request ∈ pending c, request.order ≤ c.accepted

theorem stamped_next (stamped : Stamped c) (event : FlightEvent) : Stamped (flight.next c event) := by
  intro request there
  have step := sources c event
  have grows := step.grows
  rcases step.requests request there with old | new
  · have earlier := stamped request old
    omega
  · omega

theorem stamped_run (events : List FlightEvent) : Stamped (flight.run startMAVLinkFlightClient events) := by
  have start : Stamped startMAVLinkFlightClient := by
    intro request there
    cases there
  exact flight.run_keeps Stamped (fun c event stamped => stamped_next stamped event) start events

def CleanSince (order : ℕ) (c : MAVLinkFlightClient) : Prop :=
  order ≤ c.accepted ∧ ∀ frame ∈ underway c, order ≤ frame.order

theorem cleanSince_next {order : ℕ} (clean : CleanSince order c) (event : FlightEvent) :
    CleanSince order (flight.next c event) := by
  have step := sources c event
  obtain ⟨bound, young⟩ := clean
  refine ⟨Nat.le_trans bound step.grows, fun frame there => ?_⟩
  rcases step.frames frame there with old | new
  · exact young frame old
  · omega

/-- Only a call that is run executes its request, and what is delivered was on the wire. -/
def Noted (c : MAVLinkFlightClient) (event : FlightEvent) : FlightNote → Prop
  | .executed request => ∃ index, event = .callRun index ∧ c.calls[index]? = some request
  | .delivered frame => frame ∈ underway c
  | _ => True

theorem emits_noted {event : FlightEvent} {note : FlightNote} (emitted : note ∈ flight.emits c event) :
    Noted c event note := by
  cases event with
  | callRun index =>
    simp only [Reaction.emits, flight] at emitted
    split at emitted
    next request found =>
      obtain rfl := List.mem_singleton.mp emitted
      exact ⟨index, rfl, found⟩
    next => cases emitted
  | frameReceived index =>
    simp only [Reaction.emits, flight] at emitted
    split at emitted
    next frame found =>
      obtain rfl := List.mem_singleton.mp emitted
      exact List.mem_append_right _ (List.mem_of_getElem? found)
    next => cases emitted
  | _ =>
    simp only [Reaction.emits, flight, offerSafe, offerFrame] at emitted
    repeat' split at emitted
    all_goals first
      | obtain rfl := List.mem_singleton.mp emitted
        trivial
      | cases emitted

section reach

/-- From wherever the loop is it can come back to its `select`, with both ends of the stream as they were. -/
private theorem reach_serving (c : MAVLinkFlightClient) :
    ∃ events, (flight.run c events).phase = .serving ∧ (flight.run c events).outbound = c.outbound ∧
      (flight.run c events).wire = c.wire := by
  cases phase : c.phase with
  | serving => exact ⟨[], phase, rfl, rfl⟩
  | down => exact ⟨[.streamOpened], by simp [Reaction.next, flight, phase]⟩
  | executing => exact ⟨[.safeReturned], by simp [Reaction.next, flight, phase]⟩
  | ending => exact ⟨[.disconnected, .streamOpened], by simp [Reaction.next, flight, phase]⟩

private theorem reach_wire {c : MAVLinkFlightClient} (serving : c.phase = .serving)
    (first : List (Accepted Bytes)) {frame : Accepted Bytes} {rest : List (Accepted Bytes)}
    (queue : c.outbound = first ++ frame :: rest) : ∃ events, frame ∈ (flight.run c events).wire := by
  induction first generalizing c with
  | nil => exact ⟨[.takeFrame true], by simp [Reaction.next, flight, serving, queue]⟩
  | cons other more ih =>
    have taken : flight.next c (.takeFrame true) =
        { c with outbound := more ++ frame :: rest, wire := c.wire ++ [other] } := by
      simp [Reaction.next, flight, serving, queue]
    obtain ⟨events, sent⟩ := @ih (flight.next c (.takeFrame true)) (by rw [taken]; exact serving) (by rw [taken])
    exact ⟨.takeFrame true :: events, sent⟩

private theorem reach_delivery {c : MAVLinkFlightClient} {frame : Accepted Bytes} (there : frame ∈ underway c) :
    ∃ events index, .delivered frame ∈ flight.emits (flight.run c events) (.frameReceived index) := by
  have onWire : ∃ events, frame ∈ (flight.run c events).wire := by
    rcases List.mem_append.mp there with waiting | sent
    · obtain ⟨open_, serving, queue, _⟩ := reach_serving c
      rw [← queue] at waiting
      obtain ⟨first, rest, split⟩ := List.append_of_mem waiting
      obtain ⟨more, sent⟩ := reach_wire serving first split
      exact ⟨open_ ++ more, by rw [flight.run_append]; exact sent⟩
    · exact ⟨[], sent⟩
  obtain ⟨events, sent⟩ := onWire
  obtain ⟨index, found⟩ := List.mem_iff_getElem?.mp sent
  exact ⟨events, index, by simp [Reaction.emits, flight, found]⟩

end reach

/-- If the service runs each call only when nothing older is under way, no stale frame follows a
stop. And whenever something older is under way at a call, the run can go on to deliver it. -/
theorem noStaleDelivery_of_drained (events : List FlightEvent) :
    (flight.Along (fun c event => drained c event = true) startMAVLinkFlightClient events →
      NoStaleDelivery startMAVLinkFlightClient events) ∧
    ∀ event, drained (flight.run startMAVLinkFlightClient events) event = false →
      ∃ rest, ¬ NoStaleDelivery startMAVLinkFlightClient (events ++ event :: rest) := by
  constructor
  · intro along before event between later after request frame split executed delivered
    subst split
    obtain ⟨index, rfl, running⟩ := emits_noted executed
    have empty := ((flight.along_append).mp along).2.1
    simp only [drained, running, Option.all_some, List.all_eq_true, decide_eq_true_eq] at empty
    have stamped := stamped_run before request (List.mem_append_right _ (List.mem_of_getElem? running))
    have clean := cleanSince_next ⟨stamped, empty⟩ (.callRun index)
    have later_clean := flight.run_keeps (CleanSince _) (fun _ event kept => cleanSince_next kept event) clean between
    rw [flight.run_append] at delivered
    have young := later_clean.2 frame (emits_noted delivered)
    omega
  · intro event older
    cases event with
    | callRun index =>
      generalize reached : flight.run startMAVLinkFlightClient events = c at older
      simp only [drained] at older
      cases running : c.calls[index]? with
      | none => simp [running] at older
      | some request =>
        simp only [running, Option.all_some, List.all_eq_false, decide_eq_true_eq, Nat.not_le] at older
        obtain ⟨frame, there, stale⟩ := older
        have kept : frame ∈ underway (flight.next c (.callRun index)) := by
          simpa [Reaction.next, flight, running, underway] using there
        obtain ⟨between, position, delivered⟩ := reach_delivery kept
        refine ⟨between ++ [.frameReceived position], fun none_stale => ?_⟩
        have executed : .executed request ∈ flight.emits c (.callRun index) := by
          simp [Reaction.emits, flight, running]
        subst reached
        refine none_stale events (.callRun index) between (.frameReceived position) [] request frame rfl executed ?_ stale
        rw [flight.run_append]
        exact delivered
    | _ => cases older

section runs

def acceptBoth : List FlightEvent :=
  [.streamOpened, .sendFrame driveFrame, .putFrame 0, .requestNeutral "MAVLink drive-input watchdog expired"]

def drainedRun : List FlightEvent := acceptBoth ++ [.takeFrame true, .frameReceived 0, .takeSafe, .callRun 0]

/-- The `select` takes the stop first; the frame follows when the stop is done. -/
def staleRun : List FlightEvent :=
  acceptBoth ++ [.takeSafe, .callRun 0, .safeReturned, .takeFrame true, .frameReceived 0]

theorem drainedRun_clean :
    NoStaleDelivery startMAVLinkFlightClient drainedRun ∧
      ∃ rest, ¬ NoStaleDelivery startMAVLinkFlightClient (staleRun.take 5 ++ .callRun 0 :: rest) :=
  ⟨(noStaleDelivery_of_drained drainedRun).1
    ⟨by decide, by decide, by decide, by decide, by decide, by decide, by decide, by decide, trivial⟩,
    (noStaleDelivery_of_drained (staleRun.take 5)).2 _ (by decide)⟩

theorem staleRun_delivers : ¬ NoStaleDelivery startMAVLinkFlightClient staleRun := by
  intro none_stale
  exact none_stale (staleRun.take 5) (.callRun 0) [.safeReturned, .takeFrame true] (.frameReceived 0) []
    ⟨⟨"MAVLink drive-input watchdog expired", false, false, false⟩, 1⟩ ⟨driveFrame, 0⟩ rfl
    (by decide +kernel) (by decide +kernel) (by decide)

end runs

end Txing.Board.StaleFrames
