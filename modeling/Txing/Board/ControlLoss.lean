import Txing.Board.LeaseSteps

/-! Control loss reaches the vehicle: an owner that goes without a successor leaves a request
for Hold and disarming, unless a handler cleared its lease silently. -/

namespace Txing.Board.ControlLoss
open Txing.Library MavlinkControl DaemonRuntime LeaseSteps

/-- The owner is gone after the turn and no other one has its place. -/
def LosesOwner (s : RuntimeState) (input : RuntimeInput) : Prop :=
  (leaseOf s).active ≠ none ∧ (leaseOf (runtime.next s input)).active = none

instance (s : RuntimeState) (input : RuntimeInput) : Decidable (LosesOwner s input) :=
  inferInstanceAs (Decidable (_ ∧ _))

/-- Between each loss and the end of the next tick, Hold and disarming are requested. -/
def EveryLossRequested (s : RuntimeState) (inputs : List RuntimeInput) : Prop :=
  ∀ before input between tick after, inputs = before ++ input :: (between ++ tick :: after) →
    LosesOwner (runtime.run s before) input →
    (∀ other ∈ between, other.event.isTick = false) → tick.event.isTick = true →
    ∃ call ∈ runtime.trace (runtime.run s before) (input :: (between ++ [tick])), holdsAndDisarms call = true

variable {s : RuntimeState}

theorem loss_requested {input : RuntimeInput} (attached : s.mavlinkFlight = true)
    (loud : clearsSilently s input = false) (lost : LosesOwner s input) :
    ∃ call ∈ runtime.emits s input, holdsAndDisarms call = true := by
  obtain ⟨owned, gone⟩ := lost
  have step := leaseStep s input
  generalize leaseOf (runtime.next s input) = after at step gone
  cases step with
  | kept => exact absurd gone owned
  | extended owner later held => cases gone
  | silent cleared => rw [loud] at cleared; cases cleared
  | installed owner taken => cases gone
  | surrendered asked => exact asked attached
  | driven owner given => cases gone
  | tripped asked => exact absurd gone owned

theorem silent_loses {input : RuntimeInput} (cleared : clearsSilently s input = true) : LosesOwner s input := by
  refine ⟨?_, by rw [(silent_step s input cleared).1]; rfl⟩
  simp only [clearsSilently, Bool.and_eq_true] at cleared
  obtain ⟨owner, owned, _⟩ := MAVLinkControlState.leaseExpired_owned cleared.1
  simp [leaseOf, owned]

/-- With no silent clearing on the way every loss is requested for. The condition cannot be
spared: a silent clearing followed by a tick is a loss nobody hears of. -/
theorem everyLossRequested_of_loud (s : RuntimeState) (attached : s.mavlinkFlight = true) :
    (∀ inputs, runtime.Along (fun s input => clearsSilently s input = false) s inputs →
      EveryLossRequested s inputs) ∧
    (∀ input tick, clearsSilently s input = true → tick.event.isTick = true →
      ¬ EveryLossRequested s [input, tick]) := by
  constructor
  · rintro inputs along before input between tick after rfl lost - -
    have loud := ((runtime.along_append).mp along).2.1
    have still : (runtime.run s before).mavlinkFlight = true := runtime.run_keeps (·.mavlinkFlight = true)
      (fun before input held => (settings_next before input).mavlinkFlight.trans held) attached before
    obtain ⟨call, made, safe⟩ := loss_requested still loud lost
    exact ⟨call, List.mem_append_left _ made, safe⟩
  · intro input tick cleared ticks requested
    obtain ⟨call, made, safe⟩ := requested [] input [] tick [] rfl (silent_loses cleared) (by simp) ticks
    obtain ⟨free, quiet⟩ := silent_step s input cleared
    simp only [Reaction.run_nil, List.nil_append, Reaction.trace_cons, Reaction.trace_nil, List.append_nil,
      List.mem_append] at made
    have stopped := stops_of_holdsAndDisarms safe
    rcases made with first | second
    · rw [quiet call first] at stopped
      cases stopped
    · have calm := unowned_calm (runtime.next s input) tick.observedAtMS free
      rw [calm_tick_quiet _ tick ticks calm.1 calm.2 call second] at stopped
      cases stopped

section runs

def activateRequest (takeover : Bool) : DecodedText :=
  ⟨some (.object [("type", .string "control.activate"), ("requestId", .string "1"),
    ("actor", .string "pilot"), ("takeover", .bool takeover)]), true⟩

def renewRequest : DecodedText :=
  ⟨some (.object [("type", .string "control.renew_active"), ("requestId", .string "2"),
    ("epoch", .number "1")]), true⟩

/-- Open, activate at 20 (so the lease ends at 5020), and let the next tick come at 5100. -/
def expiryRun : List RuntimeInput :=
  [⟨10, 3, .openPeer⟩, ⟨20, 3, .control "mavlink-1" (activateRequest false)⟩, ⟨5000, 3, .tick false false⟩,
    ⟨5100, 3, .tick false false⟩]

def lateRenewalRun : List RuntimeInput :=
  [⟨10, 3, .openPeer⟩, ⟨20, 3, .control "mavlink-1" (activateRequest false)⟩, ⟨5000, 3, .tick false false⟩,
    ⟨5050, 3, .control "mavlink-1" renewRequest⟩, ⟨5100, 3, .tick false false⟩]

theorem expiryRun_requested :
    LosesOwner (runtime.run (connectedRuntime false) (expiryRun.take 3)) ⟨5100, 3, .tick false false⟩ ∧
      EveryLossRequested (connectedRuntime false) expiryRun ∧
      ¬ EveryLossRequested (runtime.run (connectedRuntime false) (lateRenewalRun.take 3)) (lateRenewalRun.drop 3) :=
  ⟨by decide, (everyLossRequested_of_loud (connectedRuntime false) rfl).1 expiryRun
    ⟨by decide, by decide, by decide, by decide, trivial⟩,
    (everyLossRequested_of_loud (runtime.run (connectedRuntime false) (lateRenewalRun.take 3)) (by decide)).2 _ _
      (by decide) rfl⟩

/-- The late renewal clears the lease, is answered with `stale_epoch`, and the vehicle is never told. -/
theorem lateRenewalRun_unrequested :
    Clocked lateRenewalRun ∧ (connectedRuntime false).mavlink.active = none ∧
      ¬ EveryLossRequested (connectedRuntime false) lateRenewalRun := by
  refine ⟨by decide, rfl, ?_⟩
  intro requested
  obtain ⟨call, made, safe⟩ := requested (lateRenewalRun.take 3) ⟨5050, 3, .control "mavlink-1" renewRequest⟩ []
    ⟨5100, 3, .tick false false⟩ [] rfl (by decide) (by simp) rfl
  have quiet : ∀ call ∈ runtime.trace (runtime.run (connectedRuntime false) (lateRenewalRun.take 3))
      (lateRenewalRun.drop 3), holdsAndDisarms call = false := by decide
  rw [quiet call made] at safe
  cases safe

end runs

end Txing.Board.ControlLoss
