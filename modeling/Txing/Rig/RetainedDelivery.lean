import Txing.Rig.IpcBroker

/-! What the clients of the broker have last received of a retained topic. A frame is taken under the lock and
sent later, so the sends of two goroutines can come in the other order than their messages. -/

namespace Txing.Rig.RetainedDelivery
open Txing.Library IpcBroker
open Function (update update_of_ne update_self)

def lastPayload (received : List Message) (topic : String) : Option Payload :=
  (received.findRev? fun message => message.topic = topic).map (·.payload)

/-- Every client that is connected and subscribed has the retained payload as its last one. -/
def Delivered (broker : Broker) : Prop :=
  ∀ client ∈ broker.clients, ∀ entry ∈ broker.retained.entries, broker.matchesTopic client entry.1 = true →
    lastPayload (broker.received client) entry.1 = some entry.2

instance (broker : Broker) : Decidable (Delivered broker) := List.decidableBAll _ _

/-- What a goroutine still has to send, and the client that it is about to remove. -/
structure Sending where
  pending : List (ClientId × Message) := []
  removing : Option ClientId := none
  /-- The first failure ends it. -/
  givesUp : Bool := false
  deriving DecidableEq

namespace Sending

def sent (sending : Sending) (client : ClientId) (success : Bool) : Sending :=
  if success then { sending with pending := sending.pending.tail }
  else { sending with
    pending := sending.pending.tail.filter fun frame => !sending.givesUp || frame.1 ≠ client
    removing := some client }

def after (sending : Sending) : (request : BrokerCall) → BrokerReply request → Sending
  | .publishLocked message _, clients => { pending := List.map (·, message) clients }
  | .subscribeLocked client _, frames => { pending := List.map (client, ·) frames, givesUp := true }
  | .send client _, success => sending.sent client success
  | .removeClient _, _ => { sending with removing := none }
  | .accept _, _ => sending

def Fits (sending : Sending) : BrokerCall → Prop
  | .send client message => sending.removing = none ∧ sending.pending.head? = some (client, message)
  | .removeClient client => sending.removing = some client ∨ sending.removing = none
  | _ => sending.pending = [] ∧ sending.removing = none

/-- A frame of this topic is still to be sent to the client, or the client is about to be removed. -/
def due (sending : Sending) (client : ClientId) (topic : String) : Bool :=
  sending.removing = some client || sending.pending.any fun frame => frame.1 = client && frame.2.topic = topic

end Sending

def tracker : Process.Tracker BrokerReply Sending where
  start := {}
  after sending exchange := sending.after exchange.1 exchange.2
  allows := Sending.Fits

variable {n : ℕ}

def sendingOf (pool : Serving n) (name : Fin n) : Sending := Site.summaries tracker pool name

/-- A frame whose payload is no longer the retained one is not the last one that is to be sent to its client. -/
def current (pool : Serving n) : PoolEvent (fun _ : Fin n => Request) Answer → Bool
  | .step name _ =>
    match pool.threads name with
    | some ⟨_, _, .call (.send client message) _⟩ =>
      (pool.shared.retained.lookup message.topic).all (· = message.payload) ||
        (List.finRange n).any fun other =>
          (update (sendingOf pool) name ((sendingOf pool name).sent client true) other).due client message.topic
    | _ => true
  | .begin _ _ => true

def Quiet (pool : Serving n) : Prop := ∀ name, pool.Free name

instance (pool : Serving n) : Decidable (Quiet pool) :=
  decidable_of_iff (∀ name ∈ List.finRange n, pool.free name = true) <| by
    simp only [List.mem_finRange, forall_const, Pool.free_iff, Quiet]

section programs
variable {α : Type} {before : Sending → Prop}

abbrev Sends (before : Sending → Prop) (program : Work α) (ends : α → Sending → Prop) : Prop :=
  program.Tracks tracker before ends

def Clear (sending : Sending) : Prop := sending.pending = [] ∧ sending.removing = none

theorem sends_ask (request : BrokerCall) {ends : BrokerReply request → Sending → Prop}
    (allowed : ∀ sending, before sending → sending.Fits request)
    (follows : ∀ sending, before sending → ∀ reply, ends reply (sending.after request reply)) :
    Sends before (ask request) ends :=
  Process.tracks_ask request allowed follows

variable (client : ClientId)

theorem sends_removeClient
    (allowed : ∀ sending, before sending → sending.removing = some client ∨ sending.removing = none) :
    Sends before (removeClient client) fun _ sending =>
      ∃ last, before last ∧ sending = { last with removing := none } :=
  sends_ask (.removeClient client) allowed fun sending met _ => ⟨sending, met, rfl⟩

theorem sends_sendAll (message : Message) (clients : List ClientId) :
    Sends (fun sending => sending = { pending := clients.map (·, message) }) (sendAll message clients)
      fun _ => Clear := by
  induction clients with
  | nil =>
    apply Process.tracks_pure
    rintro sending rfl
    exact ⟨rfl, rfl⟩
  | cons client rest ih =>
    have first : Sends (fun sending => sending = { pending := (client :: rest).map (·, message) }) (send client message)
        fun success sending => sending = { pending := rest.map (·, message), removing := if success then none else some client } := by
      apply sends_ask (.send client message)
      · rintro sending rfl
        exact ⟨rfl, rfl⟩
      · rintro sending rfl success
        cases success with
        | true => rfl
        | false =>
          show ({ pending := (rest.map (·, message)).filter fun _ => true, removing := some client } : Sending) = _
          rw [List.filter_true]
          rfl
    apply Process.tracks_bind first
    intro success
    cases success with
    | true => exact ih
    | false =>
      apply Process.tracks_bind (sends_removeClient client _)
      · intro _
        apply ih.weaken _ fun _ _ met => met
        rintro sending ⟨last, rfl, rfl⟩
        rfl
      · rintro sending rfl
        exact Or.inl rfl

theorem sends_publish (topic : String) (payload : Payload) (retain : Bool) :
    Sends Clear (publish topic payload retain) fun _ => Clear := by
  have locked : Sends Clear (publishLocked ⟨topic, payload⟩ retain)
      fun clients sending => sending = { pending := clients.map (·, ⟨topic, payload⟩) } :=
    sends_ask (.publishLocked _ _) (fun _ met => met) fun _ _ _ => rfl
  exact Process.tracks_bind locked fun clients => sends_sendAll _ clients

theorem sends_sendRetained (frames : List Message) :
    Sends (fun sending => sending = { pending := frames.map (client, ·), givesUp := true }) (sendRetained client frames)
      fun _ => Clear := by
  induction frames with
  | nil =>
    apply Process.tracks_pure
    rintro sending rfl
    exact ⟨rfl, rfl⟩
  | cons message rest ih =>
    have first : Sends (fun sending => sending = { pending := (message :: rest).map (client, ·), givesUp := true })
        (send client message) fun success sending =>
          if success then sending = { pending := rest.map (client, ·), givesUp := true }
          else sending = { removing := some client, givesUp := true } := by
      apply sends_ask (.send client message)
      · rintro sending rfl
        exact ⟨rfl, rfl⟩
      · rintro sending rfl success
        cases success with
        | true => rfl
        | false =>
          show Sending.mk _ _ _ = _
          rw [List.filter_eq_nil_iff.mpr]
          intro frame member
          obtain ⟨message, -, rfl⟩ := List.mem_map.mp member
          simp
    apply Process.tracks_bind first
    intro success
    cases success with
    | true => exact ih
    | false =>
      apply (sends_removeClient client _).weaken (fun _ met => met)
      · rintro _ sending ⟨last, rfl, rfl⟩
        exact ⟨rfl, rfl⟩
      · rintro sending rfl
        exact Or.inl rfl

theorem sends_subscribe (filter : String) : Sends Clear (subscribe client filter) fun _ => Clear := by
  have locked : Sends Clear (subscribeLocked client filter)
      fun frames sending => sending = { pending := frames.map (client, ·), givesUp := true } :=
    sends_ask (.subscribeLocked _ _) (fun _ met => met) fun _ _ _ => rfl
  exact Process.tracks_bind locked fun frames => sends_sendRetained client frames

theorem sends_leave : Sends Clear (removeClient client) fun _ => Clear := by
  apply (sends_removeClient client fun _ met => Or.inr met.2).weaken (fun _ met => met)
  rintro _ sending ⟨last, met, rfl⟩
  exact ⟨met.1, rfl⟩

theorem sends_handleFrame (frame : Option Frame) : Sends Clear (handleFrame client frame) fun _ => Clear := by
  cases frame with
  | none => exact sends_leave client
  | some frame =>
    dsimp only [handleFrame]
    split_ifs
    · exact sends_leave client
    · exact sends_subscribe client frame.topic
    · exact sends_leave client
    · exact sends_publish _ _ _
    · exact sends_leave client
    · exact sends_publish _ _ _
    · exact sends_leave client

theorem program_keeps (name : Fin n) (request : Request) :
    ((site n).program name request).Keeps (tracker.contract fun _ => Clear) [] := by
  have start : Clear (tracker.summary []) := ⟨rfl, rfl⟩
  cases request with
  | connection client => exact sends_ask (.accept client) (fun _ met => met) (fun _ met _ => met) [] start
  | line client frame => exact sends_handleFrame client frame [] start
  | message topic payload retain => exact sends_publish topic payload retain [] start

end programs

section delivery
variable {broker : Broker} {sendings : Fin n → Sending} {name : Fin n} {receiver client : ClientId} {sending : Sending}

/-- A client that is subscribed to a retained topic has its payload, or still gets a frame of the topic. -/
def Owed (broker : Broker) (sendings : Fin n → Sending) : Prop :=
  ∀ client ∈ broker.clients, ∀ topic payload, broker.retained.lookup topic = some payload →
    broker.matchesTopic client topic = true →
      (∃ name, (sendings name).due client topic = true) ∨
        lastPayload (broker.received client) topic = some payload

theorem delivered_of_clear (owed : Owed broker sendings) (clear : ∀ name, Clear (sendings name)) : Delivered broker := by
  intro client connected entry kept subscribed
  refine (owed client connected entry.1 entry.2 (AList.mem_lookup_iff.mpr kept) subscribed).resolve_left ?_
  rintro ⟨name, due⟩
  simp [Sending.due, (clear name).1, (clear name).2] at due

theorem due_iff (sending : Sending) (client : ClientId) (topic : String) :
    sending.due client topic = true ↔
      sending.removing = some client ∨ ∃ message, (client, message) ∈ sending.pending ∧ message.topic = topic := by
  simp only [Sending.due, Bool.or_eq_true, decide_eq_true_eq, List.any_eq_true, Bool.and_eq_true, Prod.exists]
  constructor
  · rintro (removing | ⟨_, message, member, rfl, same⟩)
    · exact Or.inl removing
    · exact Or.inr ⟨message, member, same⟩
  · rintro (removing | ⟨message, member, same⟩)
    · exact Or.inl removing
    · exact Or.inr ⟨client, message, member, rfl, same⟩

variable {topic : String}

/-- What other goroutines owe stays, and so does what this one owes if it still owes it. -/
theorem due_update (due : ∃ name, (sendings name).due client topic = true)
    (stays : (sendings name).due client topic = true → sending.due client topic = true) :
    ∃ other, (update sendings name sending other).due client topic = true := by
  obtain ⟨other, due⟩ := due
  refine ⟨other, ?_⟩
  by_cases same : other = name
  · subst same
    rw [update_self]
    exact stays due
  · rwa [update_of_ne same]

theorem not_due_of_clear (clear : Clear (sendings name)) (client : ClientId) (topic : String) :
    ¬ (sendings name).due client topic = true := by
  rw [due_iff, clear.1, clear.2]
  rintro (⟨⟨⟩⟩ | ⟨_, ⟨⟩, _⟩)

theorem due_self (due : sending.due client topic = true) :
    ∃ other, (update sendings name sending other).due client topic = true :=
  ⟨name, by rwa [update_self]⟩

theorem owed_publish (owed : Owed broker sendings) (clear : Clear (sendings name)) (message : Message) (retain : Bool)
    (order : List ClientId) :
    Owed (if retain then broker.retain message else broker) (update sendings name
      { pending := (ordered order (broker.receivers message.topic)).map (·, message) }) := by
  intro client connected topic payload kept subscribed
  by_cases own : retain = true ∧ topic = message.topic
  · obtain ⟨rfl, rfl⟩ := own
    left
    apply due_self
    rw [due_iff]
    exact Or.inr ⟨message, List.mem_map_of_mem ((mem_ordered ..).mpr
      (List.mem_filter.mpr ⟨connected, subscribed⟩)), rfl⟩
  · have before : client ∈ broker.clients ∧ broker.retained.lookup topic = some payload ∧
        broker.matchesTopic client topic = true ∧
        (if retain then broker.retain message else broker).received = broker.received := by
      cases retain with
      | false => exact ⟨connected, kept, subscribed, rfl⟩
      | true =>
        have other : topic ≠ message.topic := fun same => own ⟨rfl, same⟩
        exact ⟨connected, (AList.lookup_insert_ne other).symm.trans kept, subscribed, rfl⟩
    obtain ⟨connected, kept, subscribed, same⟩ := before
    rw [same]
    apply (owed client connected topic payload kept subscribed).imp_left
    intro due
    exact due_update due fun here => absurd here (not_due_of_clear clear client topic)

theorem owed_subscribe (owed : Owed broker sendings) (clear : Clear (sendings name)) (newcomer : ClientId)
    (filter : String) (order : List Message) :
    Owed (broker.addSubscription newcomer filter) (update sendings name
      { pending := (ordered order (broker.retainedFrames filter)).map (newcomer, ·), givesUp := true }) := by
  intro client connected topic payload kept subscribed
  by_cases own : client = newcomer ∧ topicMatches filter topic = true
  · obtain ⟨rfl, fits⟩ := own
    left
    apply due_self
    rw [due_iff]
    refine Or.inr ⟨⟨topic, payload⟩, List.mem_map_of_mem ((mem_ordered ..).mpr ?_), rfl⟩
    exact List.mem_map.mpr ⟨⟨topic, payload⟩, List.mem_filter.mpr ⟨AList.mem_lookup_iff.mp kept, fits⟩, rfl⟩
  · have before : broker.matchesTopic client topic = true := by
      by_cases same : client = newcomer
      · subst same
        simp only [Broker.matchesTopic, Broker.addSubscription, update_self, List.any_append, Bool.or_eq_true,
          List.any_cons, List.any_nil, Bool.or_false] at subscribed
        exact subscribed.resolve_right fun fits => own ⟨rfl, fits⟩
      · simpa only [Broker.matchesTopic, Broker.addSubscription, update_of_ne same] using subscribed
    apply (owed client connected topic payload kept before).imp_left
    intro due
    exact due_update due fun here => absurd here (not_due_of_clear clear client topic)

theorem lastPayload_snoc (received : List Message) (message : Message) (topic : String) :
    lastPayload (received ++ [message]) topic =
      if message.topic = topic then some message.payload else lastPayload received topic := by
  unfold lastPayload
  rw [List.findRev?_eq_find?_reverse, List.findRev?_eq_find?_reverse, List.reverse_append, List.reverse_singleton,
    List.singleton_append, List.find?_cons]
  by_cases same : message.topic = topic <;> simp [same]

variable {message : Message}

theorem due_sent (head : sending.pending.head? = some (receiver, message))
    (other : client ≠ receiver ∨ topic ≠ message.topic) (due : sending.due client topic = true) :
    (sending.sent receiver true).due client topic = true := by
  obtain ⟨pending, removing, givesUp⟩ := sending
  obtain ⟨rest, rfl⟩ : ∃ rest, pending = (receiver, message) :: rest := List.head?_eq_some_iff.mp head
  rw [due_iff] at due ⊢
  apply due.imp_right
  rintro ⟨one, member, same⟩
  refine ⟨one, (List.mem_cons.mp member).resolve_left ?_, same⟩
  rintro ⟨⟩
  obtain apart | apart := other
  · exact apart rfl
  · exact apart same.symm

theorem owed_sent (owed : Owed broker sendings) (head : (sendings name).pending.head? = some (receiver, message))
    (current : broker.retained.lookup message.topic ≠ some message.payload →
      broker.retained.lookup message.topic ≠ none →
      ∃ other, (update sendings name ((sendings name).sent receiver true) other).due receiver message.topic = true) :
    Owed (broker.deliver receiver message) (update sendings name ((sendings name).sent receiver true)) := by
  intro client connected topic payload kept subscribed
  by_cases own : client = receiver ∧ topic = message.topic
  · obtain ⟨rfl, rfl⟩ := own
    by_cases same : payload = message.payload
    · right
      show lastPayload (update broker.received client _ client) _ = _
      rw [update_self, lastPayload_snoc, if_pos rfl, same]
    · left
      have kept : broker.retained.lookup message.topic = some payload := kept
      apply current
      · rw [kept]
        exact fun equal => same (Option.some.inj equal)
      · rw [kept]
        nofun
  · have apart : client ≠ receiver ∨ topic ≠ message.topic := by
      by_contra both
      rw [not_or, not_not, not_not] at both
      exact own both
    obtain due | last := owed client connected topic payload kept subscribed
    · exact Or.inl (due_update due (due_sent head apart))
    · right
      show lastPayload (update broker.received receiver _ client) _ = _
      by_cases same : client = receiver
      · subst same
        rw [update_self, lastPayload_snoc, if_neg (fun equal => own ⟨rfl, equal.symm⟩)]
        exact last
      · rw [update_of_ne same]
        exact last

theorem owed_failed (owed : Owed broker sendings)
    (head : (sendings name).pending.head? = some (receiver, message)) (idle : (sendings name).removing = none) :
    Owed broker (update sendings name ((sendings name).sent receiver false)) := by
  intro client connected topic payload kept subscribed
  by_cases own : client = receiver
  · left
    apply due_self
    rw [due_iff]
    exact Or.inl (congrArg some own.symm)
  · apply (owed client connected topic payload kept subscribed).imp_left
    intro due
    apply due_update due
    intro here
    have still := due_sent head (Or.inl own) here
    rw [due_iff] at still ⊢
    obtain removing | ⟨one, member, same⟩ := still
    · exact absurd (idle.symm.trans removing) nofun
    · refine Or.inr ⟨one, List.mem_filter.mpr ⟨member, ?_⟩, same⟩
      simp [own]

theorem owed_remove (owed : Owed broker sendings) (leaver : ClientId)
    (idle : (sendings name).removing = some leaver ∨ (sendings name).removing = none) :
    Owed (broker.delete leaver) (update sendings name { sendings name with removing := none }) := by
  intro client connected topic payload kept subscribed
  obtain ⟨connected, stays⟩ := List.mem_filter.mp connected
  apply (owed client connected topic payload kept subscribed).imp_left
  intro due
  apply due_update due
  intro here
  rw [due_iff] at here ⊢
  refine Or.inr (here.resolve_left ?_)
  intro removing
  obtain same | none := idle
  · cases removing.symm.trans same
    simp at stays
  · cases removing.symm.trans none

theorem owed_connect (owed : Owed broker sendings) (newcomer : ClientId) :
    Owed (broker.connect newcomer) sendings := by
  intro client connected topic payload kept subscribed
  by_cases same : client = newcomer
  · subst same
    simp [Broker.matchesTopic, Broker.connect] at subscribed
  · have connected : client ∈ broker.clients := (List.mem_cons.mp connected).resolve_left same
    have subscribed : broker.matchesTopic client topic = true := by
      simpa only [Broker.matchesTopic, Broker.connect, update_of_ne same] using subscribed
    have before := owed client connected topic payload kept subscribed
    simpa only [Broker.connect, update_of_ne same] using before

end delivery

section run
variable {pool : Serving n}

theorem owed_began {broker : Broker} {sendings : Fin n → Sending} {name : Fin n} (owed : Owed broker sendings)
    (clear : Clear (sendings name)) : Owed broker (update sendings name {}) := by
  intro client connected topic payload kept subscribed
  apply (owed client connected topic payload kept subscribed).imp_left
  intro due
  exact due_update due fun here => absurd here (not_due_of_clear clear client topic)

theorem owed_made {name : Fin n} {answer : Answer} {running : Running Request BrokerReply Unit} {request : BrokerCall}
    {resume : BrokerReply request → Work Unit} (owed : Owed pool.shared (sendingOf pool))
    (found : pool.threads name = some running) (due : running.rest = .call request resume)
    (fits : (sendingOf pool name).Fits request) (fresh : current pool (.step name answer) = true) :
    Owed (serve pool.shared request answer).1
      (update (sendingOf pool) name ((sendingOf pool name).after request (serve pool.shared request answer).2)) := by
  cases request with
  | accept client =>
    rw [show (sendingOf pool name).after (.accept client) _ = sendingOf pool name from rfl, Function.update_eq_self]
    exact owed_connect owed client
  | publishLocked message retain => exact owed_publish owed fits message retain answer.clients
  | subscribeLocked client filter => exact owed_subscribe owed fits client filter answer.frames
  | removeClient client => exact owed_remove owed client fits
  | send client message =>
    obtain ⟨idle, head⟩ := fits
    by_cases sent : (answer.sends && decide (client ∈ pool.shared.clients)) = true
    · have served : serve pool.shared (.send client message) answer = (pool.shared.deliver client message, true) :=
        if_pos sent
      rw [served]
      apply owed_sent owed head
      intro stale kept
      obtain ⟨input, past, rest⟩ := running
      dsimp only at due
      subst due
      simp only [current, found, Bool.or_eq_true] at fresh
      obtain same | still := fresh
      · obtain ⟨payload, lookup⟩ := Option.ne_none_iff_exists'.mp kept
        rw [lookup, Option.all_some, decide_eq_true_eq] at same
        exact absurd (lookup.trans (congrArg some same)) stale
      · obtain ⟨other, -, due⟩ := List.any_eq_true.mp still
        exact ⟨other, due⟩
    · have served : serve pool.shared (.send client message) answer = (pool.shared, false) := if_neg sent
      rw [served]
      exact owed_failed owed head idle

/-- When no frame is the last one on its way to its client after a newer payload was retained, every client has
the retained payload in the end. -/
theorem delivered_of_current (events : List (PoolEvent (fun _ : Fin n => Request) Answer))
    (along : (site n).interleaving.Along (current · ·) (serving n) events)
    (quiet : Quiet ((site n).interleaving.run (serving n) events)) :
    Delivered ((site n).interleaving.run (serving n) events).shared := by
  obtain ⟨owed, clear⟩ := Site.run_tracked ⟨rfl, rfl⟩ program_keeps Owed
    (fun _ _ _ owed clear => owed_began owed clear)
    (fun _ _ _ _ _ _ owed found due fits fresh => owed_made owed found due fits fresh)
    (fun _ connected => by cases connected) (fun _ _ absent => by cases absent) along
  exact delivered_of_clear owed fun name => clear name (quiet name)

end run

section runs

def line (client : ClientId) (type : String) (payload : Payload) : Request := .line client (some ⟨type, "state", payload⟩)

def does (name : Fin 4) (request : Request) (steps : ℕ) : List (PoolEvent (fun _ : Fin 4 => Request) Answer) :=
  .begin name request :: List.replicate steps (.step name {})

def connected : List (PoolEvent (fun _ : Fin 4 => Request) Answer) :=
  does 0 (.connection 1) 1 ++ does 0 (.connection 2) 1 ++ does 0 (.connection 3) 1 ++ does 1 (line 1 "subscribe" []) 1

def inTurn : List (PoolEvent (fun _ : Fin 4 => Request) Answer) :=
  connected ++ does 2 (line 2 "publish-retained" [1]) 2 ++ does 3 (line 3 "publish-retained" [2]) 2

/-- The frame of the second client is sent after that of the third one, which has published later. -/
def crossed : List (PoolEvent (fun _ : Fin 4 => Request) Answer) :=
  connected ++ does 2 (line 2 "publish-retained" [1]) 1 ++ does 3 (line 3 "publish-retained" [2]) 2 ++ [.step 2 {}]

theorem inTurn_delivered :
    ((site 4).interleaving.run (serving 4) inTurn).shared.received 1 = [⟨"state", [1]⟩, ⟨"state", [2]⟩] ∧
      Delivered ((site 4).interleaving.run (serving 4) inTurn).shared :=
  ⟨by decide +kernel, delivered_of_current inTurn (by decide +kernel) (by decide +kernel)⟩

theorem crossed_stale :
    Quiet ((site 4).interleaving.run (serving 4) crossed) ∧
      ¬ Delivered ((site 4).interleaving.run (serving 4) crossed).shared := by
  decide +kernel

end runs

end Txing.Rig.RetainedDelivery
