import Txing.Rig.ShadowForwarding

/-! Which shadow updates of the Thread adapter are lost. The adapter never repeats an update that it remembers, so one
that the manager lets go is made good only by a later one on the same topic. -/

namespace Txing.Rig.ShadowDelivery
open Txing.Library Protocol ShadowForwarding

section topics

theorem segment_of_valid {value label : String} (valid : validateSegment value label = .ok ()) :
    value ≠ "" ∧ '/' ∉ value.toList := by
  unfold validateSegment validateNonEmpty at valid
  constructor
  · rintro rfl
    have blank : trimSpace "" = "" := by decide +kernel
    rw [if_pos blank] at valid
    cases valid
  · intro inside
    have separated : value.toList.any (· ∈ ['/', '#', '+']) = true :=
      List.any_eq_true.mpr ⟨'/', inside, by decide⟩
    rw [if_pos separated] at valid
    by_cases blank : trimSpace value = ""
    · rw [if_pos blank] at valid
      cases valid
    · rw [if_neg blank] at valid
      cases valid

theorem updateTopic_toList (thingName shadowName : String) :
    (updateTopic thingName shadowName).toList = "$aws/things/".toList ++ (thingName.toList ++
      ("/shadow/name/".toList ++ (shadowName.toList ++ "/update".toList))) := by
  unfold updateTopic
  rw [String.toList_append, String.toList_append, String.toList_append, String.toList_append, List.append_assoc,
    List.append_assoc, List.append_assoc]

theorem split_updateTopic {thingName shadowName : String} (thing : '/' ∉ thingName.toList)
    (shadow : '/' ∉ shadowName.toList) :
    ((updateTopic thingName shadowName).toList.splitOn '/').map String.ofList =
      ["$aws", "things", thingName, "shadow", "name", shadowName, "update"] := by
  have levels : (updateTopic thingName shadowName).toList =
      "$aws".toList ++ '/' :: ("things".toList ++ '/' :: (thingName.toList ++ '/' :: ("shadow".toList ++ '/' ::
        ("name".toList ++ '/' :: (shadowName.toList ++ '/' :: "update".toList))))) := by
    rw [updateTopic_toList]
    simp
  rw [levels, List.splitOn_append_cons_self_of_not_mem (by decide),
    List.splitOn_append_cons_self_of_not_mem (by decide), List.splitOn_append_cons_self_of_not_mem thing,
    List.splitOn_append_cons_self_of_not_mem (by decide), List.splitOn_append_cons_self_of_not_mem (by decide),
    List.splitOn_append_cons_self_of_not_mem shadow, List.splitOn_eq_singleton (by decide)]
  simp

theorem isThingShadowUpdateTopic_of_built {thingName shadowName : String} {reported : Fields} {update : ShadowUpdate}
    (built : buildShadowUpdate thingName shadowName reported = .ok update) :
    isThingShadowUpdateTopic update.topic = true := by
  unfold buildShadowUpdate at built
  cases thing : validateSegment thingName "thingName" with
  | error => rw [thing] at built; cases built
  | ok =>
    cases shadow : validateSegment shadowName "shadowName" with
    | error => rw [thing, shadow] at built; cases built
    | ok =>
      rw [thing, shadow] at built
      cases built
      obtain ⟨thingNamed, thingPlain⟩ := segment_of_valid thing
      obtain ⟨shadowNamed, shadowPlain⟩ := segment_of_valid shadow
      have starts : "$aws/things/".toList.isPrefixOf (updateTopic thingName shadowName).toList = true := by
        rw [List.isPrefixOf_iff_prefix, updateTopic_toList]
        exact List.prefix_append _ _
      rw [isThingShadowUpdateTopic, starts, split_updateTopic thingPlain shadowPlain]
      simp [thingNamed, shadowNamed]

theorem topics_of_shadowUpdatesFromState {state : DeviceState} {updates : List ShadowUpdate}
    (built : shadowUpdatesFromState state = .ok updates) :
    ∀ update ∈ updates, isThingShadowUpdateTopic update.topic = true := by
  unfold shadowUpdatesFromState at built
  cases thread : buildShadowUpdate state.thingName threadShadowName (threadReported state) with
  | error => rw [thread] at built; cases built
  | ok threadUpdate =>
    cases power : buildShadowUpdate state.thingName powerShadowName (powerReported state) with
    | error => rw [thread, power] at built; cases built
    | ok powerUpdate =>
      rw [thread, power] at built
      cases built
      intro update member
      rcases List.mem_cons.mp member with rfl | member
      · exact isThingShadowUpdateTopic_of_built thread
      · rw [List.mem_singleton.mp member]
        exact isThingShadowUpdateTopic_of_built power

end topics

def expected (topic : String) (held : Option Json) : List Message → Option Json
  | [] => held
  | message :: rest =>
    expected topic (if message.update.topic = topic then some message.update.payload else held) rest

section expected
variable {topic : String} {held : Option Json}

theorem expected_append (waiting : List Message) (message : Message) :
    expected topic held (waiting ++ [message]) =
      if message.update.topic = topic then some message.update.payload else expected topic held waiting := by
  induction waiting generalizing held with
  | nil => rfl
  | cons first rest ih => exact ih

/-- A waiting update replaces whatever the cloud has before it. -/
theorem expected_of_waiting {waiting : List Message} (other : Option Json)
    (waits : waiting.any (·.update.topic = topic) = true) :
    expected topic held waiting = expected topic other waiting := by
  induction waiting generalizing held other with
  | nil => cases waits
  | cons message rest ih =>
    by_cases same : message.update.topic = topic
    · simp only [expected, if_pos same]
    · simp only [List.any_cons, same, decide_false, Bool.false_or] at waits
      simp only [expected, if_neg same]
      exact ih other waits

end expected

/-- The manager lets an update go: in REDCON 4, without a connection, or because it takes it for published although an
unacknowledged publish has replaced it since. -/
def letsGo (line : Line) (update : ShadowUpdate) (outcome : Outcome) : Bool :=
  !line.manager.active ||
    if line.manager.shadowPayloads.lookup update.topic = some update.payload then
      line.cloud.lookup update.topic ≠ some update.payload
    else !line.manager.nodeMQTT || !line.manager.connected || outcome = .refused

/-- An update is let go only when a later one on its topic waits, or the cloud has its payload already. -/
def Harmless (line : Line) : Event → Prop
  | .handleIPCMessage outcome =>
    match line.inFlight with
    | [] => True
    | message :: rest =>
      letsGo line message.update outcome = true →
        rest.any (·.update.topic = message.update.topic) = true ∨
          line.cloud.lookup message.update.topic = some message.update.payload
  | _ => True

instance (line : Line) (event : Event) : Decidable (Harmless line event) := by
  unfold Harmless
  split
  · split <;> infer_instance
  · infer_instance

structure Sound (line : Line) : Prop where
  remembered : ∀ topic payload, line.adapter.shadowPayloads.lookup topic = some payload →
    expected topic (line.cloud.lookup topic) line.inFlight = some payload
  waiting : ∀ message ∈ line.inFlight, isThingShadowUpdateTopic message.update.topic = true
  left : ∀ publication, line.adapter.publication = some publication →
    ∀ update ∈ publication.left, isThingShadowUpdateTopic update.topic = true

section steps
variable {line : Line} {adapter : Adapter} {publication : Publication}

theorem Sound.call (sound : Sound line) {adapter : Adapter}
    (same : adapter.shadowPayloads = line.adapter.shadowPayloads)
    (left : ∀ publication, adapter.publication = some publication →
      ∀ update ∈ publication.left, isThingShadowUpdateTopic update.topic = true) : Sound (line.call adapter) := by
  unfold Line.call
  split
  · exact sound
  · refine ⟨?_, sound.waiting, left⟩
    intro topic payload found
    exact sound.remembered topic payload (same ▸ found)

theorem mem_filterBatteryShadowUpdate {state : DeviceState} {updates : List ShadowUpdate} {update : ShadowUpdate}
    (member : update ∈ (adapter.filterBatteryShadowUpdate state updates).1) :
    update ∈ updates := by
  unfold Adapter.filterBatteryShadowUpdate at member
  split at member
  · exact member
  · exact List.mem_of_mem_filter member

variable (before : ∀ publication, adapter.publication = some publication → ∀ update ∈ publication.left,
  isThingShadowUpdateTopic update.topic = true)
include before

theorem publishState_left {state : DeviceState} (now : (adapter.publishState state).publication = some publication) :
    ∀ update ∈ publication.left, isThingShadowUpdateTopic update.topic = true := by
  unfold Adapter.publishState at now
  split at now
  next => exact before publication now
  next updates built =>
    cases now
    intro update member
    exact topics_of_shadowUpdatesFromState built update (mem_filterBatteryShadowUpdate member)

theorem publishOffline_left {thingName : String}
    (now : (adapter.publishOffline thingName).publication = some publication) :
    ∀ update ∈ publication.left, isThingShadowUpdateTopic update.topic = true := by
  unfold Adapter.publishOffline at now
  split at now
  next => exact before publication now
  next update built =>
    cases now
    intro other member
    rw [List.mem_singleton.mp member]
    exact isThingShadowUpdateTopic_of_built built

omit before

theorem Sound.publishUpdate (sound : Sound line) (failure : Option String) : Sound (line.publishUpdate failure) := by
  unfold Line.publishUpdate
  split
  next => exact sound
  next publication busy =>
    have known := sound.left publication busy
    split
    next => exact ⟨sound.remembered, sound.waiting, nofun⟩
    next update left rest =>
      rw [rest] at known
      have later : ∀ other ∈ left, isThingShadowUpdateTopic other.topic = true := fun other member =>
        known other (List.mem_cons_of_mem _ member)
      split
      · refine ⟨sound.remembered, sound.waiting, ?_⟩
        rintro _ ⟨⟩
        exact later
      · split
        · exact ⟨sound.remembered, sound.waiting, nofun⟩
        · refine ⟨?_, ?_, ?_⟩
          · intro topic payload found
            simp only [expected_append]
            by_cases same : update.topic = topic
            · subst same
              rw [AList.lookup_insert] at found
              rw [if_pos rfl, found]
            · rw [AList.lookup_insert_ne fun equal => same equal.symm] at found
              rw [if_neg same]
              exact sound.remembered topic payload found
          · intro message member
            rcases List.mem_append.mp member with member | member
            · exact sound.waiting message member
            · rw [List.mem_singleton.mp member]
              exact known update List.mem_cons_self
          · rintro _ ⟨⟩
            exact later

/-- Taking an update off the queue is right when the cloud has its payload now, or a later one waits. -/
theorem Sound.handled (sound : Sound line) {message : Message} {rest : List Message}
    (first : line.inFlight = message :: rest) {next : Line} (adapter : next.adapter = line.adapter)
    (queue : next.inFlight = rest)
    (others : ∀ topic, message.update.topic ≠ topic → next.cloud.lookup topic = line.cloud.lookup topic)
    (safe : rest.any (·.update.topic = message.update.topic) = true ∨
      next.cloud.lookup message.update.topic = some message.update.payload) : Sound next := by
  refine ⟨?_, ?_, ?_⟩
  · intro topic payload found
    rw [adapter] at found
    have due := sound.remembered topic payload found
    rw [first, expected] at due
    rw [queue, ← due]
    by_cases same : message.update.topic = topic
    · subst same
      rw [if_pos rfl]
      rcases safe with waits | there
      · exact expected_of_waiting _ waits
      · rw [there]
    · rw [if_neg same, others topic same]
  · intro other member
    rw [queue] at member
    exact sound.waiting other (first ▸ List.mem_cons_of_mem _ member)
  · rw [adapter]
    exact sound.left

theorem lookup_deliver (line : Line) (update : ShadowUpdate) :
    (line.deliver update).cloud.lookup update.topic = some update.payload :=
  AList.lookup_insert _

theorem lookup_deliver_ne (line : Line) (update : ShadowUpdate) {topic : String} (other : update.topic ≠ topic) :
    (line.deliver update).cloud.lookup topic = line.cloud.lookup topic :=
  AList.lookup_insert_ne fun equal => other equal.symm

theorem Sound.handleIPCMessage (sound : Sound line) (outcome : Outcome)
    (harmless : Harmless line (.handleIPCMessage outcome)) : Sound (line.handleIPCMessage outcome) := by
  unfold Line.handleIPCMessage
  cases first : line.inFlight with
  | nil => exact sound
  | cons message rest =>
    simp only [Harmless, first] at harmless
    have known : isThingShadowUpdateTopic message.update.topic = true :=
      sound.waiting message (first ▸ List.mem_cons_self)
    simp only [known, if_true]
    split
    next idle =>
      exact sound.handled first rfl rfl (fun _ _ => rfl) (harmless (by simp [letsGo, idle]))
    next =>
      unfold Line.publishShadowUpdate
      dsimp only
      split
      next matched =>
        refine sound.handled first rfl rfl (fun _ _ => rfl) ?_
        by_cases there : line.cloud.lookup message.update.topic = some message.update.payload
        · exact .inr there
        · exact harmless (by simp [letsGo, matched, there])
      next differs =>
        have dropped : letsGo line message.update outcome = true → Sound { line with inFlight := rest } :=
          fun gone => sound.handled first rfl rfl (fun _ _ => rfl) (harmless gone)
        split
        next missing =>
          have sound := dropped (by simp [letsGo, differs, missing])
          exact ⟨sound.remembered, sound.waiting, sound.left⟩
        next client =>
          split
          next refused =>
            have gone : letsGo line message.update outcome = true := by
              by_cases connected : line.manager.connected = true
              · rw [if_pos connected] at refused
                simp [letsGo, differs, refused]
              · simp [letsGo, differs, connected]
            have sound := dropped gone
            exact ⟨sound.remembered, sound.waiting, sound.left⟩
          next =>
            exact sound.handled first rfl rfl (fun _ other => lookup_deliver_ne _ _ other) (.inr (lookup_deliver _ _))
          next =>
            exact sound.handled first rfl rfl (fun _ other => lookup_deliver_ne _ _ other) (.inr (lookup_deliver _ _))

theorem Sound.next (sound : Sound line) (event : Event) (harmless : Harmless line event) :
    Sound (forwarding.next line event) := by
  cases event with
  | publishState state failure =>
    apply sound.call
    · split
      · rfl
      · unfold Adapter.publishState
        split <;> rfl
    · intro publication now
      split at now
      · exact sound.left publication now
      · exact publishState_left sound.left now
  | publishOffline thingName failure =>
    apply sound.call
    · split
      · rfl
      · unfold Adapter.publishOffline
        split <;> rfl
    · intro publication now
      split at now
      · exact sound.left publication now
      · exact publishOffline_left sound.left now
  | publishUpdate failure => exact sound.publishUpdate failure
  | handleIPCMessage outcome => exact sound.handleIPCMessage outcome harmless
  | setNodeRedcon | connectNodeMQTT | connection | clearShadowPayloads => exact { sound with }

end steps

theorem sound_fresh : Sound fresh := ⟨nofun, nofun, nofun⟩

/-- The manager is active and connected, and has handled without failure all that the last `publishState`, which has
returned without an error, and the calls before it have sent. -/
def settled (line : Line) : Bool :=
  line.manager.active && line.manager.nodeMQTT && line.manager.connected && line.adapter.completed &&
    line.adapter.publication.isNone && line.inFlight.isEmpty && !line.spoiled

/-- The cloud has last got what the adapter remembers, for each of its topics. -/
def Delivered (line : Line) : Prop :=
  ∀ topic payload, line.adapter.shadowPayloads.lookup topic = some payload → line.cloud.lookup topic = some payload

theorem Sound.delivered {line : Line} (sound : Sound line) (quiet : line.inFlight = []) : Delivered line := by
  intro topic payload found
  have due := sound.remembered topic payload found
  rwa [quiet] at due

theorem delivered_of_harmless (events : List Event) (harmless : forwarding.Along Harmless fresh events)
    (settles : settled (forwarding.run fresh events) = true) : Delivered (forwarding.run fresh events) := by
  have sound : Sound (forwarding.run fresh events) :=
    forwarding.run_invariant Sound (fun _ event sound fine => sound.next event fine) sound_fresh harmless
  simp only [settled, Bool.and_eq_true, List.isEmpty_iff] at settles
  exact sound.delivered settles.1.2

section runs

def lamp (batteryMV : Int64) : DeviceState := ⟨"lamp", "1", some batteryMV, "lamp-1", "lamp.local", "fd00::1", 5683⟩

/-- The first thread update is refused while the offline update waits behind it, and all later ones arrive. -/
def superseded : List Event :=
  [.connectNodeMQTT, .publishState (lamp 3000) none, .publishUpdate none, .publishUpdate none, .publishUpdate none,
    .publishOffline "lamp" none, .publishUpdate none, .publishUpdate none, .handleIPCMessage .refused,
    .handleIPCMessage .acknowledged, .handleIPCMessage .acknowledged, .publishState (lamp 2000) none,
    .publishUpdate none, .publishUpdate none, .publishUpdate none, .handleIPCMessage .acknowledged,
    .handleIPCMessage .acknowledged]

theorem superseded_delivered :
    forwarding.Along Harmless fresh superseded ∧ settled (forwarding.run fresh superseded) = true ∧
      (forwarding.run fresh superseded).adapter.shadowPayloads.entries.length = 2 ∧
      Delivered (forwarding.run fresh superseded) := by
  have harmless : forwarding.Along Harmless fresh superseded := by decide +kernel
  have ends : settled (forwarding.run fresh superseded) = true ∧
      (forwarding.run fresh superseded).adapter.shadowPayloads.entries.length = 2 := by decide +kernel
  exact ⟨harmless, ends.1, ends.2, delivered_of_harmless superseded harmless ends.1⟩

/-- The node is in REDCON 4 while the manager handles the updates of the first `publishState`. The second one sends
only the battery, because the thread update has not changed. -/
def paused : List Event :=
  [.connectNodeMQTT, .setNodeRedcon nodeRedconCommandable, .publishState (lamp 3000) none, .publishUpdate none,
    .publishUpdate none, .publishUpdate none, .handleIPCMessage .acknowledged, .handleIPCMessage .acknowledged,
    .setNodeRedcon nodeRedconActive, .publishState (lamp 2000) none, .publishUpdate none, .publishUpdate none,
    .publishUpdate none, .handleIPCMessage .acknowledged]

theorem paused_lost :
    settled (forwarding.run fresh paused) = true ∧
      (forwarding.run fresh paused).cloud.lookup (updateTopic "lamp" powerShadowName) =
        (forwarding.run fresh paused).adapter.shadowPayloads.lookup (updateTopic "lamp" powerShadowName) ∧
      ((forwarding.run fresh paused).adapter.shadowPayloads.lookup (updateTopic "lamp" threadShadowName)).isSome = true ∧
      (forwarding.run fresh paused).cloud.lookup (updateTopic "lamp" threadShadowName) = none ∧
      ¬ Delivered (forwarding.run fresh paused) := by
  have ends : settled (forwarding.run fresh paused) = true ∧
      (forwarding.run fresh paused).cloud.lookup (updateTopic "lamp" powerShadowName) =
        (forwarding.run fresh paused).adapter.shadowPayloads.lookup (updateTopic "lamp" powerShadowName) ∧
      ((forwarding.run fresh paused).adapter.shadowPayloads.lookup (updateTopic "lamp" threadShadowName)).isSome = true ∧
      (forwarding.run fresh paused).cloud.lookup (updateTopic "lamp" threadShadowName) = none := by
    decide +kernel
  obtain ⟨settles, power, known, missing⟩ := ends
  refine ⟨settles, power, known, missing, ?_⟩
  intro delivered
  obtain ⟨payload, found⟩ := Option.isSome_iff_exists.mp known
  rw [delivered _ payload found] at missing
  cases missing

end runs

end Txing.Rig.ShadowDelivery
