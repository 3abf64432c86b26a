import Txing.Witness.AgentWatch

/-! Every termination that a sweep requests is justified by what AWS has answered before it. The exchanges of a sweep
are summed up in a ledger, and each call of `TerminateMicrovm` has to fit the ledger. -/

namespace Txing.Witness.WatchSafety
open Txing.Library AgentWatch
open Process (tracks_pure tracks_bind tracks_each)

abbrev Shown := String × Except String (Option WatchShadow)

/-- One reading of the assignments: a scan, with the Things that were listed, or a single shadow. -/
structure Reading where
  listing : Option (Except String (List String))
  shadows : List Shown

namespace Reading
variable (reading : Reading)

def add (shown : Shown) : Reading := { reading with shadows := reading.shadows ++ [shown] }

def Shows (thing : String) (shadow : WatchShadow) : Prop := (thing, .ok (some shadow)) ∈ reading.shadows

/-- The VM is assigned to a run that is due to stop, and to no other. -/
def StopDue (id : String) (now : Time) : Prop :=
  (∃ thing shadow, reading.Shows thing shadow ∧ shadow.microvmID = id) ∧
    ∀ thing shadow, reading.Shows thing shadow → shadow.microvmID = id → shadow.stopDue now = true

def Unassigned (id : String) : Prop := ∀ thing shadow, reading.Shows thing shadow → shadow.microvmID ≠ id

def Complete : Prop :=
  ∃ things, reading.listing = some (.ok things) ∧ reading.shadows.map Prod.fst = things ∧
    ∀ shown ∈ reading.shadows, ∀ error, shown.2 ≠ .error error

end Reading

/-- What the exchanges of a sweep say: the terminations that were requested, the latest description of each VM, the
readings of the assignments with the latest one first, whether that one is a scan that still goes on, and the clock. -/
structure Ledger where
  terminated : List String := []
  described : String → Option WatchMicrovm := fun _ => none
  readings : List Reading := []
  scanning : Bool := false
  clock : Option Time := none

namespace Ledger
variable (ledger : Ledger)

/-- A shadow that is read outside a scan is a reading of its own. -/
def reveal (shown : Shown) : Ledger :=
  match ledger.scanning, ledger.readings with
  | true, latest :: earlier => { ledger with readings := latest.add shown :: earlier }
  | _, readings => { ledger with readings := ⟨none, [shown]⟩ :: readings }

def describe (items : List WatchMicrovm) : Ledger :=
  { ledger with
    described := items.foldl (fun described item => Function.update described item.id (some item)) ledger.described
    scanning := false }

def after (watcher : AgentWatcher) : (request : WatchCall) → WatchReply request → Ledger
  | .agentThings, things => { ledger with readings := ⟨some things, []⟩ :: ledger.readings, scanning := true }
  | .agentShadow thing, body => ledger.reveal (thing, watcher.parsed body)
  | .microvmPage _ _, .ok (items, _) => ledger.describe items
  | .microvm id, vm =>
    { ledger with described := Function.update ledger.described id vm.toOption, scanning := false }
  | .terminateMicrovm id, _ => { ledger with terminated := id :: ledger.terminated, scanning := false }
  | .now, time => { ledger with clock := some time, scanning := false }
  | _, _ => { ledger with scanning := false }

/-- The VM is old enough, and two scans, the first reading and the latest one, are complete and show nobody that it
is assigned to. -/
def Orphan (id : String) (startedAt now : Time) (latest : Reading) (earlier : List Reading) : Prop :=
  startedAt ≠ 0 ∧ startedAt + agentWatchGrace ≤ now ∧ latest.Complete ∧ latest.Unassigned id ∧
    ∃ first, earlier.getLast? = some first ∧ first.Complete ∧ first.Unassigned id

/-- A termination of the VM is requested for the first time, its latest description is one of an actionable VM of the
image, and the latest reading shows that its run is due to stop or that it is an orphan. -/
structure Justified (watcher : AgentWatcher) (id : String) : Prop where
  once : id ∉ ledger.terminated
  due : ∃ vm now latest earlier, ledger.described id = some vm ∧ ledger.clock = some now ∧
    ledger.readings = latest :: earlier ∧ vm.id = id ∧ vm.image = watcher.image ∧ actionable vm.state = true ∧
    (latest.StopDue id now ∨ Orphan id vm.startedAt now latest earlier)

end Ledger

def ledgers (watcher : AgentWatcher) : Process.Tracker WatchReply Ledger where
  start := {}
  after ledger exchange := ledger.after watcher exchange.1 exchange.2
  allows ledger
    | .terminateMicrovm id => ledger.Justified watcher id
    | _ => True

section chart

/-- What the map of the assignments says about the reading it was made from. -/
structure Charts (reading : Reading) (known : Assignments) : Prop where
  readable : known.complete = true → ∀ shown ∈ reading.shadows, ∀ error, shown.2 ≠ .error error
  named : ∀ id assignment, known.assigned.lookup id = some assignment → id ≠ ""
  absent : ∀ id, id ≠ "" → known.assigned.lookup id = none → reading.Unassigned id
  present : ∀ id assignment, known.assigned.lookup id = some assignment →
    assignment = {} ∨ assignment.shadow.microvmID = id ∧ reading.Shows assignment.thing assignment.shadow ∧
      ∀ thing shadow, reading.Shows thing shadow → shadow.microvmID = id → shadow = assignment.shadow

variable {reading : Reading} {known : Assignments}

theorem Reading.shows_add {shown : Shown} {thing : String} {shadow : WatchShadow} :
    (reading.add shown).Shows thing shadow ↔ reading.Shows thing shadow ∨ shown = (thing, .ok (some shadow)) := by
  rw [Shows, add, List.mem_append, List.mem_singleton, eq_comm (b := shown)]
  rfl

theorem charts_empty (listing : Option (Except String (List String))) (complete : Bool) :
    Charts ⟨listing, []⟩ ⟨∅, complete⟩ :=
  ⟨fun _ _ member => absurd member List.not_mem_nil, nofun, fun _ _ _ _ _ shown => absurd shown List.not_mem_nil, nofun⟩

variable (charts : Charts reading known)
include charts

theorem Charts.skip {shown : Shown} {complete : Bool}
    (readable : complete = true → known.complete = true ∧ ∀ error, shown.2 ≠ .error error)
    (nothing : ∀ thing shadow, shown = (thing, .ok (some shadow)) → shadow.microvmID = "") :
    Charts (reading.add shown) { known with complete } := by
  refine ⟨?_, charts.named, ?_, ?_⟩
  · intro done other member
    rcases List.mem_append.mp member with old | new
    · exact charts.readable (readable done).1 other old
    · rw [List.mem_singleton.mp new]
      exact (readable done).2
  · intro id named free thing shadow shows
    rcases Reading.shows_add.mp shows with old | new
    · exact charts.absent id named free thing shadow old
    · rw [nothing thing shadow new]
      exact named.symm
  · intro id assignment found
    rcases charts.present id assignment found with empty | ⟨mine, shows, only⟩
    · exact Or.inl empty
    refine Or.inr ⟨mine, Reading.shows_add.mpr (Or.inl shows), ?_⟩
    intro thing shadow other same
    rcases Reading.shows_add.mp other with old | new
    · exact only thing shadow old same
    · exact absurd (same.symm.trans (nothing thing shadow new)) (charts.named id assignment found)

theorem Charts.enter {thing : String} {s : WatchShadow} {assignment : WatchAssignment}
    {complete : Bool} (named : s.microvmID ≠ "") (readable : complete = true → known.complete = true)
    (entered : assignment = {} ∨ assignment = ⟨thing, s⟩ ∧ known.assigned.lookup s.microvmID = none) :
    Charts (reading.add (thing, .ok (some s))) ⟨known.assigned.insert s.microvmID assignment, complete⟩ := by
  refine ⟨?_, ?_, ?_, ?_⟩
  · intro done other member
    rcases List.mem_append.mp member with old | new
    · exact charts.readable (readable done) other old
    · rw [List.mem_singleton.mp new]
      exact nofun
  · intro id other found
    by_cases same : id = s.microvmID
    · exact same ▸ named
    · exact charts.named id other (AList.lookup_insert_ne same ▸ found)
  · intro id nonempty free other shadow shows
    obtain ⟨apart, free⟩ := AList.lookup_insert_eq_none.mp free
    rcases Reading.shows_add.mp shows with old | new
    · exact charts.absent id nonempty free other shadow old
    · cases new
      exact apart.symm
  · intro id found held
    by_cases same : id = s.microvmID
    · subst same
      rw [AList.lookup_insert] at held
      cases held
      rcases entered with empty | ⟨rfl, free⟩
      · exact Or.inl empty
      refine Or.inr ⟨rfl, Reading.shows_add.mpr (Or.inr rfl), ?_⟩
      intro other shadow shows equal
      rcases Reading.shows_add.mp shows with old | new
      · exact absurd equal (charts.absent _ named free other shadow old)
      · cases new
        rfl
    · rw [AList.lookup_insert_ne same] at held
      rcases charts.present id found held with empty | ⟨mine, shows, only⟩
      · exact Or.inl empty
      refine Or.inr ⟨mine, Reading.shows_add.mpr (Or.inl shows), ?_⟩
      intro other shadow shown equal
      rcases Reading.shows_add.mp shown with old | new
      · exact only other shadow old equal
      · cases new
        exact absurd equal.symm same

theorem Charts.assign (thing : String) (s : Except String (Option WatchShadow)) :
    Charts (reading.add (thing, s)) (known.assign thing s) := by
  match s with
  | .error error =>
    refine charts.skip nofun ?_
    intro other shadow same
    cases (Prod.mk.inj same).2
  | .ok none =>
    refine charts.skip (fun done => ⟨done, ?_⟩) ?_
    · intro error same
      cases same
    · intro other shadow same
      cases (Prod.mk.inj same).2
  | .ok (some s) =>
    unfold Assignments.assign
    dsimp only
    split
    next unnamed =>
      refine charts.skip (fun done => ⟨done, ?_⟩) ?_
      · intro error same
        cases same
      · intro other shadow same
        cases same
        exact unnamed
    next named =>
      split
      · exact charts.enter named nofun (Or.inl rfl)
      next free => exact charts.enter named id (Or.inr ⟨rfl, Option.not_isSome_iff_eq_none.mp free⟩)

/-- No assignment that is due to stop is a placeholder. -/
theorem Charts.stopDue {id : String} {assignment : WatchAssignment}
    (found : known.assigned.lookup id = some assignment) {now : Time} (due : assignment.shadow.stopDue now = true) :
    assignment.shadow.microvmID = id ∧ reading.StopDue id now := by
  rcases charts.present id assignment found with rfl | ⟨mine, shows, only⟩
  · cases due
  refine ⟨mine, ⟨_, _, shows, mine⟩, ?_⟩
  intro thing shadow other same
  rw [only thing shadow other same]
  exact due

end chart

section programs
variable {watcher : AgentWatcher} {α : Type}

abbrev Runs (watcher : AgentWatcher) (before : Ledger → Prop) (program : Watching α) (ends : α → Ledger → Prop) : Prop :=
  program.Tracks (ledgers watcher) before ends

variable {ledger : Ledger}

theorem runs_perform (request : WatchCall) {next : WatchReply request → Watching α}
    {ends : α → Ledger → Prop} (allowed : (ledgers watcher).allows ledger request)
    (follows : ∀ reply, Runs watcher (· = ledger.after watcher request reply) (next reply) ends) :
    Runs watcher (· = ledger) (perform request >>= next) ends :=
  Process.tracks_call allowed follows

theorem runs_read (thing : String) {next : Except String (Option WatchShadow) → Watching α} {ends : α → Ledger → Prop}
    (follows : ∀ s, Runs watcher (· = ledger.reveal (thing, s)) (next s) ends) :
    Runs watcher (· = ledger) (watcher.read thing >>= next) ends := by
  apply runs_perform (.agentShadow thing) trivial
  intro body
  exact follows _

structure Maps (reading : Reading) (known : Assignments) : Prop where
  charts : Charts reading known
  complete : known.complete = true → reading.Complete

theorem runs_readAll {things : List String} (rest : List String) {reading : Reading} {known : Assignments}
    (listed : reading.listing = some (.ok things)) (left : reading.shadows.map Prod.fst ++ rest = things)
    (charts : Charts reading known) (earlier : List Reading) :
    Runs watcher (· = { ledger with readings := reading :: earlier, scanning := true }) (watcher.readAll rest known)
      fun known later => ∃ reading, later = { ledger with readings := reading :: earlier, scanning := true } ∧
        Maps reading known := by
  induction rest generalizing reading known with
  | nil =>
    apply tracks_pure
    rintro _ rfl
    rw [List.append_nil] at left
    exact ⟨reading, rfl, charts, fun done => ⟨things, listed, left, charts.readable done⟩⟩
  | cons thing rest ih =>
    apply runs_read thing
    intro s
    apply ih
    · exact listed
    · show (reading.shadows ++ [(thing, s)]).map Prod.fst ++ rest = things
      rw [← left, List.map_append, List.append_assoc]
      rfl
    · exact charts.assign thing s

theorem runs_assignments :
    Runs watcher (· = ledger) watcher.assignments fun known later =>
      ∃ reading, later = { ledger with readings := reading :: ledger.readings, scanning := true } ∧ Maps reading known := by
  apply runs_perform .agentThings trivial
  intro things
  match things with
  | .error error =>
    apply tracks_pure
    rintro _ rfl
    exact ⟨_, rfl, charts_empty _ _, nofun⟩
  | .ok things => exact runs_readAll things rfl rfl (charts_empty _ _) ledger.readings

/-- The first reading of the sweep is charted, and only VMs that have been handled were terminated. -/
structure Survey (known : Assignments) (handled : String → Bool) (ledger : Ledger) : Prop where
  first : ∃ first, ledger.readings.getLast? = some first ∧ Maps first known
  gone : ∀ id ∈ ledger.terminated, handled id = true

variable {known : Assignments} {handled : String → Bool} {ledger later : Ledger} {id : String}

theorem Survey.extend (survey : Survey known handled ledger) (newer : List Reading)
    (readings : later.readings = newer ++ ledger.readings)
    (gone : ∀ other ∈ later.terminated, other = id ∨ other ∈ ledger.terminated) :
    Survey known (Function.update handled id true) later := by
  constructor
  · obtain ⟨first, last, maps⟩ := survey.first
    refine ⟨first, ?_, maps⟩
    rw [readings, List.getLast?_append, last]
    rfl
  · intro other member
    by_cases same : other = id
    · rw [same, Function.update_self]
    · rw [Function.update_of_ne same]
      exact survey.gone other ((gone other member).resolve_left same)

def Handled (known : Assignments) (handled : String → Bool) (id : String) (fine : α → Prop) (value : α) (ledger : Ledger) :
    Prop :=
  fine value ∧ Survey known (Function.update handled id true) ledger

variable {fine : α → Prop}

theorem Survey.ends (survey : Survey known handled ledger) (newer : List Reading) {value : α} (held : fine value)
    (readings : later.readings = newer ++ ledger.readings) (terminated : later.terminated = ledger.terminated) :
    Runs watcher (· = later) (pure value) (Handled known handled id fine) := by
  apply tracks_pure
  rintro _ rfl
  exact ⟨held, survey.extend newer readings fun _ member => Or.inr (terminated ▸ member)⟩

theorem Survey.fresh (survey : Survey known handled ledger) (unhandled : handled id = false) : id ∉ ledger.terminated := by
  intro member
  have handled := survey.gone id member
  rw [unhandled] at handled
  cases handled

theorem Survey.terminate (survey : Survey known handled ledger) (newer : List Reading)
    (readings : later.readings = newer ++ ledger.readings) (terminated : later.terminated = ledger.terminated)
    (justified : later.Justified watcher id) {next : Except String Unit → Watching α}
    (ends : ∀ ended, ∃ value, next ended = pure value ∧ fine value) :
    Runs watcher (· = later) (perform (.terminateMicrovm id) >>= next) (Handled known handled id fine) := by
  apply runs_perform (.terminateMicrovm id) justified
  intro ended
  obtain ⟨value, same, held⟩ := ends ended
  rw [same]
  apply tracks_pure
  rintro _ rfl
  refine ⟨held, survey.extend newer readings ?_⟩
  intro other member
  rw [← terminated]
  exact List.mem_cons.mp member

theorem runs_recheck (survey : Survey known handled ledger) (idle : ledger.scanning = false) (thing : String)
    (s : WatchShadow) {vm : WatchMicrovm} (described : ledger.described vm.id = some vm) (image : vm.image = watcher.image)
    (acts : actionable vm.state = true) (unhandled : handled vm.id = false) :
    Runs watcher (· = ledger) (watcher.recheck thing s vm) (Handled known handled vm.id fun _ => True) := by
  apply runs_read thing
  intro latest
  have revealed : ledger.reveal (thing, latest) =
      { ledger with readings := [⟨none, [(thing, latest)]⟩] ++ ledger.readings } := by
    unfold Ledger.reveal
    rw [idle]
    rfl
  rw [revealed]
  match latest with
  | .error error => apply survey.ends [_] trivial <;> rfl
  | .ok none => apply survey.ends [_] trivial <;> rfl
  | .ok (some latest) =>
    dsimp only
    split
    · apply survey.ends [_] trivial <;> rfl
    next current =>
    obtain ⟨-, same⟩ := not_or.mp current
    apply runs_perform .now trivial
    intro now
    split
    next due =>
      apply survey.terminate [_]
      · rfl
      · rfl
      · refine ⟨survey.fresh unhandled, vm, now, _, _, described, rfl, rfl, rfl, image, acts, Or.inl ⟨?_, ?_⟩⟩
        · exact ⟨thing, latest, List.mem_singleton_self _, not_not.mp same⟩
        · intro other shadow shows _
          cases List.mem_singleton.mp shows
          exact due
      · intro ended
        cases ended with
        | error error => exact ⟨_, rfl, trivial⟩
        | ok _ => exact ⟨_, rfl, trivial⟩
    next => apply survey.ends [_] trivial <;> rfl

theorem runs_stopKnown (thing : String) {s : WatchShadow} (unhandled : handled s.microvmID = false) :
    Runs watcher (Survey known handled) (watcher.stopKnown thing s)
      (Handled known handled s.microvmID fun _ => True) := by
  apply tracks_each
  intro ledger survey
  apply runs_perform (.microvm s.microvmID) trivial
  intro vm
  match vm with
  | .error error => apply survey.ends [] trivial <;> rfl
  | .ok vm =>
    dsimp only
    split
    · apply survey.ends [] trivial <;> rfl
    next matching =>
    obtain ⟨mine, image⟩ := not_or.mp matching
    have mine : vm.id = s.microvmID := not_not.mp mine
    split
    next acts =>
      rw [← mine] at unhandled ⊢
      apply runs_recheck _ rfl thing s _ (not_not.mp image) acts unhandled
      · exact { survey with }
      · exact Function.update_self ..
    next => apply survey.ends [] trivial <;> rfl

@[simp] theorem incompleteIf_seen (sweeping : Sweeping) (reason : Bool) :
    (sweeping.incompleteIf reason).seen = sweeping.seen := by
  cases reason <;> rfl

@[simp] theorem note_seen (sweeping : Sweeping) (requested pending : Bool) (failure : Option String) :
    (sweeping.note requested pending failure).seen = sweeping.seen := by
  cases requested <;> cases pending <;> cases failure <;> rfl

variable {sweeping : Sweeping}

abbrev SameSeen (sweeping later : Sweeping) : Prop := later.seen = sweeping.seen

theorem runs_checkKnown {assignment : WatchAssignment} (unhandled : handled assignment.shadow.microvmID = false) :
    Runs watcher (Survey known handled) (watcher.checkKnown assignment sweeping)
      (Handled known handled assignment.shadow.microvmID (SameSeen sweeping)) := by
  apply tracks_bind (runs_stopKnown assignment.thing unhandled)
  intro stopped
  apply tracks_pure
  rintro ledger ⟨-, survey⟩
  exact ⟨note_seen .., survey⟩

theorem runs_confirmOrphan (survey : Survey known handled ledger) {vm : WatchMicrovm} {now : Time}
    (described : ledger.described vm.id = some vm) (image : vm.image = watcher.image) (acts : actionable vm.state = true)
    (clock : ledger.clock = some now) (started : vm.startedAt ≠ 0) (old : vm.startedAt + agentWatchGrace ≤ now)
    (unhandled : handled vm.id = false) (named : vm.id ≠ "") (complete : known.complete = true)
    (free : known.assigned.lookup vm.id = none) :
    Runs watcher (· = ledger) (watcher.confirmOrphan vm sweeping) (Handled known handled vm.id (SameSeen sweeping)) := by
  apply tracks_bind runs_assignments
  intro fresh
  apply tracks_each
  rintro _ ⟨reading, rfl, maps⟩
  have terminate {later : Ledger} (readings : later.readings = [reading] ++ ledger.readings)
      (terminated : later.terminated = ledger.terminated) (justified : later.Justified watcher vm.id) :
      Runs watcher (· = later) (AgentWatcher.terminate vm sweeping) (Handled known handled vm.id (SameSeen sweeping)) := by
    apply survey.terminate [reading] readings terminated justified
    intro ended
    cases ended with
    | error error => exact ⟨_, rfl, rfl⟩
    | ok _ => exact ⟨_, rfl, rfl⟩
  cases found : fresh.assigned.lookup vm.id with
  | some current =>
    apply runs_perform .now trivial
    intro now
    split
    next due =>
      refine terminate rfl rfl ?_
      exact ⟨survey.fresh unhandled, vm, now, reading, _, described, rfl, rfl, rfl, image, acts,
        Or.inl (maps.charts.stopDue found due).2⟩
    next => apply survey.ends [_] <;> rfl
  | none =>
    dsimp only
    split
    next whole =>
      refine terminate rfl rfl ?_
      obtain ⟨first, last, firstMaps⟩ := survey.first
      refine ⟨survey.fresh unhandled, vm, now, reading, _, described, clock, rfl, rfl, image, acts, Or.inr ?_⟩
      exact ⟨started, old, maps.complete whole, maps.charts.absent _ named found, first, last,
        firstMaps.complete complete, firstMaps.charts.absent _ named free⟩
    next => apply survey.ends [_] <;> rfl

theorem runs_checkOrphan (unhandled : handled id = false) (named : id ≠ "") (complete : known.complete = true)
    (free : known.assigned.lookup id = none) :
    Runs watcher (Survey known handled) (watcher.checkOrphan id sweeping)
      (Handled known handled id (SameSeen sweeping)) := by
  apply tracks_each
  intro ledger survey
  apply runs_perform (.microvm id) trivial
  intro reply
  match reply with
  | .error error => apply survey.ends [] <;> rfl
  | .ok vm =>
    dsimp only
    split
    · apply survey.ends [] <;> rfl
    next matching =>
    obtain ⟨mine, image⟩ := not_or.mp matching
    have mine : vm.id = id := not_not.mp mine
    subst mine
    split
    · refine survey.ends [] ?_ rfl rfl
      exact incompleteIf_seen ..
    next acts =>
    split
    · apply survey.ends [] <;> rfl
    next started =>
    apply runs_perform .now trivial
    intro now
    split
    · apply survey.ends [] <;> rfl
    next old =>
    have waited : vm.startedAt + agentWatchGrace ≤ now := Int.not_lt.mp old
    apply runs_confirmOrphan _ _ (not_not.mp image) _ _ started waited unhandled named complete free
    · exact { survey with }
    · exact Function.update_self ..
    · simpa using acts
    · rfl

theorem runs_checkItem (unhandled : handled id = false) (named : id ≠ "") :
    Runs watcher (Survey known handled) (watcher.checkItem known id sweeping)
      (Handled known handled id (SameSeen sweeping)) := by
  apply tracks_each
  intro ledger survey
  unfold AgentWatcher.checkItem
  cases found : known.assigned.lookup id with
  | some assignment =>
    apply runs_perform .now trivial
    intro now
    split
    next due =>
      obtain ⟨first, -, maps⟩ := survey.first
      have mine := (maps.charts.stopDue found due).1
      rw [← mine] at unhandled ⊢
      apply (runs_checkKnown unhandled).weaken
      · rintro _ rfl
        exact { survey with }
      · exact fun _ _ both => both
    next =>
      apply runs_perform .now trivial
      intro now
      refine survey.ends [] ?_ rfl rfl
      exact incompleteIf_seen ..
  | none =>
    dsimp only
    split
    next complete =>
      apply (runs_checkOrphan unhandled named complete found).weaken
      · rintro _ rfl
        exact survey
      · exact fun _ _ both => both
    next => apply survey.ends [] <;> rfl

theorem runs_inspect (item : WatchMicrovm) :
    Runs watcher (Survey known sweeping.seen) (watcher.inspect known item sweeping)
      fun later => Survey known later.seen := by
  unfold AgentWatcher.inspect
  dsimp only
  split
  · apply tracks_pure
    intro ledger survey
    rw [incompleteIf_seen]
    exact survey
  next due =>
    simp only [not_or, incompleteIf_seen, Bool.not_eq_true] at due
    apply (runs_checkItem due.2.2.2 due.2.1).weaken (fun _ survey => survey)
    rintro later ledger ⟨same, survey⟩
    rw [same, Sweeping.check, Sweeping.see, incompleteIf_seen]
    exact survey

theorem runs_aside (request : WatchCall) {next : WatchReply request → Watching α} {ends : α → Ledger → Prop}
    (allowed : ∀ ledger, (ledgers watcher).allows ledger request)
    (aside : ∀ (ledger : Ledger) reply, (ledger.after watcher request reply).readings = ledger.readings ∧
      (ledger.after watcher request reply).terminated = ledger.terminated)
    (follows : ∀ reply, Runs watcher (Survey known handled) (next reply) ends) :
    Runs watcher (Survey known handled) (perform request >>= next) ends := by
  apply tracks_bind (Process.tracks_ask request (fun ledger _ => allowed ledger) _) follows
  intro ledger survey reply
  obtain ⟨readings, terminated⟩ := aside ledger reply
  constructor
  · show ∃ first, (ledger.after watcher request reply).readings.getLast? = some first ∧ Maps first known
    rw [readings]
    exact survey.first
  · show ∀ id ∈ (ledger.after watcher request reply).terminated, handled id = true
    rw [terminated]
    exact survey.gone

theorem runs_inspectAll (items : List WatchMicrovm) :
    Runs watcher (Survey known sweeping.seen) (watcher.inspectAll known items sweeping)
      fun later => Survey known later.seen := by
  induction items generalizing sweeping with
  | nil => exact tracks_pure fun _ survey => survey
  | cons item rest ih =>
    apply runs_aside .ctxErr (fun _ => trivial) (fun _ _ => ⟨rfl, rfl⟩)
    intro ended
    cases ended with
    | some error => exact tracks_pure fun _ survey => survey
    | none =>
      apply tracks_bind (runs_inspect item)
      intro sweeping
      exact ih

theorem runs_pages (left : ℕ) (token : String) (tokens : String → Bool) :
    Runs watcher (Survey known sweeping.seen) (watcher.pages known left token tokens sweeping)
      fun later => Survey known later.seen := by
  induction left generalizing token tokens sweeping with
  | zero => exact tracks_pure fun _ survey => survey
  | succ left ih =>
    apply runs_aside (.microvmPage watcher.image token) (fun _ => trivial)
    · intro ledger page
      match page with
      | .error error => exact ⟨rfl, rfl⟩
      | .ok (items, next) => exact ⟨rfl, rfl⟩
    · intro page
      match page with
      | .error error => exact tracks_pure fun _ survey => survey
      | .ok (items, next) =>
        apply tracks_bind (runs_inspectAll items)
        intro sweeping
        split
        · exact tracks_pure fun _ survey => survey
        split
        · exact tracks_pure fun _ survey => survey
        · exact ih next _

theorem runs_checkRest {order : List String} (distinct : order.Nodup)
    (unhandled : ∀ id ∈ order, sweeping.seen id = false → handled id = false) :
    Runs watcher (Survey known handled) (watcher.checkRest known order sweeping) fun _ _ => True := by
  induction order generalizing handled sweeping with
  | nil => exact tracks_pure fun _ _ => trivial
  | cons id rest ih =>
    obtain ⟨apart, distinct⟩ := List.nodup_cons.mp distinct
    have later : ∀ other ∈ rest, sweeping.seen other = false → handled other = false :=
      fun other member => unhandled other (List.mem_cons_of_mem _ member)
    unfold AgentWatcher.checkRest
    split
    · exact ih distinct later
    next unseen =>
    apply runs_aside .now (fun _ => trivial) (fun _ _ => ⟨rfl, rfl⟩)
    intro now
    split
    next due =>
      apply tracks_each
      intro ledger survey
      obtain ⟨first, -, maps⟩ := survey.first
      cases found : known.assigned.lookup id with
      | none =>
        rw [found] at due
        cases due
      | some assignment =>
        rw [found] at due
        have mine : assignment.shadow.microvmID = id := (maps.charts.stopDue found due).1
        have free : handled assignment.shadow.microvmID = false := by
          rw [mine]
          exact unhandled id List.mem_cons_self (Bool.not_eq_true _ ▸ unseen)
        apply tracks_bind ((runs_checkKnown free).weaken (fun _ same => same ▸ survey) fun _ _ both => both)
        intro sweeping
        apply tracks_each
        rintro ledger ⟨same, survey⟩
        have rest : ∀ other ∈ rest, sweeping.seen other = false →
            Function.update handled assignment.shadow.microvmID true other = false := by
          intro other member unseen
          have different : other ≠ assignment.shadow.microvmID := by
            rintro rfl
            exact apart (mine ▸ member)
          rw [Function.update_of_ne different]
          exact later other member (same ▸ unseen)
        exact (ih distinct rest).weaken (fun _ same => same ▸ survey) fun _ _ _ => trivial
    next => exact ih distinct later

theorem runs_sweep : Runs watcher (· = {}) watcher.sweep fun _ _ => True := by
  unfold AgentWatcher.sweep
  split
  · apply tracks_bind runs_assignments
    intro known
    apply tracks_each
    rintro _ ⟨reading, rfl, maps⟩
    have survey : Survey known (fun _ => false) { readings := [reading], scanning := true } :=
      ⟨⟨reading, rfl, maps⟩, fun _ member => absurd member List.not_mem_nil⟩
    have seen : (if known.complete = true then ({} : Sweeping) else
        Sweeping.fail (Sweeping.incomplete {}) "agent watch assignment inventory incomplete").seen = fun _ => false := by
      split <;> rfl
    have begun : Runs watcher (· = { readings := [reading], scanning := true })
        (watcher.pages known 1000 "" (fun _ => false) _) fun later => Survey known later.seen :=
      (runs_pages 1000 "" fun _ => false).weaken (fun _ same => by rw [same, seen]; exact survey) fun _ _ kept => kept
    apply tracks_bind begun
    intro sweeping
    apply runs_aside (.rangeAssigned known.assigned.keys) (fun _ => trivial) (fun _ _ => ⟨rfl, rfl⟩)
    intro order
    have distinct : order.1.Nodup := order.2.nodup_iff.mpr known.assigned.keys_nodup
    apply tracks_bind (runs_checkRest distinct fun _ _ unseen => unseen)
    intro sweeping
    exact tracks_pure fun _ _ => trivial
  · exact tracks_pure fun _ _ => trivial

/-- The check of one Thing: its own reading is the first one, of which nothing more is known. -/
theorem runs_thing (thing : String) : Runs watcher (· = {}) (watcher.thing thing) fun _ _ => True := by
  unfold AgentWatcher.thing
  split
  · apply runs_read thing
    intro shown
    match shown with
    | .error error => exact tracks_pure fun _ _ => trivial
    | .ok none => exact tracks_pure fun _ _ => trivial
    | .ok (some s) =>
      dsimp only
      split
      · exact tracks_pure fun _ _ => trivial
      apply runs_perform .now trivial
      intro now
      split
      next =>
        have charts := (charts_empty none false).assign thing (.ok (some s))
        have partly : ((⟨∅, false⟩ : Assignments).assign thing (.ok (some s))).complete ≠ true := by
          unfold Assignments.assign
          dsimp only
          split
          · exact Bool.false_ne_true
          · exact Bool.false_ne_true
        have survey (ledger : Ledger) (same : ledger = { readings := [⟨none, [(thing, .ok (some s))]⟩], clock := some now }) :
            Survey ((⟨∅, false⟩ : Assignments).assign thing (.ok (some s))) (fun _ => false) ledger := by
          subst same
          exact ⟨⟨_, rfl, charts, fun done => absurd done partly⟩, fun _ member => absurd member List.not_mem_nil⟩
        apply tracks_bind ((runs_stopKnown thing rfl).weaken survey fun _ _ kept => kept)
        intro stopped
        exact tracks_pure fun _ _ => trivial
      next => exact tracks_pure fun _ _ => trivial
  · exact tracks_pure fun _ _ => trivial

/-- Whatever AWS and the clock answer, each termination that a sweep requests is justified by the answers so far. -/
theorem sweep_justified (watcher : AgentWatcher) {past : List (Exchange WatchReply)} {id : String}
    (made : watcher.sweep.nextCall past = some (.terminateMicrovm id)) :
    ((ledgers watcher).summary past).Justified watcher id :=
  (runs_sweep [] rfl).asks_of_nextCall made

theorem runs_handle (event : WatchEvent) : Runs watcher (· = {}) (watcher.handle event) fun _ _ => True := by
  unfold AgentWatcher.handle
  split
  next =>
    split
    · exact tracks_pure fun _ _ => trivial
    · apply tracks_bind runs_sweep
      intro ended
      exact tracks_pure fun _ _ => trivial
  next => exact tracks_pure fun _ _ => trivial
  next name =>
    split
    · apply tracks_bind (runs_thing name)
      intro failure
      exact tracks_pure fun _ _ => trivial
    · exact tracks_pure fun _ _ => trivial

/-- So is each one that the witness requests, whatever wakes it. -/
theorem handle_justified (watcher : AgentWatcher) (event : WatchEvent) {past : List (Exchange WatchReply)} {id : String}
    (made : (watcher.handle event).nextCall past = some (.terminateMicrovm id)) :
    ((ledgers watcher).summary past).Justified watcher id :=
  (runs_handle event [] rfl).asks_of_nextCall made

end programs

def frankfurt : AgentWatcher where
  image := "arn:aws:lambda:eu-central-1:123456789012:microvm-image:agent"
  unmarshal _ := none

def orphan : WatchMicrovm := ⟨"vm-1", frankfurt.image, "RUNNING", 1⟩

def orphanFound : List (Exchange WatchReply) :=
  [⟨.agentThings, (.ok [] : Except String (List String))⟩,
    ⟨.microvmPage frankfurt.image "", (.ok ([orphan], "") : Except String (List WatchMicrovm × String))⟩,
    ⟨.ctxErr, (none : Option String)⟩,
    ⟨.microvm "vm-1", (.ok orphan : Except String WatchMicrovm)⟩,
    ⟨.now, (1 + agentWatchGrace : ℤ)⟩,
    ⟨.agentThings, (.ok [] : Except String (List String))⟩]

theorem orphanFound_justified :
    frankfurt.sweep.nextCall orphanFound = some (.terminateMicrovm "vm-1") ∧
      ((ledgers frankfurt).summary orphanFound).Justified frankfurt "vm-1" :=
  ⟨by decide +kernel, sweep_justified frankfurt (by decide +kernel)⟩

/-- A watcher to which every shadow shows a run that was to stop in the first second of 1970. -/
def stopping : AgentWatcher where
  image := frankfurt.image
  unmarshal _ := some { version := 1, lifecycle := "stopped", run := some ⟨"run-1", "vm-1"⟩, stopRequestedAt := 1 }

def overdue : List (Exchange WatchReply) :=
  [⟨.agentShadow "lamp", (.ok (some []) : Except String (Option (List UInt8)))⟩, ⟨.now, (62135596921 * second : ℤ)⟩,
    ⟨.microvm "vm-1", (.ok orphan : Except String WatchMicrovm)⟩,
    ⟨.agentShadow "lamp", (.ok (some []) : Except String (Option (List UInt8)))⟩, ⟨.now, (62135596921 * second : ℤ)⟩]

theorem overdue_justified :
    (stopping.handle (.message (.ok "lamp"))).nextCall overdue = some (.terminateMicrovm "vm-1") ∧
      ((ledgers stopping).summary overdue).Justified stopping "vm-1" :=
  ⟨by decide +kernel, handle_justified stopping (.message (.ok "lamp")) (by decide +kernel)⟩

end Txing.Witness.WatchSafety
