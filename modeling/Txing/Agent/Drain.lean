import Txing.Agent.Reconcile

/-! The drain of a controller that is switched off (`drain_disabled`): it stops the hosts of its image, fences every Thing and
says whether there is nothing left to do. No failure keeps it from going on. -/

namespace Txing.Agent.Drain
open Txing.Library Process

/-- What the drain has to do with its backend. An inventory hands over one page after another until it ends or throws, and a
visit of a page may make calls before the next page is known. -/
inductive DrainCall
  | page
  | terminate (id : String)
  | things
  | fence (thing : String)

abbrev DrainReply : DrainCall → Type
  | .page => Except String (Option (List CloudRun))
  | .terminate _ => Except String Unit
  | .things => Except String (List String)
  | .fence _ => Except String Bool

abbrev Draining := Process DrainCall DrainReply

def running (state : String) : Bool := state ∈ ["PENDING", "RUNNING", "SUSPENDING", "SUSPENDED"]

structure Progress where
  complete : Bool := true
  seen : List String := []

def visit (progress : Progress) (run : CloudRun) : Draining Progress :=
  if run.id = "" then return { progress with complete := false }
  else if run.state = "TERMINATED" then return progress
  else if run.state = "TERMINATING" then return { progress with complete := false }
  else if running run.state = false then return { progress with complete := false }
  else if run.id ∈ progress.seen then return { progress with complete := false }
  else ask (.terminate run.id) >>= fun _ => return { complete := false, seen := run.id :: progress.seen }

def visitPage (progress : Progress) : List CloudRun → Draining Progress
  | [] => return progress
  | run :: rest => do visitPage (← visit progress run) rest

/-- The inventory, where it is over after fewer pages than given. -/
def inventory (progress : Progress) : ℕ → Draining (Option Progress)
  | 0 => return none
  | pages + 1 => ask DrainCall.page >>= fun
    | .ok (some page) => do inventory (← visitPage progress page) pages
    | .ok none => return some progress
    | .error _ => return some { progress with complete := false }

def fenceAll (complete : Bool) : List String → Draining Bool
  | [] => return complete
  | thing :: rest => ask (DrainCall.fence thing) >>= fun
    | .ok fenced => fenceAll (complete && fenced) rest
    | .error _ => fenceAll false rest

def fenceThings (complete : Bool) : Draining Bool :=
  ask DrainCall.things >>= fun
    | .ok things => fenceAll complete things
    | .error _ => return false

/-- There is no result while the inventory goes on beyond the pages given. -/
def drainDisabled (pages : ℕ) : Draining (Option Bool) := do
  match ← inventory {} pages with
  | none => return none
  | some progress => return some (← fenceThings progress.complete)

structure Log where
  pages : List (Except String (Option (List CloudRun))) := []
  terminations : List String := []
  registries : List (Except String (List String)) := []
  fences : List (String × Except String Bool) := []

def Log.after (log : Log) : Exchange DrainReply → Log
  | ⟨.page, reply⟩ => { log with pages := log.pages ++ [reply] }
  | ⟨.terminate id, _⟩ => { log with terminations := log.terminations ++ [id] }
  | ⟨.things, reply⟩ => { log with registries := log.registries ++ [reply] }
  | ⟨.fence thing, reply⟩ => { log with fences := log.fences ++ [(thing, reply)] }

def pageHosts : Except String (Option (List CloudRun)) → List CloudRun
  | .ok (some page) => page
  | .ok none => []
  | .error _ => []

def Log.hosts (log : Log) : List CloudRun := log.pages.flatMap pageHosts

/-- A host is told to terminate once, and only where it was listed in a state to be terminated. -/
def Log.allows (log : Log) : DrainCall → Prop
  | .terminate id => (∃ run ∈ log.hosts, run.id = id ∧ running run.state = true) ∧ id ∉ log.terminations
  | _ => True

def drainTracker : Tracker DrainReply Log where
  start := {}
  after := Log.after
  allows := Log.allows

def Finished (run : CloudRun) : Prop := run.id ≠ "" ∧ run.state = "TERMINATED"

/-- What a drain that is over has done: every Thing that the registry gave was fenced, and the result is true exactly where
the inventory came to its end with every host finished, the registry could be read and every fence has succeeded. -/
def Log.Drained (log : Log) (result : Bool) : Prop :=
  ∃ registry, log.registries = [registry] ∧
    (∀ things, registry = .ok things → log.fences.map Prod.fst = things) ∧
    (result = true ↔ log.pages.getLast? = some (.ok none) ∧ (∀ run ∈ log.hosts, Finished run) ∧
      (∃ things, registry = .ok things) ∧ ∀ fence ∈ log.fences, fence.2 = .ok true)

/-- While the inventory goes on: it has given so many pages and neither ended nor thrown. -/
structure Log.Open (log : Log) (given : ℕ) : Prop where
  pages : ∀ reply ∈ log.pages, ∃ page, reply = .ok (some page)
  length : log.pages.length = given
  registries : log.registries = []
  fences : log.fences = []

/-- What is known while the hosts `rest` of the last page are still to be visited. -/
structure Visited (given : ℕ) (progress : Progress) (rest : List CloudRun) (log : Log) : Prop where
  opened : log.Open given
  seen : ∀ id ∈ log.terminations, id ∈ progress.seen
  complete : ∃ visited, log.hosts = visited ++ rest ∧ (progress.complete = true ↔ ∀ run ∈ visited, Finished run)

variable {given : ℕ} {progress : Progress} {log : Log}

theorem Log.hosts_snoc (log : Log) (reply : Except String (Option (List CloudRun))) :
    (log.after ⟨.page, reply⟩).hosts = log.hosts ++ pageHosts reply := by
  simp [Log.hosts, Log.after]

theorem Visited.behind {run : CloudRun} {rest : List CloudRun} (visited : Visited given progress (run :: rest) log)
    (unfinished : ¬ Finished run) :
    Visited given { progress with complete := false } rest log := by
  obtain ⟨before, hosts, _⟩ := visited.complete
  refine ⟨visited.opened, visited.seen, before ++ [run], ?_, ?_⟩
  · rw [hosts, List.append_assoc, List.singleton_append]
  · constructor
    · intro holds
      cases holds
    · intro finished
      exact absurd (finished run (List.mem_append_right before (List.mem_singleton_self run))) unfinished

theorem Visited.finished {run : CloudRun} {rest : List CloudRun} (visited : Visited given progress (run :: rest) log)
    (finished : Finished run) : Visited given progress rest log := by
  obtain ⟨before, hosts, complete⟩ := visited.complete
  refine ⟨visited.opened, visited.seen, before ++ [run], ?_, ?_⟩
  · rw [hosts, List.append_assoc, List.singleton_append]
  · rw [complete, List.forall_mem_append, List.forall_mem_singleton, and_iff_left finished]

theorem visit_tracks (progress : Progress) (run : CloudRun) (rest : List CloudRun) :
    Tracks drainTracker (Visited given progress (run :: rest)) (visit progress run) (Visited given · rest) := by
  unfold visit
  by_cases named : run.id = ""
  · rw [if_pos named]
    exact tracks_pure fun _ visited => visited.behind fun finished => finished.1 named
  rw [if_neg named]
  by_cases terminated : run.state = "TERMINATED"
  · rw [if_pos terminated]
    exact tracks_pure fun _ visited => visited.finished ⟨named, terminated⟩
  have unfinished : ¬ Finished run := fun finished => terminated finished.2
  rw [if_neg terminated]
  split
  · exact tracks_pure fun _ visited => visited.behind unfinished
  split
  · exact tracks_pure fun _ visited => visited.behind unfinished
  next stoppable =>
  split
  · exact tracks_pure fun _ visited => visited.behind unfinished
  next unseen =>
  apply tracks_each
  intro log visited
  apply tracks_call
  · obtain ⟨before, hosts, _⟩ := visited.complete
    refine ⟨⟨run, ?_, rfl, eq_true_of_ne_false stoppable⟩, fun again => unseen (visited.seen _ again)⟩
    rw [hosts]
    exact List.mem_append_right before List.mem_cons_self
  · intro reply
    apply tracks_pure
    rintro _ rfl
    have behind := visited.behind unfinished
    refine ⟨⟨behind.opened.pages, behind.opened.length, behind.opened.registries, behind.opened.fences⟩, ?_, behind.complete⟩
    intro id terminated
    rcases List.mem_append.mp terminated with earlier | now
    · exact List.mem_cons_of_mem _ (visited.seen id earlier)
    · rw [List.mem_singleton.mp now]
      exact List.mem_cons_self

theorem visitPage_tracks (progress : Progress) (page : List CloudRun) :
    Tracks drainTracker (Visited given progress page) (visitPage progress page) (Visited given · []) := by
  induction page generalizing progress with
  | nil => exact tracks_pure fun _ visited => visited
  | cons run rest ih => exact tracks_bind (visit_tracks progress run rest) ih

structure Listed (progress : Progress) (log : Log) : Prop where
  registries : log.registries = []
  fences : log.fences = []
  complete : progress.complete = true ↔ log.pages.getLast? = some (.ok none) ∧ ∀ run ∈ log.hosts, Finished run

variable (visited : Visited given progress [] log)
include visited

theorem Visited.page (page : List CloudRun) :
    Visited (given + 1) progress page (log.after ⟨.page, .ok (some page)⟩) := by
  obtain ⟨before, hosts, complete⟩ := visited.complete
  refine ⟨⟨?_, ?_, visited.opened.registries, visited.opened.fences⟩, visited.seen, before, ?_, complete⟩
  · intro reply among
    rcases List.mem_append.mp among with earlier | now
    · exact visited.opened.pages reply earlier
    · exact ⟨page, List.mem_singleton.mp now⟩
  · rw [Log.after, List.length_append, visited.opened.length, List.length_singleton]
  · rw [Log.hosts_snoc, hosts, List.append_nil, pageHosts]

theorem Visited.listed : Listed progress (log.after ⟨.page, .ok none⟩) := by
  obtain ⟨before, hosts, complete⟩ := visited.complete
  refine ⟨visited.opened.registries, visited.opened.fences, ?_⟩
  rw [Log.hosts_snoc, pageHosts, List.append_nil, hosts, List.append_nil, complete]
  simp [Log.after]

theorem Visited.thrown (error : String) :
    Listed { progress with complete := false } (log.after ⟨.page, .error error⟩) := by
  refine ⟨visited.opened.registries, visited.opened.fences, ?_⟩
  simp [Log.after]

/-- Either the inventory has given all the pages it was followed for, or it is over. -/
def Inventoried (pages : ℕ) : Option Progress → Log → Prop
  | none, log => log.Open pages
  | some progress, log => Listed progress log

omit visited

theorem inventory_tracks (progress : Progress) (pages : ℕ) :
    Tracks drainTracker (Visited given progress []) (inventory progress pages) (Inventoried (given + pages)) := by
  induction pages generalizing progress given with
  | zero => exact tracks_pure fun _ visited => visited.opened
  | succ pages ih =>
    apply tracks_each
    intro log visited
    apply tracks_call trivial
    intro reply
    match reply with
    | .ok (some page) =>
      apply tracks_bind ((visitPage_tracks progress page).known (visited.page page))
      intro progress
      rw [Nat.add_comm pages, ← Nat.add_assoc]
      exact ih progress
    | .ok none =>
      apply tracks_pure
      rintro _ rfl
      exact visited.listed
    | .error error =>
      apply tracks_pure
      rintro _ rfl
      exact visited.thrown error

structure Fencing (complete : Bool) (things rest : List String) (log : Log) : Prop where
  registries : log.registries = [.ok things]
  fences : log.fences.map Prod.fst ++ rest = things
  complete : complete = true ↔ log.pages.getLast? = some (.ok none) ∧ (∀ run ∈ log.hosts, Finished run) ∧
    ∀ fence ∈ log.fences, fence.2 = .ok true

theorem Fencing.fence {complete fenced : Bool} {things rest : List String} {thing : String}
    (fencing : Fencing complete things (thing :: rest) log) {reply : Except String Bool}
    (holds : fenced = true ↔ complete = true ∧ reply = .ok true) :
    Fencing fenced things rest (log.after ⟨.fence thing, reply⟩) := by
  refine ⟨fencing.registries, ?_, ?_⟩
  · rw [← fencing.fences]
    simp [Log.after]
  · rw [holds, fencing.complete]
    simp [Log.after, Log.hosts, or_imp, forall_and, and_assoc]

theorem fenceAll_tracks (complete : Bool) (things rest : List String) :
    Tracks drainTracker (Fencing complete things rest) (fenceAll complete rest) fun result log => log.Drained result := by
  induction rest generalizing complete with
  | nil =>
    apply tracks_pure
    intro log fencing
    refine ⟨_, fencing.registries, ?_, ?_⟩
    · intro _ same
      cases same
      rw [← fencing.fences, List.append_nil]
    · rw [fencing.complete]
      simp
  | cons thing rest ih =>
    apply tracks_each
    intro log fencing
    apply tracks_call trivial
    intro reply
    match reply with
    | .ok fenced =>
      apply (ih (complete && fenced)).known
      apply fencing.fence
      simp
    | .error error =>
      apply (ih false).known
      apply fencing.fence
      simp

theorem fenceThings_tracks (progress : Progress) :
    Tracks drainTracker (Listed progress) (fenceThings progress.complete) fun result log => log.Drained result := by
  apply tracks_each
  intro log listed
  apply tracks_call trivial
  intro reply
  match reply with
  | .ok things =>
    apply (fenceAll_tracks progress.complete things things).known
    refine ⟨?_, ?_, ?_⟩
    · simp [drainTracker, Log.after, listed.registries]
    · simp [drainTracker, Log.after, listed.fences]
    · rw [listed.complete]
      simp [drainTracker, Log.after, Log.hosts, listed.fences]
  | .error error =>
    apply tracks_pure
    rintro _ rfl
    refine ⟨.error error, ?_, nofun, ?_⟩
    · simp [drainTracker, Log.after, listed.registries]
    · simp

/-- How a drain ends that follows its inventory for so many pages. -/
def DrainEnds (pages : ℕ) : Option Bool → Log → Prop
  | none, log => log.Open pages
  | some result, log => log.Drained result

theorem drainDisabled_tracks (pages : ℕ) :
    Tracks drainTracker (Visited 0 {} []) (drainDisabled pages) (DrainEnds pages) := by
  apply tracks_bind (inventory_tracks {} pages)
  intro listed
  cases listed with
  | none =>
    rw [Nat.zero_add]
    exact tracks_pure fun _ opened => opened
  | some progress => exact tracks_bind (fenceThings_tracks progress) fun _ => tracks_pure fun _ drained => drained

/-- Whatever the backend does: as long as it is followed, the inventory is either still going on, or the drain has done all
it has to do. -/
theorem drain_completes (pages : ℕ) : (drainDisabled pages).Keeps (drainTracker.contract (DrainEnds pages)) [] :=
  drainDisabled_tracks pages [] ⟨⟨nofun, rfl, rfl, rfl⟩, nofun, [], rfl, by simp⟩

end Txing.Agent.Drain
