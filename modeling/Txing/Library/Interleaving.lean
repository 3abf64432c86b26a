import Mathlib.Logic.Function.Basic
import Txing.Library.Reaction

/-! Programs that run beside each other on something they share. A program is the tree of the calls it may
make, one branch for each reply, and a run lets some program make its next call at every step. What a
program promises is said about its own exchanges alone; a property of all of them together is then kept by
every call that fits such a promise. -/

namespace Txing.Library

inductive Process (Call : Type) (Reply : Call → Type) (Result : Type) where
  | done (result : Result)
  | call (request : Call) (resume : Reply request → Process Call Reply Result)

abbrev Exchange {Call : Type} (Reply : Call → Type) := (request : Call) × Reply request

/-- Each call fits the exchanges before it, and so does the result at the end. -/
structure Contract {Call : Type} (Reply : Call → Type) (Result : Type) where
  asks : List (Exchange Reply) → Call → Prop
  ends : List (Exchange Reply) → Result → Prop

namespace Process
variable {Call : Type} {Reply : Call → Type} {Result Next Error : Type}

def bind : Process Call Reply Result → (Result → Process Call Reply Next) → Process Call Reply Next
  | .done result, next => next result
  | .call request resume, next => .call request fun reply => (resume reply).bind next

instance : Monad (Process Call Reply) where
  pure := done
  bind := bind

def ask (request : Call) : Process Call Reply (Reply request) := .call request .done

def finished : Process Call Reply Result → Bool
  | .done _ => true
  | .call _ _ => false

/-- The same program over other calls, each of which stands for one of its own. -/
def via {Wider : Type} {Given : Wider → Type} (route : Call → Wider) (back : (request : Call) → Given (route request) → Reply request) :
    Process Call Reply Result → Process Wider Given Result
  | .done result => .done result
  | .call request resume => .call (route request) fun reply => (resume (back request reply)).via route back

def first : Process Call Reply Result → Option Call
  | .done _ => none
  | .call request _ => some request

/-- The call that the program makes after these exchanges, where they are its own. -/
def nextCall [DecidableEq Call] : Process Call Reply Result → List (Exchange Reply) → Option Call
  | .done _, _ => none
  | .call request _, [] => some request
  | .call request resume, exchange :: later =>
    if same : exchange.1 = request then (resume (same ▸ exchange.2)).nextCall later else none

inductive Keeps (contract : Contract Reply Result) : List (Exchange Reply) → Process Call Reply Result → Prop
  | done {past result} (ends : contract.ends past result) : Keeps contract past (.done result)
  | call {past request resume} (asks : contract.asks past request)
      (goes : ∀ reply, Keeps contract (past ++ [⟨request, reply⟩]) (resume reply)) :
      Keeps contract past (.call request resume)

section rules
variable {past : List (Exchange Reply)} {strict loose : Contract Reply Result} {contract : Contract Reply Result}

@[simp] theorem keeps_pure (result : Result) : Keeps contract past (pure result) ↔ contract.ends past result :=
  ⟨fun | .done ends => ends, .done⟩

theorem keeps_call {request : Call} {resume : Reply request → Process Call Reply Result} :
    Keeps contract past (.call request resume) ↔
      contract.asks past request ∧ ∀ reply, Keeps contract (past ++ [⟨request, reply⟩]) (resume reply) :=
  ⟨fun | .call asks goes => ⟨asks, goes⟩, fun both => .call both.1 both.2⟩

@[simp] theorem keeps_ask (request : Call) {contract : Contract Reply (Reply request)} :
    Keeps contract past (ask request) ↔
      contract.asks past request ∧ ∀ reply, contract.ends (past ++ [⟨request, reply⟩]) reply := by
  rw [ask, keeps_call]
  exact and_congr_right fun _ => forall_congr' fun reply => keeps_pure reply

/-- One program after another: the first one's end is what the second one starts from. -/
theorem keeps_bind (middle : List (Exchange Reply) → Result → Prop) {contract : Contract Reply Next}
    {first : Process Call Reply Result} {next : Result → Process Call Reply Next}
    (one : Keeps ⟨contract.asks, middle⟩ past first)
    (two : ∀ past result, middle past result → Keeps contract past (next result)) :
    Keeps contract past (first >>= next) := by
  induction one with
  | done ends => exact two _ _ ends
  | call asks _ ih => exact .call asks ih

/-- The same where a failure of the first is the end. -/
theorem keeps_attempt (middle : List (Exchange Reply) → Result → Prop) {contract : Contract Reply (Except Error Next)}
    {first : ExceptT Error (Process Call Reply) Result} {next : Result → ExceptT Error (Process Call Reply) Next}
    (one : Keeps ⟨contract.asks, fun past result => match result with
      | .error error => contract.ends past (.error error)
      | .ok value => middle past value⟩ past first.run)
    (two : ∀ past value, middle past value → Keeps contract past (next value).run) :
    Keeps contract past (first >>= next).run := by
  apply keeps_bind _ one
  intro past result reached
  cases result with
  | error error => exact .done reached
  | ok value => exact two past value reached

variable {program : Process Call Reply Result} {later : List (Exchange Reply)}

theorem Keeps.weaken_from (before : past <+: later)
    (asks : ∀ later request, past <+: later → strict.asks later request → loose.asks later request)
    (ends : ∀ later result, past <+: later → strict.ends later result → loose.ends later result)
    (kept : Keeps strict later program) : Keeps loose later program := by
  induction kept with
  | done ended => exact .done (ends _ _ before ended)
  | call asked _ ih =>
    exact .call (asks _ _ before asked) fun reply => ih reply (before.trans (List.prefix_append ..))

/-- A looser promise is kept too. The exchanges so far stay the first ones. -/
theorem Keeps.weaken (asks : ∀ later request, past <+: later → strict.asks later request → loose.asks later request)
    (ends : ∀ later result, past <+: later → strict.ends later result → loose.ends later result)
    (kept : Keeps strict past program) : Keeps loose past program :=
  kept.weaken_from List.prefix_rfl asks ends

/-- Whichever replies a program gets, the calls it makes fit its promise. -/
theorem Keeps.asks_of_nextCall [DecidableEq Call] (kept : Keeps contract past program) {request : Call}
    (made : program.nextCall later = some request) : contract.asks (past ++ later) request := by
  induction kept generalizing later with
  | done _ => cases made
  | call asked _ ih =>
    cases later with
    | nil =>
      cases made
      rw [List.append_nil]
      exact asked
    | cons exchange later =>
      obtain ⟨asked, reply⟩ := exchange
      unfold nextCall at made
      split at made
      next same =>
        cases same
        have kept := ih reply made
        rw [List.append_assoc] at kept
        exact kept
      next => cases made

/-- Every call is fine, whatever came before it, and so is the result. -/
def Calls (fine : Call → Prop) (result : Result → Prop) (program : Process Call Reply Result) : Prop :=
  ∀ past, Keeps ⟨fun _ request => fine request, fun _ ended => result ended⟩ past program

section calls
variable {fine : Call → Prop} {result : Result → Prop}

theorem calls_pure {value : Result} (holds : result value) :
    Calls fine result (pure value : Process Call Reply Result) :=
  fun _ => .done holds

theorem calls_ask (request : Call) (allowed : fine request) :
    Calls fine (fun _ => True) (ask request : Process Call Reply (Reply request)) :=
  fun _ => (keeps_ask request).mpr ⟨allowed, fun _ => trivial⟩

theorem calls_bind {middle : Result → Prop} {result : Next → Prop} {first : Process Call Reply Result}
    {next : Result → Process Call Reply Next} (one : Calls fine middle first)
    (two : ∀ value, middle value → Calls fine result (next value)) : Calls fine result (first >>= next) := by
  intro past
  apply keeps_bind (fun _ value => middle value) (one past)
  intro past value reached
  exact two value reached past

/-- The same where a failure of the first is the end. -/
theorem calls_attempt {middle : Result → Prop} {result : Except Error Next → Prop}
    {first : ExceptT Error (Process Call Reply) Result} {next : Result → ExceptT Error (Process Call Reply) Next}
    (failed : ∀ error, result (.error error))
    (one : Calls fine (fun ended => ∀ value, ended = .ok value → middle value) first.run)
    (two : ∀ value, middle value → Calls fine result (next value).run) : Calls fine result (first >>= next).run := by
  apply calls_bind one
  intro ended reached
  cases ended with
  | error error => exact calls_pure (failed error)
  | ok value => exact two value (reached value rfl)

theorem Calls.weaken {wide : Call → Prop} {strict loose : Result → Prop} {program : Process Call Reply Result}
    (calls : Calls fine strict program) (wider : ∀ request, fine request → wide request)
    (looser : ∀ value, strict value → loose value) : Calls wide loose program :=
  fun past => (calls past).weaken (fun _ request _ => wider request) fun _ value _ => looser value

theorem Calls.via {Wider : Type} {Given : Wider → Type} {route : Call → Wider}
    {back : (request : Call) → Given (route request) → Reply request} {wide : Wider → Prop}
    {program : Process Call Reply Result} (calls : Calls fine result program)
    (routed : ∀ request, fine request → wide (route request)) : Calls wide result (program.via route back) := by
  have kept := calls []
  clear calls
  generalize ([] : List (Exchange Reply)) = before at kept
  induction kept with
  | done ends => exact calls_pure ends
  | call asks _ ih =>
    intro past
    exact .call (routed _ asks) fun reply => ih (back _ reply) _

theorem Calls.keeps {contract : Contract Reply Result} {program : Process Call Reply Result}
    (calls : Calls fine result program)
    (asks : ∀ later request, past <+: later → fine request → contract.asks later request)
    (ends : ∀ later value, past <+: later → result value → contract.ends later value) :
    Keeps contract past program :=
  (calls past).weaken asks ends

/-- The exchanges of a program are about its own calls. -/
theorem Calls.exchanged [DecidableEq Call] {program : Process Call Reply Result} {request : Call}
    (calls : Calls fine result program) (made : program.nextCall later = some request) :
    ∀ exchange ∈ later, fine exchange.1 := by
  have kept := calls []
  clear calls
  generalize ([] : List (Exchange Reply)) = before at kept
  induction kept generalizing later with
  | done _ => cases made
  | call asked _ ih =>
    cases later with
    | nil => nofun
    | cons exchange later =>
      unfold nextCall at made
      split at made
      next same => exact List.forall_mem_cons.mpr ⟨same ▸ asked, ih _ made⟩
      next => cases made

end calls

/-- Every call is fine, and the result may be anything. -/
def Only (fine : Call → Prop) (program : Process Call Reply Result) : Prop := Calls fine (fun _ => True) program

section only
variable {fine : Call → Prop}

theorem only_pure (value : Result) : Only fine (pure value : Process Call Reply Result) := calls_pure trivial

theorem only_ask (request : Call) (allowed : fine request) :
    Only fine (ask request : Process Call Reply (Reply request)) := calls_ask request allowed

theorem only_bind {first : Process Call Reply Result} {next : Result → Process Call Reply Next}
    (one : Only fine first) (two : ∀ value, Only fine (next value)) : Only fine (first >>= next) :=
  calls_bind one fun value _ => two value

theorem only_attempt {first : ExceptT Error (Process Call Reply) Result}
    {next : Result → ExceptT Error (Process Call Reply) Next} (one : Only fine first.run)
    (two : ∀ value, Only fine (next value).run) : Only fine (first >>= next).run := by
  apply only_bind one
  intro ended
  cases ended with
  | error error => exact only_pure _
  | ok value => exact two value

theorem only_lift {program : Process Call Reply Result} (only : Only fine program) :
    Only fine (ExceptT.lift program : ExceptT Error (Process Call Reply) Result).run :=
  only_bind only fun _ => only_pure _

theorem only_tryCatch {program : ExceptT Error (Process Call Reply) Result}
    {handle : Error → ExceptT Error (Process Call Reply) Result} (one : Only fine program.run)
    (two : ∀ error, Only fine (handle error).run) : Only fine (tryCatch program handle).run := by
  apply only_bind one
  intro ended
  cases ended with
  | error error => exact two error
  | ok value => exact only_pure _

end only
end rules

section tracked
variable {Summary : Type} {middle strict loose : Result → Summary → Prop}

/-- A promise that depends on the exchanges only through what is kept of them. -/
structure Tracker (Reply : Call → Type) (Summary : Type) where
  start : Summary
  after : Summary → Exchange Reply → Summary
  allows : Summary → Call → Prop

namespace Tracker

def summary (tracker : Tracker Reply Summary) (past : List (Exchange Reply)) : Summary :=
  past.foldl tracker.after tracker.start

@[simp] theorem summary_snoc (tracker : Tracker Reply Summary) (past : List (Exchange Reply)) (exchange : Exchange Reply) :
    tracker.summary (past ++ [exchange]) = tracker.after (tracker.summary past) exchange := by
  unfold summary
  rw [List.foldl_append, List.foldl_cons, List.foldl_nil]

def contract (tracker : Tracker Reply Summary) (ends : Result → Summary → Prop) : Contract Reply Result where
  asks past request := tracker.allows (tracker.summary past) request
  ends past result := ends result (tracker.summary past)

end Tracker

/-- From each summary that `before` allows, the program keeps to the tracker and ends as `ends` says. -/
def Tracks (tracker : Tracker Reply Summary) (before : Summary → Prop) (program : Process Call Reply Result)
    (ends : Result → Summary → Prop) : Prop :=
  ∀ past, before (tracker.summary past) → program.Keeps (tracker.contract ends) past

variable {tracker : Tracker Reply Summary} {before : Summary → Prop} {ends : Result → Summary → Prop}

theorem tracks_pure {value : Result} (holds : ∀ kept, before kept → ends value kept) :
    Tracks tracker before (pure value : Process Call Reply Result) ends :=
  fun _ met => .done (holds _ met)

theorem tracks_ask (request : Call) {ends : Reply request → Summary → Prop}
    (allowed : ∀ kept, before kept → tracker.allows kept request)
    (follows : ∀ kept, before kept → ∀ reply, ends reply (tracker.after kept ⟨request, reply⟩)) :
    Tracks tracker before (ask request) ends := by
  intro past met
  refine (keeps_ask request).mpr ⟨allowed _ met, ?_⟩
  intro reply
  show ends reply (tracker.summary _)
  rw [Tracker.summary_snoc]
  exact follows _ met reply

theorem tracks_bind {ends : Next → Summary → Prop} {first : Process Call Reply Result}
    {next : Result → Process Call Reply Next} (one : Tracks tracker before first middle)
    (two : ∀ value, Tracks tracker (middle value) (next value) ends) :
    Tracks tracker before (first >>= next) ends := by
  intro past met
  apply keeps_bind (fun past value => middle value (tracker.summary past)) (one past met)
  intro past value reached
  exact two value past reached

/-- One call, from a summary that is known, and what follows it. -/
theorem tracks_call {kept : Summary} {request : Call} {next : Reply request → Process Call Reply Next}
    {ends : Next → Summary → Prop} (allowed : tracker.allows kept request)
    (follows : ∀ reply, Tracks tracker (· = tracker.after kept ⟨request, reply⟩) (next reply) ends) :
    Tracks tracker (· = kept) (ask request >>= next) ends := by
  apply tracks_bind (tracks_ask request _ _) follows
  · rintro _ rfl
    exact allowed
  · rintro _ rfl reply
    rfl

variable {program : Process Call Reply Result}

theorem tracks_each
    (each : ∀ kept, before kept → Tracks tracker (· = kept) program ends) : Tracks tracker before program ends :=
  fun past met => each _ met past rfl

theorem Tracks.known {kept : Summary}
    (tracks : Tracks tracker before program ends) (met : before kept) : Tracks tracker (· = kept) program ends := by
  rintro past rfl
  exact tracks past met

theorem Tracks.weaken {wide : Summary → Prop}
    (tracks : Tracks tracker wide program strict) (narrow : ∀ kept, before kept → wide kept)
    (looser : ∀ value kept, strict value kept → loose value kept) :
    Tracks tracker before program loose := by
  intro past met
  apply (tracks past (narrow _ met)).weaken
  · intro later request _ asked
    exact asked
  · intro later value _ ended
    exact looser value _ ended

/-- Calls that keep what is known of the summary. -/
theorem Calls.tracks {fine : Call → Prop} {result : Result → Prop} (calls : Calls fine result program)
    (allowed : ∀ kept request, before kept → fine request → tracker.allows kept request)
    (stays : ∀ kept request reply, before kept → fine request → before (tracker.after kept ⟨request, reply⟩)) :
    Tracks tracker before program fun value kept => result value ∧ before kept := by
  intro past met
  have kept := calls past
  clear calls
  induction kept with
  | done ended => exact .done ⟨ended, met⟩
  | call asked _ ih =>
    refine .call (allowed _ _ met asked) ?_
    intro reply
    apply ih reply
    rw [Tracker.summary_snoc]
    exact stays _ _ _ met asked

/-- A program over other calls keeps to a tracker of those, when the two summaries stay related. -/
theorem Keeps.via {Wider Wide : Type} {Given : Wider → Type} {route : Call → Wider}
    {back : (request : Call) → Given (route request) → Reply request} {wide : Tracker Given Wide}
    (related : Summary → Wide → Prop)
    (allowed : ∀ kept state request, related kept state → tracker.allows kept request → wide.allows state (route request))
    (follows : ∀ kept state request reply, related kept state →
      related (tracker.after kept ⟨request, back request reply⟩) (wide.after state ⟨route request, reply⟩))
    {past : List (Exchange Reply)} {later : List (Exchange Given)} (kept : program.Keeps (tracker.contract ends) past)
    (now : related (tracker.summary past) (wide.summary later)) :
    (program.via route back).Keeps (wide.contract fun value state => ∃ kept, ends value kept ∧ related kept state) later := by
  induction kept generalizing later with
  | done ended => exact .done ⟨_, ended, now⟩
  | call asked _ ih =>
    refine .call (allowed _ _ _ now asked) ?_
    intro reply
    apply ih (back _ reply)
    rw [Tracker.summary_snoc, Tracker.summary_snoc]
    exact follows _ _ _ _ now

def ended (failed : Summary → Prop) (ends : Result → Summary → Prop) : Except Error Result → Summary → Prop
  | .ok value, kept => ends value kept
  | .error _, kept => failed kept

def Attempts (tracker : Tracker Reply Summary) (failed before : Summary → Prop)
    (program : ExceptT Error (Process Call Reply) Result) (ends : Result → Summary → Prop) : Prop :=
  program.run.Tracks tracker before (ended failed ends)

variable {failed : Summary → Prop}

theorem attempts_pure {value : Result} (holds : ∀ kept, before kept → ends value kept) :
    Attempts tracker failed before (pure value : ExceptT Error (Process Call Reply) Result) ends :=
  tracks_pure holds

theorem attempts_done {value : Result} :
    Attempts tracker failed before (pure value : ExceptT Error (Process Call Reply) Result) fun _ => before :=
  attempts_pure fun _ met => met

theorem attempts_throw {error : Error} (holds : ∀ kept, before kept → failed kept) :
    Attempts tracker failed before (throw error : ExceptT Error (Process Call Reply) Result) ends :=
  tracks_pure holds

theorem attempts_ask (request : Call) {ends : Reply request → Summary → Prop}
    (allowed : ∀ kept, before kept → tracker.allows kept request)
    (follows : ∀ kept, before kept → ∀ reply, ends reply (tracker.after kept ⟨request, reply⟩)) :
    Attempts tracker failed before (ExceptT.lift (ask request) : ExceptT Error (Process Call Reply) (Reply request)) ends :=
  tracks_bind (tracks_ask request allowed follows) fun _ => tracks_pure fun _ met => met

variable {next : Result → ExceptT Error (Process Call Reply) Next}

theorem attempts_bind {ends : Next → Summary → Prop} {first : ExceptT Error (Process Call Reply) Result}
    (one : Attempts tracker failed before first middle)
    (two : ∀ value, Attempts tracker failed (middle value) (next value) ends) :
    Attempts tracker failed before (first >>= next) ends := by
  apply tracks_bind one
  intro result
  cases result with
  | error => exact tracks_pure fun _ met => met
  | ok value => exact two value

theorem attempts_tryCatch {caught : Summary → Prop}
    {program : ExceptT Error (Process Call Reply) Result} {handle : Error → ExceptT Error (Process Call Reply) Result}
    (one : Attempts tracker caught before program ends)
    (two : ∀ error, Attempts tracker failed caught (handle error) ends) :
    Attempts tracker failed before (tryCatch program handle) ends := by
  apply tracks_bind one
  intro result
  cases result with
  | error error => exact two error
  | ok value => exact tracks_pure fun _ met => met

theorem Attempts.weaken {wide : Summary → Prop} {program : ExceptT Error (Process Call Reply) Result}
    (attempts : Attempts tracker failed wide program strict) (narrow : ∀ kept, before kept → wide kept)
    (looser : ∀ value kept, strict value kept → loose value kept) :
    Attempts tracker failed before program loose := by
  apply Tracks.weaken attempts narrow
  intro result kept met
  cases result with
  | error => exact met
  | ok value => exact looser value kept met

section calls
variable {Yield : Call → Type} {tracker : Tracker (fun request => Except Error (Yield request)) Summary} {kept : Summary}
  {ends : Next → Summary → Prop}

/-- One call that may throw, from a summary that is known, and what follows it. -/
theorem attempts_call {request : Call}
    {next : Yield request → ExceptT Error (Process Call fun request => Except Error (Yield request)) Next}
    (allowed : tracker.allows kept request) (thrown : ∀ error, failed (tracker.after kept ⟨request, .error error⟩))
    (follows : ∀ value, Attempts tracker failed (· = tracker.after kept ⟨request, .ok value⟩) (next value) ends) :
    Attempts tracker failed (· = kept) (ExceptT.mk (ask request) >>= next) ends := by
  apply tracks_call allowed
  intro reply
  cases reply with
  | ok value => exact follows value
  | error error =>
    apply tracks_pure
    rintro _ rfl
    exact thrown error

end calls

/-- A part that makes no call. -/
theorem attempts_except {outcome : Except Error Result} {ends : Next → Summary → Prop}
    (thrown : ∀ kept, before kept → failed kept)
    (follows : ∀ value, outcome = .ok value → Attempts tracker failed before (next value) ends) :
    Attempts tracker failed before (ExceptT.mk (pure outcome) >>= next) ends := by
  cases outcome with
  | ok value => exact follows value rfl
  | error error => exact tracks_pure thrown

theorem Calls.attempts {fine : Call → Prop} {program : ExceptT Error (Process Call Reply) Result}
    (calls : Calls fine (fun result => result.isOk = true) program.run)
    (allowed : ∀ kept request, before kept → fine request → tracker.allows kept request)
    (stays : ∀ kept request reply, before kept → fine request → before (tracker.after kept ⟨request, reply⟩)) :
    Attempts tracker failed before program fun _ => before := by
  apply (calls.tracks allowed stays).weaken (fun _ met => met)
  intro result kept both
  cases result with
  | error => cases both.1
  | ok value => exact both.2

end tracked
end Process

/-- A program on its way: what it was begun with, its exchanges so far and what it will do next. -/
structure Running {Call : Type} (Input : Type) (Reply : Call → Type) (Result : Type) where
  input : Input
  past : List (Exchange Reply)
  rest : Process Call Reply Result

structure Pool {Name Call : Type} (Shared : Type) (Input : Name → Type) (Reply : Call → Type) (Result : Type) where
  shared : Shared
  threads : (name : Name) → Option (Running (Input name) Reply Result)

inductive PoolEvent {Name : Type} (Input : Name → Type) (Answer : Type) where
  | begin (name : Name) (input : Input name)
  | step (name : Name) (answer : Answer)

/-- What the calls do to the shared state, given what the surroundings decide, and what the threads run. -/
structure Site {Name Call : Type} (Shared Answer : Type) (Input : Name → Type) (Reply : Call → Type)
    (Result : Type) where
  serve : Shared → (request : Call) → Answer → Shared × Reply request
  program : (name : Name) → Input name → Process Call Reply Result

namespace Pool
variable {Name Call Shared Result : Type} {Input : Name → Type} {Reply : Call → Type}
  (pool : Pool Shared Input Reply Result) (name : Name)

def Free : Prop := ∀ running, pool.threads name = some running → running.rest.finished = true

def free : Bool := (pool.threads name).all fun running => running.rest.finished

theorem free_iff : pool.free name = true ↔ pool.Free name := by
  unfold free Free
  cases pool.threads name <;> simp

def due : Option Call := (pool.threads name).bind fun running => running.rest.first

variable {pool name} in
theorem due_of {running : Running (Input name) Reply Result} {request : Call} {resume : Reply request → Process Call Reply Result}
    (found : pool.threads name = some running) (next : running.rest = .call request resume) :
    pool.due name = some request := by
  unfold due
  rw [found, Option.bind_some, next]
  rfl

def past : List (Exchange Reply) := ((pool.threads name).map (·.past)).getD []

theorem past_running {running : Running (Input name) Reply Result} (found : pool.threads name = some running) :
    pool.past name = running.past := by
  unfold past
  rw [found]
  rfl

variable [DecidableEq Name]

def start (input : Input name) (program : Process Call Reply Result) : Pool Shared Input Reply Result :=
  { pool with threads := Function.update pool.threads name (some ⟨input, [], program⟩) }

def advance (running : Running (Input name) Reply Result) (exchange : Exchange Reply) (shared : Shared)
    (rest : Process Call Reply Result) : Pool Shared Input Reply Result :=
  ⟨shared, Function.update pool.threads name (some ⟨running.input, running.past ++ [exchange], rest⟩)⟩

section past
variable {pool name} {other : Name} {input : Input name} {running : Running (Input name) Reply Result}
  {exchange : Exchange Reply} {shared : Shared} {program : Process Call Reply Result}

@[simp] theorem past_start : (pool.start name input program).past name = [] := by
  show (Option.map _ (Function.update pool.threads name _ name)).getD [] = []
  rw [Function.update_self]
  rfl

theorem past_start_of_ne (apart : other ≠ name) : (pool.start name input program).past other = pool.past other := by
  show (Option.map _ (Function.update pool.threads name _ other)).getD [] = _
  rw [Function.update_of_ne apart]
  rfl

theorem past_advance (found : pool.threads name = some running) :
    (pool.advance name running exchange shared program).past name = pool.past name ++ [exchange] := by
  rw [pool.past_running name found]
  show (Option.map _ (Function.update pool.threads name _ name)).getD [] = _
  rw [Function.update_self]
  rfl

theorem past_advance_of_ne (apart : other ≠ name) :
    (pool.advance name running exchange shared program).past other = pool.past other := by
  show (Option.map _ (Function.update pool.threads name _ other)).getD [] = _
  rw [Function.update_of_ne apart]
  rfl

end past

theorem forall_put {holds : (name : Name) → Running (Input name) Reply Result → Prop}
    {threads : (name : Name) → Option (Running (Input name) Reply Result)} {name : Name}
    {running : Running (Input name) Reply Result} (now : holds name running)
    (others : ∀ name running, threads name = some running → holds name running) :
    ∀ other thread, Function.update threads name (some running) other = some thread → holds other thread := by
  intro other thread placed
  by_cases same : other = name
  · subst same
    rw [Function.update_self] at placed
    cases placed
    exact now
  · rw [Function.update_of_ne same] at placed
    exact others other thread placed

end Pool

namespace Site
variable {Name Call Shared Answer Result : Type} {Input : Name → Type} {Reply : Call → Type} [DecidableEq Name]
  (site : Site Shared Answer Input Reply Result)

def interleaving : Reaction (Pool Shared Input Reply Result) (PoolEvent Input Answer) (Name × Exchange Reply)
  | pool, .begin name input =>
    if pool.free name then (pool.start name input (site.program name input), []) else (pool, [])
  | pool, .step name answer =>
    match pool.threads name with
    | none => (pool, [])
    | some running =>
      match running.rest with
      | .done _ => (pool, [])
      | .call request resume =>
        let served := site.serve pool.shared request answer
        (pool.advance name running ⟨request, served.2⟩ served.1 (resume served.2), [(name, ⟨request, served.2⟩)])

inductive Moved (pool : Pool Shared Input Reply Result) : PoolEvent Input Answer →
    Pool Shared Input Reply Result × List (Name × Exchange Reply) → Prop
  | still {event} : Moved pool event (pool, [])
  | began {name input} (free : pool.Free name) :
      Moved pool (.begin name input) (pool.start name input (site.program name input), [])
  | made {name answer running request resume} (found : pool.threads name = some running)
      (due : running.rest = .call request resume) :
      Moved pool (.step name answer)
        (pool.advance name running ⟨request, (site.serve pool.shared request answer).2⟩
          (site.serve pool.shared request answer).1 (resume (site.serve pool.shared request answer).2),
        [(name, ⟨request, (site.serve pool.shared request answer).2⟩)])

theorem interleaving_cases (pool : Pool Shared Input Reply Result) (event : PoolEvent Input Answer) :
    site.Moved pool event (site.interleaving pool event) := by
  cases event with
  | begin name input =>
    simp only [interleaving]
    split
    next idle => exact .began ((pool.free_iff name).mp idle)
    next busy => exact .still
  | step name answer =>
    simp only [interleaving]
    split
    next absent => exact .still
    next running found =>
      split
      next result ended => exact .still
      next request resume due => exact .made found due

section contracts
variable {site} (contract : (name : Name) → Input name → Contract Reply Result) {pool : Pool Shared Input Reply Result}

def Lawful (pool : Pool Shared Input Reply Result) : Prop :=
  ∀ name running, pool.threads name = some running →
    running.rest.Keeps (contract name running.input) running.past

variable {contract}

theorem lawful_next (sound : ∀ name input, (site.program name input).Keeps (contract name input) [])
    (pool : Pool Shared Input Reply Result) (event : PoolEvent Input Answer) (lawful : Lawful contract pool) :
    Lawful contract (site.interleaving.next pool event) := by
  have moved := site.interleaving_cases pool event
  unfold Reaction.next
  generalize site.interleaving pool event = after at moved
  cases moved with
  | still => exact lawful
  | began free => exact Pool.forall_put (sound _ _) lawful
  | @made name answer running request resume found due =>
    have kept := lawful name running found
    rw [due, Process.keeps_call] at kept
    exact Pool.forall_put (kept.2 _) lawful

omit [DecidableEq Name] in
theorem asks_of_due {name : Name} {request : Call} (lawful : Lawful contract pool) (due : pool.due name = some request) :
    ∃ running, pool.threads name = some running ∧ (contract name running.input).asks running.past request := by
  obtain ⟨running, found, first⟩ := Option.bind_eq_some_iff.mp due
  refine ⟨running, found, ?_⟩
  have promised := lawful name running found
  cases rest : running.rest with
  | done result =>
    rw [rest] at first
    cases first
  | call request resume =>
    rw [rest] at first promised
    cases first
    exact (Process.keeps_call.mp promised).1

/-- What survives the beginning of a program and each call that fits its promise, survives one event. -/
theorem next_holds {event : PoolEvent Input Answer} (holds : Pool Shared Input Reply Result → Prop)
    (lawful : Lawful contract pool) (still : holds pool)
    (began : ∀ name input, event = .begin name input → pool.Free name →
      holds (pool.start name input (site.program name input)))
    (made : ∀ name answer running request resume, event = .step name answer → pool.threads name = some running →
      running.rest = .call request resume → (contract name running.input).asks running.past request →
      holds (pool.advance name running ⟨request, (site.serve pool.shared request answer).2⟩
        (site.serve pool.shared request answer).1 (resume (site.serve pool.shared request answer).2))) :
    holds (site.interleaving.next pool event) := by
  have moved := site.interleaving_cases pool event
  unfold Reaction.next
  generalize site.interleaving pool event = after at moved
  cases moved with
  | still => exact still
  | began free => exact began _ _ rfl free
  | @made name answer running request resume found due =>
    have promised := lawful name running found
    rw [due, Process.keeps_call] at promised
    exact made _ _ _ _ _ rfl found due promised.1

/-- The same for a whole run. -/
theorem run_holds (sound : ∀ name input, (site.program name input).Keeps (contract name input) [])
    {good : Pool Shared Input Reply Result → PoolEvent Input Answer → Prop}
    (holds : Pool Shared Input Reply Result → Prop)
    (began : ∀ pool name input, holds pool → Lawful contract pool → pool.Free name → good pool (.begin name input) →
      holds (pool.start name input (site.program name input)))
    (made : ∀ pool name answer running request resume, holds pool → pool.threads name = some running →
      running.rest = .call request resume → (contract name running.input).asks running.past request →
      good pool (.step name answer) →
      holds (pool.advance name running ⟨request, (site.serve pool.shared request answer).2⟩
        (site.serve pool.shared request answer).1 (resume (site.serve pool.shared request answer).2)))
    {events : List (PoolEvent Input Answer)} (start : holds pool) (lawful : Lawful contract pool)
    (along : site.interleaving.Along good pool events) :
    holds (site.interleaving.run pool events) ∧ Lawful contract (site.interleaving.run pool events) := by
  apply Reaction.run_invariant site.interleaving (fun pool => holds pool ∧ Lawful contract pool) _ ⟨start, lawful⟩ along
  intro pool event both fine
  refine ⟨next_holds holds both.2 both.1 ?_ ?_, lawful_next sound pool event both.2⟩
  · rintro name input rfl free
    exact began pool name input both.1 both.2 free fine
  · rintro name answer running request resume rfl found due asked
    exact made pool name answer running request resume both.1 found due asked fine

end contracts

section tracked
variable {site} {Summary : Type} (tracker : Process.Tracker Reply Summary) {settled : Summary → Prop}

def summaries (pool : Pool Shared Input Reply Result) (name : Name) : Summary := tracker.summary (pool.past name)

variable {tracker} {pool : Pool Shared Input Reply Result} {name : Name}

theorem summaries_start {input : Input name} {program : Process Call Reply Result} :
    summaries tracker (pool.start name input program) = Function.update (summaries tracker pool) name tracker.start := by
  funext other
  by_cases same : other = name
  · subst same
    rw [Function.update_self, summaries, Pool.past_start]
    rfl
  · rw [Function.update_of_ne same, summaries, Pool.past_start_of_ne same, summaries]

theorem summaries_advance {running : Running (Input name) Reply Result} {exchange : Exchange Reply} {shared : Shared}
    {rest : Process Call Reply Result} (found : pool.threads name = some running) :
    summaries tracker (pool.advance name running exchange shared rest) =
      Function.update (summaries tracker pool) name (tracker.after (summaries tracker pool name) exchange) := by
  funext other
  by_cases same : other = name
  · subst same
    rw [Function.update_self, summaries, Pool.past_advance found, Process.Tracker.summary_snoc, summaries]
  · rw [Function.update_of_ne same, summaries, Pool.past_advance_of_ne same, summaries]

omit [DecidableEq Name] in
theorem allows_of_due {ends : Result → Summary → Prop} {request : Call}
    (lawful : Lawful (fun _ _ => tracker.contract ends) pool) (due : pool.due name = some request) :
    tracker.allows (summaries tracker pool name) request := by
  obtain ⟨running, found, asked⟩ := asks_of_due lawful due
  rw [summaries, pool.past_running name found]
  exact asked

omit [DecidableEq Name] in
theorem settled_of_free (initial : settled tracker.start) (lawful : Lawful (fun _ _ => tracker.contract fun _ => settled) pool)
    (free : pool.Free name) : settled (summaries tracker pool name) := by
  cases found : pool.threads name with
  | none =>
    rw [summaries, Pool.past, found]
    exact initial
  | some running =>
    have kept := lawful name running found
    have ended := free running found
    rw [summaries, pool.past_running name found]
    cases rest : running.rest with
    | done result =>
      rw [rest] at kept
      cases kept with
      | done ends => exact ends
    | call request resume =>
      rw [rest] at ended
      cases ended

/-- What holds of the shared state and of the summaries is kept by a thread that begins anew once it has settled,
and by every call that fits its summary; then it holds after every run. -/
theorem run_tracked (initial : settled tracker.start)
    (sound : ∀ name input, (site.program name input).Keeps (tracker.contract fun _ => settled) [])
    {good : Pool Shared Input Reply Result → PoolEvent Input Answer → Prop} (holds : Shared → (Name → Summary) → Prop)
    (began : ∀ shared summaries name, holds shared summaries → settled (summaries name) →
      holds shared (Function.update summaries name tracker.start))
    (made : ∀ pool name answer running request resume, holds pool.shared (summaries tracker pool) →
      pool.threads name = some running → running.rest = .call request resume →
      tracker.allows (summaries tracker pool name) request → good pool (.step name answer) →
      holds (site.serve pool.shared request answer).1 (Function.update (summaries tracker pool) name
        (tracker.after (summaries tracker pool name) ⟨request, (site.serve pool.shared request answer).2⟩)))
    {events : List (PoolEvent Input Answer)} (start : holds pool.shared (summaries tracker pool))
    (lawful : Lawful (fun _ _ => tracker.contract fun _ => settled) pool)
    (along : site.interleaving.Along good pool events) :
    holds (site.interleaving.run pool events).shared (summaries tracker (site.interleaving.run pool events)) ∧
      ∀ name, (site.interleaving.run pool events).Free name →
        settled (summaries tracker (site.interleaving.run pool events) name) := by
  obtain ⟨held, lawful⟩ := run_holds sound (fun pool => holds pool.shared (summaries tracker pool))
    (fun pool name input held lawful free _ => by
      rw [summaries_start]
      exact began _ _ name held (settled_of_free initial lawful free))
    (fun pool name answer running request resume held found due asked fine => by
      rw [summaries_advance found]
      apply made pool name answer running request resume held found due _ fine
      rw [summaries, pool.past_running name found]
      exact asked)
    start lawful along
  exact ⟨held, fun name free => settled_of_free initial lawful free⟩

end tracked
end Site
end Txing.Library
