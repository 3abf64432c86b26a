import Txing.Library.Interleaving

/-! A program that runs to its end with nothing beside it. What holds at the end, whatever its calls are
answered, is read off the program call by call. -/

namespace Txing.Library.Process
variable {Call Shared Answer Result Next Error : Type} {Reply : Call → Type}
  (serve : Shared → (request : Call) → Answer → Shared × Reply request)

/-- Each call takes the next answer. -/
def exec : Process Call Reply Result → (ℕ → Answer) → Shared → Shared × Result
  | .done result, _, shared => (shared, result)
  | .call request resume, answers, shared =>
    (resume (serve shared request (answers 0)).2).exec (fun n => answers (n + 1)) (serve shared request (answers 0)).1

/-- From here the program ends as `ends` says, whatever the answers are. -/
def Meets (ends : Result → Shared → Prop) : Process Call Reply Result → Shared → Prop
  | .done result, shared => ends result shared
  | .call request resume, shared =>
    ∀ answer, (resume (serve shared request answer).2).Meets ends (serve shared request answer).1

variable {serve} {shared : Shared} {program : Process Call Reply Result}

theorem exec_meets {ends : Result → Shared → Prop} (meets : program.Meets serve ends shared) (answers : ℕ → Answer) :
    ends (program.exec serve answers shared).2 (program.exec serve answers shared).1 := by
  induction program generalizing shared answers with
  | done result => exact meets
  | call request resume ih => exact ih _ (meets (answers 0)) _

/-- Where every call gets the same answer, one program runs after the other. -/
theorem exec_bind (answer : Answer) (first : Process Call Reply Result) (next : Result → Process Call Reply Next)
    (shared : Shared) :
    (first >>= next).exec serve (fun _ => answer) shared =
      (next (first.exec serve (fun _ => answer) shared).2).exec serve (fun _ => answer)
        (first.exec serve (fun _ => answer) shared).1 := by
  induction first generalizing shared with
  | done result => rfl
  | call request resume ih => exact ih _ _

theorem meets_bind {ends : Next → Shared → Prop} {first : Process Call Reply Result}
    {next : Result → Process Call Reply Next}
    (meets : first.Meets serve (fun result shared => (next result).Meets serve ends shared) shared) :
    (first >>= next).Meets serve ends shared := by
  induction first generalizing shared with
  | done result => exact meets
  | call request resume ih => exact fun answer => ih _ (meets answer)

theorem Meets.weaken {strict loose : Result → Shared → Prop}
    (meets : program.Meets serve strict shared) (looser : ∀ result shared, strict result shared → loose result shared) :
    program.Meets serve loose shared := by
  induction program generalizing shared with
  | done result => exact looser _ _ meets
  | call request resume ih => exact fun answer => ih _ (meets answer)

/-- The same where a failure of the first is the end. -/
theorem meets_attempt {ends : Except Error Next → Shared → Prop} {first : ExceptT Error (Process Call Reply) Result}
    {next : Result → ExceptT Error (Process Call Reply) Next}
    (meets : first.run.Meets serve (fun ended shared => match ended with
      | .error error => ends (.error error) shared
      | .ok value => (next value).run.Meets serve ends shared) shared) :
    (first >>= next).run.Meets serve ends shared := by
  apply meets_bind
  apply meets.weaken
  intro ended shared reached
  cases ended with
  | error error => exact reached
  | ok value => exact reached

/-- Calls that leave the shared state alone. -/
theorem Calls.meets {fine : Call → Prop} {result : Result → Prop} (calls : program.Calls fine result)
    (same : ∀ shared request answer, fine request → (serve shared request answer).1 = shared) :
    program.Meets serve (fun value after => result value ∧ after = shared) shared := by
  have kept := calls []
  clear calls
  generalize [] = past at kept
  induction kept with
  | done ended => exact ⟨ended, rfl⟩
  | @call past request resume asked _ ih =>
    intro answer
    rw [same shared request answer asked]
    exact ih _

end Txing.Library.Process
