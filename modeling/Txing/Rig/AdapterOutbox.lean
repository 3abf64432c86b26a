import Txing.Rig.Protocol

/-! The way of a command result out of an adapter. Both adapters (`internal/thread/runtime.go`,
`txing-ble-connectivity/main.go`) stamp it with a counter of their own, which every other publication of
theirs advances too. -/

namespace Txing.Rig.AdapterOutbox
open Protocol

def orFail {α : Type} (failure : Option String) (value : α) : Except String α :=
  match failure with
  | some error => .error error
  | none => .ok value

/-- A result on the IPC connection, with the command it answers and the counter at that moment. -/
structure Publication where
  command : CapabilityCommand
  counter : UInt64
  result : CapabilityCommandResult
  deriving DecidableEq

/-- The result names its command and carries the counter. -/
def Publication.Stamped (publication : Publication) : Prop :=
  publication.result.commandID = publication.command.commandID ∧
    publication.result.thingName = publication.command.thingName ∧ publication.result.seq = publication.counter

structure Outbox where
  seq : UInt64
  published : List Publication

/-- `BuildCapabilityCommandResultTopic`, without the topic. -/
def checkResultTopic (thingName adapterID : String) : Except String Unit := do
  validateSegment thingName "thingName"
  validateSegment adapterID "adapterId"

def buildCommandResult (adapterID : String) (command : CapabilityCommand) (status : String) (message : Option String)
    (nowMS seq : UInt64) : Except String CapabilityCommandResult := do
  let result : CapabilityCommandResult :=
    { newCapabilityCommandResult adapterID command.commandID command.thingName status nowMS seq with
      message := message, redcon := some command.redcon }
  checkResultTopic command.thingName adapterID
  result.validate
  return result

namespace Outbox

def nextSeq (outbox : Outbox) : Outbox := { outbox with seq := outbox.seq + 1 }

/-- The counter advances whether or not the result can be built and sent. -/
def publishCommandResult (outbox : Outbox) (adapterID : String) (command : CapabilityCommand) (status : String)
    (message : Option String) (nowMS : UInt64) (failure : Option String) : Outbox × Except String Unit :=
  match buildCommandResult adapterID command status message nowMS outbox.seq, failure with
  | .error error, _ => (outbox.nextSeq, .error error)
  | .ok _, some error => (outbox.nextSeq, .error error)
  | .ok result, none =>
    (⟨outbox.seq + 1, outbox.published ++ [⟨command, outbox.seq, result⟩]⟩, .ok ())

/-- Every published result is for a command that was given out. -/
def Answers (outbox : Outbox) (given : CapabilityCommand → Prop) : Prop :=
  ∀ publication ∈ outbox.published, publication.Stamped ∧ given publication.command

end Outbox

theorem buildCommandResult_ok {adapterID : String} {command : CapabilityCommand} {status : String}
    {message : Option String} {nowMS seq : UInt64} {result : CapabilityCommandResult}
    (built : buildCommandResult adapterID command status message nowMS seq = .ok result) :
    result.commandID = command.commandID ∧ result.thingName = command.thingName ∧ result.seq = seq := by
  unfold buildCommandResult at built
  cases topic : checkResultTopic command.thingName adapterID with
  | error error => simp [topic, bind, Except.bind] at built
  | ok checked =>
    simp only [topic, bind, Except.bind] at built
    split at built
    · cases built
    · cases built
      exact ⟨rfl, rfl, rfl⟩

namespace Outbox
variable {outbox : Outbox} {given : CapabilityCommand → Prop}

theorem Answers.mono {more : CapabilityCommand → Prop} (wider : ∀ command, given command → more command)
    (answers : outbox.Answers given) : outbox.Answers more :=
  fun publication found => ⟨(answers publication found).1, wider _ (answers publication found).2⟩

theorem Answers.publishCommandResult (answers : outbox.Answers given) {command : CapabilityCommand} (due : given command)
    (adapterID status : String) (message : Option String) (nowMS : UInt64) (failure : Option String) :
    (outbox.publishCommandResult adapterID command status message nowMS failure).1.Answers given := by
  unfold Outbox.publishCommandResult
  split
  · exact answers
  · exact answers
  next result built =>
    intro publication found
    rcases List.mem_append.mp found with earlier | last
    · exact answers publication earlier
    · rw [List.mem_singleton.mp last]
      exact ⟨buildCommandResult_ok built, due⟩

end Outbox

end Txing.Rig.AdapterOutbox
