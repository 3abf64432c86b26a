import Txing.Library.GoMap
import Txing.Library.Interleaving

/-! The broker of the rig's local socket (`ipc.go`). Its goroutines share the clients and the retained payloads
under one lock, and send outside it. -/

namespace Txing.Rig.IpcBroker
open Txing.Library

abbrev Payload := List UInt8

structure Message where
  topic : String
  payload : Payload
  deriving DecidableEq

structure Frame where
  type : String
  topic : String
  payload : Payload

abbrev ClientId := ℕ

section topics

def split (text : String) : List String := (text.toList.splitOn '/').map String.ofList

def partsMatch : List String → List String → Bool
  | [], topic => topic.isEmpty
  | part :: rest, topic =>
    if part = "#" then rest.isEmpty
    else match topic with
      | [] => false
      | word :: words => (part = "+" || part = word) && partsMatch rest words

def topicMatches (filter topic : String) : Bool := filter = topic || partsMatch (split filter) (split topic)

end topics

/-- What the goroutines share, with the frames that each client has received. -/
structure Broker where
  clients : List ClientId
  subscriptions : ClientId → List String
  retained : GoMap String Payload
  received : ClientId → List Message

def newBroker : Broker := ⟨[], fun _ => [], ∅, fun _ => []⟩

namespace Broker
variable (broker : Broker)

def matchesTopic (client : ClientId) (topic : String) : Bool :=
  (broker.subscriptions client).any (topicMatches · topic)

def connect (client : ClientId) : Broker where
  clients := client :: broker.clients
  subscriptions := Function.update broker.subscriptions client []
  retained := broker.retained
  received := Function.update broker.received client []

def retain (message : Message) : Broker :=
  { broker with retained := broker.retained.insert message.topic message.payload }

def receivers (topic : String) : List ClientId :=
  broker.clients.filter (broker.matchesTopic · topic)

def addSubscription (client : ClientId) (filter : String) : Broker :=
  { broker with
    subscriptions := Function.update broker.subscriptions client (broker.subscriptions client ++ [filter]) }

def retainedFrames (filter : String) : List Message :=
  (broker.retained.entries.filter fun entry => topicMatches filter entry.1).map fun entry => ⟨entry.1, entry.2⟩

def deliver (client : ClientId) (message : Message) : Broker :=
  { broker with received := Function.update broker.received client (broker.received client ++ [message]) }

def delete (client : ClientId) : Broker :=
  { broker with clients := broker.clients.filter (· ≠ client) }

end Broker

/-- The locked sections and the sends, each of which is one step. -/
inductive BrokerCall where
  | accept (client : ClientId)
  | publishLocked (message : Message) (retain : Bool)
  | subscribeLocked (client : ClientId) (filter : String)
  | send (client : ClientId) (message : Message)
  | removeClient (client : ClientId)

def BrokerReply : BrokerCall → Type
  | .publishLocked _ _ => List ClientId
  | .subscribeLocked _ _ => List Message
  | .send _ _ => Bool
  | _ => Unit

abbrev Work := Process BrokerCall BrokerReply

def ask (request : BrokerCall) : Work (BrokerReply request) := Process.ask request

def publishLocked (message : Message) (retain : Bool) : Work (List ClientId) := ask (.publishLocked message retain)
def subscribeLocked (client : ClientId) (filter : String) : Work (List Message) := ask (.subscribeLocked client filter)
def send (client : ClientId) (message : Message) : Work Bool := ask (.send client message)
def removeClient (client : ClientId) : Work Unit := ask (.removeClient client)

section programs

/-- A client that cannot be reached is removed, and the others still get the message. -/
def sendAll (message : Message) : List ClientId → Work Unit
  | [] => return ()
  | client :: rest => do
    let sent ← send client message
    if !sent then removeClient client
    sendAll message rest

def publish (topic : String) (payload : Payload) (retain : Bool) : Work Unit := do
  let clients ← publishLocked ⟨topic, payload⟩ retain
  sendAll ⟨topic, payload⟩ clients

/-- The first frame that cannot be sent ends it. -/
def sendRetained (client : ClientId) : List Message → Work Unit
  | [] => return ()
  | message :: rest => do
    let sent ← send client message
    if sent then sendRetained client rest else removeClient client

def subscribe (client : ClientId) (filter : String) : Work Unit := do
  let frames ← subscribeLocked client filter
  sendRetained client frames

/-- One line of a client, already decoded; what is not a frame ends the client. -/
def handleFrame (client : ClientId) : Option Frame → Work Unit
  | none => removeClient client
  | some frame =>
    if frame.type = "subscribe" then
      if frame.topic = "" then removeClient client else subscribe client frame.topic
    else if frame.type = "publish" then
      if frame.topic = "" then removeClient client else publish frame.topic frame.payload false
    else if frame.type = "publish-retained" then
      if frame.topic = "" then removeClient client else publish frame.topic frame.payload true
    else removeClient client

end programs

/-- What a goroutine is given to do: a new connection, a line of a client, a message of the process itself. -/
inductive Request where
  | connection (client : ClientId)
  | line (client : ClientId) (frame : Option Frame)
  | message (topic : String) (payload : Payload) (retain : Bool)

/-- What is open in a step: whether a send succeeds, and the order in which a map is visited. -/
structure Answer where
  sends : Bool := true
  clients : List ClientId := []
  frames : List Message := []

/-- The order that was asked for, when it is one of this list. -/
def ordered {α : Type} [DecidableEq α] (order list : List α) : List α := if order.Perm list then order else list

theorem mem_ordered {α : Type} [DecidableEq α] (order list : List α) (one : α) : one ∈ ordered order list ↔ one ∈ list := by
  unfold ordered
  split
  next same => exact same.mem_iff
  next => exact Iff.rfl

/-- A closed connection takes no frame. -/
def serve (broker : Broker) (request : BrokerCall) (answer : Answer) : Broker × BrokerReply request :=
  match request with
  | .accept client => (broker.connect client, ())
  | .publishLocked message retain =>
    (if retain then broker.retain message else broker, ordered answer.clients (broker.receivers message.topic))
  | .subscribeLocked client filter =>
    (broker.addSubscription client filter, ordered answer.frames (broker.retainedFrames filter))
  | .send client message =>
    if answer.sends && client ∈ broker.clients then (broker.deliver client message, true) else (broker, false)
  | .removeClient client => (broker.delete client, ())

def site (n : ℕ) : Site Broker Answer (fun _ : Fin n => Request) BrokerReply Unit where
  serve := serve
  program _
    | .connection client => ask (.accept client)
    | .line client frame => handleFrame client frame
    | .message topic payload retain => publish topic payload retain

abbrev Serving (n : ℕ) := Pool Broker (fun _ : Fin n => Request) BrokerReply Unit

def serving (n : ℕ) : Serving n := ⟨newBroker, fun _ => none⟩

end Txing.Rig.IpcBroker
