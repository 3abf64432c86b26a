import Txing.Board.MavlinkFrame
import Txing.Library.Custody

/-! The flight client (`mavlink_flight_client.go`): callers put frames and safe-state requests
into two bounded channels, one loop empties both towards the flight service, and its `select`
takes either channel. The stream to the service and the safe-state call are separate, so what
is sent on one can arrive before or after the other. -/

namespace Txing.Board.FlightClient
open Txing.Library MavlinkFrame

/-- `waits` says that an `EnterSafeState` caller waits for the outcome. -/
structure SafeStateRequest where
  reason : String
  requestDisarm : Bool
  requestHold : Bool
  waits : Bool
  deriving DecidableEq, Repr

/-- An accepted item with its place in the order in which both channels accepted theirs. -/
structure Accepted (α : Type) where
  item : α
  order : ℕ
  deriving DecidableEq, Repr

/-- Where the loop is: without a stream, in its `select`, inside `enterSafeState`, or on its way out. -/
inductive Phase where
  | down
  | serving
  | executing
  | ending
  deriving DecidableEq, Repr

def outboundCapacity : ℕ := 64
def safeCapacity : ℕ := 8

/-- `sending` are `SendFrame` calls that saw the client connected and have not put their frame
yet; `wire` is sent and not yet received; `calls` are safe-state calls the service has not run. -/
structure MAVLinkFlightClient where
  connected : Bool
  phase : Phase
  sending : List Bytes
  outbound : List (Accepted Bytes)
  safe : List (Accepted SafeStateRequest)
  wire : List (Accepted Bytes)
  calls : List (Accepted SafeStateRequest)
  accepted : ℕ
  deriving DecidableEq, Repr

def startMAVLinkFlightClient : MAVLinkFlightClient := ⟨false, .down, [], [], [], [], [], 0⟩

inductive FlightEvent where
  | sendFrame (frame : Bytes)
  | putFrame (index : ℕ)
  | requestSafeState (reason : String) (requestDisarm : Bool)
  | requestNeutral (reason : String)
  | enterSafeState (reason : String) (requestDisarm : Bool)
  | streamOpened
  | takeFrame (sent : Bool)
  | takeSafe
  | safeReturned
  | serveEnded
  | disconnected
  | frameReceived (index : ℕ)
  | frameLost (index : ℕ)
  | callRun (index : ℕ)
  | callLost (index : ℕ)
  deriving DecidableEq, Repr

inductive FlightNote where
  | refused (message : String)
  | accepted (frame : Accepted Bytes)
  | queued (request : Accepted SafeStateRequest)
  | started (request : Accepted SafeStateRequest)
  | executed (request : Accepted SafeStateRequest)
  | delivered (frame : Accepted Bytes)
  deriving DecidableEq, Repr

/-- A `select` with a default: the request is dropped when the channel is full. -/
def offerSafe (c : MAVLinkFlightClient) (request : SafeStateRequest) : MAVLinkFlightClient × List FlightNote :=
  if c.safe.length < safeCapacity then
    ({ c with safe := c.safe ++ [⟨request, c.accepted⟩], accepted := c.accepted + 1 },
      [.queued ⟨request, c.accepted⟩])
  else (c, [])

def offerFrame (c : MAVLinkFlightClient) (frame : Bytes) : MAVLinkFlightClient × List FlightNote :=
  if c.outbound.length < outboundCapacity then
    ({ c with outbound := c.outbound ++ [⟨frame, c.accepted⟩], accepted := c.accepted + 1 },
      [.accepted ⟨frame, c.accepted⟩])
  else (c, [.refused "MAVLink local transport outbound queue is full"])

/-- One step of a caller, of the loop, or of the connection; a step that is not enabled does
nothing. A full channel keeps an `EnterSafeState` caller waiting, which is no step. -/
def flight : Reaction MAVLinkFlightClient FlightEvent FlightNote := fun c event =>
  match event with
  | .sendFrame frame =>
    if c.connected then ({ c with sending := c.sending ++ [frame] }, [])
    else (c, [.refused "MAVLink local transport is unavailable"])
  | .putFrame index =>
    match c.sending[index]? with
    | some frame => offerFrame { c with sending := c.sending.eraseIdx index } frame
    | none => (c, [])
  | .requestSafeState reason requestDisarm => offerSafe c ⟨reason, requestDisarm, true, false⟩
  | .requestNeutral reason => offerSafe c ⟨reason, false, false, false⟩
  | .enterSafeState reason requestDisarm => offerSafe c ⟨reason, requestDisarm, true, true⟩
  | .streamOpened => if c.phase = .down then ({ c with connected := true, phase := .serving }, []) else (c, [])
  | .takeFrame sent =>
    match c.phase, c.outbound with
    | .serving, frame :: rest =>
      if sent then ({ c with outbound := rest, wire := c.wire ++ [frame] }, [])
      else ({ c with outbound := rest, phase := .ending }, [])
    | _, _ => (c, [])
  | .takeSafe =>
    match c.phase, c.safe with
    | .serving, request :: rest =>
      ({ c with safe := rest, calls := c.calls ++ [request], phase := .executing }, [.started request])
    | _, _ => (c, [])
  | .safeReturned => if c.phase = .executing then ({ c with phase := .serving }, []) else (c, [])
  | .serveEnded => if c.phase = .serving then ({ c with phase := .ending }, []) else (c, [])
  | .disconnected => if c.phase = .ending then ({ c with connected := false, phase := .down }, []) else (c, [])
  | .frameReceived index =>
    match c.wire[index]? with
    | some frame => ({ c with wire := c.wire.eraseIdx index }, [.delivered frame])
    | none => (c, [])
  | .frameLost index => ({ c with wire := c.wire.eraseIdx index }, [])
  | .callRun index =>
    match c.calls[index]? with
    | some request => ({ c with calls := c.calls.eraseIdx index }, [.executed request])
    | none => (c, [])
  | .callLost index => ({ c with calls := c.calls.eraseIdx index }, [])

end Txing.Board.FlightClient
