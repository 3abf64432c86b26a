import Txing.Codec.GoReader

/-! The witness's Sparkplug decoder (`witness.go`). A Go string is its bytes; a float is its bits. -/

namespace Txing.Codec.WitnessPayload
open Txing.Library ProtoWire GoReader

def sparkplugNamespace : String := "spBv1.0"

def deviceMessageTypes : List String := ["DBIRTH", "DDATA", "DDEATH"]
def nodeMessageTypes : List String := ["NBIRTH", "NDATA", "NDEATH"]

inductive MetricValue where
  | bool (value : Bool)
  | int64 (value : Int64)
  | float32 (bits : UInt32)
  | float64 (bits : UInt64)
  | string (value : Bytes)
  deriving DecidableEq

/-- `map[string]any` as the witness builds it: metric values and further maps. -/
inductive MetricTree where
  | value (value : MetricValue)
  | map (entries : List (Bytes × MetricTree))

structure SparkplugMessage where
  groupID : String
  messageType : String
  edgeNodeID : String
  deviceID : Option String
  seq : Option Int64
  sparkplugTimestamp : Option Int64
  metrics : List (Bytes × MetricTree)

def texts : Texts where
  varintEnds := "Unexpected end of Sparkplug payload"
  varintTooLarge := "Sparkplug varint is too large"
  bytesEnds := "Unexpected end of Sparkplug payload"
  skipFixed64Ends := "Unexpected end of Sparkplug payload"
  skipFixed32Ends := "Unexpected end of Sparkplug payload"
  unsupportedWire := "Unsupported Sparkplug wire type "

structure MetricFields where
  name : Bytes := []
  intValue : Option Int64 := none
  longValue : Option Int64 := none
  floatValue : Option UInt32 := none
  doubleValue : Option UInt64 := none
  boolValue : Option Bool := none
  stringValue : Option Bytes := none

def metricSwitch (data : Slice) (m : MetricFields) (field wire : UInt64) (next : ℕ) : Outcome (Cursor MetricFields) :=
  if field = 1 ∧ wire = 2 then store (readLengthDelimited texts data next) fun raw => { m with name := raw.bytes }
  else if field = 10 ∧ wire = 0 then
    store (readVarint texts data next) fun value => { m with intValue := some value.toInt64 }
  else if field = 11 ∧ wire = 0 then
    store (readVarint texts data next) fun value => { m with longValue := some value.toInt64 }
  else if field = 12 ∧ wire = 5 then
    store (readFixed data texts.bytesEnds 4 next) fun bits => { m with floatValue := some (UInt32.ofNat bits) }
  else if field = 13 ∧ wire = 1 then
    store (readFixed data texts.bytesEnds 8 next) fun bits => { m with doubleValue := some (UInt64.ofNat bits) }
  else if field = 12 ∧ wire = 0 then
    store (readVarint texts data next) fun value => { m with boolValue := some (value != 0) }
  else if field = 13 ∧ wire = 2 then
    store (readLengthDelimited texts data next) fun raw => { m with stringValue := some raw.bytes }
  else if field = 14 ∧ wire = 0 then
    store (readVarint texts data next) fun value => { m with boolValue := some (value != 0) }
  else if field = 15 ∧ wire = 2 then
    store (readLengthDelimited texts data next) fun raw => { m with stringValue := some raw.bytes }
  else skip texts data next wire m

/-- The first value present, in this order. -/
def MetricFields.value (m : MetricFields) : Option MetricValue :=
  m.boolValue.map .bool <|> m.intValue.map .int64 <|> m.longValue.map .int64 <|> m.floatValue.map .float32 <|>
    m.doubleValue.map .float64 <|> m.stringValue.map .string

/-- The result is `none` for a metric without a name or a value. -/
def decodeMetric (data : Slice) : Outcome (Option (Bytes × MetricValue)) := do
  let m ← decodeFields texts data (metricSwitch data) {}
  return if m.name = [] then none else m.value.map fun value => (m.name, value)

def mapEntry (entries : List (Bytes × MetricTree)) (key : Bytes) : Option MetricTree := entries.lookup key

def assignEntry (entries : List (Bytes × MetricTree)) (key : Bytes) (tree : MetricTree) : List (Bytes × MetricTree) :=
  (key, tree) :: entries.filter fun entry => entry.1 ≠ key

/-- The walk down the path; a child that is no map is replaced by one. -/
def assignParts (root : List (Bytes × MetricTree)) (value : MetricValue) : List Bytes → List (Bytes × MetricTree)
  | [] => root
  | [last] => assignEntry root last (.value value)
  | part :: rest =>
    let child := match mapEntry root part with
      | some (.map entries) => entries
      | _ => []
    assignEntry root part (.map (assignParts child value rest))

/-- `strings.ReplaceAll(metricName, ".", "/")`, then the non-empty parts between slashes. -/
def metricPath (metricName : Bytes) : List Bytes :=
  ((metricName.map fun byte => if byte = 0x2e then 0x2f else byte).splitOn 0x2f).filter (· ≠ [])

def assignMetricPath (root : List (Bytes × MetricTree)) (metricName : Bytes) (value : MetricValue) :
    List (Bytes × MetricTree) := assignParts root value (metricPath metricName)

def parseTopic (topic : String) : Option (String × String × String × Option String) :=
  let parts := (topic.toList.splitOn '/').map String.ofList
  if parts.any (· = "") then none
  else match parts with
    | [namespaceID, groupID, messageType, edgeNodeID] =>
      if namespaceID ≠ sparkplugNamespace ∨ messageType ∉ nodeMessageTypes then none
      else some (groupID, messageType, edgeNodeID, none)
    | [namespaceID, groupID, messageType, edgeNodeID, deviceID] =>
      if namespaceID ≠ sparkplugNamespace ∨ messageType ∉ deviceMessageTypes then none
      else some (groupID, messageType, edgeNodeID, some deviceID)
    | _ => none

structure PayloadFields where
  sparkplugTimestamp : Option Int64 := none
  seq : Option Int64 := none
  metrics : List (Bytes × MetricTree) := []

def payloadSwitch (payload : Slice) (p : PayloadFields) (field wire : UInt64) (next : ℕ) : Outcome (Cursor PayloadFields) :=
  if field = 1 ∧ wire = 0 then
    store (readVarint texts payload next) fun value => { p with sparkplugTimestamp := some value.toInt64 }
  else if field = 2 ∧ wire = 2 then
    nested (readLengthDelimited texts payload next) decodeMetric fun
      | none => p
      | some (name, value) => { p with metrics := assignMetricPath p.metrics name value }
  else if field = 3 ∧ wire = 0 then
    store (readVarint texts payload next) fun value => { p with seq := some value.toInt64 }
  else skip texts payload next wire p

/-- `DecodeSparkplugPayload` once the base64 text is decoded; any error makes it return `nil, false`. -/
def decodeSparkplugPayload (mqttTopic : String) (payload : Slice) : Outcome (Option SparkplugMessage) :=
  match parseTopic mqttTopic with
  | none => .ok none
  | some (groupID, messageType, edgeNodeID, deviceID) =>
    match decodeFields texts payload (payloadSwitch payload) {} with
    | .error (.error _) => .ok none
    | .error stop => .error stop
    | .ok p => .ok (some ⟨groupID, messageType, edgeNodeID, deviceID, p.seq, p.sparkplugTimestamp, p.metrics⟩)

end Txing.Codec.WitnessPayload
