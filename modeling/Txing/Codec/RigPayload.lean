import Txing.Codec.GoReader
import Txing.Rig.Sparkplug

/-! The rig's Sparkplug codec (`sparkplug.go`). A double is its bits. -/

namespace Txing.Codec.RigPayload
open Txing.Library ProtoWire GoReader

inductive MetricValue where
  | int32 (value : Int32)
  | uint64 (value : UInt64)
  | double (bits : UInt64)
  | boolean (value : Bool)
  | string (value : Slice)
  deriving DecidableEq

structure Metric where
  name : Slice
  value : MetricValue
  deriving DecidableEq

structure Payload where
  timestamp : UInt64
  metrics : List Metric
  seq : Option UInt64
  deriving DecidableEq

def dataTypeInt32 : UInt64 := 3
def dataTypeUInt64 : UInt64 := 8
def dataTypeDouble : UInt64 := 10
def dataTypeBoolean : UInt64 := 11
def dataTypeString : UInt64 := 12

/-! `EncodePayload` and `EncodeMetric`. -/

/-- The loop of `appendVarint`; a word is used up after ten rounds. -/
def appendVarintFrom : ℕ → Bytes → UInt64 → Bytes
  | 0, out, _ => out
  | rounds + 1, out, value =>
    let next := (value &&& 0x7f).toUInt8
    let value := value >>> 7
    if value ≠ 0 then appendVarintFrom rounds (out ++ [next ||| 0x80]) value else out ++ [next]

def appendVarint (out : Bytes) (value : UInt64) : Bytes := appendVarintFrom 10 out value

def appendKey (out : Bytes) (fieldNumber wireType : UInt64) : Bytes := appendVarint out ((fieldNumber <<< 3) ||| wireType)

def appendVarintField (out : Bytes) (fieldNumber value : UInt64) : Bytes :=
  appendVarint (appendKey out fieldNumber 0) value

def appendBytesField (out : Bytes) (fieldNumber : UInt64) (value : Bytes) : Bytes :=
  appendVarint (appendKey out fieldNumber 2) (UInt64.ofNat value.length) ++ value

def appendStringField (out : Bytes) (fieldNumber : UInt64) (value : Slice) : Bytes :=
  appendBytesField out fieldNumber value.bytes

/-- `binary.LittleEndian.PutUint64` of the bits. -/
def appendFixed64Field (out : Bytes) (fieldNumber bits : UInt64) : Bytes :=
  appendKey out fieldNumber 1 ++ littleEndian 8 bits.toNat

def encodeMetric (metric : Metric) : Bytes :=
  let out := appendStringField [] 1 metric.name
  match metric.value with
  | .int32 value => appendVarintField (appendVarintField out 4 dataTypeInt32) 10 value.toInt64.toUInt64
  | .uint64 value => appendVarintField (appendVarintField out 4 dataTypeUInt64) 11 value
  | .double bits => appendFixed64Field (appendVarintField out 4 dataTypeDouble) 13 bits
  | .boolean value => appendVarintField (appendVarintField out 4 dataTypeBoolean) 14 (if value then 1 else 0)
  | .string value => appendStringField (appendVarintField out 4 dataTypeString) 15 value

def encodePayload (payload : Payload) : Bytes :=
  let out := appendVarintField [] 1 payload.timestamp
  let out := payload.metrics.foldl (fun out metric => appendBytesField out 2 (encodeMetric metric)) out
  match payload.seq with
  | none => out
  | some seq => appendVarintField out 3 seq

/-! `DecodePayload` and `DecodeMetric`. -/

def texts : Texts where
  varintEnds := "unexpected end of buffer while reading varint"
  varintTooLarge := "varint is too large"
  bytesEnds := "unexpected end of buffer while reading bytes field"
  skipFixed64Ends := "unexpected end of buffer while skipping fixed64 field"
  skipFixed32Ends := "unexpected end of buffer while skipping fixed32 field"
  unsupportedWire := "unsupported wire type "

def readFixed64 (data : Slice) (offset : ℕ) : Outcome (ℕ × ℕ) :=
  readFixed data "unexpected end of buffer while reading fixed64 field" 8 offset

structure MetricFields where
  name : Slice := Slice.empty
  dataType : UInt64 := 0
  intValue : Option Int32 := none
  longValue : Option UInt64 := none
  doubleValue : Option UInt64 := none
  boolValue : Option Bool := none
  stringValue : Option Slice := none

def metricSwitch (data : Slice) (m : MetricFields) (fieldNumber wireType : UInt64) (next : ℕ) :
    Outcome (Cursor MetricFields) :=
  if fieldNumber = 1 ∧ wireType = 2 then
    store (readLengthDelimited texts data next) fun value => { m with name := value }
  else if fieldNumber = 4 ∧ wireType = 0 then store (readVarint texts data next) fun value => { m with dataType := value }
  else if fieldNumber = 10 ∧ wireType = 0 then
    store (readVarint texts data next) fun value => { m with intValue := some value.toUInt32.toInt32 }
  else if fieldNumber = 11 ∧ wireType = 0 then
    store (readVarint texts data next) fun value => { m with longValue := some value }
  else if fieldNumber = 13 ∧ wireType = 1 then
    store (readFixed64 data next) fun bits => { m with doubleValue := some (UInt64.ofNat bits) }
  else if fieldNumber = 14 ∧ wireType = 0 then
    store (readVarint texts data next) fun value => { m with boolValue := some (value != 0) }
  else if fieldNumber = 15 ∧ wireType = 2 then
    store (readLengthDelimited texts data next) fun value => { m with stringValue := some value }
  else skip texts data next wireType m

def required {Value : Type} (value : Option Value) (text : String) (make : Value → MetricValue) : Outcome MetricValue :=
  match value with
  | none => fail text
  | some value => .ok (make value)

def MetricFields.value (m : MetricFields) : Outcome MetricValue :=
  if m.dataType = dataTypeInt32 then required m.intValue "Int32 metric missing value" .int32
  else if m.dataType = dataTypeUInt64 then required m.longValue "UInt64 metric missing value" .uint64
  else if m.dataType = dataTypeDouble then required m.doubleValue "Double metric missing value" .double
  else if m.dataType = dataTypeBoolean then required m.boolValue "Boolean metric missing value" .boolean
  else if m.dataType = dataTypeString then required m.stringValue "String metric missing value" .string
  else fail ("unsupported Sparkplug metric datatype " ++ toString m.dataType.toNat)

def decodeMetric (data : Slice) : Outcome Metric := do
  let m ← decodeFields texts data (metricSwitch data) {}
  let value ← m.value
  return ⟨m.name, value⟩

def payloadSwitch (data : Slice) (p : Payload) (fieldNumber wireType : UInt64) (next : ℕ) : Outcome (Cursor Payload) :=
  if fieldNumber = 1 ∧ wireType = 0 then store (readVarint texts data next) fun value => { p with timestamp := value }
  else if fieldNumber = 2 ∧ wireType = 2 then
    nested (readLengthDelimited texts data next) decodeMetric fun metric => { p with metrics := p.metrics ++ [metric] }
  else if fieldNumber = 3 ∧ wireType = 0 then store (readVarint texts data next) fun value => { p with seq := some value }
  else skip texts data next wireType p

def decodePayload (data : Slice) : Outcome Payload := decodeFields texts data (payloadSwitch data) ⟨0, [], none⟩

structure DecodedCommand where
  metricName : Slice
  value : UInt8
  seq : Option UInt64
  timestamp : Option UInt64
  deriving DecidableEq

def redconName : Slice := ⟨[0x72, 0x65, 0x64, 0x63, 0x6f, 0x6e], by decide⟩

def redconCommand (payload : Payload) : Option DecodedCommand :=
  match payload.metrics.find? (·.name = redconName) with
  | none => none
  | some metric =>
    let accept (value : ℤ) : Option DecodedCommand :=
      if value < 1 ∨ value > 4 then none
      else some ⟨metric.name, UInt8.ofNat value.toNat, payload.seq, some payload.timestamp⟩
    match metric.value with
    | .int32 value => accept value.toInt
    | .uint64 value => if value.toNat > 2 ^ 31 - 1 then none else accept value.toNat
    | _ => none

def decodeRedconCommand (data : Slice) : Outcome (Option DecodedCommand) := do
  let payload ← decodePayload data
  return redconCommand payload

end Txing.Codec.RigPayload
