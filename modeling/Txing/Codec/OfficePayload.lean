import Txing.Library.JsBits
import Txing.Library.ProtoWire
import Txing.Library.Scan

/-! Office's Sparkplug codec (`sparkplug-protocol.ts`). A number without a fraction is an integer, a
float or a double its bits. -/

namespace Txing.Codec.OfficePayload
open Txing.Library ProtoWire JsBits

def throws {α : Type} (text : String) : Outcome α := .error (.error text)

/-- `TextEncoder.encode`. -/
def utf8 (text : String) : Bytes := text.toUTF8.data.toList

def int32 : ℤ := 3

/-! `encodeSparkplugPayload` and the command packets. -/

/-- The loop of `appendVarint`; after the first shift at most 25 bits are left. -/
def appendVarintFrom : ℕ → Bytes → ℤ → Bytes
  | 0, bytes, _ => bytes
  | rounds + 1, bytes, remaining =>
    let nextByte := bitAnd remaining 0x7f
    let remaining := shiftRightZero remaining 7
    if remaining > 0 then appendVarintFrom rounds (bytes ++ [UInt8.ofInt (bitOr nextByte 0x80)]) remaining
    else bytes ++ [UInt8.ofInt nextByte]

def appendVarint (bytes : Bytes) (value : ℤ) : Outcome Bytes :=
  if value < 0 then throws ("Sparkplug varint value must be a non-negative integer, got " ++ toString value)
  else .ok (appendVarintFrom 5 bytes value)

def appendKey (bytes : Bytes) (fieldNumber wireType : ℤ) : Outcome Bytes :=
  appendVarint bytes (bitOr (shiftLeft fieldNumber 3) wireType)

def appendBytesField (bytes : Bytes) (fieldNumber : ℤ) (value : Bytes) : Outcome Bytes := do
  let bytes ← appendKey bytes fieldNumber 2
  let bytes ← appendVarint bytes value.length
  return bytes ++ value

def appendStringField (bytes : Bytes) (fieldNumber : ℤ) (value : String) : Outcome Bytes :=
  appendBytesField bytes fieldNumber (utf8 value)

def appendVarintField (bytes : Bytes) (fieldNumber value : ℤ) : Outcome Bytes := do
  let bytes ← appendKey bytes fieldNumber 0
  appendVarint bytes value

def appendFixed32Field (bytes : Bytes) (fieldNumber : ℤ) (bits : UInt32) : Outcome Bytes := do
  let bytes ← appendKey bytes fieldNumber 5
  return bytes ++ littleEndian 4 bits.toNat

def appendFixed64Field (bytes : Bytes) (fieldNumber : ℤ) (bits : UInt64) : Outcome Bytes := do
  let bytes ← appendKey bytes fieldNumber 1
  return bytes ++ littleEndian 8 bits.toNat

structure MetricOptions where
  name : String
  datatype : ℤ
  intValue : Option ℤ := none
  longValue : Option ℤ := none
  floatValue : Option UInt32 := none
  doubleValue : Option UInt64 := none
  boolValue : Option Bool := none
  stringValue : Option String := none
  timestamp : Option ℤ := none

/-- The first value that is present, in the order of the field numbers. -/
def appendValue (bytes : Bytes) (metric : MetricOptions) : Outcome Bytes :=
  match metric.intValue, metric.longValue, metric.floatValue, metric.doubleValue, metric.boolValue, metric.stringValue with
  | some value, _, _, _, _, _ => appendVarintField bytes 10 value
  | none, some value, _, _, _, _ => appendVarintField bytes 11 value
  | none, none, some bits, _, _, _ => appendFixed32Field bytes 12 bits
  | none, none, none, some bits, _, _ => appendFixed64Field bytes 13 bits
  | none, none, none, none, some value, _ => appendVarintField bytes 14 (if value then 1 else 0)
  | none, none, none, none, none, some value => appendStringField bytes 15 value
  | none, none, none, none, none, none => throws ("Sparkplug metric " ++ metric.name ++ " is missing a value")

def encodeSparkplugMetric (metric : MetricOptions) : Outcome Bytes := do
  let bytes ← appendStringField [] 1 metric.name
  let bytes ← match metric.timestamp with
    | some timestamp => appendVarintField bytes 3 timestamp
    | none => .ok bytes
  let bytes ← appendVarintField bytes 4 metric.datatype
  appendValue bytes metric

def encodeSparkplugPayload (timestamp seq : ℤ) (metrics : List MetricOptions) : Outcome Bytes := do
  let bytes ← appendVarintField [] 1 timestamp
  let bytes ← metrics.foldlM (fun bytes metric => do appendBytesField bytes 2 (← encodeSparkplugMetric metric)) bytes
  appendVarintField bytes 3 seq

structure SparkplugPublishPacket where
  topicName : String
  qos : ℕ
  payload : Bytes

def buildSparkplugRedconCommandPacketForTopic (topicName : String) (redcon seq timestamp : ℤ) :
    Outcome SparkplugPublishPacket :=
  if redcon < 1 ∨ redcon > 4 then
    throws ("REDCON command must be an integer between 1 and 4, got " ++ toString redcon)
  else do
    let payload ← encodeSparkplugPayload timestamp seq
      [{ name := "redcon", datatype := int32, intValue := some redcon }]
    return ⟨topicName, 1, payload⟩

/-! `decodeSparkplugPayload` and `decodeSparkplugMetric`. -/

structure Uint8Array where
  buffer : Bytes
  byteOffset : ℕ
  byteLength : ℕ
  inside : byteOffset + byteLength ≤ buffer.length

namespace Uint8Array
variable (bytes : Uint8Array)

def content : Bytes := (bytes.buffer.drop bytes.byteOffset).take bytes.byteLength

/-- `bytes[offset]`; outside the view it is `undefined`, which counts as 0 in `&`. -/
def byteAt (offset : ℤ) : ℤ :=
  if 0 ≤ offset then ((bytes.content.getD offset.toNat 0).toNat : ℤ) else 0

/-- An index of `subarray`: a negative one counts from the end. -/
def relative (index : ℤ) : ℕ :=
  if index < 0 then (index + bytes.byteLength).toNat else min index.toNat bytes.byteLength

theorem relative_le (index : ℤ) : bytes.relative index ≤ bytes.byteLength := by
  unfold relative
  split <;> omega

def subarray (first last : ℤ) : Uint8Array where
  buffer := bytes.buffer
  byteOffset := bytes.byteOffset + bytes.relative first
  byteLength := bytes.relative last - bytes.relative first
  inside := by
    have := bytes.inside
    have := bytes.relative_le first
    have := bytes.relative_le last
    omega

/-- `new DataView(bytes.buffer, bytes.byteOffset + startOffset, size)`, read in little-endian order. -/
def view (startOffset : ℤ) (size : ℕ) : Outcome ℕ :=
  let start := bytes.byteOffset + startOffset
  if start < 0 ∨ start + size > bytes.buffer.length then throws "RangeError"
  else .ok (littleEndianNat ((bytes.buffer.drop start.toNat).take size))

end Uint8Array

/-- The loop of `readVarint`, which gives up before the eleventh byte. -/
def readVarintFrom (bytes : Uint8Array) : ℕ → ℤ → ℤ → ℤ → Outcome (ℤ × ℤ)
  | 0, _, _, _ => .error .unfinished
  | rounds + 1, value, shift, offset =>
    if offset < bytes.byteLength then
      let byte := bytes.byteAt offset
      let offset := offset + 1
      let value := bitOr value (shiftLeft (bitAnd byte 0x7f) shift)
      if bitAnd byte 0x80 = 0 then .ok (value, offset)
      else
        let shift := shift + 7
        if shift > 63 then throws "Sparkplug varint is too large" else readVarintFrom bytes rounds value shift offset
    else throws "Unexpected end of Sparkplug payload while reading varint"

def readVarint (bytes : Uint8Array) (startOffset : ℤ) : Outcome (ℤ × ℤ) := readVarintFrom bytes 10 0 0 startOffset

def readLengthDelimited (bytes : Uint8Array) (startOffset : ℤ) : Outcome (Uint8Array × ℤ) := do
  let (length, nextOffset) ← readVarint bytes startOffset
  let endOffset := nextOffset + length
  if endOffset > bytes.byteLength then throws "Unexpected end of Sparkplug payload while reading bytes field"
  else return (bytes.subarray nextOffset endOffset, endOffset)

def readFixed (text : String) (size : ℕ) (bytes : Uint8Array) (startOffset : ℤ) : Outcome (ℕ × ℤ) := do
  let endOffset := startOffset + size
  if endOffset > bytes.byteLength then throws text
  else
    let value ← bytes.view startOffset size
    return (value, endOffset)

def readFixed32 : Uint8Array → ℤ → Outcome (ℕ × ℤ) :=
  readFixed "Unexpected end of Sparkplug payload while reading fixed32 field" 4

def readFixed64 : Uint8Array → ℤ → Outcome (ℕ × ℤ) :=
  readFixed "Unexpected end of Sparkplug payload while reading fixed64 field" 8

def skipField (bytes : Uint8Array) (startOffset wireType : ℤ) : Outcome ℤ :=
  if wireType = 0 then do
    let (_, nextOffset) ← readVarint bytes startOffset
    return nextOffset
  else if wireType = 1 then .ok (startOffset + 8)
  else if wireType = 2 then do
    let (_, nextOffset) ← readLengthDelimited bytes startOffset
    return nextOffset
  else if wireType = 5 then .ok (startOffset + 4)
  else throws ("Unsupported Sparkplug wire type " ++ toString wireType)

structure Cursor (Acc : Type) where
  offset : ℤ
  acc : Acc

/-- `const field = read(bytes, offset)`, an assignment from the field and `offset = field.nextOffset`. -/
def store {Value Acc : Type} (read : Outcome (Value × ℤ)) (take : Value → Acc) : Outcome (Cursor Acc) := do
  let (value, nextOffset) ← read
  return ⟨nextOffset, take value⟩

def skip {Acc : Type} (bytes : Uint8Array) (offset wireType : ℤ) (acc : Acc) : Outcome (Cursor Acc) := do
  let offset ← skipField bytes offset wireType
  return ⟨offset, acc⟩

/-- One time round the loop of a decoder: the key, and what the decoder does with such a field. -/
def fieldBody {Acc : Type} (bytes : Uint8Array) (switch : Acc → ℤ → ℤ → ℤ → Outcome (Cursor Acc)) (cursor : Cursor Acc) :
    Outcome (Cursor Acc) := do
  let (key, offset) ← readVarint bytes cursor.offset
  switch cursor.acc (shiftRight key 3) (bitAnd key 7) offset

def decodeFields {Acc : Type} (fuel : ℕ) (bytes : Uint8Array) (switch : Acc → ℤ → ℤ → ℤ → Outcome (Cursor Acc))
    (start : Acc) : Outcome Acc := do
  let cursor ← Scan.loop Cursor.offset bytes.byteLength (fieldBody bytes switch) fuel ⟨0, start⟩
  return cursor.acc

structure SparkplugMetric where
  name : String := ""
  datatype : ℤ := int32
  intValue : Option ℤ := none
  longValue : Option ℤ := none
  floatValue : Option ℕ := none
  doubleValue : Option ℕ := none
  boolValue : Option Bool := none
  stringValue : Option String := none
  timestamp : Option ℤ := none
  deriving DecidableEq

structure DecodedSparkplugPayload where
  timestamp : Option ℤ := none
  seq : Option ℤ := none
  metrics : List SparkplugMetric := []
  deriving DecidableEq

/-- `textDecoder.decode`: a byte order mark in front is left out; `malformed` is what comes of bytes
that are not UTF-8. -/
def decodeText (malformed : Bytes → String) (bytes : Bytes) : String :=
  match String.fromUTF8? ⟨bytes.toArray⟩ with
  | none => malformed bytes
  | some text => if text.toList.head? = some '\uFEFF' then String.ofList text.toList.tail else text

section decoders
variable (malformed : Bytes → String)

def metricSwitch (bytes : Uint8Array) (m : SparkplugMetric) (fieldNumber wireType offset : ℤ) :
    Outcome (Cursor SparkplugMetric) :=
  if fieldNumber = 1 ∧ wireType = 2 then
    store (readLengthDelimited bytes offset) fun value => { m with name := decodeText malformed value.content }
  else if fieldNumber = 3 ∧ wireType = 0 then store (readVarint bytes offset) fun value => { m with timestamp := some value }
  else if fieldNumber = 4 ∧ wireType = 0 then store (readVarint bytes offset) fun value => { m with datatype := value }
  else if fieldNumber = 10 ∧ wireType = 0 then store (readVarint bytes offset) fun value => { m with intValue := some value }
  else if fieldNumber = 11 ∧ wireType = 0 then store (readVarint bytes offset) fun value => { m with longValue := some value }
  else if fieldNumber = 12 ∧ wireType = 5 then
    store (readFixed32 bytes offset) fun bits => { m with floatValue := some bits }
  else if fieldNumber = 13 ∧ wireType = 1 then
    store (readFixed64 bytes offset) fun bits => { m with doubleValue := some bits }
  else if fieldNumber = 12 ∧ wireType = 0 then
    store (readVarint bytes offset) fun value => { m with boolValue := some (value != 0) }
  else if fieldNumber = 13 ∧ wireType = 2 then
    store (readLengthDelimited bytes offset) fun value => { m with stringValue := some (decodeText malformed value.content) }
  else if fieldNumber = 14 ∧ wireType = 0 then
    store (readVarint bytes offset) fun value => { m with boolValue := some (value != 0) }
  else if fieldNumber = 15 ∧ wireType = 2 then
    store (readLengthDelimited bytes offset) fun value => { m with stringValue := some (decodeText malformed value.content) }
  else skip bytes offset wireType m

def decodeSparkplugMetric (fuel : ℕ) (bytes : Uint8Array) : Outcome SparkplugMetric :=
  decodeFields fuel bytes (metricSwitch malformed bytes) {}

def payloadSwitch (fuel : ℕ) (payload : Uint8Array) (p : DecodedSparkplugPayload) (fieldNumber wireType offset : ℤ) :
    Outcome (Cursor DecodedSparkplugPayload) :=
  if fieldNumber = 1 ∧ wireType = 0 then store (readVarint payload offset) fun value => { p with timestamp := some value }
  else if fieldNumber = 2 ∧ wireType = 2 then do
    let (value, nextOffset) ← readLengthDelimited payload offset
    let metric ← decodeSparkplugMetric malformed fuel value
    return ⟨nextOffset, { p with metrics := p.metrics ++ [metric] }⟩
  else if fieldNumber = 3 ∧ wireType = 0 then store (readVarint payload offset) fun value => { p with seq := some value }
  else skip payload offset wireType p

/-- No loop takes more than `fuel` turns, or the decoder is `unfinished`. -/
def decodeSparkplugPayload (fuel : ℕ) (payload : Uint8Array) : Outcome DecodedSparkplugPayload :=
  decodeFields fuel payload (payloadSwitch malformed fuel payload) {}

end decoders

end Txing.Codec.OfficePayload
