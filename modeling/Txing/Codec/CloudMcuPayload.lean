import Txing.Codec.GoReader

/-! How the cloud MCU reads a REDCON command (`cloudmcu.go`). -/

namespace Txing.Codec.CloudMcuPayload
open Txing.Library ProtoWire GoReader

def texts : Texts where
  varintEnds := "Unexpected end of Sparkplug payload"
  varintTooLarge := "Sparkplug varint is too large"
  bytesEnds := "Unexpected end of Sparkplug payload"
  skipFixed64Ends := "Unexpected end of Sparkplug payload"
  skipFixed32Ends := "Unexpected end of Sparkplug payload"
  unsupportedWire := "Unsupported Sparkplug wire type "

def redconName : Bytes := [0x72, 0x65, 0x64, 0x63, 0x6f, 0x6e]

structure MetricFields where
  name : Bytes := []
  value : Option Int32 := none

def metricSwitch (data : Slice) (m : MetricFields) (field wire : UInt64) (next : ℕ) : Outcome (Cursor MetricFields) :=
  if field = 1 ∧ wire = 2 then store (readLengthDelimited texts data next) fun raw => { m with name := raw.bytes }
  else if field = 10 ∧ wire = 0 then
    store (readVarint texts data next) fun raw => { m with value := some raw.toUInt32.toInt32 }
  else skip texts data next wire m

/-- A level only from a metric named `redcon` with a value from 1 to 4. -/
def MetricFields.redcon (m : MetricFields) : Option UInt8 :=
  match m.value with
  | none => none
  | some value =>
    if m.name ≠ redconName ∨ value.toInt < 1 ∨ value.toInt > 4 then none else some (UInt8.ofNat value.toInt.toNat)

def decodeRedconMetric (data : Slice) : Outcome (Option UInt8) := do
  let m ← decodeFields texts data (metricSwitch data) {}
  return m.redcon

structure CommandFields where
  seq : UInt64 := 0
  redcon : Option UInt8 := none

/-- Once a level is found, later metrics are stepped over unread. -/
def commandSwitch (payload : Slice) (p : CommandFields) (field wire : UInt64) (next : ℕ) : Outcome (Cursor CommandFields) :=
  if field = 2 ∧ wire = 2 then
    nested (readLengthDelimited texts payload next)
      (fun metricBytes => if p.redcon.isNone then decodeRedconMetric metricBytes else .ok p.redcon)
      fun redcon => { p with redcon := redcon }
  else if field = 3 ∧ wire = 0 then store (readVarint texts payload next) fun value => { p with seq := value }
  else skip texts payload next wire p

/-- The level and the sequence of a command; `none` when the payload holds none. -/
def decodeRedconCommand (payload : Slice) : Outcome (Option (UInt8 × UInt64)) := do
  let p ← decodeFields texts payload (commandSwitch payload) {}
  return p.redcon.map fun redcon => (redcon, p.seq)

end Txing.Codec.CloudMcuPayload
