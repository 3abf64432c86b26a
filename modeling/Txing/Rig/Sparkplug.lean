import Txing.Rig.Protocol

/-! Sparkplug metrics and payloads (`sparkplug.go`), before they are encoded. -/

namespace Txing.Rig.Sparkplug
open Txing.Rig.Protocol

/-- A double is kept as its bits. -/
inductive MetricValue where
  | int32 (value : Int32)
  | uint64 (value : UInt64)
  | double (bits : UInt64)
  | boolean (value : Bool)
  | string (value : String)
  deriving DecidableEq

structure Metric where
  name : String
  value : MetricValue
  deriving DecidableEq

structure Payload where
  timestamp : UInt64
  metrics : List Metric
  seq : Option UInt64
  deriving DecidableEq

structure DecodedCommand where
  metricName : String
  value : UInt8
  seq : Option UInt64
  timestamp : Option UInt64
  deriving DecidableEq

def validateRedcon (level : UInt8) : Except String Unit :=
  if level < 1 ∨ level > 4 then .error ("redcon must be between 1 and 4, got " ++ toString level.toNat) else .ok ()

def redconMetric (redcon : UInt8) : Metric := ⟨"redcon", .int32 (Int32.ofNat redcon.toNat)⟩

def buildDeviceReportPayload (redcon : UInt8) (seq timestamp : UInt64) (metrics : List Metric) :
    Except String Payload := do
  validateRedcon redcon
  return ⟨timestamp, redconMetric redcon :: metrics, some seq⟩

def buildDeviceDeathPayload (seq timestamp : UInt64) : Payload := ⟨timestamp, [], some seq⟩

def buildNodeBirthPayloadWithMetrics (redcon : UInt8) (bdSeq seq timestamp : UInt64) (metrics : List Metric) :
    Except String Payload := do
  validateRedcon redcon
  return ⟨timestamp, ⟨"bdSeq", .uint64 bdSeq⟩ :: redconMetric redcon :: metrics, some seq⟩

/-- The first metric named `redcon` decides; one of another kind or out of range is no command. -/
def decodeRedconCommand (payload : Payload) : Option DecodedCommand :=
  match payload.metrics.find? (·.name = "redcon") with
  | none => none
  | some metric =>
    let accept (value : Int) : Option DecodedCommand :=
      if value < 1 ∨ value > 4 then none
      else some ⟨metric.name, UInt8.ofNat value.toNat, payload.seq, some payload.timestamp⟩
    match metric.value with
    | .int32 value => accept value.toInt
    | .uint64 value => if value.toNat > 2 ^ 31 - 1 then none else accept value.toNat
    | _ => none

theorem buildDeviceReportPayload_ok {redcon : UInt8} (valid : validRedcon redcon) (seq timestamp : UInt64)
    (metrics : List Metric) :
    buildDeviceReportPayload redcon seq timestamp metrics =
      .ok ⟨timestamp, redconMetric redcon :: metrics, some seq⟩ := by
  have inside : ¬ (redcon < 1 ∨ redcon > 4) := by
    intro outside
    obtain ⟨low, high⟩ := valid
    simp only [UInt8.lt_iff_toNat_lt, UInt8.le_iff_toNat_le, gt_iff_lt] at outside low high
    omega
  simp only [buildDeviceReportPayload, validateRedcon, if_neg inside]
  rfl

theorem redconMetric_injective {one other : UInt8} (same : redconMetric one = redconMetric other) : one = other := by
  have values : Int32.ofNat one.toNat = Int32.ofNat other.toNat := by simpa [redconMetric] using same
  have small := one.toNat_lt
  have smaller := other.toNat_lt
  have numbers := congrArg Int32.toInt values
  rw [Int32.toInt_ofNat_of_lt (by omega), Int32.toInt_ofNat_of_lt (by omega)] at numbers
  exact UInt8.toNat_inj.mp (by omega)

end Txing.Rig.Sparkplug
