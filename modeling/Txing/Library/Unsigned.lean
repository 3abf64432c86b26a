import Mathlib.Order.Bounds.Basic
import Mathlib.Order.WellFounded

/-! Unsigned machine words in the order of their own comparison. -/

namespace Txing.Library.Unsigned

scoped instance linearOrderUInt64 : LinearOrder UInt64 where
  le_refl := UInt64.le_refl
  le_trans _ _ _ := UInt64.le_trans
  le_antisymm _ _ := UInt64.le_antisymm
  le_total := UInt64.le_total
  lt_iff_le_not_ge first second := by
    rw [UInt64.not_le]
    exact ⟨fun less => ⟨UInt64.le_of_lt less, less⟩, fun both => both.2⟩
  toDecidableLE := UInt64.decLe
  toDecidableLT := UInt64.decLt

scoped instance linearOrderUInt8 : LinearOrder UInt8 where
  le_refl := UInt8.le_refl
  le_trans _ _ _ := UInt8.le_trans
  le_antisymm _ _ := UInt8.le_antisymm
  le_total := UInt8.le_total
  lt_iff_le_not_ge first second := by
    rw [UInt8.not_le]
    exact ⟨fun less => ⟨UInt8.le_of_lt less, less⟩, fun both => both.2⟩
  toDecidableLE := UInt8.decLe
  toDecidableLT := UInt8.decLt

theorem exists_isLeast {among : UInt8 → Prop} (some_there : ∃ word, among word) : ∃ word, IsLeast { word | among word } word := by
  obtain ⟨least, holds, bound⟩ := (measure UInt8.toNat).wf.has_min { word | among word } some_there
  exact ⟨least, holds, fun word other => UInt8.le_iff_toNat_le.mpr (Nat.le_of_not_lt (bound word other))⟩

end Txing.Library.Unsigned
