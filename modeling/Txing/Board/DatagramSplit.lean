import Txing.Board.MavlinkFrame

/-! How the board cuts a datagram into MAVLink 2 frames (`splitMAVLinkV2Datagram`). A frame says its own length, so there is
one way to cut. -/

namespace Txing.Board.MavlinkFrame

def announcedLength (bytes : Bytes) : ℕ :=
  (bytes.getD 1 0).toNat + 12 + if bytes.getD 2 0 &&& mavlinkV2SignedIncompatibilityFlag ≠ 0 then 13 else 0

theorem announcedLength_ge (bytes : Bytes) : 12 ≤ announcedLength bytes := by
  unfold announcedLength
  omega

def splitMAVLinkV2Datagram (datagram : Bytes) : List Bytes :=
  if datagram.length < 12 then []
  else if datagram.getD 0 0 ≠ mavlinkV2Magic then []
  else if datagram.length < announcedLength datagram then []
  else datagram.take (announcedLength datagram) :: splitMAVLinkV2Datagram (datagram.drop (announcedLength datagram))
termination_by datagram.length
decreasing_by
  have long := announcedLength_ge datagram
  rw [List.length_drop]
  omega

section frames
variable {frame tail : Bytes}

theorem validate_iff : validateMAVLinkV2TunnelFrame frame = .ok () ↔
    12 ≤ frame.length ∧ frame.getD 0 0 = mavlinkV2Magic ∧ frame.length = announcedLength frame := by
  unfold validateMAVLinkV2TunnelFrame announcedLength
  split <;> grind

/-- Where a frame begins is read from its first bytes, whatever follows. -/
theorem announcedLength_append (long : 12 ≤ frame.length) : announcedLength (frame ++ tail) = announcedLength frame := by
  unfold announcedLength
  rw [List.getD_append _ _ _ _ (by omega), List.getD_append _ _ _ _ (by omega)]

theorem split_frame (valid : validateMAVLinkV2TunnelFrame frame = .ok ()) (tail : Bytes) :
    splitMAVLinkV2Datagram (frame ++ tail) = frame :: splitMAVLinkV2Datagram tail := by
  obtain ⟨long, magic, length⟩ := validate_iff.mp valid
  have same : announcedLength (frame ++ tail) = frame.length := (announcedLength_append long).trans length.symm
  have first : (frame ++ tail).getD 0 0 = mavlinkV2Magic := (List.getD_append _ _ _ _ (by omega)).trans magic
  have whole : (frame ++ tail).length = frame.length + tail.length := List.length_append
  rw [splitMAVLinkV2Datagram, if_neg (by omega), if_neg (not_not_intro first), if_neg (by omega), same, List.take_left,
    List.drop_left]

theorem validate_take (magic : ¬ frame.getD 0 0 ≠ mavlinkV2Magic) (fits : ¬ frame.length < announcedLength frame) :
    validateMAVLinkV2TunnelFrame (frame.take (announcedLength frame)) = .ok () := by
  have size : (frame.take (announcedLength frame)).length = announcedLength frame := by
    rw [List.length_take]
    omega
  have enough := announcedLength_ge frame
  have split : frame.take (announcedLength frame) ++ frame.drop (announcedLength frame) = frame := List.take_append_drop ..
  apply validate_iff.mpr
  refine ⟨by omega, ?_, ?_⟩
  · rw [← List.getD_append _ (frame.drop (announcedLength frame)) _ _ (by omega), split]
    exact not_not.mp magic
  · have same : announcedLength (frame.take (announcedLength frame) ++ frame.drop (announcedLength frame)) =
      announcedLength (frame.take (announcedLength frame)) := announcedLength_append (by omega)
    rw [size, ← same, split]

end frames

def Exhausted (rest : Bytes) : Prop := ∀ frame tail, rest = frame ++ tail → validateMAVLinkV2TunnelFrame frame ≠ .ok ()

theorem exhausted_of_split {rest : Bytes} (stops : splitMAVLinkV2Datagram rest = []) : Exhausted rest := by
  rintro frame tail rfl valid
  rw [split_frame valid] at stops
  cases stops

theorem split_spec (datagram : Bytes) :
    (∀ frame ∈ splitMAVLinkV2Datagram datagram, validateMAVLinkV2TunnelFrame frame = .ok ()) ∧
      ∃ rest, (splitMAVLinkV2Datagram datagram).flatten ++ rest = datagram ∧ Exhausted rest := by
  fun_induction splitMAVLinkV2Datagram datagram with
  | case1 datagram short => exact ⟨nofun, datagram, rfl, exhausted_of_split (by rw [splitMAVLinkV2Datagram, if_pos short])⟩
  | case2 datagram long other =>
    exact ⟨nofun, datagram, rfl, exhausted_of_split (by rw [splitMAVLinkV2Datagram, if_neg long, if_pos other])⟩
  | case3 datagram long magic cut =>
    refine ⟨nofun, datagram, rfl, exhausted_of_split ?_⟩
    rw [splitMAVLinkV2Datagram, if_neg long, if_neg magic, if_pos cut]
  | case4 datagram long magic fits ih =>
    obtain ⟨valid, rest, joined, exhausted⟩ := ih
    refine ⟨List.forall_mem_cons.mpr ⟨validate_take magic fits, valid⟩, rest, ?_, exhausted⟩
    rw [List.flatten_cons, List.append_assoc, joined, List.take_append_drop]

/-- The frames are valid, they make up the datagram up to a rest that begins with no frame, and frames that were joined are
cut apart again. -/
theorem split_exact (datagram : Bytes) :
    (∀ frame ∈ splitMAVLinkV2Datagram datagram, validateMAVLinkV2TunnelFrame frame = .ok ()) ∧
      (∃ rest, (splitMAVLinkV2Datagram datagram).flatten ++ rest = datagram ∧
        ∀ frame tail, rest = frame ++ tail → validateMAVLinkV2TunnelFrame frame ≠ .ok ()) ∧
      ∀ frames : List Bytes, (∀ frame ∈ frames, validateMAVLinkV2TunnelFrame frame = .ok ()) →
        splitMAVLinkV2Datagram frames.flatten = frames := by
  refine ⟨(split_spec datagram).1, (split_spec datagram).2, ?_⟩
  intro frames
  induction frames with
  | nil =>
    intro _
    rw [List.flatten_nil, splitMAVLinkV2Datagram]
    rfl
  | cons frame later ih =>
    intro valid
    obtain ⟨first, others⟩ := List.forall_mem_cons.mp valid
    rw [List.flatten_cons, split_frame first, ih others]

end Txing.Board.MavlinkFrame
