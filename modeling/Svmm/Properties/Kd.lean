import Svmm.Framework.Run
import Svmm.Construction.Kd
import Svmm.Construction.MemorySlots

/-!
# Writing and reading the memory through the kernel debugger

The write request copies in the direction of the read request, from the guest to the reply, so that
it leaves the guest's memory alone.  A read after it returns what was there before.
-/

namespace Svmm

open TransitionRun

/-- The bytes of a reply before its data, and the room that it has for data. -/
def kdReplyRoom : ℕ := kdReplySize - kdPacketSize - kdManipulateSize

section Requests

variable (s : KdSystem) (addr : BitVec 64) (payload : List (BitVec 8))

/-- The request to write the payload, and the one to read as much. -/
def kdWrite : KdMemoryRequest :=
  ⟨.writeVirtualMemory, addr, BitVec.ofNat 32 payload.length, payload⟩
def kdRead : KdMemoryRequest := ⟨.readVirtualMemory, addr, BitVec.ofNat 32 payload.length, []⟩

/-- The range is mapped, to one piece of host memory, and within the limit of a packet. -/
structure KdRange : Prop where
  mapped : ∀ i < payload.length, s.svmmGetHostAddress (addr + BitVec.ofNat 64 i) ≠ 0
  contiguous : ∀ i < payload.length, s.svmmGetHostAddress (addr + BitVec.ofNat 64 i) =
    s.svmmGetHostAddress addr + BitVec.ofNat 64 i
  limit : payload.length ≤ kdMaxPacketSize - kdManipulateSize - kdPacketSize

/-- After the payload was written, reading the range returns it, and memory outside of the range is
as it was. -/
def KdWriteThenRead : Prop :=
  ∃ t u written reply, kdParsePacket s (kdWrite addr payload) = .ok (written, t) ∧
    kdParsePacket t (kdRead addr payload) = .ok (reply, u) ∧ reply.data = payload ∧
    ∀ p, (∀ i < payload.length, p ≠ s.svmmGetHostAddress addr + BitVec.ofNat 64 i) →
      u.machine.byte p = s.machine.byte p

/-- The payload is empty, or is in the memory already, at an address that the read request lets
through, and not longer than a reply. -/
def KdHolds : Prop :=
  payload = [] ∨ payload.length ≤ kdReplyRoom ∧ addr ≠ 0 ∧ addr ≠ 0xfffff780000003d8 ∧
    s.machine.bytes (s.svmmGetHostAddress addr) payload.length = payload

end Requests

section Copies

variable {s : KdSystem} {addr host : BitVec 64} {payload : List (BitVec 8)} {n : ℕ}

lemma KdRange.actualBytes (h : KdRange s addr payload) :
    kdActualBytes (BitVec.ofNat 32 payload.length) = payload.length := by
  have hlimit := h.limit
  unfold kdActualBytes
  unfold kdMaxPacketSize kdManipulateSize kdPacketSize at hlimit ⊢
  rw [BitVec.toNat_ofNat]
  omega

lemma kdCopyToReply_of_fits (s : KdSystem) (hhost : host ≠ 0) (hn : n ≤ kdReplyRoom) :
    kdCopyToReply s host n = .ok (s.machine.bytes host n) := by
  unfold kdCopyToReply
  unfold kdReplyRoom kdReplySize kdPacketSize kdManipulateSize at *
  split_ifs with hzero hlong
  · rw [hzero]
    rfl
  · omega
  · rfl

lemma kdCopyToReply_overrun (s : KdSystem) (hhost : host ≠ 0) (hn : kdReplyRoom < n) :
    kdCopyToReply s host n = .error .overrun := by
  unfold kdCopyToReply
  unfold kdReplyRoom kdReplySize kdPacketSize kdManipulateSize at *
  rw [if_neg (by omega), if_neg hhost, if_pos (by omega)]

/-- The write request, when its copy gets through: nothing but a reply. -/
lemma kdParsePacket_write (h : KdRange s addr payload) {bytes : List (BitVec 8)}
    (hcopy : kdCopyToReply s (s.svmmGetHostAddress addr) payload.length = .ok bytes) :
    kdParsePacket s (kdWrite addr payload) = .ok (⟨payload.length, kdManipulateSize, []⟩, s) := by
  unfold kdParsePacket kdWrite
  simp only [h.actualBytes, hcopy]
  rfl

lemma kdParsePacket_read (h : KdRange s addr payload) {bytes : List (BitVec 8)}
    (hcopy : kdCopyToReply s (s.svmmGetHostAddress addr) payload.length = .ok bytes) :
    kdParsePacket s (kdRead addr payload) =
      if addr ≠ 0xfffff780000003d8 ∧ addr ≠ 0 then
        .ok (⟨payload.length, kdManipulateSize + payload.length, bytes⟩, s)
      else .ok (⟨0, kdManipulateSize, []⟩, s) := by
  unfold kdParsePacket kdRead
  simp only [h.actualBytes, hcopy]
  rfl

end Copies

/-- A read that follows a write of the kernel debugger returns the payload, and memory outside of
the range is unchanged, exactly when the payload is empty, or the memory held it before, at another
address than the two that the read request leaves out, and the reply has room for it. -/
theorem kd_write_then_read_iff (s : KdSystem) (addr : BitVec 64) (payload : List (BitVec 8))
    (h : KdRange s addr payload) :
    KdWriteThenRead s addr payload ↔ KdHolds s addr payload := by
  by_cases hempty : payload = []
  · have hcopy : kdCopyToReply s (s.svmmGetHostAddress addr) payload.length = .ok [] := by
      rw [hempty]
      rfl
    have hwrite := kdParsePacket_write h hcopy
    have hread := kdParsePacket_read h hcopy
    refine iff_of_true ?_ (Or.inl hempty)
    split_ifs at hread
    · exact ⟨s, s, _, _, hwrite, hread, hempty.symm, fun _ _ => rfl⟩
    · exact ⟨s, s, _, _, hwrite, hread, hempty.symm, fun _ _ => rfl⟩
  have hpos : 0 < payload.length := List.length_pos_iff.mpr hempty
  have hhost : s.svmmGetHostAddress addr ≠ 0 := by
    have hmapped := h.mapped 0 hpos
    rwa [h.contiguous 0 hpos, BitVec.add_zero] at hmapped
  unfold KdHolds
  rw [or_iff_right hempty]
  by_cases hroom : payload.length ≤ kdReplyRoom
  · have hcopy := kdCopyToReply_of_fits s hhost hroom
    have hwrite := kdParsePacket_write h hcopy
    have hread := kdParsePacket_read h hcopy
    constructor
    · rintro ⟨t, u, written, reply, ht, hu, hdata, -⟩
      rw [hwrite] at ht
      cases ht
      rw [hread] at hu
      split_ifs at hu with haddr
      · cases hu
        exact ⟨hroom, haddr.2, haddr.1, hdata⟩
      · cases hu
        exact absurd hdata.symm hempty
    · rintro ⟨-, hzero, hother, hbytes⟩
      rw [if_pos ⟨hother, hzero⟩] at hread
      exact ⟨s, s, _, _, hwrite, hread, hbytes, fun _ _ => rfl⟩
  · -- the copy of the write request is too long for the reply
    have hcopy := kdCopyToReply_overrun s hhost (Nat.lt_of_not_le hroom)
    have hwrite : kdParsePacket s (kdWrite addr payload) = .error .overrun := by
      unfold kdParsePacket kdWrite
      simp only [h.actualBytes, hcopy]
      rfl
    refine iff_of_false ?_ fun hcond => hroom hcond.1
    rintro ⟨t, u, written, reply, ht, -⟩
    rw [hwrite] at ht
    cases ht

/-- The machine that `main` sets up, without paging. -/
def kdBootSystem : KdSystem := kdHandshake 0 (bootMachine 0x10000)

theorem kd_write_then_read_zeros : KdWriteThenRead kdBootSystem 0x1000 [0, 0] := by
  have h : KdRange kdBootSystem 0x1000 [0, 0] :=
    ⟨by decide +kernel, by decide +kernel, by decide⟩
  refine (kd_write_then_read_iff _ _ _ h).mpr (Or.inr ⟨by decide, by decide, by decide, ?_⟩)
  rfl

/-- A byte that is written to memory of zeros and read back. -/
theorem kd_write_lost : KdRange kdBootSystem 0x1000 [0xcc] ∧
    ¬ KdWriteThenRead kdBootSystem 0x1000 [0xcc] := by
  refine ⟨⟨by decide +kernel, by decide +kernel, by decide⟩, ?_⟩
  rintro ⟨t, u, written, reply, ht, hu, hdata, -⟩
  have hwrite : kdParsePacket kdBootSystem (kdWrite 0x1000 [0xcc]) =
      .ok (⟨1, 56, []⟩, kdBootSystem) := rfl
  rw [hwrite] at ht
  cases ht
  have hread : kdParsePacket kdBootSystem (kdRead 0x1000 [0xcc]) =
      .ok (⟨1, 57, [0]⟩, kdBootSystem) := rfl
  rw [hread] at hu
  cases hu
  exact absurd hdata (by decide)

end Svmm
