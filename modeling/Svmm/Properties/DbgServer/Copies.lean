import Svmm.Framework.Run
import Svmm.Properties.DbgServer.Reads

/-!
# What the debugger can make the server copy

The header of a packet carries a size, and the server trusts it where it takes the packets of a
write request: the size is compared neither with the bytes that are asked for nor with the room in
the packet.  The count of MSRs is not compared with anything either.  All other copies fit, whatever
the connection brings.
-/

namespace Svmm

open TransitionRun DbgState

/-! ## Turns without overruns -/

/-- No copy of a computation is longer than its room. -/
def CopiesFit {α : Type} (x : Except DbgStop α) : Prop :=
  ∀ copy length room, x ≠ .error (.overrun copy length room)

section Rules

variable {α β : Type} {x : Except DbgStop α} {f : α → Except DbgStop β}

lemma copiesFit_ok (a : α) : CopiesFit (.ok a : Except DbgStop α) := by
  rintro copy length room ⟨⟩

lemma copiesFit_exit : CopiesFit (.error .exit : Except DbgStop α) := by
  rintro copy length room ⟨⟩

lemma copiesFit_waits : CopiesFit (.error .waits : Except DbgStop α) := by
  rintro copy length room ⟨⟩

lemma copiesFit_bind : CopiesFit (x >>= f) ↔ CopiesFit x ∧ ∀ a, x = .ok a → CopiesFit (f a) := by
  cases x with
  | ok a =>
      rw [ok_bind, and_iff_right (copiesFit_ok a)]
      constructor
      · rintro h b ⟨⟩
        exact h
      · exact fun h => h a rfl
  | error stop =>
      constructor
      · intro h
        exact ⟨fun copy length room heq => h copy length room (by rw [heq]; rfl), nofun⟩
      · rintro ⟨h, -⟩ copy length room heq
        exact h copy length room (congrArg _ (Except.error.inj heq))

lemma copiesFit_dbgCopy {copy : DbgCopy} {length room : ℕ} :
    CopiesFit (dbgCopy copy length room) ↔ length ≤ room := by
  unfold dbgCopy
  split_ifs with hfits
  · exact iff_of_true (copiesFit_ok ()) hfits
  · exact iff_of_false (fun h => h _ _ _ rfl) hfits

/-- What follows a copy. -/
lemma copiesFit_dbgCopy_bind {copy : DbgCopy} {length room : ℕ} {f : Unit → Except DbgStop β} :
    CopiesFit (dbgCopy copy length room >>= f) ↔ length ≤ room ∧ CopiesFit (f ()) := by
  rw [copiesFit_bind, copiesFit_dbgCopy]
  refine and_congr_right fun hfits => ?_
  have hok : dbgCopy copy length room = .ok () := if_pos hfits
  rw [hok]
  exact ⟨fun h => h () rfl, fun h _ _ => h⟩

end Rules

/-! ## Receiving and sending -/

section Packets

variable {s : DbgState} {type : BitVec 32} {size : ℕ}

lemma copiesFit_recv (s : DbgState) (size : ℕ) : CopiesFit (s.recv size) := by
  unfold DbgState.recv
  split
  · exact copiesFit_waits
  · exact copiesFit_ok _
  · exact copiesFit_ok _

lemma copiesFit_recvHeader (s : DbgState) : CopiesFit s.recvHeader := by
  unfold DbgState.recvHeader
  rw [copiesFit_bind]
  refine ⟨copiesFit_recv _ _, ?_⟩
  rintro ⟨header, t⟩ -
  cases header with
  | none => exact copiesFit_exit
  | some header =>
      show CopiesFit (if _ then _ else _)
      split_ifs
      · exact copiesFit_exit
      · exact copiesFit_exit
      · exact copiesFit_exit
      · exact copiesFit_ok _

lemma copiesFit_svmmDbgSend : CopiesFit (s.svmmDbgSend size) ↔ size ≤ dbgMaxPacketDataSize := by
  rw [DbgState.svmmDbgSend, copiesFit_dbgCopy_bind]
  exact and_iff_left (copiesFit_ok _)

/-- The packet that `SvmmDbgRecv` takes data from, if there is one: its header is accepted and says
that data follows. -/
def DbgState.Takes (s : DbgState) (type : BitVec 32) (size : ℕ) (pkt : DbgPacket) : Prop :=
  ∃ header t data u, s.recvHeader = .ok (header, t) ∧ (dbgPacket header []).type = type ∧
    (dbgPacket header []).size ≠ 0 ∧ t.recv size = .ok (data, u) ∧
      pkt = dbgPacket header (data.getD [])

/-- The size in a header is not more than a packet has room for, nor, if the checksum is right, than
was asked for. -/
def DbgPacket.Fits (pkt : DbgPacket) (size : ℕ) : Prop :=
  pkt.size.toNat ≤ dbgMaxPacketDataSize ∧
    (pkt.checksum = computeChecksum pkt.data pkt.size.toNat → pkt.size.toNat ≤ size)

/-- The two copies that trust the size in a header. -/
lemma copiesFit_store (pkt : DbgPacket) (size : ℕ) (u : DbgState) :
    CopiesFit (dbgCopy .checksum pkt.size.toNat dbgMaxPacketDataSize >>= fun _ =>
      if pkt.checksum ≠ computeChecksum pkt.data pkt.size.toNat then .error .exit
      else dbgCopy .store pkt.size.toNat size >>= fun _ => .ok u) ↔ pkt.Fits size := by
  rw [copiesFit_dbgCopy_bind]
  refine and_congr_right fun _ => ?_
  by_cases hsum : pkt.checksum = computeChecksum pkt.data pkt.size.toNat
  · rw [if_neg (not_not.mpr hsum), copiesFit_dbgCopy_bind, and_iff_left (copiesFit_ok u)]
    exact ⟨fun h _ => h, fun h => h hsum⟩
  · rw [if_pos hsum]
    exact iff_of_true copiesFit_exit fun h => absurd h hsum

/-- A packet is copied inside of its buffers exactly when the size in its header fits. -/
lemma copiesFit_svmmDbgRecv (hpos : size ≠ 0) (hsize : size ≤ dbgMaxPacketDataSize) :
    CopiesFit (s.svmmDbgRecv type size) ↔ ∀ pkt, s.Takes type size pkt → pkt.Fits size := by
  unfold DbgState.svmmDbgRecv
  rw [copiesFit_bind, and_iff_right (copiesFit_recvHeader s)]
  constructor
  · rintro h pkt ⟨header, t, data, u, hheader, htype, hdata, hrecv, rfl⟩
    have htail := h (header, t) hheader
    dsimp only at htail
    rw [if_neg (not_not.mpr htype.symm), if_neg fun hnone => hdata hnone.2, if_pos hpos,
      copiesFit_dbgCopy_bind, hrecv] at htail
    exact (copiesFit_store _ size u).mp htail.2
  · rintro h ⟨header, t⟩ hheader
    dsimp only
    by_cases htype : type = (dbgPacket header []).type
    · rw [if_neg (not_not.mpr htype)]
      by_cases hnone : (dbgPacket header []).size = 0
      · rw [if_pos ⟨hpos, hnone⟩]
        exact copiesFit_ok t
      · rw [if_neg fun h => hnone h.2, if_pos hpos, copiesFit_dbgCopy_bind, copiesFit_bind]
        refine ⟨hsize, copiesFit_recv t size, ?_⟩
        rintro ⟨data, u⟩ hrecv
        exact (copiesFit_store _ size u).mpr
          (h _ ⟨header, t, data, u, hheader, htype.symm, hnone, hrecv, rfl⟩)
    · rw [if_pos htype]
      exact copiesFit_exit

/-- The receive part of a turn cuts the size off. -/
lemma copiesFit_dbgReceive (s : DbgState) : CopiesFit (dbgReceive s) := by
  unfold dbgReceive
  rw [copiesFit_bind]
  refine ⟨copiesFit_recvHeader s, ?_⟩
  rintro ⟨header, t⟩ -
  dsimp only
  split_ifs
  · rw [copiesFit_dbgCopy_bind, copiesFit_bind]
    refine ⟨Nat.min_le_left _ _, copiesFit_recv _ _, ?_⟩
    rintro ⟨data, u⟩ -
    dsimp only
    split_ifs
    · rw [copiesFit_dbgCopy_bind]
      exact ⟨Nat.min_le_left _ _, copiesFit_exit⟩
    · rw [copiesFit_dbgCopy_bind]
      exact ⟨Nat.min_le_left _ _, copiesFit_ok _⟩
    · exact copiesFit_ok _
  · exact copiesFit_ok _

end Packets

/-! ## Requests -/

section Requests

variable {m : Machine} {addr size : BitVec 64} {i : ℕ} {s : DbgState}

/-- The chunks of a write request, up to the first one without a host pointer. -/
def dbgWriteChunks (m : Machine) (addr size : BitVec 64) (i : ℕ) : List ℕ :=
  if (i : ℤ) < size.toInt then
    if svmmGetHostPageFromGPA m (addr + BitVec.ofNat 64 i) = 0 then []
    else dbgChunk size i :: dbgWriteChunks m addr size (i + dbgMaxPacketDataSize)
  else []
termination_by (size.toInt - i).toNat
decreasing_by
  unfold dbgMaxPacketDataSize
  omega

/-- Every packet that the write request takes fits. -/
def PacketsFit (m : Machine) (addr size : BitVec 64) (s : DbgState) : Prop :=
  Meets (fun s chunk => s.svmmDbgRecv dbgTypeWriteMemory chunk)
    (fun s chunk => ∀ pkt, s.Takes dbgTypeWriteMemory chunk pkt → pkt.Fits chunk) s
    (dbgWriteChunks m addr size 0)

/-- The MSRs of the request, and those that the driver answers, fit into the receive buffer and into
a packet. -/
def DbgTurn.MsrsFit (t : DbgTurn) (nmsrs : BitVec 32) : Prop :=
  dbgHeaderSize + kvmMsrsSize nmsrs % 2 ^ 32 ≤ dbgBufferSize ∧
    kvmMsrsSize (t.nmsrs nmsrs) ≤ dbgMaxPacketDataSize

/-- What the request and the packets that follow it may bring. -/
def DbgTurn.RequestFits (t : DbgTurn) (pkt : DbgPacket) (s : DbgState) : Prop :=
  (dbgType pkt.type = some .writeMemory → pkt.size = 16 →
    ¬ t.machine.RefusesRead (pkt.ulong64 0) (pkt.ulong64 8) →
      PacketsFit t.machine (pkt.ulong64 0) (pkt.ulong64 8) s) ∧
  (dbgType pkt.type = some .readMsrRegisters ∨ dbgType pkt.type = some .writeMsrRegisters →
    t.MsrsFit (pkt.ulong 0))

/-- What the bytes of a turn may be. -/
def DbgTurn.Fits (packetId : BitVec 32) (t : DbgTurn) : Prop :=
  ∀ pkt s, dbgReceive ⟨packetId, t.answers⟩ = .ok (pkt, s) → t.RequestFits pkt s

lemma copiesFit_dbgWriteLoop :
    CopiesFit (dbgWriteLoop m addr size i s) ↔
      Meets (fun s chunk => s.svmmDbgRecv dbgTypeWriteMemory chunk)
        (fun s chunk => ∀ pkt, s.Takes dbgTypeWriteMemory chunk pkt → pkt.Fits chunk) s
        (dbgWriteChunks m addr size i) := by
  induction i using dbgWriteChunks.induct m addr size generalizing s with
  | case1 i hi hhost =>
      rw [dbgWriteLoop, if_pos hi, if_pos hhost, copiesFit_svmmDbgSend, dbgWriteChunks, if_pos hi,
        if_pos hhost]
      exact iff_of_true (Nat.zero_le _) trivial
  | case2 i hi hhost ih =>
      have hpos : dbgChunk size i ≠ 0 := by
        have hle : size.toInt ≤ size.toNat := by
          rw [BitVec.toInt_eq_toNat_cond]
          split_ifs <;> omega
        unfold dbgChunk dbgMaxPacketDataSize
        omega
      rw [dbgWriteLoop, if_pos hi, if_neg hhost, dbgWriteChunks, if_pos hi, if_neg hhost,
        copiesFit_bind, copiesFit_svmmDbgRecv hpos (Nat.min_le_left _ _)]
      exact and_congr_right fun _ => forall_congr' fun t => imp_congr_right fun _ => ih
  | case3 i hi =>
      rw [dbgWriteLoop, if_neg hi, dbgWriteChunks, if_neg hi]
      exact iff_of_true (copiesFit_ok s) trivial

/-- All packets that answer a read are short enough. -/
lemma length_le_of_mem_dbgReadMemory {data : List (BitVec 8)}
    (h : data ∈ dbgReadMemory m addr size) :
    data.length ≤ dbgMaxPacketDataSize := by
  have hloop (i : ℕ) (hi : data ∈ dbgReadLoop m addr size i) :
      data.length ≤ dbgMaxPacketDataSize := by
    induction i using dbgReadLoop.induct m addr size with
    | case1 i hlt host hhost =>
        rw [dbgReadLoop_of_unmapped hlt hhost, List.mem_singleton] at hi
        rw [hi]
        exact Nat.zero_le _
    | case2 i hlt host hhost ih =>
        rw [dbgReadLoop_of_mapped hlt hhost, List.mem_cons] at hi
        rcases hi with rfl | hi
        · rw [Machine.bytes, List.length_map, List.length_range]
          exact Nat.min_le_left _ _
        · exact ih hi
    | case3 i hlt =>
        rw [dbgReadLoop, if_neg hlt] at hi
        exact absurd hi List.not_mem_nil
  unfold dbgReadMemory at h
  split_ifs at h
  · rw [List.mem_singleton.mp h]
    exact Nat.zero_le _
  · exact hloop 0 h

lemma copiesFit_sends {packets : List (List (BitVec 8))}
    (h : ∀ data ∈ packets, data.length ≤ dbgMaxPacketDataSize) :
    CopiesFit (packets.foldlM (fun (s : DbgState) data => s.svmmDbgSend data.length) s) := by
  induction packets generalizing s with
  | nil => exact copiesFit_ok s
  | cons data packets ih =>
      obtain ⟨hdata, hpackets⟩ := List.forall_mem_cons.mp h
      rw [List.foldlM_cons, copiesFit_bind, copiesFit_svmmDbgSend]
      exact ⟨hdata, fun t _ => ih hpackets⟩

lemma copiesFit_msrs (t : DbgTurn) (nmsrs : BitVec 32) (s : DbgState) :
    CopiesFit (dbgDeviceIoControl nmsrs >>= fun _ =>
      dbgCopy .msrs (dbgHeaderSize + kvmMsrsSize (t.nmsrs nmsrs)) dbgBufferSize >>= fun _ =>
        s.svmmDbgSend (kvmMsrsSize (t.nmsrs nmsrs))) ↔ t.MsrsFit nmsrs := by
  rw [dbgDeviceIoControl, copiesFit_dbgCopy_bind, copiesFit_dbgCopy_bind, copiesFit_svmmDbgSend]
  refine and_congr_right fun _ => and_iff_right_of_imp fun hsend => ?_
  unfold dbgHeaderSize dbgBufferSize dbgMaxPacketDataSize at *
  omega

lemma copiesFit_setMsrs (t : DbgTurn) (nmsrs : BitVec 32) (s : DbgState) :
    CopiesFit (dbgDeviceIoControl nmsrs >>= fun _ => s.svmmDbgSend (kvmMsrsSize (t.nmsrs nmsrs))) ↔
      t.MsrsFit nmsrs := by
  rw [dbgDeviceIoControl, copiesFit_dbgCopy_bind, copiesFit_svmmDbgSend]
  rfl

lemma copiesFit_dbgWriteMemory :
    CopiesFit (dbgWriteMemory m addr size s) ↔
      (¬ m.RefusesRead addr size → PacketsFit m addr size s) := by
  by_cases hrefuses : m.RefusesRead addr size
  · have hsend : dbgWriteMemory m addr size s = s.svmmDbgSend 0 := if_pos hrefuses
    rw [hsend, copiesFit_svmmDbgSend]
    exact iff_of_true (Nat.zero_le _) fun h => absurd hrefuses h
  · have hloop : dbgWriteMemory m addr size s = dbgWriteLoop m addr size 0 s := if_neg hrefuses
    rw [hloop, copiesFit_dbgWriteLoop]
    exact ⟨fun h _ => h, fun h => h hrefuses⟩

/-- The copies of a request, by its type. -/
lemma copiesFit_handle (t : DbgTurn) (pkt : DbgPacket) (s : DbgState) :
    CopiesFit (t.handle pkt s) ↔ t.RequestFits pkt s := by
  unfold DbgTurn.handle DbgTurn.RequestFits
  cases htype : dbgType pkt.type with
  | none =>
      refine iff_of_true (copiesFit_ok s) ⟨?_, ?_⟩
      · rintro ⟨⟩
      · rintro (⟨⟨⟩⟩ | ⟨⟨⟩⟩)
  | some type =>
      simp only [Option.some.injEq]
      cases type with
      | writeMemory =>
          simp only [true_imp_iff, reduceCtorEq, or_self, false_imp_iff, and_true]
          by_cases hsize : pkt.size = 16
          · rw [if_neg (not_not.mpr hsize), copiesFit_dbgWriteMemory]
            exact ⟨fun h _ => h, fun h => h hsize⟩
          · rw [if_pos hsize]
            exact iff_of_true copiesFit_exit fun h => absurd h hsize
      | readMsrRegisters =>
          simp only [true_imp_iff, reduceCtorEq, or_false, false_imp_iff, true_and]
          exact copiesFit_msrs t _ s
      | writeMsrRegisters =>
          simp only [true_imp_iff, reduceCtorEq, false_or, false_imp_iff, true_and]
          exact copiesFit_setMsrs t _ s
      | readMemory =>
          simp only [reduceCtorEq, or_self, false_imp_iff, and_self, iff_true]
          split_ifs
          · exact copiesFit_exit
          · exact copiesFit_sends fun data => length_le_of_mem_dbgReadMemory
      | readRegisters | stateChangeReq =>
          simp only [reduceCtorEq, or_self, false_imp_iff, and_self, iff_true]
          exact copiesFit_svmmDbgSend.mpr (by decide)
      | writeRegisters =>
          simp only [reduceCtorEq, or_self, false_imp_iff, and_self, iff_true]
          split_ifs
          · exact copiesFit_exit
          · exact copiesFit_ok s
      | initReq =>
          simp only [reduceCtorEq, or_self, false_imp_iff, and_self, iff_true]
          split_ifs
          · exact copiesFit_exit
          · exact copiesFit_exit
          · exact copiesFit_svmmDbgSend.mpr (by decide)
      | stepInto | stepOver | run | print =>
          simp only [reduceCtorEq, or_self, false_imp_iff, and_self, iff_true]
          exact copiesFit_ok s

end Requests

/-! ## Turns -/

/-- Every copy of a turn fits, for whatever the connection brings and in every run of turns, exactly
when no packet that a write request takes has a size of over 2048, or with its checksum right a size
over the bytes that are asked for, and the MSRs fit, before and after the driver's answer. -/
theorem dbg_copies_fit_iff (packetId : BitVec 32) (turns : List DbgTurn) :
    Meets dbgTurn (fun id t => CopiesFit (dbgTurn id t)) packetId turns ↔
      Meets dbgTurn (fun id t => t.Fits id) packetId turns := by
  refine Meets.congr fun id t => ?_
  unfold dbgTurn
  rw [copiesFit_bind, and_iff_right (copiesFit_dbgReceive _)]
  constructor
  · intro h pkt s hreceive
    have hhandle := h (pkt, s) hreceive
    dsimp only at hhandle
    rw [copiesFit_bind, copiesFit_handle] at hhandle
    exact hhandle.1
  · rintro h ⟨pkt, s⟩ hreceive
    dsimp only
    rw [copiesFit_bind, copiesFit_handle]
    exact ⟨h pkt s hreceive, fun s _ => copiesFit_ok _⟩

/-- A request for 128 MSRs, and a write of one byte whose packet has the size 2048 in its header and
nothing but zeros behind it. -/
theorem dbg_msrs_overrun :
    let turn : DbgTurn :=
      { machine := bootMachine 0x10000
        nmsrs := id
        answers := [.bytes [0x44, 0x33, 0x22, 0x11, 13, 0, 1, 0, 0, 0, 0x80, 0, 0, 0, 8, 0, 0, 0],
          .bytes [0x80, 0, 0, 0, 0, 0, 0, 0]] }
    let packet : DbgState :=
      { packetId := 1
        answers := [.bytes [0x44, 0x33, 0x22, 0x11, 3, 0, 2, 0, 0, 0, 0, 0, 0, 0, 0, 8, 0, 0],
          .bytes [0]] }
    dbgTurn 0 turn = .error (.overrun .send 2056 2048) ∧
      packet.svmmDbgRecv dbgTypeWriteMemory 1 = .error (.overrun .store 2048 1) ∧
      ¬ Meets dbgTurn (fun id t => CopiesFit (dbgTurn id t)) 0 [turn] := by
  intro turn packet
  have hturn : dbgTurn 0 turn = .error (.overrun .send 2056 2048) := by rfl
  have hpacket : packet.svmmDbgRecv dbgTypeWriteMemory 1 = .error (.overrun .store 2048 1) := by
    decide +kernel
  refine ⟨hturn, hpacket, ?_⟩
  rintro ⟨hfits, -⟩
  exact hfits _ _ _ hturn

end Svmm
