import Svmm.Construction.HardDisk.Timer
import Svmm.Properties.HardDisk.PacketReply

/-!
# Reading frames of the CD-ROM

`READ (10)`, `READ (12)` and `READ CD` answer with frames, which are fetched into the buffer one by
one as the guest reads them.  What it reads, from the first tick of the seek timer on, are the
frames of the blocks that the command was started with, in order.
-/

namespace Svmm

open TransitionRun StreamDelivery Bytes

/-! ## Frames as a supply -/

/-- The bytes of the frames from an address on. -/
def CdRom.stream (cdRom : CdRom) (first : BitVec 32) (p : ℕ) : BitVec 8 :=
  (cdRom.frame (first + BitVec.ofNat 32 (p / 2048))).getD (p % 2048) 0

/-- Between two frames, the next one is still to be fetched. -/
structure BetweenFrames (first : BitVec 32) (p : ℕ) (source : PacketSource) : Prop where
  boundary : p % 2048 = 0
  position : source.bufferIndex = 2048
  address : source.lbAddress = first + BitVec.ofNat 32 (p / 2048)

/-- Within a frame, which is in the buffer. -/
structure WithinFrame (cdRom : CdRom) (first : BitVec 32) (p : ℕ) (source : PacketSource) :
    Prop where
  inside : p % 2048 ≠ 0
  position : source.bufferIndex.toNat = p % 2048
  address : source.lbAddress = first + BitVec.ofNat 32 (p / 2048 + 1)
  bytes : ∀ j < 2048, source.buffer.byte j = cdRom.stream first (p / 2048 * 2048 + j)

/-- The frames have been read up to a position. -/
structure OfFrames (cdRom : CdRom) (first : BitVec 32) (p : ℕ) (source : PacketSource) : Prop where
  command : source.command ∈ [scsiopRead, scsiopRead12, scsiopReadCd]
  bufferSize : source.bufferSize = 2048
  allocated : source.buffer.size = 2356
  place : BetweenFrames first p source ∨ WithinFrame cdRom first p source

section Supply

variable {cdRom : CdRom} {first : BitVec 32} {p : ℕ} {c : AtaController} {width : BitVec 32}

/-- A frame in the buffer, and a place in it. -/
lemma OfFrames.advance {source : PacketSource}
    (hcommand : source.command ∈ [scsiopRead, scsiopRead12, scsiopReadCd])
    (hbufferSize : source.bufferSize = 2048) (hallocated : source.buffer.size = 2356)
    (hposition : source.bufferIndex.toNat = p % 2048 + width.toNat)
    (hroom : p % 2048 + width.toNat ≤ 2048) (hpos : 0 < width.toNat)
    (haddress : source.lbAddress = first + BitVec.ofNat 32 (p / 2048 + 1))
    (hbytes : ∀ j < 2048, source.buffer.byte j = cdRom.stream first (p / 2048 * 2048 + j)) :
    OfFrames cdRom first (p + width.toNat) source := by
  refine ⟨hcommand, hbufferSize, hallocated, ?_⟩
  by_cases hend : p % 2048 + width.toNat = 2048
  · have hdiv : (p + width.toNat) / 2048 = p / 2048 + 1 := by omega
    refine Or.inl ⟨by omega, ?_, ?_⟩
    · apply BitVec.eq_of_toNat_eq
      rw [hposition, hend]
      rfl
    · rw [hdiv]
      exact haddress
  · have hdiv : (p + width.toNat) / 2048 = p / 2048 := by omega
    refine Or.inr ⟨by omega, ?_, ?_, ?_⟩
    · omega
    · rw [hdiv]
      exact haddress
    · rw [hdiv]
      exact hbytes

/-- An aligned access does not cross the end of a frame. -/
lemma frame_room (hw : width ∈ portWidths) (haligned : width.toNat ∣ p) :
    p % 2048 + width.toNat ≤ 2048 := by
  have hwhole : width.toNat ∣ 2048 := by
    simp only [portWidths, List.mem_cons, List.not_mem_nil, or_false] at hw
    rcases hw with rfl | rfl | rfl
    · decide
    · decide
    · decide
  have hdvd : width.toNat ∣ 2048 - p % 2048 :=
    Nat.dvd_sub hwhole ((Nat.dvd_mod_iff hwhole).mpr haligned)
  have hle := Nat.le_of_dvd (by omega) hdvd
  omega

/-- The bytes of an access to a buffer with the frame of its position. -/
lemma littleEndian_frame {b : AtaBuffer} {n : ℕ} (hroom : p % 2048 + n ≤ 2048)
    (hb : ∀ j < 2048, b.byte j = cdRom.stream first (p / 2048 * 2048 + j)) :
    littleEndian (fun j => b.byte (p % 2048 + j)) n =
      littleEndian (fun j => cdRom.stream first (p + j)) n := by
  refine littleEndian_congr fun j hj => ?_
  have hplace : p / 2048 * 2048 + (p % 2048 + j) = p + j := by omega
  rw [hb _ (by omega), hplace]

/-- Between two frames the next one is fetched. -/
lemma nextBlock_between (hcommand : c.atapi.atapiCommand ∈ [scsiopRead, scsiopRead12, scsiopReadCd])
    (hbufferSize : c.bufferSize = 2048) (hallocated : c.buffer.size = 2356)
    (hindex : c.bufferIndex = 2048) (hframe : (cdRom.frame c.lbAddress).length = 2048) :
    hardDiskNextBlock cdRom c =
      .ok (c.refilled (c.buffer.overwritten 0 (cdRom.frame c.lbAddress)) 0 (c.lbAddress + 1)
        (c.remainingBlocks - 1)) := by
  have hput : c.putBytes 0 (cdRom.frame c.lbAddress) =
      .ok (c.withBytes 0 (cdRom.frame c.lbAddress)) := putBytes_eq (by omega)
  have hcount : ¬ 2048 ≠ (c.withBytes 0 (cdRom.frame c.lbAddress)).bufferSize.toNat := by
    show ¬ 2048 ≠ c.bufferSize.toNat
    rw [hbufferSize]
    decide
  have hplain : ¬ c.bufferSize = 2352 := by
    rw [hbufferSize]
    decide
  have hread : cdRomReadBlock cdRom c = .ok (2048, c.withBytes 0 (cdRom.frame c.lbAddress)) := by
    rw [cdRomReadBlock]
    dsimp only
    rw [if_neg hplain, hput, hframe]
    rfl
  rw [hardDiskNextBlock, if_pos ⟨hindex.trans hbufferSize.symm, hcommand⟩, hread, ok_bind]
  dsimp only
  rw [if_neg hcount]
  rfl

/-- Within a frame nothing is fetched. -/
lemma nextBlock_within (hbufferSize : c.bufferSize = 2048) (hinside : p % 2048 ≠ 0)
    (hindex : c.bufferIndex.toNat = p % 2048) : hardDiskNextBlock cdRom c =
      .ok (c.refilled c.buffer c.bufferIndex c.lbAddress c.remainingBlocks) := by
  refine if_neg fun hend => hinside ?_
  have hfull := congrArg BitVec.toNat (hend.1.trans hbufferSize)
  have hlimit : (2048 : BitVec 32).toNat = 2048 := rfl
  omega

/-- The bytes of a frame that has been fetched. -/
lemma overwritten_frame {b : AtaBuffer} {block : BitVec 32}
    (hblock : block = first + BitVec.ofNat 32 (p / 2048))
    (hframe : (cdRom.frame block).length = 2048) : ∀ j < 2048,
      (b.overwritten 0 (cdRom.frame block)).byte j =
        cdRom.stream first (p / 2048 * 2048 + j) := by
  intro j hj
  have hdiv : (p / 2048 * 2048 + j) / 2048 = p / 2048 := by omega
  have hmod : (p / 2048 * 2048 + j) % 2048 = j := by omega
  show (if 0 ≤ j ∧ j < 0 + (cdRom.frame block).length then (cdRom.frame block).getD (j - 0) 0
    else b.byte j) = _
  rw [if_pos ⟨Nat.zero_le j, by omega⟩, CdRom.stream, hdiv, hmod, hblock]
  rfl

/-- The frames supply an answer that they are long enough for. -/
lemma supplied_ofFrames {a : PacketAnswer} {n : ℕ} (hw : width ∈ portWidths)
    (htotal : a.total = n * 2048) (hstream : a.stream = cdRom.stream first)
    (hframes : ∀ k < n, (cdRom.frame (first + BitVec.ofNat 32 k)).length = 2048) :
    a.Supplied cdRom width (OfFrames cdRom first) := by
  intro p c h hlt haligned
  obtain ⟨haccess, hpos, -, -⟩ := accessLength_of_width hw
  have hbufferSize : c.bufferSize = 2048 := h.bufferSize
  have hallocated : c.buffer.size = 2356 := h.allocated
  have hroom := frame_room hw haligned
  have hstep {x : BitVec 32} (hx : x.toNat = p % 2048) :
      (x + width).toNat = p % 2048 + width.toNat := by
    rw [BitVec.toNat_add, hx]
    omega
  rw [hstream]
  rcases h.place with hbetween | hwithin
  · have hlb : c.lbAddress = first + BitVec.ofNat 32 (p / 2048) := hbetween.address
    have hframe : (cdRom.frame c.lbAddress).length = 2048 := by
      rw [hlb]
      exact hframes _ (by omega)
    have hnext := nextBlock_between h.command hbufferSize hallocated hbetween.position hframe
    have hbytes := overwritten_frame (b := c.buffer) hlb hframe
    have hzero : p % 2048 = 0 := hbetween.boundary
    refine ⟨_, _, _, _, hnext, rfl, BitVec.le_def.mpr (Nat.zero_le _), ?_, ?_⟩
    · rw [AtaBuffer.load, haccess, if_pos (by show 0 + width.toNat ≤ c.buffer.size; omega),
        ← littleEndian_frame hroom hbytes, hzero]
      rfl
    · refine OfFrames.advance h.command hbufferSize hallocated (hstep ?_) hroom hpos ?_ hbytes
      · rw [hzero]
        rfl
      · show c.lbAddress + 1 = _
        rw [hlb, BitVec.add_assoc, BitVec.ofNat_add]
        rfl
  · have hindex : c.bufferIndex.toNat = p % 2048 := hwithin.position
    have hlimit : (2048 : BitVec 32).toNat = 2048 := rfl
    refine ⟨_, _, _, _, nextBlock_within hbufferSize hwithin.inside hindex, rfl, ?_, ?_, ?_⟩
    · rw [hbufferSize, BitVec.le_def, hindex, hlimit]
      omega
    · rw [AtaBuffer.load, haccess, hindex, if_pos (by omega),
        ← littleEndian_frame hroom hwithin.bytes]
      rfl
    · exact OfFrames.advance h.command hbufferSize hallocated (hstep hindex) hroom hpos
        hwithin.address hwithin.bytes

/-- The bytes of the stream are those of the frames. -/
lemma prefixOf_stream (cdRom : CdRom) (first : BitVec 32) {n : ℕ}
    (hframes : ∀ k < n, (cdRom.frame (first + BitVec.ofNat 32 k)).length = 2048) :
    prefixOf (cdRom.stream first) (n * 2048) =
      (List.range n).flatMap fun k => cdRom.frame (first + BitVec.ofNat 32 k) := by
  induction n with
  | zero => rfl
  | succ n ih =>
      have hrange : List.range (n + 1) = List.range n ++ [n] := List.range_succ
      rw [Nat.add_mul, Nat.one_mul, ← prefixOf_append, ih fun k hk => hframes k (by omega),
        hrange, List.flatMap_append, List.flatMap_singleton, List.append_cancel_left_eq]
      apply List.ext_getElem
      · rw [List.length_map, List.length_range, hframes n n.lt_succ_self]
      · intro j hj hj'
        rw [List.length_map, List.length_range] at hj
        have hdiv : (n * 2048 + j) / 2048 = n := by omega
        have hmod : (n * 2048 + j) % 2048 = j := by omega
        rw [List.getElem_map, List.getElem_range, CdRom.stream, hdiv, hmod,
          List.getD_eq_getElem _ _ hj']

end Supply

/-! ## The start of a read -/

/-- The packet is a read of blocks of 2048 bytes. -/
def IsBlockRead (c : AtaController) : Prop :=
  c.packet 0 = scsiopRead ∨ c.packet 0 = scsiopRead12 ∨
    c.packet 0 = scsiopReadCd ∧ c.packet 9 &&& 0xf8 = 0x10

instance (c : AtaController) : Decidable (IsBlockRead c) :=
  inferInstanceAs (Decidable (_ ∨ _ ∨ _))

lemma IsBlockRead.reads {c : AtaController} (h : IsBlockRead c) :
    c.packet 0 ∈ [scsiopRead, scsiopRead12, scsiopReadCd] := by
  rcases h with h | h | ⟨h, -⟩
  · rw [h]
    decide
  · rw [h]
    decide
  · rw [h]
    decide

/-- The number of blocks that the read is started with, refused or not. -/
def packetBlocks (capacity : BitVec 64) (c : AtaController) : BitVec 32 :=
  if c.packet 0 = scsiopReadCd then
    (c.packet 8).setWidth 32 ||| (c.packet 7).setWidth 32 <<< 8 ||| (c.packet 6).setWidth 32 <<< 16
  else startedBlocks (capacity - 1) c.readAddress (c.takenLength (c.packet 0))

namespace AtaController

variable (c : AtaController)

/-- What a report leaves alone. -/
def kept : AtaBuffer × BitVec 32 × BitVec 16 × BitVec 8 :=
  (c.buffer, c.bufferSize, c.cylinderNumber, c.currentCommand)

lemma kept_setStatus (b : ℕ) : (c.setStatus b).kept = c.kept := rfl
lemma kept_clearStatus (b : ℕ) : (c.clearStatus b).kept = c.kept := rfl
lemma kept_clearInterruptRel : c.clearInterruptRel.kept = c.kept := rfl
lemma kept_setInterruptReason (commandData inputOutput : Bool) :
    (c.setInterruptReason commandData inputOutput).kept = c.kept := rfl

lemma kept_commandNop : c.commandNop.kept = c.kept := by
  simp only [commandNop, kept_setStatus, kept_clearStatus, kept_setInterruptReason,
    kept_clearInterruptRel]

lemma kept_error (errorRegister : BitVec 8) :
    AtaController.kept { c with errorRegister := errorRegister } = c.kept := rfl

lemma kept_sense (sense : SenseInfo) : AtaController.kept { c with sense := sense } = c.kept := rfl

lemma kept_atapiError (senseKey asc : BitVec 8) : (c.atapiError senseKey asc).kept = c.kept := by
  simp only [atapiError, kept_sense, kept_error, kept_setStatus, kept_clearStatus,
    kept_setInterruptReason, kept_clearInterruptRel]

end AtaController

/-- What the way to the start of a read leaves alone. -/
structure SameCdRom (s t : HardDisk) : Prop where
  installed : s.CdInstalled → t.CdInstalled
  cdRom : t.cdRom = s.cdRom
  kept : (t.controller 1).kept = (s.controller 1).kept

namespace SameCdRom

variable {s t u : HardDisk}

lemma refl (s : HardDisk) : SameCdRom s s := ⟨id, rfl, rfl⟩

lemma trans (h : SameCdRom s t) (h' : SameCdRom t u) : SameCdRom s u :=
  ⟨fun hs => h'.installed (h.installed hs), h'.cdRom.trans h.cdRom, h'.kept.trans h.kept⟩

lemma raised {f : AtaController → AtaController}
    (hkept : (f (s.controller 1)).kept = (s.controller 1).kept) :
    SameCdRom s (hardDiskRaiseInterrupt 1 (s.modifyController 1 f)) := by
  refine ⟨fun h => ?_, ?_, ?_⟩
  · exact (h.modifyController (congrArg AtaBuffer.size (Prod.mk.inj hkept).1)).raiseInterrupt
  · unfold hardDiskRaiseInterrupt
    split <;> rfl
  · rw [controller_raiseInterrupt, HardDisk.controller_modifyController, hkept]

lemma nop (s : HardDisk) : SameCdRom s (hardDiskNop 1 s) :=
  raised (AtaController.kept_commandNop _)

lemma atapiError (asc : BitVec 8) (s : HardDisk) : SameCdRom s (hardDiskAtapiError 1 asc s) :=
  raised (AtaController.kept_atapiError _ _ _)

end SameCdRom

/-- A read of blocks is started, whatever was reported on the way. -/
lemma packet_starts {s : HardDisk} (hread : IsBlockRead (s.controller 1))
    (hsize : (s.controller 1).bufferSize = 2048)
    (hblocks : packetBlocks s.cdRom.capacity (s.controller 1) ≠ 0) :
    ∃ t, SameCdRom s t ∧ hardDiskPacket 1 s = .ok (hardDiskStartBlocks 1 ((s.controller 1).packet 0)
      (packetBlocks s.cdRom.capacity (s.controller 1) * 2048)
      (packetBlocks s.cdRom.capacity (s.controller 1)) (s.controller 1).readAddress t) := by
  have hreadBlocks (h : (s.controller 1).packet 0 = scsiopRead ∨
      (s.controller 1).packet 0 = scsiopRead12) :
      packetBlocks s.cdRom.capacity (s.controller 1) = startedBlocks (s.cdRom.capacity - 1)
        (s.controller 1).readAddress
        ((s.controller 1).takenLength ((s.controller 1).packet 0)) := by
    refine if_neg fun hcd => ?_
    rw [hcd] at h
    exact absurd h (by decide)
  by_cases hcd : (s.controller 1).packet 0 = scsiopReadCd
  · have hformat : (s.controller 1).packet 9 &&& 0xf8 = 0x10 := by
      rcases hread with h | h | h
      · rw [hcd] at h
        exact absurd h (by decide)
      · rw [hcd] at h
        exact absurd h (by decide)
      · exact h.2
    have hlength : packetBlocks s.cdRom.capacity (s.controller 1) =
        (s.controller 1 |>.packet 8).setWidth 32 |||
          (s.controller 1 |>.packet 7).setWidth 32 <<< 8 |||
          (s.controller 1 |>.packet 6).setWidth 32 <<< 16 := if_pos hcd
    refine ⟨s, .refl s, ?_⟩
    have hrun : hardDiskPacket 1 s = .ok (hardDiskReadCd 1 ((s.controller 1).packet 0) s) := by
      unfold hardDiskPacket
      simp only [hcd]
      rfl
    rw [hrun, hardDiskReadCd]
    dsimp only
    rw [← hlength, if_neg hblocks, hformat, if_neg (by decide), if_neg (by decide), if_pos rfl,
      hsize]
    rfl
  · have h : (s.controller 1).packet 0 = scsiopRead ∨ (s.controller 1).packet 0 = scsiopRead12 := by
      rcases hread with h | h | h
      · exact Or.inl h
      · exact Or.inr h
      · exact absurd h.1 hcd
    have hreported : SameCdRom s (reportedRead 1 ((s.controller 1).packet 0) s) := by
      unfold reportedRead
      split
      · exact .atapiError _ s
      · exact .refl s
    rw [hreadBlocks h]
    refine ⟨_, ?_, (hardDiskPacket_read 1 s h).trans
      (congrArg Except.ok (hardDiskReadBlocks_eq 1 ((s.controller 1).packet 0) s))⟩
    split
    · exact hreported.trans (.nop _)
    · exact hreported

/-! ## The seek timer -/

/-- What a tick for the disk leaves alone. -/
structure Elsewhere (s t : HardDisk) : Prop where
  channel : t.channel 1 = s.channel 1
  cdRom : t.cdRom = s.cdRom
  ports : ∀ ch, (t.channel ch).ioAddr1 = (s.channel ch).ioAddr1 ∧
    (t.channel ch).ioAddr2 = (s.channel ch).ioAddr2

namespace Elsewhere

variable {s t u : HardDisk}

lemma refl (s : HardDisk) : Elsewhere s s := ⟨rfl, rfl, fun _ => ⟨rfl, rfl⟩⟩

lemma trans (h : Elsewhere s t) (h' : Elsewhere t u) : Elsewhere s u := by
  refine ⟨h'.channel.trans h.channel, h'.cdRom.trans h.cdRom, fun ch => ?_⟩
  exact ⟨(h'.ports ch).1.trans (h.ports ch).1, (h'.ports ch).2.trans (h.ports ch).2⟩

lemma modifyController (s : HardDisk) (f : AtaController → AtaController) :
    Elsewhere s (s.modifyController 0 f) := by
  refine ⟨?_, rfl, (HardDisk.SameWiring.modifyController s f).1⟩
  simp [HardDisk.modifyController, HardDisk.modifyDrive, HardDisk.modifyDriveAt,
    HardDisk.setChannel]

lemma call (s : HardDisk) (c : HardDiskCall) : Elsewhere s (s.call c) :=
  ⟨rfl, rfl, fun _ => ⟨rfl, rfl⟩⟩

lemma raiseInterrupt (s : HardDisk) : Elsewhere s (hardDiskRaiseInterrupt 0 s) := by
  unfold hardDiskRaiseInterrupt
  split
  · exact ⟨rfl, rfl, fun _ => ⟨rfl, rfl⟩⟩
  · exact .refl s

lemma readySendAtapi (s : HardDisk) : Elsewhere s (hardDiskReadySendAtapi 0 s) := by
  unfold hardDiskReadySendAtapi
  dsimp only
  split
  · exact (modifyController s _).trans (call _ _)
  · exact (modifyController s _).trans (raiseInterrupt _)

lemma seekTick (s : HardDisk) : Elsewhere s (hardDiskSeekTick 0 s) := by
  unfold hardDiskSeekTick
  dsimp only
  split
  · split
    · exact (modifyController s _).trans (raiseInterrupt _)
    · split
      · exact (modifyController s _).trans (call _ _)
      · exact .refl s
  · split
    · exact readySendAtapi s
    · exact .refl s
  · exact .refl s

lemma controller (h : Elsewhere s t) : t.controller 1 = s.controller 1 := by
  rw [HardDisk.controller, HardDisk.drive, h.channel]
  rfl

lemma installed (h : Elsewhere s t) (hs : s.CdInstalled) : t.CdInstalled := by
  refine ⟨fun ch => ?_, ?_, ?_, ?_⟩
  · rw [(h.ports ch).1, (h.ports ch).2]
    exact hs.ports ch
  · rw [h.channel]
    exact hs.selected
  · rw [HardDisk.drive, h.channel]
    exact hs.isCdRom
  · rw [h.controller]
    exact hs.allocated

end Elsewhere

/-- The first tick after a read was started offers it. -/
lemma seekTimer_offers {t : HardDisk} (ht : t.CdInstalled)
    (hcommand : (t.controller 1).atapi.atapiCommand ∈ [scsiopRead, scsiopRead12, scsiopReadCd]) :
    hardDiskSeekTimer t = hardDiskReadySendAtapi 1 (hardDiskSeekTick 0 t) := by
  have helse := Elsewhere.seekTick t
  have htype := (helse.installed ht).isCdRom
  have hcommand' : ((hardDiskSeekTick 0 t).controller 1).atapi.atapiCommand ∈
      [scsiopRead, scsiopRead12, scsiopReadCd] := by
    rw [helse.controller]
    exact hcommand
  unfold hardDiskSeekTimer
  generalize hardDiskSeekTick 0 t = u at htype hcommand'
  unfold hardDiskSeekTick
  rw [htype]
  exact if_pos hcommand'

/-- The registers when a read of blocks has been set up. -/
def AtaController.blocksStarted (command : BitVec 8) (blocks lbAddress : BitVec 32)
    (c : AtaController) : AtaController :=
  let c := c.initAtapiCommand command (blocks * 2048) (blocks * 2048)
  { c with bufferIndex := c.bufferSize, lbAddress := lbAddress, remainingBlocks := blocks }

lemma announced_blocksStarted {c : AtaController} (command : BitVec 8) {blocks : BitVec 32}
    (lbAddress : BitVec 32) (hlimit : 2 ≤ c.cylinderNumber.toNat) (hsome : 0 < blocks.toNat)
    (hsmall : blocks.toNat * 2048 < 2 ^ 32) :
    (c.blocksStarted command blocks lbAddress).Announced command (c.byteLimit (blocks * 2048))
      (blocks.toNat * 2048) := by
  have hlength : (blocks * 2048).toNat = blocks.toNat * 2048 := by
    rw [BitVec.toNat_mul]
    exact Nat.mod_eq_of_lt hsmall
  have hnonzero : ¬ blocks * 2048 = 0 := by
    intro hzero
    rw [hzero] at hlength
    have hzero' : (0 : BitVec 32).toNat = 0 := rfl
    omega
  have htotal : c.answerLength (blocks * 2048) (blocks * 2048) = blocks.toNat * 2048 := by
    rw [AtaController.answerLength, if_neg hnonzero, hlength, Nat.min_self]
  obtain ⟨hannounced, -⟩ := AtaController.announced_initAtapiCommand command (blocks * 2048)
    (blocks * 2048) hlimit
  rw [htotal] at hannounced
  exact ⟨hannounced.command, hannounced.drqIndex, hannounced.remaining, hannounced.announced,
    hannounced.cylinder⟩

/-! ## From the packet to the last frame -/

/-- A read of blocks has been started: its registers, with the drive and its disc as they were. -/
structure ReadStarted (s t : HardDisk) (command : BitVec 8) (first blocks : BitVec 32) : Prop where
  installed : t.CdInstalled
  cdRom : t.cdRom = s.cdRom
  reads : command ∈ [scsiopRead, scsiopRead12, scsiopReadCd]
  current : (t.controller 1).currentCommand = ideCommandAtapiPacket
  announced : (t.controller 1).Announced command ((s.controller 1).byteLimit (blocks * 2048))
    (blocks.toNat * 2048)
  bufferSize : (t.controller 1).bufferSize = 2048
  bufferIndex : (t.controller 1).bufferIndex = 2048
  lbAddress : (t.controller 1).lbAddress = first

/-- The packet of a read of blocks starts it. -/
lemma readStarted_of_packet {s : HardDisk} {packet : ℕ → BitVec 8}
    {written first blocks : BitVec 32}
    (h : s.CdInstalled) (hidle : (s.controller 1).hasStatus ideStatusBusy = false)
    (hwritten : written ∈ portWidths) (hread : IsBlockRead ((s.controller 1).packetComplete packet))
    (hfirst : ((s.controller 1).packetComplete packet).readAddress = first)
    (hblocks : packetBlocks s.cdRom.capacity ((s.controller 1).packetComplete packet) = blocks)
    (hsome : 0 < blocks.toNat) (hsmall : blocks.toNat * 2048 < 2 ^ 32)
    (hlimit : 2 ≤ (s.controller 1).cylinderNumber.toNat) :
    ∃ t command, sendPacket packet written s = .ok t ∧ ReadStarted s t command first blocks := by
  set t := (hardDiskLowerIrq 1 s).modifyController 1 (·.packetComplete packet) with ht
  have hcontroller : t.controller 1 = (s.controller 1).packetComplete packet :=
    HardDisk.controller_modifyController ..
  have hinstalled : t.CdInstalled := h.lowerIrq.modifyController rfl
  rw [← hcontroller] at hread hfirst hblocks
  have hnonzero : packetBlocks t.cdRom.capacity (t.controller 1) ≠ 0 := by
    intro hzero
    rw [show blocks = 0 from hblocks.symm.trans hzero] at hsome
    exact absurd hsome (by decide)
  have hbufferSize : (t.controller 1).bufferSize = 2048 := by
    rw [hcontroller]
    rfl
  obtain ⟨u, hu, hrun⟩ := packet_starts hread hbufferSize hnonzero
  rw [show packetBlocks t.cdRom.capacity (t.controller 1) = blocks from hblocks, hfirst] at hrun
  have hkept := hu.kept
  rw [hcontroller] at hkept
  obtain ⟨hbuffer, hkept⟩ := Prod.mk.inj hkept
  obtain ⟨hsize, hkept⟩ := Prod.mk.inj hkept
  obtain ⟨hcylinder, hpacket⟩ := Prod.mk.inj hkept
  have hcylinder' : (u.controller 1).cylinderNumber = (s.controller 1).cylinderNumber := hcylinder
  have hbyteLimit : (u.controller 1).byteLimit (blocks * 2048) =
      (s.controller 1).byteLimit (blocks * 2048) := by
    rw [AtaController.byteLimit, hcylinder']
    rfl
  set command := (t.controller 1).packet 0
  have hstarted : HardDisk.controller 1 (hardDiskStartBlocks 1 command (blocks * 2048) blocks first
      u) = (u.controller 1).blocksStarted command blocks first :=
    controller_startBlocks 1 u command (blocks * 2048) blocks first
  obtain ⟨hbuffer', hsize', hpacket', -, -⟩ := (u.controller 1).sameReply_initAtapiCommand command
    (blocks * 2048) (blocks * 2048)
  refine ⟨_, command, (sendPacket_eq h hidle hwritten).trans hrun, ?_, hu.cdRom, ?_, ?_, ?_, ?_, ?_,
    ?_⟩
  · exact (hu.installed hinstalled).modifyController (congrArg AtaBuffer.size hbuffer')
  · exact hread.reads
  · rw [hstarted]
    exact hpacket'.trans hpacket
  · rw [hstarted, ← hbyteLimit]
    exact announced_blocksStarted command first (by rw [hcylinder']; exact hlimit) hsome hsmall
  · rw [hstarted]
    exact hsize'.trans hsize
  · rw [hstarted]
    exact hsize'.trans hsize
  · rw [hstarted]
    rfl

/-- The first tick of the seek timer offers the first frame of a read that has been started. -/
lemma ReadStarted.answering {s t : HardDisk} {command : BitVec 8} {first blocks : BitVec 32}
    {a : PacketAnswer} {width : ℕ} (h : ReadStarted s t command first blocks)
    (htotal : a.total = blocks.toNat * 2048)
    (hlimit : a.limit = (s.controller 1).byteLimit (blocks * 2048)) (ha : a.Divided width) :
    a.Answering s.cdRom width (OfFrames s.cdRom first) 0 (hardDiskSeekTimer t) := by
  have helse := Elsewhere.seekTick t
  have hticked : (hardDiskSeekTick 0 t).cdRom = s.cdRom := helse.cdRom.trans h.cdRom
  have hreads : (t.controller 1).atapi.atapiCommand ∈ [scsiopRead, scsiopRead12, scsiopReadCd] := by
    rw [h.announced.command]
    exact h.reads
  rw [seekTimer_offers h.installed hreads, ← hticked]
  apply answering_of_announced (helse.installed h.installed) _ _ ha
  · rw [helse.controller, hticked]
    refine ⟨hreads, h.bufferSize, h.installed.allocated, Or.inl ⟨rfl, h.bufferIndex, ?_⟩⟩
    exact h.lbAddress.trans (BitVec.add_zero first).symm
  · exact command
  · rw [helse.controller]
    exact h.current
  · rw [helse.controller, htotal, hlimit]
    exact h.announced

/-- A read of whole blocks that is sent to the idle CD-ROM drive gives, from the first tick of the
seek timer on, the frames of the blocks that it was started with, in any order of data reads of one
width and status reads, as long as a DRQ block is not cut in the middle of a read; the data request
stays until the last byte. -/
theorem cd_read_delivers {s : HardDisk} {packet : ℕ → BitVec 8} {written width : BitVec 32}
    {first blocks : BitVec 32} (h : s.CdInstalled)
    (hidle : (s.controller 1).hasStatus ideStatusBusy = false) (hwritten : written ∈ portWidths)
    (hw : width ∈ portWidths) (hread : IsBlockRead ((s.controller 1).packetComplete packet))
    (hfirst : ((s.controller 1).packetComplete packet).readAddress = first)
    (hblocks : packetBlocks s.cdRom.capacity ((s.controller 1).packetComplete packet) = blocks)
    (hsome : 0 < blocks.toNat) (hsmall : blocks.toNat * 2048 < 2 ^ 32)
    (hframes : ∀ k < blocks.toNat, (s.cdRom.frame (first + BitVec.ofNat 32 k)).length = 2048)
    (hlimit : 2 ≤ (s.controller 1).cylinderNumber.toNat)
    (hwhole : width.toNat ∣ (s.controller 1).byteLimit (blocks * 2048) ∨
      blocks.toNat * 2048 ≤ (s.controller 1).byteLimit (blocks * 2048)) (reads : List PioRead) :
    ∃ started σ, sendPacket packet written s = .ok started ∧
      TransitionRun.run (sessionStep (cdRead width)) ⟨hardDiskSeekTimer started, []⟩ reads = .ok σ ∧
      σ.received.length = width.toNat * reads.count .data ∧
      σ.received.take (blocks.toNat * 2048) =
        ((List.range blocks.toNat).flatMap fun k =>
          s.cdRom.frame (first + BitVec.ofNat 32 k)).take σ.received.length ∧
      ((σ.device.controller 1).hasStatus ideStatusDevReq = true ↔
        σ.received.length < blocks.toNat * 2048) := by
  obtain ⟨t, command, hsent, hstarted⟩ := readStarted_of_packet h hidle hwritten hread hfirst
    hblocks hsome hsmall hlimit
  set a : PacketAnswer :=
    { total := blocks.toNat * 2048
      limit := (s.controller 1).byteLimit (blocks * 2048)
      stream := s.cdRom.stream first } with ha
  have hdivided : a.Divided width.toNat :=
    ⟨Nat.mul_pos hsome (by decide), (AtaController.toNat_evened _ hlimit).2, hwhole⟩
  have hsupplied : a.Supplied s.cdRom width (OfFrames s.cdRom first) :=
    supplied_ofFrames hw rfl rfl hframes
  have hanswering := hstarted.answering (a := a) rfl rfl hdivided
  obtain ⟨σ, hσ, hlength, hreceived, hrequest⟩ := a.delivers hanswering hdivided hw hsupplied reads
  refine ⟨t, σ, hsent, hσ, hlength, ?_, hrequest⟩
  rw [← prefixOf_stream s.cdRom first hframes]
  exact hreceived

/-- A CD-ROM of 5000 blocks, each filled with the low byte of its number, in a drive with a limit of
1024 bytes. -/
def numberedCdRom : HardDisk :=
  (hardDiskInitialize numberedImage
    ⟨5000, fun block => List.replicate 2048 (block.setWidth 8)⟩ 0).modifyController 1 fun c =>
      { c with cylinderNumber := 1024 }

/-- The blocks 5 and 6, sent in words of two bytes and read in words of four. -/
theorem cd_read_delivers_two :
    let packet := fun j => [0x28, 0, 0, 0, 0, 5, 0, 0, 2].getD j 0
    ∃ started σ, sendPacket packet 2 numberedCdRom = .ok started ∧
      TransitionRun.run (sessionStep (cdRead 4)) ⟨hardDiskSeekTimer started, []⟩
        (.status 1 :: List.replicate 1024 .data) = .ok σ ∧
      σ.received = List.replicate 2048 5 ++ List.replicate 2048 6 ∧
      (σ.device.controller 1).hasStatus ideStatusDevReq = false := by
  intro packet
  have hwritten : (2 : BitVec 32) ∈ portWidths := by decide
  have hw : (4 : BitVec 32) ∈ portWidths := by decide
  have hfirst : ((numberedCdRom.controller 1).packetComplete packet).readAddress = 5 := by
    decide +kernel
  have hblocks : packetBlocks numberedCdRom.cdRom.capacity
      ((numberedCdRom.controller 1).packetComplete packet) = 2 := by
    decide +kernel
  obtain ⟨started, σ, hstarted, hrun, hlength, hreceived, hrequest⟩ :=
    cd_read_delivers (by decide +kernel) (by decide +kernel) hwritten hw (by decide +kernel) hfirst
      hblocks (by decide) (by decide) (fun k _ => List.length_replicate) (by decide +kernel)
      (by decide +kernel) (.status 1 :: List.replicate 1024 .data)
  have hcount : σ.received.length = 4096 := by
    rw [hlength, List.count_cons_of_ne (by decide), List.count_replicate_self]
    rfl
  rw [hcount] at hrequest hreceived
  refine ⟨started, σ, hstarted, hrun, ?_, ?_⟩
  · have hall : σ.received.take ((2 : BitVec 32).toNat * 2048) = σ.received :=
      List.take_of_length_le (Nat.le_of_eq hcount)
    have hframes : (List.range (2 : BitVec 32).toNat).flatMap
        (fun k => numberedCdRom.cdRom.frame (5 + BitVec.ofNat 32 k)) =
          List.replicate 2048 5 ++ List.replicate 2048 6 := by
      have hframe (block : BitVec 32) : numberedCdRom.cdRom.frame block =
          List.replicate 2048 (block.setWidth 8) := rfl
      have hrange : List.range (2 : BitVec 32).toNat = [0, 1] := rfl
      have hfive : (5 + BitVec.ofNat 32 0).setWidth 8 = (5 : BitVec 8) := rfl
      have hsix : (5 + BitVec.ofNat 32 1).setWidth 8 = (6 : BitVec 8) := rfl
      rw [hrange, List.flatMap_cons, List.flatMap_singleton, hframe, hframe, hfive, hsix]
    rw [hall, hframes] at hreceived
    rw [hreceived]
    apply List.take_of_length_le
    rw [List.length_append, List.length_replicate, List.length_replicate]
  · exact Bool.eq_false_iff.mpr fun h => absurd (hrequest.mp h) (by decide)

end Svmm
