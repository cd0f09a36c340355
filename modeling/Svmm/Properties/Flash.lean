import Svmm.Construction.Flash

/-!
# What a guest sees of the flash chip

The first cycle of a write switches on the command that was written before instead of the byte
that is written, and the command is 0 to begin with.  So no write is ever taken for a command:
`flash_stuck` says that no access changes anything, and every read is one of the image.
-/

namespace Svmm

/-! ## Accesses -/

/-- One call of a handler. -/
inductive FlashAccess where
  | write (address length : BitVec 32) (data : ℕ → BitVec 8)
  | read (address length : BitVec 32) (data : ℕ → BitVec 8)

namespace FlashAccess

/-- The address of an access. -/
def address : FlashAccess → BitVec 32
  | .write address _ _ => address
  | .read address _ _ => address

/-- The length of an access. -/
def length : FlashAccess → BitVec 32
  | .write _ length _ => length
  | .read _ length _ => length

/-- What the access does to the chip. -/
def perform (s : Flash) : FlashAccess → Flash
  | .write address length data => (flashWriteMmioHandler address length data s).1
  | .read address length data => (flashReadMmioHandler address length data s).state

/-- The parts of `Storage` that the access copies. -/
def copies (s : Flash) : FlashAccess → List (ℕ × ℕ)
  | .write address length data => (flashWriteMmioHandler address length data s).2
  | .read address length data => (flashReadMmioHandler address length data s).copies

/-- An access of 1 to 8 bytes at an address that is routed to the handlers. -/
def Routed (a : FlashAccess) : Prop :=
  (a.address - flashMmio).toNat < flashWindow ∧ 1 ≤ a.length.toNat ∧ a.length.toNat ≤ 8

end FlashAccess

/-- The chip after a history of accesses. -/
def flashAfter (s : Flash) (history : List FlashAccess) : Flash :=
  history.foldl FlashAccess.perform s

/-- A write of one byte. -/
def flashWriteByte (s : Flash) (offset : BitVec 32) (value : BitVec 8) : Flash :=
  (FlashAccess.write (flashMmio + offset) 1 fun _ => value).perform s

/-- A read of one byte stores `value`, whatever the buffer held. -/
def FlashReads (s : Flash) (offset : BitVec 32) (value : BitVec 8) : Prop :=
  ∀ data, (flashReadMmioHandler (flashMmio + offset) 1 data s).data 0 = value

/-! ## The command machine -/

section Stuck

variable (image : FlashImage)

/-- No access moves the chip out of the state it is initialised to. -/
lemma perform_flashInitialize (a : FlashAccess) :
    a.perform image.flashInitialize = image.flashInitialize := by
  cases a with
  | write address length data => rfl
  | read address length data =>
      show (flashReadArray (address - flashMmio) length data image.flashInitialize).state = _
      unfold flashReadArray
      split_ifs <;> rfl

/-- The chip is in read-array mode after every history, with the image in its array. -/
theorem flash_stuck (history : List FlashAccess) :
    flashAfter image.flashInitialize history = image.flashInitialize := by
  induction history with
  | nil => rfl
  | cons a history ih =>
      show flashAfter (a.perform image.flashInitialize) history = _
      rw [perform_flashInitialize]
      exact ih

lemma flashWriteByte_flashInitialize (offset : BitVec 32) (value : BitVec 8) :
    flashWriteByte image.flashInitialize offset value = image.flashInitialize :=
  perform_flashInitialize image _

/-- A read of the chip as initialised is one of the array. -/
lemma flashRead_flashInitialize (offset length : BitVec 32) (data : ℕ → BitVec 8) :
    flashReadMmioHandler (flashMmio + offset) length data image.flashInitialize =
      flashReadArray offset length data image.flashInitialize := by
  have haddress : flashMmio + offset - flashMmio = offset := by
    rw [BitVec.add_comm, BitVec.add_sub_cancel]
  show flashReadArray (flashMmio + offset - flashMmio) length data _ = _
  rw [haddress]

end Stuck

/-! ## Programming -/

/-- Programming the byte `value` at `offset`, from `s` on: until the read-array command every read
is of the status register, with the ready bit; after it the byte reads as programmed and the others
as before. -/
structure FlashPrograms (s : Flash) (command : BitVec 8) (offset : BitVec 32) (value : BitVec 8) :
    Prop where
  ready : let t := flashWriteByte (flashWriteByte s offset command) offset value
    ∀ b, b < flashSize → FlashReads t b t.status ∧ Word.has t.status flashReady = true
  programmed :
    FlashReads (flashWriteByte (flashWriteByte (flashWriteByte s offset command) offset value)
      offset 0xff) offset value
  others : ∀ b v, b < flashSize → b ≠ offset → FlashReads s b v →
    FlashReads (flashWriteByte (flashWriteByte (flashWriteByte s offset command) offset value)
      offset 0xff) b v

/-- The two program commands. -/
inductive ProgramCommand : BitVec 8 → Prop where
  | byte : ProgramCommand 0x40
  | alternate : ProgramCommand 0x10

/-- **Flash programming works** nowhere: after no history of accesses to no image does either
program command program a byte, because no write leaves a ready status behind. -/
theorem flash_never_programs (image : FlashImage) (history : List FlashAccess)
    (command : { c : BitVec 8 // ProgramCommand c }) (offset : { a : BitVec 32 // a < flashSize })
    (value : BitVec 8) :
    ¬ FlashPrograms (flashAfter image.flashInitialize history) command.1 offset.1 value := by
  intro h
  have hready := (h.ready 0 (by decide)).2
  rw [flash_stuck, flashWriteByte_flashInitialize, flashWriteByte_flashInitialize] at hready
  have hbit : Word.has image.flashInitialize.status flashReady = false := Word.has_zero flashReady
  rw [hbit] at hready
  cases hready

/-- An image of 4 MiB that is erased. -/
def erasedImage : FlashImage := ⟨fun _ => 0xff, 0x400000, by decide⟩

/-- Byte 0 of an erased image is programmed with 0x55, and reads as erased. -/
theorem flash_byte_not_programmed :
    ¬ FlashPrograms erasedImage.flashInitialize 0x40 0 0x55 := by
  intro h
  have hread := h.programmed fun _ => 0
  exact absurd hread (by decide)

/-! ## Inside the image -/

/-- What accesses owe the image: what a routed one copies is inside `Storage`, every byte of the
window reads as the image has it, and a CFI query reads the table. -/
structure FlashInside (image : FlashImage) : Prop where
  copies : ∀ (history : List FlashAccess) (a : FlashAccess), a.Routed →
    ∀ c ∈ a.copies (flashAfter image.flashInitialize history), c.1 + c.2 ≤ image.fileSize.toNat
  readable : ∀ (history : List FlashAccess) (offset : BitVec 32),
    (flashAfter image.flashInitialize history).cmd = 0 → offset.toNat < flashWindow →
    FlashReads (flashAfter image.flashInitialize history) offset
      ((flashAfter image.flashInitialize history).storage offset.toNat)
  query : ∀ (history : List FlashAccess) (offset k : BitVec 32), offset.toNat < flashWindow →
    k.toNat < 0x52 →
    FlashReads (flashWriteByte (flashAfter image.flashInitialize history) offset 0x98) k
      (cfiTable.getD k.toNat 0)

/-- The image reaches 8 bytes past the window's last one, and starts with the CFI table. -/
def FlashImage.Fits (image : FlashImage) : Prop :=
  flashWindow + 7 ≤ image.fileSize.toNat ∧
    ∀ k < 0x52, image.content k = cfiTable.getD k 0

section Inside

variable {image : FlashImage}

/-- Nothing near the window is past the end of the device. -/
lemma not_flashSize_le {offset length : BitVec 32} (hoffset : offset.toNat < flashWindow)
    (hlength : length.toNat ≤ 8) : ¬ flashSize ≤ offset + length := by
  have hwindow : flashWindow = 0x3e0000 := by decide
  have hsize : flashSize.toNat = 0x400000 := rfl
  rw [BitVec.le_def, BitVec.toNat_add, hsize]
  omega

lemma flashReadArray_of_routed {offset length : BitVec 32} (hoffset : offset.toNat < flashWindow)
    (hlength : length.toNat ≤ 8) (data : ℕ → BitVec 8) (s : Flash) :
    flashReadArray offset length data s =
      ⟨fun i => if i < length.toNat then s.storage (offset.toNat + i) else data i,
        [(offset.toNat, length.toNat)], s⟩ :=
  if_neg (not_flashSize_le hoffset hlength)

/-- A byte of the window reads as the image has it. -/
lemma flashReads_flashInitialize {offset : BitVec 32} (hoffset : offset.toNat < flashWindow) :
    FlashReads image.flashInitialize offset (image.content offset.toNat) := by
  intro data
  have hlength : (1 : BitVec 32).toNat ≤ 8 := by decide
  rw [flashRead_flashInitialize, flashReadArray_of_routed hoffset hlength]
  rfl

lemma FlashReads.unique {s : Flash} {offset : BitVec 32} {v w : BitVec 8}
    (h : FlashReads s offset v) (h' : FlashReads s offset w) : v = w :=
  (h fun _ => 0).symm.trans (h' fun _ => 0)

/-- A routed access to the chip as initialised copies at most what it reads. -/
lemma copies_flashInitialize {a : FlashAccess} (ha : a.Routed) :
    ∀ c ∈ a.copies image.flashInitialize, c.1 + c.2 ≤ flashWindow + 7 := by
  obtain ⟨hoffset, -, hlength⟩ := ha
  cases a with
  | write address length data =>
      intro c hc
      cases hc
  | read address length data =>
      have hoff : (address - flashMmio).toNat < flashWindow := hoffset
      have hlen : length.toNat ≤ 8 := hlength
      have hread : FlashAccess.copies image.flashInitialize (.read address length data) =
          [((address - flashMmio).toNat, length.toNat)] := by
        show (flashReadArray (address - flashMmio) length data image.flashInitialize).copies = _
        rw [flashReadArray_of_routed hoff hlen]
      rw [hread]
      intro c hc
      obtain rfl := List.mem_singleton.mp hc
      dsimp only
      omega

/-- The read of 8 bytes from the window's last one. -/
def lastRead : FlashAccess := .read (flashMmio + 0x3dffff) 8 fun _ => 0

lemma lastRead_routed : lastRead.Routed := by
  unfold FlashAccess.Routed
  decide

end Inside

/-- **Flash accesses stay inside the image**, the window is readable and CFI queries are answered
exactly for the images that reach 7 bytes past the window and start with the CFI table itself. -/
theorem flash_inside_iff (image : FlashImage) : FlashInside image ↔ image.Fits := by
  have hwindow : flashWindow = 0x3e0000 := by decide
  constructor
  · intro h
    refine ⟨?_, fun k hk => ?_⟩
    · exact h.copies [] lastRead lastRead_routed (0x3dffff, 8) (List.mem_singleton.mpr rfl)
    · have hk32 : (BitVec.ofNat 32 k).toNat = k := by
        rw [BitVec.toNat_ofNat]
        omega
      have hquery := h.query [] 0 (BitVec.ofNat 32 k) (by decide) (by omega)
      have harray : FlashReads image.flashInitialize (BitVec.ofNat 32 k) (image.content k) := by
        have hread : FlashReads image.flashInitialize (BitVec.ofNat 32 k)
            (image.content (BitVec.ofNat 32 k).toNat) := flashReads_flashInitialize (by omega)
        rwa [hk32] at hread
      rw [hk32] at hquery
      exact harray.unique hquery
  · rintro ⟨hsize, htable⟩
    refine ⟨fun history a ha c hc => ?_, fun history offset _ hoffset => ?_,
      fun history offset k _ hk => ?_⟩
    · rw [flash_stuck] at hc
      exact Nat.le_trans (copies_flashInitialize ha c hc) hsize
    · rw [flash_stuck]
      exact flashReads_flashInitialize hoffset
    · rw [flash_stuck, flashWriteByte_flashInitialize, ← htable k.toNat hk]
      exact flashReads_flashInitialize (by omega)

/-- A query of an erased image of 4 MiB reads 0xff where the table has its "Q". -/
theorem flash_query_unanswered : ¬ FlashInside erasedImage := by
  intro h
  have hquery := h.query [] 0x55 0x10 (by decide) (by decide) fun _ => 0
  exact absurd hquery (by decide)

end Svmm
