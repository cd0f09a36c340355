import Svmm.Framework.Run
import Svmm.Construction.Dma

/-!
# Programming a channel

The address and the count of a channel are written in halves, by turns of the flip-flop of its
controller.  `DmaPortIoWriteHandler` clears the current count with the high half of the address, and
`DmaPortIoReadHandler` shows the base count for the current one.
-/

namespace Svmm

open TransitionRun

/-! ## Ports of a channel -/

def dmaAddressPort (n : Fin 2) (channel : Fin 4) : BitVec 64 :=
  if n = 0 then 2 * BitVec.ofNat 64 channel else 0xc0 + 4 * BitVec.ofNat 64 channel

def dmaCountPort (n : Fin 2) (channel : Fin 4) : BitVec 64 :=
  if n = 0 then 2 * BitVec.ofNat 64 channel + 1 else 0xc2 + 4 * BitVec.ofNat 64 channel

/-- The port that clears the flip-flop. -/
def dmaFlipFlopPort (n : Fin 2) : BitVec 64 := if n = 0 then 0x0c else 0xd8

def lowHalf (x : BitVec 16) : BitVec 32 := (x.setWidth 8).setWidth 32

def highHalf (x : BitVec 16) : BitVec 32 := ((x >>> 8).setWidth 8).setWidth 32

/-- A register written to a port, the low byte first. -/
def dmaWriteHalves (port : BitVec 64) (x : BitVec 16) : List DmaOp :=
  [.write port (lowHalf x), .write port (highHalf x)]

/-- Two reads of a port, and the state after them. -/
def dmaReadHalves (port : BitVec 64) (d : Dma) : DmaOutcome (BitVec 32 × BitVec 32 × Dma) := do
  let (low, d) ← dmaPortIoReadHandler port d
  let (high, d) ← dmaPortIoReadHandler port d
  return (low, high, d)

/-- The writes of an address and a count, in either order of the ports. -/
def dmaProgram (n : Fin 2) (channel : Fin 4) (address count : BitVec 16) (addressFirst : Bool) :
    List DmaOp :=
  let writeAddress := dmaWriteHalves (dmaAddressPort n channel) address
  let writeCount := dmaWriteHalves (dmaCountPort n channel) count
  if addressFirst then writeAddress ++ writeCount else writeCount ++ writeAddress

/-- The writes leave the base and the current registers of the channel with the values, and the
current ones are read back, with all registers as they are. -/
def ProgramsChannel (n : Fin 2) (channel : Fin 4) (address count : BitVec 16)
    (addressFirst : Bool) (d : Dma) : Prop :=
  ∃ t, run dmaStep d (dmaProgram n channel address count addressFirst) = .ok t ∧
    let x := (t.controller n).channels channel
    (x.baseAddressRegister = address ∧ x.currentAddressRegister = address ∧
      x.baseCountRegister = count ∧ x.currentCountRegister = count) ∧
    ∀ value, ∃ u, dmaPortIoWriteHandler (dmaFlipFlopPort n) value t = .ok u ∧
      dmaReadHalves (dmaAddressPort n channel) u =
        .ok (lowHalf x.currentAddressRegister, highHalf x.currentAddressRegister, u) ∧
      dmaReadHalves (dmaCountPort n channel) u =
        .ok (lowHalf x.currentCountRegister, highHalf x.currentCountRegister, u)

/-! ## Decoding -/

lemma dmaAddressPort_decodes : ∀ (n : Fin 2) (channel : Fin 4),
    dmaAddressPort n channel ∈ dmaAddressPorts ∧ dmaNumber (dmaAddressPort n channel) = n ∧
      dmaPortChannel (dmaAddressPort n channel) = channel := by
  decide

lemma dmaCountPort_decodes : ∀ (n : Fin 2) (channel : Fin 4),
    dmaCountPort n channel ∉ dmaAddressPorts ∧ dmaCountPort n channel ∈ dmaCountPorts ∧
      dmaNumber (dmaCountPort n channel) = n ∧
        dmaPortChannel (dmaCountPort n channel) = channel := by
  decide

section Ports

variable {n : Fin 2} {channel : Fin 4} {value : BitVec 32} {d : Dma}

lemma write_dmaAddressPort :
    dmaPortIoWriteHandler (dmaAddressPort n channel) value d =
      .ok (d.modifyController n (DmaController.writeAddress channel · value)) := by
  obtain ⟨hport, hnumber, hchannel⟩ := dmaAddressPort_decodes n channel
  unfold dmaPortIoWriteHandler
  dsimp only
  rw [if_pos hport, hnumber, hchannel]

lemma write_dmaCountPort :
    dmaPortIoWriteHandler (dmaCountPort n channel) value d =
      .ok (d.modifyController n (DmaController.writeCount channel · value)) := by
  obtain ⟨haddress, hport, hnumber, hchannel⟩ := dmaCountPort_decodes n channel
  unfold dmaPortIoWriteHandler
  dsimp only
  rw [if_neg haddress, if_pos hport, hnumber, hchannel]

lemma write_dmaFlipFlopPort :
    dmaPortIoWriteHandler (dmaFlipFlopPort n) value d =
      .ok (d.modifyController n fun c => { c with flipFlop := 0 }) := by
  match n with
  | 0 => rfl
  | 1 => rfl

lemma read_dmaAddressPort :
    dmaPortIoReadHandler (dmaAddressPort n channel) d =
      .ok (readHalf ((d.controller n).flipFlop ≠ 0)
          ((d.controller n).channels channel).currentAddressRegister,
        d.modifyController n DmaController.flip) := by
  obtain ⟨hport, hnumber, hchannel⟩ := dmaAddressPort_decodes n channel
  unfold dmaPortIoReadHandler
  dsimp only
  rw [if_pos hport, hnumber, hchannel]

/-- A read of the current count shows the base count. -/
lemma read_dmaCountPort :
    dmaPortIoReadHandler (dmaCountPort n channel) d =
      .ok (readHalf ((d.controller n).flipFlop ≠ 0)
          ((d.controller n).channels channel).baseCountRegister,
        d.modifyController n DmaController.flip) := by
  obtain ⟨haddress, hport, hnumber, hchannel⟩ := dmaCountPort_decodes n channel
  unfold dmaPortIoReadHandler
  dsimp only
  rw [if_neg haddress, if_pos hport, hnumber, hchannel]

@[simp] lemma Dma.controller_modifyController {f : DmaController → DmaController} :
    (d.modifyController n f).controller n = f (d.controller n) := by
  unfold Dma.modifyController
  exact Function.update_self ..

lemma Dma.modifyController_modifyController {f g : DmaController → DmaController} :
    (d.modifyController n f).modifyController n g = d.modifyController n (g ∘ f) := by
  unfold Dma.modifyController
  dsimp only
  rw [Function.update_self, Function.update_idem]
  rfl

end Ports

/-! ## Halves -/

lemma getElem_ff16 : ∀ (i : ℕ) (h : i < 16), (0xff#16)[i] = decide (i < 8) := by decide

lemma getLsbD_ff32 : ∀ i < 32, (0xff#32).getLsbD i = decide (i < 8) := by decide

/-- The two halves make the register, whatever it held. -/
lemma writeHalf_writeHalf (x base : BitVec 16) :
    writeHalf True (highHalf x) (writeHalf False (lowHalf x) base) = x := by
  rw [writeHalf, if_pos trivial, writeHalf, if_neg not_false]
  apply BitVec.eq_of_getLsbD_eq
  intro i hi
  by_cases h : i < 8
  · simp [highHalf, lowHalf, getElem_ff16 i hi, h, hi]
  · have hlow : i - 8 < 8 := by omega
    have hback : 8 + (i - 8) = i := by omega
    have hbound : i - 8 < 16 := by omega
    simp [highHalf, lowHalf, getElem_ff16 i hi, getElem_ff16 (i - 8) hbound, h, hi, hlow, hback,
      hbound]

lemma readHalf_low (x : BitVec 16) : readHalf False x = lowHalf x := by
  rw [readHalf, if_neg not_false]
  apply BitVec.eq_of_getLsbD_eq
  intro i hi
  by_cases h : i < 8
  · simp [lowHalf, getLsbD_ff32 i hi, h]
  · simp [lowHalf, getLsbD_ff32 i hi, h]

lemma readHalf_high (x : BitVec 16) : readHalf True x = highHalf x := by
  rw [readHalf, if_pos trivial]
  have hlow := readHalf_low (x >>> 8)
  rw [readHalf, if_neg not_false] at hlow
  exact hlow

section Turns

variable {p : Prop} [Decidable p] {value : BitVec 32} {x : BitVec 16}

lemma writeHalf_of_low (h : ¬ p) : writeHalf p value x = writeHalf False value x := by
  rw [writeHalf, writeHalf, if_neg h, if_neg not_false]

lemma writeHalf_of_high (h : p) : writeHalf p value x = writeHalf True value x := by
  rw [writeHalf, writeHalf, if_pos h, if_pos trivial]

lemma readHalf_of_low (h : ¬ p) : readHalf p x = lowHalf x := by
  rw [← readHalf_low, readHalf, readHalf, if_neg h, if_neg not_false]

lemma readHalf_of_high (h : p) : readHalf p x = highHalf x := by
  rw [← readHalf_high, readHalf, readHalf, if_pos h, if_pos trivial]

end Turns

/-! ## A channel that is programmed -/

namespace DmaController

variable {c : DmaController} {channel : Fin 4} {value : BitVec 32}

lemma writeAddress_low (h : c.flipFlop = 0) :
    c.writeAddress channel value =
      { c.setChannel channel { c.channels channel with
          baseAddressRegister := writeHalf False value (c.channels channel).baseAddressRegister
          currentAddressRegister := writeHalf False value (c.channels channel).baseAddressRegister }
        with flipFlop := 1 } := by
  unfold writeAddress
  dsimp only
  rw [if_neg (not_not_intro h), writeHalf_of_low (not_not_intro h), flip]
  unfold setChannel
  dsimp only
  rw [if_pos h]

lemma writeAddress_high (h : c.flipFlop ≠ 0) :
    c.writeAddress channel value =
      { c.setChannel channel { c.channels channel with
          baseAddressRegister := writeHalf True value (c.channels channel).baseAddressRegister
          currentAddressRegister := writeHalf True value (c.channels channel).baseAddressRegister
          currentCountRegister := 0 }
        with flipFlop := 0 } := by
  unfold writeAddress
  dsimp only
  rw [if_pos h, writeHalf_of_high h, flip]
  unfold setChannel
  dsimp only
  rw [if_neg h]

lemma writeCount_low (h : c.flipFlop = 0) :
    c.writeCount channel value =
      { c.setChannel channel { c.channels channel with
          baseCountRegister := writeHalf False value (c.channels channel).baseCountRegister
          currentCountRegister := writeHalf False value (c.channels channel).baseCountRegister }
        with flipFlop := 1 } := by
  unfold writeCount
  dsimp only
  rw [if_neg (not_not_intro h), writeHalf_of_low (not_not_intro h), flip]
  unfold setChannel
  dsimp only
  rw [if_pos h]

lemma writeCount_high (h : c.flipFlop ≠ 0) :
    c.writeCount channel value =
      { c.setChannel channel { c.channels channel with
          baseCountRegister := writeHalf True value (c.channels channel).baseCountRegister
          currentCountRegister := writeHalf True value (c.channels channel).baseCountRegister
          currentAddressRegister := (c.channels channel).baseAddressRegister }
        with flipFlop := 0 } := by
  unfold writeCount
  dsimp only
  rw [if_pos h, writeHalf_of_high h, flip]
  unfold setChannel
  dsimp only
  rw [if_neg h]

/-- The address written as a whole: the current count is cleared. -/
def programAddress (channel : Fin 4) (x : BitVec 16) (c : DmaController) : DmaController :=
  { c.setChannel channel { c.channels channel with
      baseAddressRegister := x, currentAddressRegister := x, currentCountRegister := 0 }
    with flipFlop := 0 }

/-- The count written as a whole: the current address is the base address again. -/
def programCount (channel : Fin 4) (x : BitVec 16) (c : DmaController) : DmaController :=
  { c.setChannel channel { c.channels channel with
      baseCountRegister := x, currentCountRegister := x
      currentAddressRegister := (c.channels channel).baseAddressRegister }
    with flipFlop := 0 }

lemma writeAddress_writeAddress (hlow : c.flipFlop = 0) (x : BitVec 16) :
    (c.writeAddress channel (lowHalf x)).writeAddress channel (highHalf x) =
      c.programAddress channel x := by
  rw [writeAddress_low hlow, writeAddress_high (show (1 : BitVec 8) ≠ 0 by decide)]
  unfold setChannel programAddress setChannel
  dsimp only
  rw [Function.update_self, Function.update_idem]
  dsimp only
  rw [writeHalf_writeHalf]

lemma writeCount_writeCount (hlow : c.flipFlop = 0) (x : BitVec 16) :
    (c.writeCount channel (lowHalf x)).writeCount channel (highHalf x) =
      c.programCount channel x := by
  rw [writeCount_low hlow, writeCount_high (show (1 : BitVec 8) ≠ 0 by decide)]
  unfold setChannel programCount setChannel
  dsimp only
  rw [Function.update_self, Function.update_idem]
  dsimp only
  rw [writeHalf_writeHalf]

lemma channels_programAddress (x : BitVec 16) :
    (c.programAddress channel x).channels channel = { c.channels channel with
      baseAddressRegister := x, currentAddressRegister := x, currentCountRegister := 0 } :=
  Function.update_self ..

lemma channels_programCount (x : BitVec 16) :
    (c.programCount channel x).channels channel = { c.channels channel with
      baseCountRegister := x, currentCountRegister := x
      currentAddressRegister := (c.channels channel).baseAddressRegister } :=
  Function.update_self ..

end DmaController

section Program

variable {n : Fin 2} {channel : Fin 4} {d : Dma}

lemma Dma.modifyController_congr {f g : DmaController → DmaController}
    (h : f (d.controller n) = g (d.controller n)) :
    d.modifyController n f = d.modifyController n g := by
  unfold Dma.modifyController
  rw [h]

lemma run_writeAddress (hclear : (d.controller n).flipFlop = 0) (x : BitVec 16) :
    run dmaStep d (dmaWriteHalves (dmaAddressPort n channel) x) =
      .ok (d.modifyController n (DmaController.programAddress channel x)) := by
  show (dmaPortIoWriteHandler (dmaAddressPort n channel) (lowHalf x) d >>= fun t =>
    dmaPortIoWriteHandler (dmaAddressPort n channel) (highHalf x) t >>= fun u => .ok u) = _
  rw [write_dmaAddressPort, ok_bind, write_dmaAddressPort, ok_bind,
    Dma.modifyController_modifyController]
  exact congrArg _ (Dma.modifyController_congr (DmaController.writeAddress_writeAddress hclear x))

lemma run_writeCount (hclear : (d.controller n).flipFlop = 0) (x : BitVec 16) :
    run dmaStep d (dmaWriteHalves (dmaCountPort n channel) x) =
      .ok (d.modifyController n (DmaController.programCount channel x)) := by
  show (dmaPortIoWriteHandler (dmaCountPort n channel) (lowHalf x) d >>= fun t =>
    dmaPortIoWriteHandler (dmaCountPort n channel) (highHalf x) t >>= fun u => .ok u) = _
  rw [write_dmaCountPort, ok_bind, write_dmaCountPort, ok_bind,
    Dma.modifyController_modifyController]
  exact congrArg _ (Dma.modifyController_congr (DmaController.writeCount_writeCount hclear x))

/-- The channel after the four writes. -/
lemma run_dmaProgram (hclear : (d.controller n).flipFlop = 0) (address count : BitVec 16)
    (addressFirst : Bool) :
    ∃ t, run dmaStep d (dmaProgram n channel address count addressFirst) = .ok t ∧
      (t.controller n).flipFlop = 0 ∧
      (t.controller n).channels channel = { (d.controller n).channels channel with
        baseAddressRegister := address, currentAddressRegister := address
        baseCountRegister := count
        currentCountRegister := if addressFirst then count else 0 } := by
  cases addressFirst with
  | true =>
      refine ⟨(d.modifyController n (.programAddress channel address)).modifyController n
        (.programCount channel count),
        run_append_ok.mpr ⟨_, run_writeAddress hclear address, run_writeCount ?_ count⟩, ?_, ?_⟩
      · rw [Dma.controller_modifyController]
        rfl
      · rw [Dma.controller_modifyController]
        rfl
      · rw [Dma.controller_modifyController, DmaController.channels_programCount,
          Dma.controller_modifyController, DmaController.channels_programAddress]
        rfl
  | false =>
      refine ⟨(d.modifyController n (.programCount channel count)).modifyController n
        (.programAddress channel address),
        run_append_ok.mpr ⟨_, run_writeCount hclear count, run_writeAddress ?_ address⟩, ?_, ?_⟩
      · rw [Dma.controller_modifyController]
        rfl
      · rw [Dma.controller_modifyController]
        rfl
      · rw [Dma.controller_modifyController, DmaController.channels_programAddress,
          Dma.controller_modifyController, DmaController.channels_programCount]
        rfl

/-- Two reads put the flip-flop back. -/
lemma modifyController_flip_flip (hclear : (d.controller n).flipFlop = 0) :
    (d.modifyController n DmaController.flip).modifyController n DmaController.flip = d := by
  rw [Dma.modifyController_modifyController]
  have hflip : (DmaController.flip ∘ DmaController.flip) (d.controller n) = d.controller n := by
    unfold DmaController.flip
    dsimp only [Function.comp_apply]
    rw [if_pos hclear, if_neg (by decide), ← hclear]
  unfold Dma.modifyController
  rw [hflip, Function.update_eq_self]

/-- A port that shows a register of the channel by halves gives both of them in two reads. -/
lemma dmaReadHalves_of {port : BitVec 64} {register : DmaChannel → BitVec 16}
    (hread : ∀ d : Dma, dmaPortIoReadHandler port d =
      .ok (readHalf ((d.controller n).flipFlop ≠ 0) (register ((d.controller n).channels channel)),
        d.modifyController n DmaController.flip))
    (hclear : (d.controller n).flipFlop = 0) :
    dmaReadHalves port d =
      .ok (lowHalf (register ((d.controller n).channels channel)),
        highHalf (register ((d.controller n).channels channel)), d) := by
  have hset : ((d.modifyController n DmaController.flip).controller n).flipFlop ≠ 0 := by
    rw [Dma.controller_modifyController, DmaController.flip]
    dsimp only
    rw [if_pos hclear]
    decide
  have hkept : ((d.modifyController n DmaController.flip).controller n).channels channel =
      (d.controller n).channels channel := by
    rw [Dma.controller_modifyController]
    rfl
  unfold dmaReadHalves
  rw [hread, ok_bind]
  dsimp only
  rw [hread, ok_bind, readHalf_of_low (not_not_intro hclear), readHalf_of_high hset, hkept,
    modifyController_flip_flip hclear]
  rfl

/-- Whatever the channel held, it is programmed and read back exactly if the address is written
first, or the count is zero. -/
theorem dma_channel_programmed_iff (n : Fin 2) (channel : Fin 4) (address count : BitVec 16)
    (addressFirst : Bool) (d : Dma) (hclear : (d.controller n).flipFlop = 0) :
    ProgramsChannel n channel address count addressFirst d ↔ addressFirst = true ∨ count = 0 := by
  obtain ⟨t, hrun, -, hchannel⟩ :=
    @run_dmaProgram n channel d hclear address count addressFirst
  constructor
  · rintro ⟨t', hrun', ⟨-, -, -, hcount⟩, -⟩
    obtain rfl := Except.ok.inj (hrun.symm.trans hrun')
    rw [hchannel] at hcount
    cases addressFirst with
    | true => exact Or.inl rfl
    | false => exact Or.inr hcount.symm
  · intro h
    have hcurrent : (if addressFirst then count else 0) = count := by
      rcases h with rfl | rfl
      · rfl
      · exact ite_self 0
    rw [hcurrent] at hchannel
    refine ⟨t, hrun, ?_⟩
    dsimp only
    rw [hchannel]
    refine ⟨⟨rfl, rfl, rfl, rfl⟩, fun value => ⟨_, write_dmaFlipFlopPort, ?_, ?_⟩⟩
    · have hreads := @dmaReadHalves_of n channel
        (t.modifyController n fun c => { c with flipFlop := 0 }) _
        DmaChannel.currentAddressRegister (fun d => read_dmaAddressPort)
        (by rw [Dma.controller_modifyController])
      rw [hreads, Dma.controller_modifyController, hchannel]
    · have hreads := @dmaReadHalves_of n channel
        (t.modifyController n fun c => { c with flipFlop := 0 }) _
        DmaChannel.baseCountRegister (fun d => read_dmaCountPort)
        (by rw [Dma.controller_modifyController])
      rw [hreads, Dma.controller_modifyController, hchannel]

/-- Channel 2 for the floppy disk: a sector at 0x1234, the address first. -/
theorem dma_channel_programmed_sector :
    ProgramsChannel 0 2 0x1234 511 true dmaInitialize :=
  (dma_channel_programmed_iff 0 2 0x1234 511 true dmaInitialize (by rfl)).mpr (Or.inl rfl)

/-- The same with the count first: the current count is lost. -/
theorem dma_count_first_lost :
    (∃ t, run dmaStep dmaInitialize (dmaProgram 0 2 0x1234 511 false) = .ok t ∧
      ((t.controller 0).channels 2).baseCountRegister = 511 ∧
      ((t.controller 0).channels 2).currentCountRegister = 0) ∧
    ¬ ProgramsChannel 0 2 0x1234 511 false dmaInitialize := by
  obtain ⟨t, hrun, -, hchannel⟩ :=
    @run_dmaProgram 0 2 dmaInitialize rfl 0x1234 511 false
  refine ⟨⟨t, hrun, ?_, ?_⟩, ?_⟩
  · rw [hchannel]
  · rw [hchannel]
    rfl
  · rintro ⟨t', hrun', ⟨-, -, -, hcount⟩, -⟩
    obtain rfl := Except.ok.inj (hrun.symm.trans hrun')
    rw [hchannel] at hcount
    exact absurd hcount (by decide)

end Program

end Svmm
