import Svmm.Framework.Word

/-!
# The DMA controllers

`dma.c`: two cascaded controllers of four channels each, their ports, and the request line that the
second one holds to the processor.  The handlers of transfers and `DmaRaiseHoldAcknowledge`, which
calls them, are left out with the fields that only they use.
-/

namespace Svmm

/-! ## State -/

/-- `CMD_DISABLE`. -/
def cmdDisable : BitVec 8 := 0x04

/-- `EVENT_DMA` is this bit of `svmm_events`. -/
def eventDma : ℕ := 15

/-- `DMA_CHANNEL`. -/
structure DmaChannel where
  currentAddressRegister : BitVec 16
  currentCountRegister : BitVec 16
  baseAddressRegister : BitVec 16
  baseCountRegister : BitVec 16
  modeRegister : BitVec 8
  maskRegister : BitVec 8
  pageRegisters : BitVec 8
  hiPageRegisters : BitVec 8
  deriving DecidableEq

/-- `DMA_CONTROLLER`. -/
structure DmaController where
  statusRegister : BitVec 8
  commandRegister : BitVec 8
  flipFlop : BitVec 8
  channels : Fin 4 → DmaChannel

/-- `Dma`, `svmm_events` and `kvm_run->user_event_pending`. -/
structure Dma where
  controller : Fin 2 → DmaController
  svmmEvents : BitVec 32
  userEventPending : BitVec 8

/-- An index of `Channels` outside of the array. -/
inductive DmaFault where
  | noChannel
  deriving DecidableEq, Repr

abbrev DmaOutcome := Except DmaFault

namespace Dma

def modifyController (n : Fin 2) (f : DmaController → DmaController) (d : Dma) : Dma :=
  { d with controller := Function.update d.controller n (f (d.controller n)) }

def modifyChannel (n : Fin 2) (channel : Fin 4) (f : DmaChannel → DmaChannel) (d : Dma) : Dma :=
  d.modifyController n fun c =>
    { c with channels := Function.update c.channels channel (f (c.channels channel)) }

/-- `StatusRegister |= (1 << (Channel + 4))`, or `&= ~`. -/
def request (n : Fin 2) (channel : Fin 4) (value : Prop) [Decidable value] (d : Dma) : Dma :=
  d.modifyController n fun c => { c with
    statusRegister :=
      if value then Word.set c.statusRegister (channel + 4)
      else Word.clear c.statusRegister (channel + 4) }

/-- `MaskRegister`, of every channel. -/
def setMasks (n : Fin 2) (mask : Fin 4 → BitVec 8) (d : Dma) : Dma :=
  d.modifyController n fun c =>
    { c with channels := fun i => { c.channels i with maskRegister := mask i } }

end Dma

/-! ## The request line -/

/-- A channel is requested and not masked: the loop of `DmaControlHoldRequestLine` finds one. -/
def DmaController.Pending (c : DmaController) : Prop :=
  ∃ i : Fin 4, Word.has c.statusRegister (i + 4) = true ∧ (c.channels i).maskRegister = 0

instance (c : DmaController) : Decidable c.Pending := by
  unfold DmaController.Pending
  infer_instance

/-- `DmaControlHoldRequestLine`, by what it does to raise and to lower the line. -/
def dmaControlLine (n : Fin 2) (raise lower : Dma → Dma) (d : Dma) : Dma :=
  let c := d.controller n
  if c.statusRegister &&& cmdDisable ≠ 0 then d
  else if c.statusRegister &&& 0xf0 = 0 then lower d
  else if c.Pending then raise d
  else d

/-- `DmaControlHoldRequestLine(1)`. -/
def dmaControlSecond (d : Dma) : Dma :=
  dmaControlLine 1
    (fun d => { d with userEventPending := 1, svmmEvents := Word.set d.svmmEvents eventDma })
    (fun d => { d with userEventPending := 0, svmmEvents := Word.clear d.svmmEvents eventDma }) d

/-- `DmaSetHoldRequest(4, Value)`. -/
def dmaCascade (value : Prop) [Decidable value] (d : Dma) : Dma :=
  dmaControlSecond (d.request 1 0 value)

/-- `DmaControlHoldRequestLine`. -/
def dmaControlHoldRequestLine (n : Fin 2) (d : Dma) : Dma :=
  if n ≠ 0 then dmaControlSecond d else dmaControlLine 0 (dmaCascade True) (dmaCascade False) d

/-- `DmaSetHoldRequest`. -/
def dmaSetHoldRequest (channel : BitVec 32) (value : BitVec 8) (d : Dma) : Dma :=
  if 7 < channel then d
  else
    let n : Fin 2 := if channel < 4 then 0 else 1
    dmaControlHoldRequestLine n (d.request n (Fin.ofNat 4 channel.toNat) (value ≠ 0))

/-! ## Channels of ports -/

/-- `DmaChannelPage`. -/
def dmaChannelPage : List ℕ := [2, 3, 1, 0, 0, 0, 0]

/-- `DmaChannelHipage`. -/
def dmaChannelHipage : List ℕ := [0, 0, 0, 2, 3, 4, 0]

/-- `Channels[Table[Index]]`. -/
def dmaTableChannel (table : List ℕ) (index : BitVec 64) : DmaOutcome (Fin 4) :=
  match table[index.toNat]? with
  | some channel => if h : channel < 4 then .ok ⟨channel, h⟩ else .error .noChannel
  | none => .error .noChannel

/-- `DmaNumber`. -/
def dmaNumber (address : BitVec 64) : Fin 2 := if 0xc0 ≤ address then 1 else 0

/-- `Channel = (Address >> (1 + DmaNumber)) & 0x03`. -/
def dmaPortChannel (address : BitVec 64) : Fin 4 :=
  Fin.ofNat 4 (address >>> (1 + (dmaNumber address).val)).toNat

/-- `Channel = Value & 0x03`. -/
def dmaValueChannel (value : BitVec 32) : Fin 4 := Fin.ofNat 4 value.toNat

/-- `(Value & 0x04) > 0`. -/
def dmaMask (value : BitVec 32) : BitVec 8 := if value &&& 0x04 ≠ 0 then 1 else 0

def dmaAddressPorts : List (BitVec 64) := [0x00, 0x02, 0x04, 0x06, 0xc0, 0xc4, 0xc8, 0xcc]

def dmaCountPorts : List (BitVec 64) := [0x01, 0x03, 0x05, 0x07, 0xc2, 0xc6, 0xca, 0xce]

/-- The page registers of the two controllers. -/
def dmaPagePorts : Fin 2 → List (BitVec 64)
  | 0 => [0x81, 0x82, 0x83, 0x87]
  | 1 => [0x89, 0x8a, 0x8b, 0x8f]

/-- The high page registers of the two controllers. -/
def dmaHiPagePorts : Fin 2 → List (BitVec 64)
  | 0 => [0x80, 0x84, 0x85, 0x86]
  | 1 => [0x88, 0x8c, 0x8d, 0x8e]

/-! ## Halves of registers -/

/-- `!FlipFlop`. -/
def DmaController.flip (c : DmaController) : DmaController :=
  { c with flipFlop := if c.flipFlop = 0 then 1 else 0 }

/-- A register with a byte written to its low or its high half; a low byte shifts the other up. -/
def writeHalf (high : Prop) [Decidable high] (value : BitVec 32) (register : BitVec 16) :
    BitVec 16 :=
  if high then (value &&& 0xff).setWidth 16 <<< 8 ||| register &&& 0xff
  else (value &&& 0xff).setWidth 16 ||| register <<< 8

/-- The low or the high half of a register. -/
def readHalf (high : Prop) [Decidable high] (register : BitVec 16) : BitVec 32 :=
  if high then (register >>> 8 &&& 0xff).setWidth 32 else (register &&& 0xff).setWidth 32

namespace DmaController

variable (channel : Fin 4) (c : DmaController)

def setChannel (x : DmaChannel) : DmaController :=
  { c with channels := Function.update c.channels channel x }

/-- A write of the current address. -/
def writeAddress (value : BitVec 32) : DmaController :=
  let x := c.channels channel
  let base := writeHalf (c.flipFlop ≠ 0) value x.baseAddressRegister
  let x := { x with baseAddressRegister := base, currentAddressRegister := base }
  (c.setChannel channel <|
    if c.flipFlop ≠ 0 then { x with currentCountRegister := 0 } else x).flip

/-- A write of the current count. -/
def writeCount (value : BitVec 32) : DmaController :=
  let x := c.channels channel
  let base := writeHalf (c.flipFlop ≠ 0) value x.baseCountRegister
  let x := { x with baseCountRegister := base, currentCountRegister := base }
  (c.setChannel channel <|
    if c.flipFlop ≠ 0 then { x with currentAddressRegister := x.baseAddressRegister } else x).flip

/-- All mask bits. -/
def masks : BitVec 32 :=
  (c.channels 0).maskRegister.setWidth 32 ||| (c.channels 1).maskRegister.setWidth 32 <<< 1 |||
    (c.channels 2).maskRegister.setWidth 32 <<< 2 ||| (c.channels 3).maskRegister.setWidth 32 <<< 3

end DmaController

/-! ## The ports -/

/-- `DmaPortIoReadHandler`. -/
def dmaPortIoReadHandler (address : BitVec 64) (d : Dma) : DmaOutcome (BitVec 32 × Dma) :=
  let n := dmaNumber address
  let c := d.controller n
  let x := c.channels (dmaPortChannel address)
  if address ∈ dmaAddressPorts then
    .ok (readHalf (c.flipFlop ≠ 0) x.currentAddressRegister,
      d.modifyController n DmaController.flip)
  else if address ∈ dmaCountPorts then
    .ok (readHalf (c.flipFlop ≠ 0) x.baseCountRegister, d.modifyController n DmaController.flip)
  else if address = 0x08 ∨ address = 0xd0 then
    .ok (c.statusRegister.setWidth 32,
      d.modifyController n fun c => { c with statusRegister := c.statusRegister &&& 0xf0 })
  else if address ∈ dmaPagePorts 0 then do
    let channel ← dmaTableChannel dmaChannelPage (address - 0x81)
    return (((d.controller 0).channels channel).pageRegisters.setWidth 32, d)
  else if address ∈ dmaPagePorts 1 then do
    let channel ← dmaTableChannel dmaChannelPage (address - 0x89)
    return (((d.controller 1).channels channel).pageRegisters.setWidth 32, d)
  else if address ∈ dmaHiPagePorts 0 then do
    let channel ← dmaTableChannel dmaChannelHipage (address - 0x80)
    return (((d.controller 0).channels channel).hiPageRegisters.setWidth 32, d)
  else if address ∈ dmaHiPagePorts 1 then do
    let channel ← dmaTableChannel dmaChannelHipage (address - 0x88)
    return (((d.controller 1).channels channel).hiPageRegisters.setWidth 32, d)
  else if address = 0x0f ∨ address = 0xde then .ok (c.masks ||| 0xf0, d)
  -- the temporary registers, and other ports
  else .ok (0, d)

/-- `DmaPortIoWriteHandler`. -/
def dmaPortIoWriteHandler (address : BitVec 64) (value : BitVec 32) (d : Dma) : DmaOutcome Dma :=
  let n := dmaNumber address
  let byte := value.setWidth 8
  let setPage (n : Fin 2) (channel : Fin 4) : Dma :=
    d.modifyChannel n channel fun x => { x with pageRegisters := byte, hiPageRegisters := 0 }
  let setHiPage (n : Fin 2) (channel : Fin 4) : Dma :=
    d.modifyChannel n channel fun x => { x with hiPageRegisters := byte }
  if address ∈ dmaAddressPorts then
    .ok (d.modifyController n (DmaController.writeAddress (dmaPortChannel address) · value))
  else if address ∈ dmaCountPorts then
    .ok (d.modifyController n (DmaController.writeCount (dmaPortChannel address) · value))
  else if address = 0x08 ∨ address = 0xd0 then
    .ok (dmaControlHoldRequestLine n
      (d.modifyController n fun c => { c with commandRegister := byte }))
  else if address = 0x09 ∨ address = 0xd2 then
    .ok (dmaControlHoldRequestLine n
      (d.request n (dmaPortChannel address) (value &&& 0x04 ≠ 0)))
  else if address = 0x0a ∨ address = 0xd4 then
    .ok (dmaControlHoldRequestLine n
      (d.modifyChannel n (dmaValueChannel value) fun x =>
        { x with maskRegister := dmaMask value }))
  else if address = 0x0b ∨ address = 0xd6 then
    .ok (d.modifyChannel n (dmaValueChannel value) fun x => { x with modeRegister := byte })
  else if address = 0x0c ∨ address = 0xd8 then
    .ok (d.modifyController n fun c => { c with flipFlop := 0 })
  else if address = 0x0e ∨ address = 0xdc then
    .ok (dmaControlHoldRequestLine n (d.setMasks n fun _ => 0))
  else if address = 0x0f ∨ address = 0xde then
    .ok (dmaControlHoldRequestLine n (d.setMasks n fun _ => (value >>> 0 &&& 1).setWidth 8))
  else if address ∈ dmaPagePorts 0 then do
    return setPage 0 (← dmaTableChannel dmaChannelPage (address - 0x81))
  else if address ∈ dmaPagePorts 1 then do
    return setPage 1 (← dmaTableChannel dmaChannelPage (address - 0x89))
  else if address ∈ dmaHiPagePorts 0 then do
    return setHiPage 0 (← dmaTableChannel dmaChannelHipage (address - 0x80))
  else if address ∈ dmaHiPagePorts 1 then do
    return setHiPage 1 (← dmaTableChannel dmaChannelHipage (address - 0x88))
  else .ok d

/-- `DmaInitialize`. -/
def dmaInitialize : Dma where
  controller := fun _ =>
    { statusRegister := 0, commandRegister := 0, flipFlop := 0
      channels := fun _ => ⟨0, 0, 0, 0, 0, 0, 0, 0⟩ }
  svmmEvents := 0
  userEventPending := 0

/-! ## Runs -/

/-- What can happen to the controllers. -/
inductive DmaOp where
  | read (address : BitVec 64)
  | write (address : BitVec 64) (value : BitVec 32)
  /-- `DmaSetHoldRequest`. -/
  | setHoldRequest (channel : BitVec 32) (value : BitVec 8)

/-- One operation. -/
def dmaStep (d : Dma) : DmaOp → DmaOutcome Dma
  | .read address => do return (← dmaPortIoReadHandler address d).2
  | .write address value => dmaPortIoWriteHandler address value d
  | .setHoldRequest channel value => .ok (dmaSetHoldRequest channel value d)

end Svmm
