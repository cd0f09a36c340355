import Svmm.Properties.Dma.RequestLine

/-!
# Ports and their channels

What each port of the controllers is for, and which channel an access of it reaches.  The request
register takes the channel from the port, the masks are all set to bit 0, and `DmaChannelHipage` has
a channel of its own for one port only: two share channel 0, and one is given channel 4.
-/

namespace Svmm

open TransitionRun

/-! ## The ports -/

/-- A port of the controller `n`. -/
inductive DmaPort where
  | address (n : Fin 2) (channel : Fin 4)
  | count (n : Fin 2) (channel : Fin 4)
  /-- Command, and on reads status. -/
  | command (n : Fin 2)
  | request (n : Fin 2)
  | mask (n : Fin 2)
  | mode (n : Fin 2)
  | clearFlipFlop (n : Fin 2)
  | temporary (n : Fin 2)
  | clearMasks (n : Fin 2)
  | allMasks (n : Fin 2)
  | page (n : Fin 2) (channel : Fin 4)
  /-- The high page registers, in the order of their ports. -/
  | hiPage (n : Fin 2) (index : Fin 4)
  deriving DecidableEq

namespace DmaPort

/-- The port of the first or of the second controller. -/
def ofController (n : Fin 2) (first second : BitVec 64) : BitVec 64 :=
  if n = 0 then first else second

/-- The number of the port. -/
def number : DmaPort → BitVec 64
  | address n channel => dmaAddressPort n channel
  | count n channel => dmaCountPort n channel
  | command n => ofController n 0x08 0xd0
  | request n => ofController n 0x09 0xd2
  | mask n => ofController n 0x0a 0xd4
  | mode n => ofController n 0x0b 0xd6
  | clearFlipFlop n => ofController n 0x0c 0xd8
  | temporary n => ofController n 0x0d 0xda
  | clearMasks n => ofController n 0x0e 0xdc
  | allMasks n => ofController n 0x0f 0xde
  | page n 0 => ofController n 0x87 0x8f
  | page n 1 => ofController n 0x83 0x8b
  | page n 2 => ofController n 0x81 0x89
  | page n 3 => ofController n 0x82 0x8a
  | hiPage n 0 => ofController n 0x80 0x88
  | hiPage n 1 => ofController n 0x84 0x8c
  | hiPage n 2 => ofController n 0x85 0x8d
  | hiPage n 3 => ofController n 0x86 0x8e

end DmaPort

namespace Dma

/-- A channel of a controller. -/
def channel (d : Dma) (n : Fin 2) (i : Fin 4) : DmaChannel := (d.controller n).channels i

/-- Only a channel may differ. -/
def KeepsOthers (n : Fin 2) (channel : Fin 4) (d t : Dma) : Prop :=
  ∀ m i, (m, i) ≠ (n, channel) → t.channel m i = d.channel m i

/-- All channels are the same. -/
def KeepsChannels (d t : Dma) : Prop := ∀ m i, t.channel m i = d.channel m i

/-- Only the masks of a controller may differ. -/
def KeepsUnmasked (n : Fin 2) (d t : Dma) : Prop :=
  (∀ m ≠ n, ∀ i, t.channel m i = d.channel m i) ∧
    ∀ i, t.channel n i = { d.channel n i with maskRegister := (t.channel n i).maskRegister }

end Dma

/-! ## What a port is for -/

/-- The operation is a write of the port. -/
def DmaOp.Writes (p : DmaPort) : DmaOp → Prop
  | .write address _ => address = p.number
  | _ => False

/-- The port is read as the byte, whatever happened that wrote no port of `ps`. -/
def DmaPort.ReadsBack (p : DmaPort) (ps : List DmaPort) (byte : BitVec 8) (d : Dma) : Prop :=
  ∀ ops t, (∀ a ∈ ops, ∀ q ∈ ps, ¬ a.Writes q) → run dmaStep d ops = .ok t →
    ∃ u, dmaPortIoReadHandler p.number t = .ok (byte.setWidth 32, u)

/-- What a write of the value does. -/
def DmaPort.WriteActs (value : BitVec 32) (d t : Dma) : DmaPort → Prop
  | address n channel | count n channel => d.KeepsOthers n channel t
  | command _ | clearFlipFlop _ | temporary _ => d.KeepsChannels t
  | request n =>
      d.KeepsChannels t ∧ ∀ i : Fin 4, Word.has (t.controller n).statusRegister (i + 4) =
        if i = dmaValueChannel value then decide (value &&& 0x04 ≠ 0)
        else Word.has (d.controller n).statusRegister (i + 4)
  | mask n =>
      d.KeepsOthers n (dmaValueChannel value) t ∧
        t.channel n (dmaValueChannel value) =
          { d.channel n (dmaValueChannel value) with maskRegister := dmaMask value }
  | mode n =>
      d.KeepsOthers n (dmaValueChannel value) t ∧
        t.channel n (dmaValueChannel value) =
          { d.channel n (dmaValueChannel value) with modeRegister := value.setWidth 8 }
  | clearMasks n => d.KeepsUnmasked n t ∧ ∀ i, (t.channel n i).maskRegister = 0
  | allMasks n =>
      d.KeepsUnmasked n t ∧
        ∀ i : Fin 4, (t.channel n i).maskRegister = if Word.has value i then 1 else 0
  | page n channel =>
      d.KeepsOthers n channel t ∧
        (page n channel).ReadsBack [page n channel] (value.setWidth 8) t
  -- a write of the low page clears the high page
  | hiPage n index =>
      ∃ channel, d.KeepsOthers n channel t ∧
        (hiPage n index).ReadsBack [hiPage n index, page n channel] (value.setWidth 8) t

/-- Reads and writes of the port find a channel, the write acts on the channel that it is meant
for, and the read changes none. -/
def DmaPort.Acts (p : DmaPort) (value : BitVec 32) (d : Dma) : Prop :=
  (∃ t, dmaPortIoWriteHandler p.number value d = .ok t ∧ p.WriteActs value d t) ∧
    ∃ r t, dmaPortIoReadHandler p.number d = .ok (r, t) ∧ d.KeepsChannels t

/-- When it does: the channel of the value is 0, or the requests are the ones asked for; the masks
are all the same; the high page is that of channel 3. -/
def DmaPort.ActsWhen (value : BitVec 32) (d : Dma) : DmaPort → Prop
  | request n =>
      dmaValueChannel value = 0 ∨
        ∀ i : Fin 4, i = 0 ∨ i = dmaValueChannel value →
          Word.has (d.controller n).statusRegister (i + 4) = decide (value &&& 0x04 ≠ 0)
  | allMasks _ => ∀ i : Fin 4, Word.has value i = Word.has value 0
  | hiPage _ index => index = 1
  | _ => True

/-! ## Accesses of the ports -/

section Accesses

variable {n : Fin 2} {channel : Fin 4} {value : BitVec 32} {d : Dma}

lemma write_command : dmaPortIoWriteHandler (DmaPort.command n).number value d =
    .ok (dmaControlHoldRequestLine n
      (d.modifyController n fun c => { c with commandRegister := value.setWidth 8 })) := by
  match n with
  | 0 => rfl
  | 1 => rfl

/-- The request register is given channel 0 by its port. -/
lemma write_request : dmaPortIoWriteHandler (DmaPort.request n).number value d =
    .ok (dmaControlHoldRequestLine n (d.request n 0 (value &&& 0x04 ≠ 0))) := by
  match n with
  | 0 => rfl
  | 1 => rfl

lemma write_mask : dmaPortIoWriteHandler (DmaPort.mask n).number value d =
    .ok (dmaControlHoldRequestLine n
      (d.modifyChannel n (dmaValueChannel value) fun x =>
        { x with maskRegister := dmaMask value })) := by
  match n with
  | 0 => rfl
  | 1 => rfl

lemma write_mode : dmaPortIoWriteHandler (DmaPort.mode n).number value d =
    .ok (d.modifyChannel n (dmaValueChannel value) fun x =>
      { x with modeRegister := value.setWidth 8 }) := by
  match n with
  | 0 => rfl
  | 1 => rfl

lemma write_temporary : dmaPortIoWriteHandler (DmaPort.temporary n).number value d = .ok d := by
  match n with
  | 0 => rfl
  | 1 => rfl

lemma write_clearMasks : dmaPortIoWriteHandler (DmaPort.clearMasks n).number value d =
    .ok (dmaControlHoldRequestLine n (d.setMasks n fun _ => 0)) := by
  match n with
  | 0 => rfl
  | 1 => rfl

/-- All masks are set to bit 0. -/
lemma write_allMasks : dmaPortIoWriteHandler (DmaPort.allMasks n).number value d =
    .ok (dmaControlHoldRequestLine n
      (d.setMasks n fun _ => (value >>> 0 &&& 1).setWidth 8)) := by
  match n with
  | 0 => rfl
  | 1 => rfl

lemma write_page : dmaPortIoWriteHandler (DmaPort.page n channel).number value d =
    .ok (d.modifyChannel n channel fun x =>
      { x with pageRegisters := value.setWidth 8, hiPageRegisters := 0 }) := by
  match n, channel with
  | 0, 0 | 0, 1 | 0, 2 | 0, 3 => rfl
  | 1, 0 | 1, 1 | 1, 2 | 1, 3 => rfl

lemma read_page : dmaPortIoReadHandler (DmaPort.page n channel).number d =
    .ok ((d.channel n channel).pageRegisters.setWidth 32, d) := by
  match n, channel with
  | 0, 0 | 0, 1 | 0, 2 | 0, 3 => rfl
  | 1, 0 | 1, 1 | 1, 2 | 1, 3 => rfl

/-- The channel that `DmaChannelHipage` has for the port. -/
def hiPageChannel : Fin 4 → Option (Fin 4)
  | 0 => some 0
  | 1 => some 3
  | 2 => none
  | 3 => some 0

variable {index : Fin 4}

lemma write_hiPage (h : hiPageChannel index = some channel) :
    dmaPortIoWriteHandler (DmaPort.hiPage n index).number value d =
      .ok (d.modifyChannel n channel fun x => { x with hiPageRegisters := value.setWidth 8 }) := by
  match n, index, h with
  | 0, 0, rfl | 0, 1, rfl | 0, 3, rfl => rfl
  | 1, 0, rfl | 1, 1, rfl | 1, 3, rfl => rfl

/-- The third of the ports is given a channel 4. -/
lemma write_hiPage_two :
    dmaPortIoWriteHandler (DmaPort.hiPage n 2).number value d = .error .noChannel := by
  match n with
  | 0 => rfl
  | 1 => rfl

lemma read_hiPage (h : hiPageChannel index = some channel) :
    dmaPortIoReadHandler (DmaPort.hiPage n index).number d =
      .ok ((d.channel n channel).hiPageRegisters.setWidth 32, d) := by
  match n, index, h with
  | 0, 0, rfl | 0, 1, rfl | 0, 3, rfl => rfl
  | 1, 0, rfl | 1, 1, rfl | 1, 3, rfl => rfl

end Accesses

/-! ## Channels that are left alone -/

section Frames

variable {n : Fin 2} {i : Fin 4} {d t : Dma}

lemma channel_modifyChannel_of_ne {m : Fin 2} {j : Fin 4} {f : DmaChannel → DmaChannel}
    (h : (m, j) ≠ (n, i)) : (d.modifyChannel n i f).channel m j = d.channel m j := by
  unfold Dma.modifyChannel Dma.modifyController Dma.channel
  dsimp only
  by_cases hm : m = n
  · subst hm
    have hj : j ≠ i := fun hj => h (by rw [hj])
    rw [Function.update_self]
    exact Function.update_of_ne hj _ _
  · rw [Function.update_of_ne hm]

@[simp] lemma channel_modifyChannel {f : DmaChannel → DmaChannel} :
    (d.modifyChannel n i f).channel n i = f (d.channel n i) := by
  unfold Dma.modifyChannel Dma.modifyController Dma.channel
  dsimp only
  rw [Function.update_self]
  exact Function.update_self ..

lemma keepsOthers_modifyChannel {f : DmaChannel → DmaChannel} :
    d.KeepsOthers n i (d.modifyChannel n i f) := fun _ _ h => channel_modifyChannel_of_ne h

lemma channel_modifyController_of_ne {m : Fin 2} {f : DmaController → DmaController} (h : m ≠ n) :
    (d.modifyController n f).channel m i = d.channel m i := by
  unfold Dma.modifyController Dma.channel
  dsimp only
  rw [Function.update_of_ne h]

lemma channel_modifyController {f : DmaController → DmaController} :
    (d.modifyController n f).channel n i = (f (d.controller n)).channels i := by
  unfold Dma.channel
  rw [Dma.controller_modifyController]

lemma keepsChannels_modifyController {f : DmaController → DmaController}
    (h : ∀ c, (f c).channels = c.channels) : d.KeepsChannels (d.modifyController n f) := by
  intro m j
  by_cases hm : m = n
  · rw [hm, channel_modifyController, h]
    rfl
  · exact channel_modifyController_of_ne hm

lemma keepsChannels_request (channel : Fin 4) (p : Prop) [Decidable p] :
    d.KeepsChannels (d.request n channel p) :=
  keepsChannels_modifyController fun _ => rfl

lemma Dma.KeepsChannels.trans {e : Dma} (hd : d.KeepsChannels t) (ht : t.KeepsChannels e) :
    d.KeepsChannels e := fun m j => (ht m j).trans (hd m j)

/-- The line changes requests and the event only. -/
lemma keepsChannels_dmaControlSecond : d.KeepsChannels (dmaControlSecond d) := by
  intro m j
  unfold Dma.channel
  rw [controller_dmaControlSecond]

lemma keepsChannels_dmaCascade (p : Prop) [Decidable p] : d.KeepsChannels (dmaCascade p d) :=
  (keepsChannels_request 0 p).trans keepsChannels_dmaControlSecond

lemma keepsChannels_line : d.KeepsChannels (dmaControlHoldRequestLine n d) := by
  unfold dmaControlHoldRequestLine dmaControlLine
  dsimp only
  split_ifs
  · exact keepsChannels_dmaControlSecond
  · exact fun _ _ => rfl
  · exact keepsChannels_dmaCascade False
  · exact keepsChannels_dmaCascade True
  · exact fun _ _ => rfl

/-- The line of a controller leaves its own registers. -/
lemma controller_line : (dmaControlHoldRequestLine n d).controller n = d.controller n := by
  have hcascade : ∀ (p : Prop) [Decidable p], (dmaCascade p d).controller 0 = d.controller 0 := by
    intro p _
    unfold dmaCascade
    rw [controller_dmaControlSecond]
    exact (storesIn_request 0 p).other 0 (by decide)
  match n with
  | 0 =>
      show (dmaControlLine 0 (dmaCascade True) (dmaCascade False) d).controller 0 = _
      unfold dmaControlLine
      dsimp only
      split_ifs
      · rfl
      · exact hcascade False
      · exact hcascade True
      · rfl
  | 1 => exact congrFun controller_dmaControlSecond 1

lemma keepsChannels_of_read {address : BitVec 64} {r : BitVec 32}
    (h : dmaPortIoReadHandler address d = .ok (r, t)) : d.KeepsChannels t := by
  obtain rfl | rfl | rfl := dmaPortIoReadHandler_cases h
  · exact fun _ _ => rfl
  · exact keepsChannels_modifyController fun _ => rfl
  · exact keepsChannels_modifyController fun _ => rfl

lemma keepsChannels_dmaSetHoldRequest {channel : BitVec 32} {value : BitVec 8} :
    d.KeepsChannels (dmaSetHoldRequest channel value d) := by
  unfold dmaSetHoldRequest
  dsimp only
  split_ifs
  · exact fun _ _ => rfl
  · exact (keepsChannels_request _ _).trans keepsChannels_line
  · exact (keepsChannels_request _ _).trans keepsChannels_line

end Frames

/-! ## Page registers -/

section Pages

variable {n : Fin 2} {i : Fin 4} {d t : Dma} {address : BitVec 64} {value : BitVec 32}

/-- The page registers of a channel. -/
def DmaChannel.pages (x : DmaChannel) : BitVec 8 × BitVec 8 := (x.pageRegisters, x.hiPageRegisters)

/-- All page registers are the same. -/
def Dma.KeepsPages (d t : Dma) : Prop := ∀ n i, (t.channel n i).pages = (d.channel n i).pages

lemma Dma.KeepsChannels.keepsPages (h : d.KeepsChannels t) : d.KeepsPages t := by
  intro n i
  rw [h]

lemma keepsPages_modifyController {f : DmaController → DmaController}
    (h : ∀ i, ((f (d.controller n)).channels i).pages = (d.channel n i).pages) :
    d.KeepsPages (d.modifyController n f) := by
  intro m i
  by_cases hm : m = n
  · rw [hm, channel_modifyController]
    exact h i
  · rw [channel_modifyController_of_ne hm]

lemma keepsPages_modifyChannel {f : DmaChannel → DmaChannel}
    (h : ∀ x, (f x).pages = x.pages) : d.KeepsPages (d.modifyChannel n i f) := by
  intro m j
  by_cases hm : (m, j) = (n, i)
  · obtain ⟨rfl, rfl⟩ := Prod.mk.inj hm
    rw [channel_modifyChannel]
    exact h _
  · rw [channel_modifyChannel_of_ne hm]

lemma keepsPages_setMasks (mask : Fin 4 → BitVec 8) : d.KeepsPages (d.setMasks n mask) :=
  keepsPages_modifyController fun _ => rfl

lemma Dma.KeepsPages.line (h : d.KeepsPages t) : d.KeepsPages (dmaControlHoldRequestLine n t) := by
  intro m j
  rw [keepsChannels_line]
  exact h m j

lemma page_number_of_mem (h : address ∈ dmaPagePorts n) :
    ∃ i, address = (DmaPort.page n i).number := by
  match n with
  | 0 | 1 =>
      simp only [dmaPagePorts, List.mem_cons, List.not_mem_nil, or_false] at h
      obtain rfl | rfl | rfl | rfl := h
      · exact ⟨2, rfl⟩
      · exact ⟨3, rfl⟩
      · exact ⟨1, rfl⟩
      · exact ⟨0, rfl⟩

lemma hiPage_number_of_mem (h : address ∈ dmaHiPagePorts n) :
    ∃ index, address = (DmaPort.hiPage n index).number := by
  match n with
  | 0 | 1 =>
      simp only [dmaHiPagePorts, List.mem_cons, List.not_mem_nil, or_false] at h
      obtain rfl | rfl | rfl | rfl := h
      · exact ⟨0, rfl⟩
      · exact ⟨1, rfl⟩
      · exact ⟨2, rfl⟩
      · exact ⟨3, rfl⟩

/-- A write of a port that is no page register. -/
lemma keepsPages_of_write (hpage : ∀ n i, address ≠ (DmaPort.page n i).number)
    (hhigh : ∀ n index, address ≠ (DmaPort.hiPage n index).number)
    (h : dmaPortIoWriteHandler address value d = .ok t) : d.KeepsPages t := by
  have hnopage : ∀ n, address ∉ dmaPagePorts n := fun n hmem => by
    obtain ⟨i, hi⟩ := page_number_of_mem hmem
    exact hpage n i hi
  have hnohigh : ∀ n, address ∉ dmaHiPagePorts n := fun n hmem => by
    obtain ⟨index, hindex⟩ := hiPage_number_of_mem hmem
    exact hhigh n index hindex
  unfold dmaPortIoWriteHandler at h
  dsimp only at h
  rw [if_neg (hnopage 0), if_neg (hnopage 1), if_neg (hnohigh 0), if_neg (hnohigh 1)] at h
  split_ifs at h
  all_goals rw [← Except.ok.inj h]
  · refine keepsPages_modifyController fun i => setChannel_keeps DmaChannel.pages ?_ i
    split <;> rfl
  · refine keepsPages_modifyController fun i => setChannel_keeps DmaChannel.pages ?_ i
    split <;> rfl
  · exact .line (keepsPages_modifyController fun _ => rfl)
  · exact .line (keepsChannels_request _ _).keepsPages
  · exact .line (keepsPages_modifyChannel fun _ => rfl)
  · exact keepsPages_modifyChannel fun _ => rfl
  · exact keepsPages_modifyController fun _ => rfl
  · exact .line (keepsPages_setMasks _)
  · exact .line (keepsPages_setMasks _)
  · exact fun _ _ => rfl

/-- What a step does to the page registers. -/
lemma pages_dmaStep {a : DmaOp} (h : dmaStep d a = .ok t) :
    d.KeepsPages t ∨
      (∃ n i value, a.Writes (.page n i) ∧ t = d.modifyChannel n i fun x =>
        { x with pageRegisters := value, hiPageRegisters := 0 }) ∨
      ∃ n i index value, a.Writes (.hiPage n index) ∧ hiPageChannel index = some i ∧
        t = d.modifyChannel n i fun x => { x with hiPageRegisters := value } := by
  cases a with
  | read address =>
      obtain ⟨⟨r, u⟩, hread, hu⟩ := bind_eq_ok.mp h
      obtain rfl : u = t := Except.ok.inj hu
      exact .inl (keepsChannels_of_read hread).keepsPages
  | setHoldRequest channel value =>
      rw [← Except.ok.inj h]
      exact .inl keepsChannels_dmaSetHoldRequest.keepsPages
  | write address value =>
      by_cases hpage : ∃ n i, address = (DmaPort.page n i).number
      · obtain ⟨n, i, rfl⟩ := hpage
        exact .inr (.inl ⟨n, i, _, rfl, (Except.ok.inj (write_page.symm.trans h)).symm⟩)
      by_cases hhigh : ∃ n index, address = (DmaPort.hiPage n index).number
      · obtain ⟨n, index, rfl⟩ := hhigh
        cases hchannel : hiPageChannel index with
        | none =>
            have htwo : ∀ index, hiPageChannel index = none → index = 2 := by decide
            obtain rfl := htwo index hchannel
            cases write_hiPage_two.symm.trans h
        | some i =>
            exact .inr (.inr ⟨n, i, index, _, rfl, hchannel,
              (Except.ok.inj ((write_hiPage hchannel).symm.trans h)).symm⟩)
      · push Not at hpage hhigh
        exact .inl (keepsPages_of_write hpage hhigh h)

/-- A page port reads back what was written last. -/
lemma page_readsBack {byte : BitVec 8} (hbyte : (d.channel n i).pageRegisters = byte) :
    (DmaPort.page n i).ReadsBack [.page n i] byte d := by
  intro ops t hops hrun
  have hkept : (t.channel n i).pageRegisters = byte := by
    refine run_invariant (I := fun d => (d.channel n i).pageRegisters = byte)
      (P := fun _ a => ¬ a.Writes (.page n i)) ?_ hbyte ?_ hrun
    · intro d a t hd ha h
      obtain hpages | ⟨m, j, value, hwrites, rfl⟩ | ⟨m, j, index, value, -, -, rfl⟩ :=
        pages_dmaStep h
      · exact (congrArg Prod.fst (hpages n i)).trans hd
      · have hne : (n, i) ≠ (m, j) := by
          intro heq
          obtain ⟨rfl, rfl⟩ := Prod.mk.inj heq
          exact ha hwrites
        rw [channel_modifyChannel_of_ne hne]
        exact hd
      · by_cases heq : (n, i) = (m, j)
        · obtain ⟨rfl, rfl⟩ := Prod.mk.inj heq
          rw [channel_modifyChannel]
          exact hd
        · rw [channel_modifyChannel_of_ne heq]
          exact hd
    · exact Meets.of_forall fun a ha => hops a ha _ (List.mem_singleton.mpr rfl)
  refine ⟨t, ?_⟩
  rw [read_page, hkept]

/-- The second high page port is the only one of its channel. -/
lemma hiPage_one_readsBack {byte : BitVec 8} (hbyte : (d.channel n 3).hiPageRegisters = byte) :
    (DmaPort.hiPage n 1).ReadsBack [.hiPage n 1, .page n 3] byte d := by
  intro ops t hops hrun
  have hkept : (t.channel n 3).hiPageRegisters = byte := by
    refine run_invariant (I := fun d => (d.channel n 3).hiPageRegisters = byte)
      (P := fun _ a => ¬ a.Writes (.hiPage n 1) ∧ ¬ a.Writes (.page n 3)) ?_ hbyte ?_ hrun
    · intro d a t hd ha h
      obtain hpages | ⟨m, j, value, hwrites, rfl⟩ | ⟨m, j, index, value, hwrites, hchannel, rfl⟩ :=
        pages_dmaStep h
      · exact (congrArg Prod.snd (hpages n 3)).trans hd
      · have hne : (n, 3) ≠ (m, j) := by
          intro heq
          obtain ⟨rfl, rfl⟩ := Prod.mk.inj heq
          exact ha.2 hwrites
        rw [channel_modifyChannel_of_ne hne]
        exact hd
      · have hone : ∀ index, hiPageChannel index = some 3 → index = 1 := by decide
        have hne : (n, 3) ≠ (m, j) := by
          intro heq
          obtain ⟨rfl, rfl⟩ := Prod.mk.inj heq
          obtain rfl := hone index hchannel
          exact ha.1 hwrites
        rw [channel_modifyChannel_of_ne hne]
        exact hd
    · exact Meets.of_forall fun a ha => ⟨hops a ha _ (by simp), hops a ha _ (by simp)⟩
  refine ⟨t, ?_⟩
  rw [read_hiPage (show hiPageChannel 1 = some 3 from rfl), hkept]

/-- Of two ports of one channel, neither reads back what was written to it. -/
lemma hiPage_not_readsBack {index other channel : Fin 4} {byte : BitVec 8} (hne : other ≠ index)
    (hindex : hiPageChannel index = some i) (hother : hiPageChannel other = some i) :
    ¬ (DmaPort.hiPage n index).ReadsBack [.hiPage n index, .page n channel] byte d := by
  intro hreads
  have hports : ∀ (n : Fin 2) (index other channel : Fin 4), other ≠ index →
      (DmaPort.hiPage n other).number ≠ (DmaPort.hiPage n index).number ∧
        (DmaPort.hiPage n other).number ≠ (DmaPort.page n channel).number := by
    decide
  have hbytes : ∀ byte : BitVec 8,
      (((byte ^^^ 1).setWidth 32).setWidth 8).setWidth 32 ≠ byte.setWidth 32 := by
    decide
  obtain ⟨hnot, hnopage⟩ := hports n index other channel hne
  have hops : ∀ a ∈ [DmaOp.write (DmaPort.hiPage n other).number ((byte ^^^ 1).setWidth 32)],
      ∀ q ∈ [DmaPort.hiPage n index, .page n channel], ¬ a.Writes q := by
    intro a ha q hq
    obtain rfl := List.mem_singleton.mp ha
    simp only [List.mem_cons, List.not_mem_nil, or_false] at hq
    obtain rfl | rfl := hq
    · exact hnot
    · exact hnopage
  obtain ⟨u, hu⟩ := hreads _ _ hops (run_cons_ok.mpr ⟨_, write_hiPage hother, rfl⟩)
  rw [read_hiPage hindex, channel_modifyChannel] at hu
  exact hbytes byte (Prod.mk.inj (Except.ok.inj hu)).1

end Pages

/-! ## The registers of a port -/

section Registers

variable {n : Fin 2} {i : Fin 4} {d t : Dma} {value : BitVec 32}

lemma has_statusRegister_request (j : Fin 4) (p : Prop) [Decidable p] (i : Fin 4) :
    Word.has ((d.request n j p).controller n).statusRegister (i + 4) =
      if i = j then decide p else Word.has (d.controller n).statusRegister (i + 4) := by
  have hlt : (i : ℕ) + 4 < 8 := by omega
  unfold Dma.request
  rw [Dma.controller_modifyController]
  dsimp only
  by_cases hp : p
  · rw [if_pos hp, Word.has_set]
    by_cases hi : i = j
    · subst hi
      simp [hp, hlt]
    · have hne : ¬ (j : ℕ) = i := fun h => hi (Fin.ext h.symm)
      simp [hi, hne]
  · rw [if_neg hp, Word.has_clear]
    by_cases hi : i = j
    · simp [hi, hp]
    · have hne : ¬ (j : ℕ) = i := fun h => hi (Fin.ext h.symm)
      simp [hi, hne]

lemma keepsOthers_modifyController {f : DmaController → DmaController}
    (h : ∀ j ≠ i, (f (d.controller n)).channels j = (d.controller n).channels j) :
    d.KeepsOthers n i (d.modifyController n f) := by
  intro m j hne
  by_cases hm : m = n
  · subst hm
    rw [channel_modifyController]
    exact h j fun hj => hne (by rw [hj])
  · exact channel_modifyController_of_ne hm

lemma Dma.KeepsOthers.line (h : d.KeepsOthers n i t) :
    d.KeepsOthers n i (dmaControlHoldRequestLine n t) := by
  intro m j hne
  rw [keepsChannels_line]
  exact h m j hne

lemma keepsUnmasked_setMasks (mask : Fin 4 → BitVec 8) :
    d.KeepsUnmasked n (dmaControlHoldRequestLine n (d.setMasks n mask)) := by
  unfold Dma.setMasks
  refine ⟨fun m hm i => ?_, fun i => ?_⟩
  · rw [keepsChannels_line]
    exact channel_modifyController_of_ne hm
  · rw [keepsChannels_line, channel_modifyController]
    rfl

lemma mask_setMasks (mask : Fin 4 → BitVec 8) :
    ((dmaControlHoldRequestLine n (d.setMasks n mask)).channel n i).maskRegister = mask i := by
  unfold Dma.setMasks
  rw [keepsChannels_line, channel_modifyController]

/-- Every port but the one with channel 4 can be read. -/
lemma exists_read (p : DmaPort) (h : ∀ n, p ≠ .hiPage n 2) :
    ∃ r t, dmaPortIoReadHandler p.number d = .ok (r, t) ∧ d.KeepsChannels t := by
  have hok : ∃ x, dmaPortIoReadHandler p.number d = .ok x := by
    cases p with
    | address n channel => exact ⟨_, read_dmaAddressPort⟩
    | count n channel => exact ⟨_, read_dmaCountPort⟩
    | page n channel => exact ⟨_, read_page⟩
    | hiPage n index =>
        cases hchannel : hiPageChannel index with
        | none =>
            have htwo : ∀ index, hiPageChannel index = none → index = 2 := by decide
            exact absurd (congrArg _ (htwo index hchannel)) (h n)
        | some i => exact ⟨_, read_hiPage hchannel⟩
    | command n | request n | mask n | mode n | clearFlipFlop n | temporary n | clearMasks n
    | allMasks n =>
        match n with
        | 0 => exact ⟨_, rfl⟩
        | 1 => exact ⟨_, rfl⟩
  obtain ⟨⟨r, t⟩, hread⟩ := hok
  exact ⟨r, t, hread, keepsChannels_of_read hread⟩

/-- The port acts exactly if its write does. -/
lemma acts_iff_of_write {p : DmaPort} (h : ∀ n, p ≠ .hiPage n 2)
    (hwrite : dmaPortIoWriteHandler p.number value d = .ok t) :
    p.Acts value d ↔ p.WriteActs value d t := by
  constructor
  · rintro ⟨⟨u, hu, hacts⟩, -⟩
    obtain rfl : t = u := Except.ok.inj (hwrite.symm.trans hu)
    exact hacts
  · intro hacts
    exact ⟨⟨t, hwrite, hacts⟩, exists_read p h⟩

/-- The request register acts on channel 0. -/
lemma request_acts_iff :
    (DmaPort.request n).Acts value d ↔ (DmaPort.request n).ActsWhen value d := by
  rw [acts_iff_of_write (by simp) write_request]
  dsimp only [DmaPort.WriteActs, DmaPort.ActsWhen]
  rw [and_iff_right ((keepsChannels_request _ _).trans keepsChannels_line), controller_line]
  simp only [has_statusRegister_request]
  constructor
  · intro h
    by_cases hvalue : dmaValueChannel value = 0
    · exact .inl hvalue
    · refine .inr fun i hi => ?_
      obtain rfl | rfl := hi
      · have hzero := h 0
        rw [if_pos rfl, if_neg (Ne.symm hvalue)] at hzero
        exact hzero.symm
      · have hnamed := h (dmaValueChannel value)
        rw [if_neg hvalue, if_pos rfl] at hnamed
        exact hnamed
  · rintro (hvalue | hsame) i
    · rw [hvalue]
    · by_cases hzero : i = 0
      · rw [if_pos hzero, ← hsame i (.inl hzero), ite_self]
      · rw [if_neg hzero]
        by_cases hnamed : i = dmaValueChannel value
        · rw [if_pos hnamed]
          exact hsame i (.inr hnamed)
        · rw [if_neg hnamed]

lemma mask_acts : (DmaPort.mask n).Acts value d := by
  refine (acts_iff_of_write (by simp) write_mask).mpr ⟨keepsOthers_modifyChannel.line, ?_⟩
  rw [keepsChannels_line, channel_modifyChannel]

lemma mode_acts : (DmaPort.mode n).Acts value d := by
  refine (acts_iff_of_write (by simp) write_mode).mpr ⟨keepsOthers_modifyChannel, ?_⟩
  rw [channel_modifyChannel]

lemma command_acts : (DmaPort.command n).Acts value d := by
  refine (acts_iff_of_write (by simp) write_command).mpr ?_
  have hstored : d.KeepsChannels (d.modifyController n fun c =>
      { c with commandRegister := value.setWidth 8 }) := keepsChannels_modifyController fun _ => rfl
  exact hstored.trans keepsChannels_line

lemma clearFlipFlop_acts : (DmaPort.clearFlipFlop n).Acts value d :=
  (acts_iff_of_write (p := .clearFlipFlop n) (by simp) write_dmaFlipFlopPort).mpr <|
    keepsChannels_modifyController fun _ => rfl

lemma temporary_acts : (DmaPort.temporary n).Acts value d :=
  (acts_iff_of_write (by simp) write_temporary).mpr fun _ _ => rfl

lemma clearMasks_acts : (DmaPort.clearMasks n).Acts value d :=
  (acts_iff_of_write (by simp) write_clearMasks).mpr
    ⟨keepsUnmasked_setMasks _, fun _ => mask_setMasks _⟩

lemma address_acts {channel : Fin 4} : (DmaPort.address n channel).Acts value d := by
  refine (acts_iff_of_write (p := .address n channel) (by simp) write_dmaAddressPort).mpr ?_
  exact keepsOthers_modifyController fun j hj => Function.update_of_ne hj _ _

lemma count_acts {channel : Fin 4} : (DmaPort.count n channel).Acts value d := by
  refine (acts_iff_of_write (p := .count n channel) (by simp) write_dmaCountPort).mpr ?_
  exact keepsOthers_modifyController fun j hj => Function.update_of_ne hj _ _

lemma page_acts {channel : Fin 4} : (DmaPort.page n channel).Acts value d := by
  refine (acts_iff_of_write (by simp) write_page).mpr ⟨keepsOthers_modifyChannel, ?_⟩
  refine page_readsBack ?_
  rw [channel_modifyChannel]

/-- All masks are set to bit 0. -/
lemma allMasks_acts_iff :
    (DmaPort.allMasks n).Acts value d ↔ (DmaPort.allMasks n).ActsWhen value d := by
  rw [acts_iff_of_write (by simp) write_allMasks]
  dsimp only [DmaPort.WriteActs, DmaPort.ActsWhen]
  have hbit : (value >>> 0 &&& 1).setWidth 8 = if Word.has value 0 then (1 : BitVec 8) else 0 := by
    rw [BitVec.ushiftRight_zero, show (1 : BitVec 32) = Word.bit 0 from rfl, Word.and_bit]
    split <;> rfl
  rw [and_iff_right (keepsUnmasked_setMasks _)]
  simp only [mask_setMasks, hbit]
  refine forall_congr' fun i => ?_
  cases Word.has value 0 <;> cases Word.has value i <;> decide

/-- The high page port of channel 3 is the one that keeps what is written to it. -/
lemma hiPage_acts_iff {index : Fin 4} : (DmaPort.hiPage n index).Acts value d ↔ index = 1 := by
  constructor
  · rintro ⟨⟨t, hwrite, channel, -, hreads⟩, -⟩
    match index with
    | 0 => exact absurd hreads (hiPage_not_readsBack (show 3 ≠ 0 by decide) rfl rfl)
    | 1 => rfl
    | 2 => cases write_hiPage_two.symm.trans hwrite
    | 3 => exact absurd hreads (hiPage_not_readsBack (show 0 ≠ 3 by decide) rfl rfl)
  · rintro rfl
    refine (acts_iff_of_write (by simp) (write_hiPage rfl)).mpr
      ⟨3, keepsOthers_modifyChannel, hiPage_one_readsBack ?_⟩
    rw [channel_modifyChannel]

/-- A port of the controllers, with any value and in any state, acts on the channel that it is meant
for exactly under its condition. -/
theorem dma_ports_act_iff (p : DmaPort) (value : BitVec 32) (d : Dma) :
    p.Acts value d ↔ p.ActsWhen value d := by
  cases p with
  | address n channel => exact iff_of_true address_acts trivial
  | count n channel => exact iff_of_true count_acts trivial
  | command n => exact iff_of_true command_acts trivial
  | request n => exact request_acts_iff
  | mask n => exact iff_of_true mask_acts trivial
  | mode n => exact iff_of_true mode_acts trivial
  | clearFlipFlop n => exact iff_of_true clearFlipFlop_acts trivial
  | temporary n => exact iff_of_true temporary_acts trivial
  | clearMasks n => exact iff_of_true clearMasks_acts trivial
  | allMasks n => exact allMasks_acts_iff
  | page n channel => exact iff_of_true page_acts trivial
  | hiPage n index => exact hiPage_acts_iff

/-- The request register for channel 2, the masks of all channels but the first, and the high page
port with the channel 4. -/
theorem dma_ports_of_other_channels :
    ¬ (DmaPort.request 0).Acts 0x06 dmaInitialize ∧
      ¬ (DmaPort.allMasks 1).Acts 0x0e dmaInitialize ∧
      (dmaPortIoWriteHandler 0x85 0x01 dmaInitialize).toOption.isNone ∧
      ¬ (DmaPort.hiPage 0 2).Acts 0x01 dmaInitialize := by
  refine ⟨?_, ?_, rfl, ?_⟩
  · rw [request_acts_iff]
    rintro (hzero | hsame)
    · exact absurd hzero (by decide)
    · exact absurd (hsame 0 (.inl rfl)) (by decide)
  · rw [allMasks_acts_iff]
    intro hsame
    exact absurd (hsame 1) (by decide)
  · rw [hiPage_acts_iff]
    decide

end Registers

end Svmm
