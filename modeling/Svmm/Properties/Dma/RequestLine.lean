import Svmm.Properties.Dma.Programming

/-!
# The request line

The line to the processor follows the second controller, whose channel 0 follows the first one.
`DmaControlHoldRequestLine` looks for the disable bit in the status register, where it is one of the
terminal counts, and lowers the line only if no channel is requested, masked or not.  So the line is
right after a step exactly if the registers that the step leaves need neither.
-/

namespace Svmm

open TransitionRun

/-! ## The lines -/

namespace DmaController

variable (c : DmaController)

/-- The controller is not disabled. -/
def Enabled : Prop := c.commandRegister &&& cmdDisable = 0

/-- A channel is requested. -/
def Requested : Prop := c.statusRegister &&& 0xf0 ≠ 0

/-- The controller is to hold its line: it is enabled, with a request that is not masked. -/
def Line : Prop := c.Enabled ∧ c.Pending

instance : Decidable c.Enabled := inferInstanceAs (Decidable (_ = _))

instance : Decidable c.Requested := inferInstanceAs (Decidable (_ ≠ _))

instance : Decidable c.Line := inferInstanceAs (Decidable (_ ∧ _))

/-- The line of the controller, with these registers, can be followed: its requests that are not
masked are not disabled, and where all are masked it is not raised. -/
def Settles (raised : Prop) : Prop :=
  (c.Pending → c.Enabled) ∧ (c.Requested → ¬ c.Pending → ¬ raised)

end DmaController

namespace Dma

variable (d : Dma)

/-- `EVENT_DMA` is set. -/
def Event : Prop := Word.has d.svmmEvents eventDma = true

/-- Channel 0 of the second controller is requested. -/
def Cascaded : Prop := Word.has (d.controller 1).statusRegister 4 = true

instance : Decidable d.Event := inferInstanceAs (Decidable (_ = _))

instance : Decidable d.Cascaded := inferInstanceAs (Decidable (_ = _))

/-- The event follows the second controller, and the cascade the first one. -/
structure LinesFollow : Prop where
  cascade : d.Cascaded ↔ (d.controller 0).Line
  event : d.Event ↔ (d.controller 1).Line

instance : Decidable d.LinesFollow :=
  decidable_of_iff (_ ∧ _) ⟨fun h => ⟨h.1, h.2⟩, fun h => ⟨h.cascade, h.event⟩⟩

/-- The bits of terminal counts are clear, which are all set by transfers. -/
def NoTerminalCount : Prop := ∀ n, (d.controller n).statusRegister &&& 0x0f = 0

end Dma

/-! ## The condition of a step -/

/-- The controller whose line an operation controls, and the state with its register stored. -/
def DmaOp.stored (d : Dma) : DmaOp → Option (Fin 2 × Dma)
  | .read _ => none
  | .write address value =>
      let n := dmaNumber address
      if address = 0x08 ∨ address = 0xd0 then
        some (n, d.modifyController n fun c => { c with commandRegister := value.setWidth 8 })
      else if address = 0x09 ∨ address = 0xd2 then
        some (n, d.request n (dmaPortChannel address) (value &&& 0x04 ≠ 0))
      else if address = 0x0a ∨ address = 0xd4 then
        some (n, d.modifyChannel n (dmaValueChannel value) fun x =>
          { x with maskRegister := dmaMask value })
      else if address = 0x0e ∨ address = 0xdc then some (n, d.setMasks n fun _ => 0)
      else if address = 0x0f ∨ address = 0xde then
        some (n, d.setMasks n fun _ => (value >>> 0 &&& 1).setWidth 8)
      else none
  | .setHoldRequest channel value =>
      if 7 < channel then none
      else
        let n : Fin 2 := if channel < 4 then 0 else 1
        some (n, d.request n (Fin.ofNat 4 channel.toNat) (value ≠ 0))

/-- With the registers of the second controller stored, its line can be followed; and a request
stored for the cascade is that of the first controller. -/
def Dma.SecondSettles (d stored : Dma) : Prop :=
  (stored.Cascaded ↔ d.Cascaded) ∧ (stored.controller 1).Settles d.Event

/-- With the registers of the first controller stored, its line can be followed, and then that of
the second one, unless all requests of the first are masked and nothing is passed on. -/
def Dma.FirstSettles (d stored : Dma) : Prop :=
  (stored.controller 0).Settles d.Cascaded ∧
    (((stored.controller 0).Requested → (stored.controller 0).Pending) →
      ((stored.request 1 0 (stored.controller 0).Pending).controller 1).Settles d.Event)

/-- The lines can be followed after the operation. -/
def dmaSettles (d : Dma) (a : DmaOp) : Prop :=
  match a.stored d with
  | none => True
  | some (n, stored) => if n = 0 then d.FirstSettles stored else d.SecondSettles stored

/-! ## The line of a controller -/

section Control

variable {d e : Dma} {c : DmaController} {n : Fin 2}

/-- A pending request is a request. -/
lemma DmaController.Pending.requested (h : c.Pending) : c.Requested := by
  obtain ⟨i, hi, -⟩ := h
  intro hzero
  have hbits : ∀ (x : BitVec 8) (i : Fin 4), x &&& 0xf0 = 0 → Word.has x (i + 4) = false := by
    decide +kernel
  rw [hbits _ i hzero] at hi
  exact absurd hi (by decide)

lemma not_disabled (h : c.statusRegister &&& 0x0f = 0) :
    ¬ c.statusRegister &&& cmdDisable ≠ 0 := by
  have hbits : ∀ x : BitVec 8, x &&& 0x0f = 0 → x &&& cmdDisable = 0 := by decide
  exact not_not_intro (hbits _ h)

section Cases

variable {raise lower : Dma → Dma} (h : (d.controller n).statusRegister &&& 0x0f = 0)

include h

/-- Where no terminal count is set, the line is controlled by the requests alone. -/
lemma dmaControlLine_of_none (hnone : ¬ (d.controller n).Requested) :
    dmaControlLine n raise lower d = lower d := by
  unfold dmaControlLine
  dsimp only
  rw [if_neg (not_disabled h), if_pos (not_not.mp hnone)]

lemma dmaControlLine_of_pending (hpending : (d.controller n).Pending) :
    dmaControlLine n raise lower d = raise d := by
  unfold dmaControlLine
  dsimp only
  rw [if_neg (not_disabled h), if_neg hpending.requested, if_pos hpending]

lemma dmaControlLine_of_masked (hrequested : (d.controller n).Requested)
    (hmasked : ¬ (d.controller n).Pending) : dmaControlLine n raise lower d = d := by
  unfold dmaControlLine
  dsimp only
  rw [if_neg (not_disabled h), if_neg hrequested, if_neg hmasked]

end Cases

/-- The second controller's line changes the event only. -/
lemma controller_dmaControlSecond : (dmaControlSecond d).controller = d.controller := by
  unfold dmaControlSecond dmaControlLine
  dsimp only
  split
  · rfl
  · split
    · rfl
    · split <;> rfl

/-- The event follows the second controller exactly if its line can be followed. -/
lemma event_dmaControlSecond_iff (h : (d.controller 1).statusRegister &&& 0x0f = 0) :
    ((dmaControlSecond d).Event ↔ (d.controller 1).Line) ↔
      (d.controller 1).Settles d.Event := by
  unfold dmaControlSecond
  by_cases hrequested : (d.controller 1).Requested
  · by_cases hpending : (d.controller 1).Pending
    · have hraised : Dma.Event { d with
          userEventPending := 1, svmmEvents := Word.set d.svmmEvents eventDma } := by
        unfold Dma.Event
        rw [Word.has_set]
        simp [eventDma]
      rw [dmaControlLine_of_pending h hpending, iff_true_left hraised]
      constructor
      · exact fun hline => ⟨fun _ => hline.1, fun _ hmasked => absurd hpending hmasked⟩
      · exact fun hsettles => ⟨hsettles.1 hpending, hpending⟩
    · rw [dmaControlLine_of_masked h hrequested hpending,
        iff_false_right fun hline : (d.controller 1).Line => hpending hline.2]
      constructor
      · exact fun hlow => ⟨fun hpending' => absurd hpending' hpending, fun _ _ => hlow⟩
      · exact fun hsettles => hsettles.2 hrequested hpending
  · have hpending : ¬ (d.controller 1).Pending := fun hpending => hrequested hpending.requested
    have hlowered : ¬ Dma.Event { d with
        userEventPending := 0, svmmEvents := Word.clear d.svmmEvents eventDma } := by
      unfold Dma.Event
      rw [Word.has_clear]
      simp
    rw [dmaControlLine_of_none h hrequested]
    refine iff_of_true (iff_of_false hlowered fun hline => hpending hline.2) ⟨?_, ?_⟩
    · exact fun hpending' => absurd hpending' hpending
    · exact fun hrequested' => absurd hrequested' hrequested

end Control

/-! ## What a step stores -/

section Stored

variable {d stored t : Dma} {n : Fin 2} {a : DmaOp}

/-- The state differs in the registers of a controller only. -/
structure Dma.StoresIn (n : Fin 2) (d stored : Dma) : Prop where
  other : ∀ m ≠ n, stored.controller m = d.controller m
  events : stored.svmmEvents = d.svmmEvents
  noTerminalCount : d.NoTerminalCount → stored.NoTerminalCount

lemma storesIn_modifyController {f : DmaController → DmaController}
    (h : ∀ c, c.statusRegister &&& 0x0f = 0 → (f c).statusRegister &&& 0x0f = 0) :
    d.StoresIn n (d.modifyController n f) := by
  refine ⟨fun m hm => Function.update_of_ne hm _ _, rfl, fun hlow m => ?_⟩
  by_cases hm : m = n
  · rw [hm, Dma.controller_modifyController]
    exact h _ (hlow n)
  · unfold Dma.modifyController
    dsimp only
    rw [Function.update_of_ne hm]
    exact hlow m

lemma storesIn_request (channel : Fin 4) (p : Prop) [Decidable p] :
    d.StoresIn n (d.request n channel p) := by
  refine storesIn_modifyController fun c hlow => ?_
  have hbits : ∀ (x : BitVec 8) (i : Fin 4), x &&& 0x0f = 0 →
      Word.set x (i + 4) &&& 0x0f = 0 ∧ Word.clear x (i + 4) &&& 0x0f = 0 := by
    decide +kernel
  dsimp only
  split
  · exact (hbits _ channel hlow).1
  · exact (hbits _ channel hlow).2

/-- An operation that stores a register of a controller controls its line with it. -/
lemma stored_spec (h : a.stored d = some (n, stored)) :
    dmaStep d a = .ok (dmaControlHoldRequestLine n stored) ∧ d.StoresIn n stored := by
  cases a with
  | read address => cases h
  | write address value =>
      unfold DmaOp.stored at h
      dsimp only at h
      split_ifs at h with hcommand hrequest hmask hclear hall
      all_goals obtain ⟨rfl, rfl⟩ := Prod.mk.inj (Option.some.inj h)
      · refine ⟨?_, storesIn_modifyController fun c hlow => hlow⟩
        rcases hcommand with rfl | rfl <;> rfl
      · refine ⟨?_, storesIn_request _ _⟩
        rcases hrequest with rfl | rfl <;> rfl
      · refine ⟨?_, storesIn_modifyController fun c hlow => hlow⟩
        rcases hmask with rfl | rfl <;> rfl
      · refine ⟨?_, storesIn_modifyController fun c hlow => hlow⟩
        rcases hclear with rfl | rfl <;> rfl
      · refine ⟨?_, storesIn_modifyController fun c hlow => hlow⟩
        rcases hall with rfl | rfl <;> rfl
  | setHoldRequest channel value =>
      unfold DmaOp.stored at h
      dsimp only [dmaStep]
      unfold dmaSetHoldRequest
      dsimp only at h
      split_ifs at h with hchannel hfirst
      all_goals obtain ⟨rfl, rfl⟩ := Prod.mk.inj (Option.some.inj h)
      · rw [if_neg hchannel, if_pos hfirst]
        exact ⟨rfl, storesIn_request _ _⟩
      · rw [if_neg hchannel, if_neg hfirst]
        exact ⟨rfl, storesIn_request _ _⟩

end Stored

/-! ## The lines after a step -/

section Lines

variable {d s stored t : Dma} {n : Fin 2} {a : DmaOp}

lemma Dma.request_congr {channel : Fin 4} {p q : Prop} [Decidable p] [Decidable q] (h : p ↔ q) :
    d.request n channel p = d.request n channel q := by
  unfold Dma.request
  simp only [h]

lemma Dma.cascaded_request (p : Prop) [Decidable p] : (s.request 1 0 p).Cascaded ↔ p := by
  unfold Dma.Cascaded Dma.request
  rw [Dma.controller_modifyController]
  by_cases hp : p
  · simp [hp]
  · simp [hp]

/-- The lines after a request of the cascade. -/
lemma linesFollow_dmaCascade (p : Prop) [Decidable p] (hs : s.NoTerminalCount) :
    (dmaCascade p s).LinesFollow ↔
      (p ↔ (s.controller 0).Line) ∧ ((s.request 1 0 p).controller 1).Settles s.Event := by
  have hstores : s.StoresIn 1 (s.request 1 0 p) := storesIn_request 0 p
  have hcontroller : (dmaCascade p s).controller = (s.request 1 0 p).controller :=
    controller_dmaControlSecond
  have hcascade : (dmaCascade p s).Cascaded ↔ p := by
    unfold Dma.Cascaded
    rw [hcontroller]
    exact Dma.cascaded_request p
  have hevent := event_dmaControlSecond_iff (hstores.noTerminalCount hs 1)
  have hsame : (s.request 1 0 p).Event ↔ s.Event := Iff.rfl
  constructor
  · rintro ⟨hfollow, hline⟩
    rw [hcascade, hcontroller, hstores.other 0 (by decide)] at hfollow
    rw [hcontroller] at hline
    exact ⟨hfollow, hevent.mp hline⟩
  · rintro ⟨hfollow, hsettles⟩
    refine ⟨?_, ?_⟩
    · rw [hcascade, hcontroller, hstores.other 0 (by decide)]
      exact hfollow
    · rw [hcontroller]
      exact hevent.mpr hsettles

/-- With registers of the second controller stored, the lines follow exactly if they settle. -/
lemma linesFollow_second_iff (hlow : d.NoTerminalCount) (hd : d.LinesFollow)
    (hstores : d.StoresIn 1 stored) :
    (dmaControlHoldRequestLine 1 stored).LinesFollow ↔ d.SecondSettles stored := by
  have hevent := event_dmaControlSecond_iff (hstores.noTerminalCount hlow 1)
  have hcontroller : (dmaControlSecond stored).controller = stored.controller :=
    controller_dmaControlSecond
  have hsame : stored.Event = d.Event := by
    unfold Dma.Event
    rw [hstores.events]
  have hfirst : (stored.controller 0).Line ↔ d.Cascaded := by
    rw [hstores.other 0 (by decide)]
    exact hd.cascade.symm
  rw [hsame] at hevent
  show (dmaControlSecond stored).LinesFollow ↔ _
  constructor
  · rintro ⟨hcascade, hline⟩
    rw [hcontroller] at hcascade hline
    unfold Dma.Cascaded at hcascade
    rw [hcontroller] at hcascade
    exact ⟨hcascade.trans hfirst, hevent.mp hline⟩
  · rintro ⟨hcascade, hsettles⟩
    refine ⟨?_, ?_⟩
    · unfold Dma.Cascaded
      rw [hcontroller]
      exact hcascade.trans hfirst.symm
    · rw [hcontroller]
      exact hevent.mpr hsettles

/-- With registers of the first controller stored, the lines follow exactly if they settle. -/
lemma linesFollow_first_iff (hlow : d.NoTerminalCount) (hd : d.LinesFollow)
    (hstores : d.StoresIn 0 stored) :
    (dmaControlHoldRequestLine 0 stored).LinesFollow ↔ d.FirstSettles stored := by
  have hstored := hstores.noTerminalCount hlow
  have hsame : stored.Event = d.Event := by
    unfold Dma.Event
    rw [hstores.events]
  have hsecond : stored.controller 1 = d.controller 1 := hstores.other 1 (by decide)
  have hcascaded : stored.Cascaded = d.Cascaded := by
    unfold Dma.Cascaded
    rw [hsecond]
  show (dmaControlLine 0 (dmaCascade True) (dmaCascade False) stored).LinesFollow ↔ _
  unfold Dma.FirstSettles
  by_cases hpending : (stored.controller 0).Pending
  · -- the request is passed on
    rw [dmaControlLine_of_pending (hstored 0) hpending, linesFollow_dmaCascade _ hstored, hsame,
      Dma.request_congr (iff_of_true trivial hpending)]
    constructor
    · rintro ⟨hline, hsettles⟩
      refine ⟨⟨fun _ => (hline.mp trivial).1, ?_⟩, fun _ => hsettles⟩
      exact fun _ hmasked => absurd hpending hmasked
    · rintro ⟨hsettles, hpassed⟩
      exact ⟨iff_of_true trivial ⟨hsettles.1 hpending, hpending⟩, hpassed fun _ => hpending⟩
  have hline : ¬ (stored.controller 0).Line := fun hline => hpending hline.2
  by_cases hrequested : (stored.controller 0).Requested
  · -- all requests are masked: the lines stay
    rw [dmaControlLine_of_masked (hstored 0) hrequested hpending]
    constructor
    · rintro ⟨hcascade, -⟩
      rw [hcascaded] at hcascade
      refine ⟨⟨fun h => absurd h hpending, fun _ _ => ?_⟩, fun h => absurd (h hrequested) hpending⟩
      exact fun hraised => hline (hcascade.mp hraised)
    · rintro ⟨hsettles, -⟩
      refine ⟨?_, ?_⟩
      · rw [hcascaded]
        exact iff_of_false (hsettles.2 hrequested hpending) hline
      · rw [hsame, hsecond]
        exact hd.event
  · rw [dmaControlLine_of_none (hstored 0) hrequested, linesFollow_dmaCascade _ hstored, hsame,
      Dma.request_congr (iff_of_false not_false hpending)]
    have hlines : False ↔ (stored.controller 0).Line := iff_of_false not_false hline
    constructor
    · rintro ⟨-, hsettles⟩
      exact ⟨⟨fun h => absurd h hpending, fun h => absurd h hrequested⟩, fun _ => hsettles⟩
    · rintro ⟨-, hpassed⟩
      exact ⟨hlines, hpassed fun h => absurd h hrequested⟩

end Lines

/-! ## Steps that store no register of the line -/

section Frame

variable {d t : Dma} {n : Fin 2} {a : DmaOp}

/-- The registers that the lines depend on are the same. -/
structure Dma.SameLines (d t : Dma) : Prop where
  status : ∀ n, (t.controller n).statusRegister = (d.controller n).statusRegister
  command : ∀ n, (t.controller n).commandRegister = (d.controller n).commandRegister
  mask : ∀ n i, ((t.controller n).channels i).maskRegister =
    ((d.controller n).channels i).maskRegister
  events : t.svmmEvents = d.svmmEvents

lemma Dma.SameLines.refl : d.SameLines d := ⟨fun _ => rfl, fun _ => rfl, fun _ _ => rfl, rfl⟩

lemma Dma.SameLines.noTerminalCount (h : d.SameLines t) (hd : d.NoTerminalCount) :
    t.NoTerminalCount := by
  intro n
  rw [h.status]
  exact hd n

lemma Dma.SameLines.linesFollow_iff (h : d.SameLines t) : t.LinesFollow ↔ d.LinesFollow := by
  have hline : ∀ n, (t.controller n).Line ↔ (d.controller n).Line := by
    intro n
    unfold DmaController.Line DmaController.Enabled DmaController.Pending
    rw [h.command, h.status]
    simp only [h.mask]
  have hcascaded : t.Cascaded ↔ d.Cascaded := by
    unfold Dma.Cascaded
    rw [h.status]
  have hevent : t.Event ↔ d.Event := by
    unfold Dma.Event
    rw [h.events]
  constructor
  · rintro ⟨hcascade, hfollows⟩
    exact ⟨hcascaded.symm.trans (hcascade.trans (hline 0)),
      hevent.symm.trans (hfollows.trans (hline 1))⟩
  · rintro ⟨hcascade, hfollows⟩
    exact ⟨hcascaded.trans (hcascade.trans (hline 0).symm),
      hevent.trans (hfollows.trans (hline 1).symm)⟩

lemma sameLines_modifyController {f : DmaController → DmaController}
    (hstatus : (f (d.controller n)).statusRegister = (d.controller n).statusRegister)
    (hcommand : (f (d.controller n)).commandRegister = (d.controller n).commandRegister)
    (hmask : ∀ i, ((f (d.controller n)).channels i).maskRegister =
      ((d.controller n).channels i).maskRegister) : d.SameLines (d.modifyController n f) := by
  have hother : ∀ m ≠ n, (d.modifyController n f).controller m = d.controller m :=
    fun m hm => Function.update_of_ne hm _ _
  refine ⟨fun m => ?_, fun m => ?_, fun m i => ?_, rfl⟩ <;> by_cases hm : m = n
  · rw [hm, Dma.controller_modifyController, hstatus]
  · rw [hother m hm]
  · rw [hm, Dma.controller_modifyController, hcommand]
  · rw [hother m hm]
  · rw [hm, Dma.controller_modifyController, hmask]
  · rw [hother m hm]

lemma sameLines_modifyChannel {channel : Fin 4} {f : DmaChannel → DmaChannel}
    (hmask : ∀ x, (f x).maskRegister = x.maskRegister) :
    d.SameLines (d.modifyChannel n channel f) := by
  refine sameLines_modifyController rfl rfl fun i => ?_
  dsimp only
  by_cases hi : i = channel
  · rw [hi, Function.update_self, hmask]
  · rw [Function.update_of_ne hi]

/-- What a channel that is set keeps, all channels keep. -/
lemma setChannel_keeps {β : Type*} (f : DmaChannel → β) {c : DmaController} {channel : Fin 4}
    {x : DmaChannel} (h : f x = f (c.channels channel)) (i : Fin 4) :
    f ((c.setChannel channel x).channels i) = f (c.channels i) := by
  unfold DmaController.setChannel
  dsimp only
  by_cases hi : i = channel
  · rw [hi, Function.update_self, h]
  · rw [Function.update_of_ne hi]

lemma mask_writeAddress (c : DmaController) (channel i : Fin 4) (value : BitVec 32) :
    ((c.writeAddress channel value).channels i).maskRegister = (c.channels i).maskRegister := by
  refine setChannel_keeps DmaChannel.maskRegister ?_ i
  split <;> rfl

lemma mask_writeCount (c : DmaController) (channel i : Fin 4) (value : BitVec 32) :
    ((c.writeCount channel value).channels i).maskRegister = (c.channels i).maskRegister := by
  refine setChannel_keeps DmaChannel.maskRegister ?_ i
  split <;> rfl

/-- A write that stores no register of the line. -/
lemma sameLines_of_write {address : BitVec 64} {value : BitVec 32}
    (hnone : (DmaOp.write address value).stored d = none)
    (h : dmaPortIoWriteHandler address value d = .ok t) : d.SameLines t := by
  unfold DmaOp.stored at hnone
  dsimp only at hnone
  unfold dmaPortIoWriteHandler at h
  dsimp only at h
  by_cases haddress : address ∈ dmaAddressPorts
  · rw [if_pos haddress] at h
    rw [← Except.ok.inj h]
    exact sameLines_modifyController rfl rfl fun i => mask_writeAddress _ _ i value
  by_cases hcount : address ∈ dmaCountPorts
  · rw [if_neg haddress, if_pos hcount] at h
    rw [← Except.ok.inj h]
    exact sameLines_modifyController rfl rfl fun i => mask_writeCount _ _ i value
  rw [if_neg haddress, if_neg hcount] at h
  by_cases hcommand : address = 0x08 ∨ address = 0xd0
  · rw [if_pos hcommand] at hnone
    cases hnone
  by_cases hrequest : address = 0x09 ∨ address = 0xd2
  · rw [if_neg hcommand, if_pos hrequest] at hnone
    cases hnone
  by_cases hmask : address = 0x0a ∨ address = 0xd4
  · rw [if_neg hcommand, if_neg hrequest, if_pos hmask] at hnone
    cases hnone
  rw [if_neg hcommand, if_neg hrequest, if_neg hmask] at h hnone
  by_cases hclear : address = 0x0e ∨ address = 0xdc
  · rw [if_pos hclear] at hnone
    cases hnone
  by_cases hall : address = 0x0f ∨ address = 0xde
  · rw [if_neg hclear, if_pos hall] at hnone
    cases hnone
  rw [if_neg hclear, if_neg hall] at h
  split_ifs at h with hmode hflip hpage hpage' hhigh hhigh'
  · rw [← Except.ok.inj h]
    exact sameLines_modifyChannel fun _ => rfl
  · rw [← Except.ok.inj h]
    exact sameLines_modifyController rfl rfl fun _ => rfl
  · obtain ⟨channel, -, hset⟩ := bind_eq_ok.mp h
    rw [← Except.ok.inj hset]
    exact sameLines_modifyChannel fun _ => rfl
  · obtain ⟨channel, -, hset⟩ := bind_eq_ok.mp h
    rw [← Except.ok.inj hset]
    exact sameLines_modifyChannel fun _ => rfl
  · obtain ⟨channel, -, hset⟩ := bind_eq_ok.mp h
    rw [← Except.ok.inj hset]
    exact sameLines_modifyChannel fun _ => rfl
  · obtain ⟨channel, -, hset⟩ := bind_eq_ok.mp h
    rw [← Except.ok.inj hset]
    exact sameLines_modifyChannel fun _ => rfl
  · rw [← Except.ok.inj h]
    exact Dma.SameLines.refl

/-- What a read can do: it turns a flip-flop, or clears the terminal counts. -/
lemma dmaPortIoReadHandler_cases {address : BitVec 64} {value : BitVec 32}
    (h : dmaPortIoReadHandler address d = .ok (value, t)) :
    t = d ∨ t = d.modifyController (dmaNumber address) DmaController.flip ∨
      t = d.modifyController (dmaNumber address) fun c =>
        { c with statusRegister := c.statusRegister &&& 0xf0 } := by
  have hkept : ∀ {x : DmaOutcome (Fin 4)} {f : Fin 4 → BitVec 32},
      (do return (f (← x), d)) = Except.ok (value, t) → t = d := by
    intro x f h
    obtain ⟨channel, -, hread⟩ := bind_eq_ok.mp h
    exact (Prod.mk.inj (Except.ok.inj hread)).2.symm
  unfold dmaPortIoReadHandler at h
  dsimp only at h
  split_ifs at h
  · exact .inr (.inl (Prod.mk.inj (Except.ok.inj h)).2.symm)
  · exact .inr (.inl (Prod.mk.inj (Except.ok.inj h)).2.symm)
  · exact .inr (.inr (Prod.mk.inj (Except.ok.inj h)).2.symm)
  · exact .inl (hkept h)
  · exact .inl (hkept h)
  · exact .inl (hkept h)
  · exact .inl (hkept h)
  · exact .inl (Prod.mk.inj (Except.ok.inj h)).2.symm
  · exact .inl (Prod.mk.inj (Except.ok.inj h)).2.symm

/-- A read clears terminal counts only, and there are none. -/
lemma sameLines_of_read {address : BitVec 64} {value : BitVec 32} (hlow : d.NoTerminalCount)
    (h : dmaPortIoReadHandler address d = .ok (value, t)) : d.SameLines t := by
  have hstatus : ∀ x : BitVec 8, x &&& 0x0f = 0 → x &&& 0xf0 = x := by decide
  obtain rfl | rfl | rfl := dmaPortIoReadHandler_cases h
  · exact Dma.SameLines.refl
  · exact sameLines_modifyController rfl rfl fun _ => rfl
  · exact sameLines_modifyController (hstatus _ (hlow _)) rfl fun _ => rfl

/-- An operation that stores no register of the line leaves the lines. -/
lemma sameLines_of_stored_none (hlow : d.NoTerminalCount) (hnone : a.stored d = none)
    (h : dmaStep d a = .ok t) : d.SameLines t := by
  cases a with
  | read address =>
      obtain ⟨⟨value, u⟩, hread, hu⟩ := bind_eq_ok.mp h
      obtain rfl : u = t := Except.ok.inj hu
      exact sameLines_of_read hlow hread
  | write address value => exact sameLines_of_write hnone h
  | setHoldRequest channel value =>
      unfold DmaOp.stored at hnone
      dsimp only at hnone
      dsimp only [dmaStep] at h
      unfold dmaSetHoldRequest at h
      by_cases hchannel : 7 < channel
      · rw [if_pos hchannel] at h
        rw [← Except.ok.inj h]
        exact Dma.SameLines.refl
      · rw [if_neg hchannel] at hnone
        cases hnone

end Frame

/-! ## The line over runs -/

section Runs

variable {d t : Dma} {a : DmaOp}

lemma noTerminalCount_dmaControlSecond (h : d.NoTerminalCount) :
    (dmaControlSecond d).NoTerminalCount := by
  unfold Dma.NoTerminalCount
  rw [controller_dmaControlSecond]
  exact h

lemma noTerminalCount_dmaCascade (p : Prop) [Decidable p] (h : d.NoTerminalCount) :
    (dmaCascade p d).NoTerminalCount :=
  noTerminalCount_dmaControlSecond ((storesIn_request 0 p).noTerminalCount h)

lemma noTerminalCount_dmaControlHoldRequestLine {n : Fin 2} (h : d.NoTerminalCount) :
    (dmaControlHoldRequestLine n d).NoTerminalCount := by
  unfold dmaControlHoldRequestLine dmaControlLine
  dsimp only
  split_ifs
  · exact noTerminalCount_dmaControlSecond h
  · exact h
  · exact noTerminalCount_dmaCascade False h
  · exact noTerminalCount_dmaCascade True h
  · exact h

/-- No operation but a transfer sets a terminal count. -/
lemma noTerminalCount_dmaStep (hlow : d.NoTerminalCount) (h : dmaStep d a = .ok t) :
    t.NoTerminalCount := by
  cases hstored : a.stored d with
  | none => exact (sameLines_of_stored_none hlow hstored h).noTerminalCount hlow
  | some stored =>
      obtain ⟨n, stored⟩ := stored
      obtain ⟨hstep, hstores⟩ := stored_spec hstored
      rw [hstep] at h
      rw [← Except.ok.inj h]
      exact noTerminalCount_dmaControlHoldRequestLine (hstores.noTerminalCount hlow)

/-- Lines that follow are followed after a step exactly if they settle. -/
lemma linesFollow_dmaStep_iff (hlow : d.NoTerminalCount) (hd : d.LinesFollow)
    (h : dmaStep d a = .ok t) : t.LinesFollow ↔ dmaSettles d a := by
  unfold dmaSettles
  cases hstored : a.stored d with
  | none =>
      have hsame := sameLines_of_stored_none hlow hstored h
      exact iff_of_true (hsame.linesFollow_iff.mpr hd) trivial
  | some stored =>
      obtain ⟨n, stored⟩ := stored
      obtain ⟨hstep, hstores⟩ := stored_spec hstored
      rw [hstep] at h
      rw [← Except.ok.inj h]
      dsimp only
      match n with
      | 0 => exact linesFollow_first_iff hlow hd hstores
      | 1 => exact linesFollow_second_iff hlow hd hstores

/-- A step that fails stores no register of the line. -/
lemma dmaSettles_of_error (h : ∀ t, dmaStep d a ≠ .ok t) : dmaSettles d a := by
  unfold dmaSettles
  cases hstored : a.stored d with
  | none => trivial
  | some stored => exact absurd (stored_spec hstored).1 (h _)

lemma noTerminalCount_dmaInitialize : dmaInitialize.NoTerminalCount := by
  unfold Dma.NoTerminalCount
  decide

lemma linesFollow_dmaInitialize : dmaInitialize.LinesFollow := by decide

/-- Over any sequence of port accesses and hold requests, the lines follow the requests that are not
masked exactly if every operation leaves registers that settle. -/
theorem dma_lines_follow_iff (ops : List DmaOp) :
    Meets dmaStep (fun d a => ∀ t, dmaStep d a = .ok t → t.LinesFollow) dmaInitialize ops ↔
      Meets dmaStep dmaSettles dmaInitialize ops :=
  Meets.iff_of_exact_within (fun _ _ _ hlow h => noTerminalCount_dmaStep hlow h)
    (fun _ _ _ hlow hd h => linesFollow_dmaStep_iff hlow hd h)
    (fun _ _ _ h => dmaSettles_of_error h) noTerminalCount_dmaInitialize
    linesFollow_dmaInitialize

/-- The request of a channel that is masked afterwards stays on the line, and a controller that is
disabled raises it. -/
theorem dma_line_of_masked_and_disabled :
    (∃ d, run dmaStep dmaInitialize [.setHoldRequest 2 1, .write 0x0a 0x06] = .ok d ∧
      d.Event ∧ d.Cascaded ∧ ¬ (d.controller 0).Line) ∧
    ∃ d, run dmaStep dmaInitialize [.write 0xd0 0x04, .setHoldRequest 5 1] = .ok d ∧
      d.Event ∧ ¬ (d.controller 1).Line := by
  constructor
  · refine exists_of_ends (fun d : Dma => d.Event ∧ d.Cascaded ∧ ¬ (d.controller 0).Line) ?_
    decide
  · refine exists_of_ends (fun d : Dma => d.Event ∧ ¬ (d.controller 1).Line) ?_
    decide

end Runs

end Svmm
