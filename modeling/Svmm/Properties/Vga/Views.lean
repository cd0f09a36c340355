import Svmm.Properties.Vga.Accesses
import Svmm.Framework.Run

/-!
# What the registers of the VGA are changed by

A view of the state that looks at no index, latch, counter or colour (`VgaView`) is changed only by
data written to one of the four indexed units, and perhaps by an update.  Such a write reaches the
unit one byte at a time (`VgaEvent.byteWrites`), so that what a step does to a view is told by what
a byte written to a port does (`vgaStep_byteWrites`).
-/

namespace Svmm

open TransitionRun

variable {α : Type} {s t : VgaCore} {f : VgaCore → α}

/-- The view of the two states is the same. -/
def Keeps (f : VgaCore → α) (s t : VgaCore) : Prop := f t = f s

/-- The view does not look at the memory and the tiles, at the latches, the flip-flop and the
indices, at the palette, the counter and the output register. -/
structure VgaView (f : VgaCore → α) : Prop where
  registers : ∀ {s t : VgaCore}, s.SameRegisters t → Keeps f s t
  latches : ∀ (s : VgaCore) latch,
    Keeps f s (s.withGraphics { s.graphicsCtrl with latch := latch })
  flipFlop : ∀ (s : VgaCore) b,
    Keeps f s (s.withAttribute { s.attributeCtrl with flipFlop := b })
  sequencerIndex : ∀ (s : VgaCore) i,
    Keeps f s (s.withSequencer { s.sequencer with index := i })
  graphicsIndex : ∀ (s : VgaCore) i,
    Keeps f s (s.withGraphics { s.graphicsCtrl with index := i })
  crtcAddress : ∀ (s : VgaCore) i, Keeps f s { s with crtc := { s.crtc with address := i } }
  pel : ∀ (s : VgaCore) p, Keeps f s (s.withPel p)
  misc : ∀ (s : VgaCore) m, Keeps f s { s with miscOutput := m }
  enabled : ∀ (s : VgaCore) b, Keeps f s { s with vgaEnabled := b }
  counter : ∀ (s : VgaCore) c v, Keeps f s { s with csCounter := c, csVisible := v }

/-- The view does not look at the size of the window either. -/
structure SizelessView (f : VgaCore → α) : Prop extends VgaView f where
  size : ∀ (s : VgaCore) w x y b fw fh, Keeps f s { s with
    window := w, lastXres := x, lastYres := y, lastBpp := b, lastFw := fw, lastFh := fh }
  clearScreen : ∀ (s : VgaCore) b,
    Keeps f s (s.withSequencer { s.sequencer with clearScreen := b })

lemma VgaView.comp {β : Type} (hf : VgaView f) (g : α → β) : VgaView fun s => g (f s) where
  registers h := congrArg g (hf.registers h)
  latches s l := congrArg g (hf.latches s l)
  flipFlop s b := congrArg g (hf.flipFlop s b)
  sequencerIndex s i := congrArg g (hf.sequencerIndex s i)
  graphicsIndex s i := congrArg g (hf.graphicsIndex s i)
  crtcAddress s i := congrArg g (hf.crtcAddress s i)
  pel s p := congrArg g (hf.pel s p)
  misc s m := congrArg g (hf.misc s m)
  enabled s b := congrArg g (hf.enabled s b)
  counter s c v := congrArg g (hf.counter s c v)

lemma SizelessView.comp {β : Type} (hf : SizelessView f) (g : α → β) :
    SizelessView fun s => g (f s) where
  toVgaView := hf.toVgaView.comp g
  size s w x y b fw fh := congrArg g (hf.size s w x y b fw fh)
  clearScreen s b := congrArg g (hf.clearScreen s b)

namespace Keeps

lemma refl (s : VgaCore) : Keeps f s s := rfl

lemma trans {u : VgaCore} (h : Keeps f s t) (h' : Keeps f t u) : Keeps f s u := Eq.trans h' h

lemma iteOf {β : Type} {c : Prop} [Decidable c] {x y : VgaCore × β} (hx : c → Keeps f s x.1)
    (hy : Keeps f s y.1) : Keeps f s (if c then x else y).1 := by
  split
  · exact hx ‹_›
  · exact hy

lemma ite {β : Type} {c : Prop} [Decidable c] {x y : VgaCore × β} (hx : Keeps f s x.1)
    (hy : Keeps f s y.1) : Keeps f s (if c then x else y).1 := iteOf (fun _ => hx) hy

lemma iteRight {β : Type} {c : Prop} [Decidable c] {x y : β × VgaCore} (hx : Keeps f s x.2)
    (hy : Keeps f s y.2) : Keeps f s (if c then x else y).2 := by
  split
  · exact hx
  · exact hy

lemma iteState {c : Prop} [Decidable c] {x y : VgaCore} (hx : Keeps f s x)
    (hy : Keeps f s y) : Keeps f s (if c then x else y) := by
  split
  · exact hx
  · exact hy

/-! ## Data written to a unit -/

lemma writeAttribute (hf : ∀ (s : VgaCore) a, Keeps f s (s.withAttribute a)) (value : BitVec 32) :
    Keeps f s (s.writeAttribute value).1 := by
  have hdata : Keeps f s (s.writeAttributeData value).1 := by
    unfold VgaCore.writeAttributeData
    exact ite (ite (hf ..) (refl s)) <| ite (hf ..) <| ite (hf ..) <| ite (hf ..) <| ite (hf ..) <|
      ite (hf ..) (refl s)
  exact (ite hdata (hf ..)).trans (hf ..)

lemma writeSequencer (hf : ∀ (s : VgaCore) q c x, Keeps f s
      { s with sequencer := q, charmapAddress := c, xDotclockdiv2 := x }) (value : BitVec 32) :
    Keeps f s (s.writeSequencer value).1 := by
  have hunit : ∀ (t : VgaCore) q, Keeps f t (t.withSequencer q) := fun t q =>
    hf t q t.charmapAddress t.xDotclockdiv2
  have hcharmap : ∀ c, Keeps f s { s with charmapAddress := c } := fun c =>
    hf s s.sequencer c s.xDotclockdiv2
  have hclock : ∀ x, Keeps f s { s with xDotclockdiv2 := x } := fun x =>
    hf s s.sequencer s.charmapAddress x
  unfold VgaCore.writeSequencer
  exact ite ((iteState (hcharmap _) (refl s)).trans (hunit ..)) <|
    ite ((iteState (hclock _) (refl s)).trans (hunit ..)) <| ite (hunit ..) <|
    ite ((iteState (hcharmap _) (refl s)).trans (hunit ..)) <| ite (hunit ..) (refl s)

lemma writeGraphics (hf : ∀ (s : VgaCore) g y, Keeps f s
      { s with graphicsCtrl := g, lastYres := y }) (value : BitVec 32) :
    Keeps f s (s.writeGraphics value).1 := by
  have hunit : ∀ g, Keeps f s (s.withGraphics g) := fun g => hf s g s.lastYres
  unfold VgaCore.writeGraphics
  exact ite (hunit _) <| ite (hunit _) <| ite (hunit _) <| ite (hunit _) <| ite (hunit _) <|
    ite (hunit _) <| ite (iteState (hf ..) (hunit _)) <| ite (hunit _) <| ite (hunit _) (refl s)

lemma writeCrtc (hf : ∀ (s : VgaCore) c lo lc vde y b, Keeps f s
      { s with
        crtc := c, lineOffset := lo, lineCompare := lc, verticalDisplayEnd := vde
        yDoublescan := y, vgaMemUpdated := b }) (value : BitVec 32) :
    Keeps f s (s.writeCrtc value).1 := by
  have hreg : ∀ (i : Fin 0x19) (v : BitVec 8), Keeps f s (s.withCrtcReg i v) := fun i v =>
    hf s _ s.lineOffset s.lineCompare s.verticalDisplayEnd s.yDoublescan s.vgaMemUpdated
  have hchanged : ∀ (s : VgaCore) (i : Fin 0x19), Keeps f s (s.crtcChanged i value).1 := by
    intro s i
    unfold VgaCore.crtcChanged
    exact ite (hf ..) <| ite (refl s) <| ite (hf ..) <| ite (hf ..) <|
      ite (ite (refl s) (hf ..)) <| ite (hf ..) <| ite (hf ..) <| ite (hf ..) <|
      ite (hf ..) (refl s)
  unfold VgaCore.writeCrtc
  split
  · exact ite (ite (hf ..) (refl s)) (ite ((hreg _ _).trans (hchanged _ _)) (refl s))
  · exact refl s

/-! ## A byte written to a port -/

/-- A byte written to a port keeps what data written to the indexed unit of that port keeps. -/
lemma writePort (hf : VgaView f) {address : BitVec 64} {value : BitVec 32}
    (hattribute : address = 0x03c0 → Keeps f s (s.writeAttribute value).1)
    (hsequencer : address = 0x03c5 → Keeps f s (s.writeSequencer value).1)
    (hgraphics : address = 0x03cf → Keeps f s (s.writeGraphics value).1)
    (hcrtc : address = 0x03b5 ∨ address = 0x03d5 → Keeps f s (s.writeCrtc value).1) :
    Keeps f s (s.writePort address value).1 := by
  unfold VgaCore.writePort
  exact iteOf hattribute <| ite (hf.misc ..) <| ite (hf.enabled ..) <|
    ite (hf.sequencerIndex ..) <| iteOf hsequencer <| ite (ite (hf.pel ..) (refl s)) <|
    ite (hf.pel ..) <| ite (hf.pel ..) <| ite (hf.pel ..) <| ite (hf.graphicsIndex ..) <|
    iteOf hgraphics <| ite (hf.crtcAddress ..) <| iteOf hcrtc (refl s)

lemma coreWriteByte (hf : VgaView f) {address : BitVec 64} {value : BitVec 32}
    (hport : Keeps f s (s.writePort address value).1) :
    Keeps f s (s.coreWriteByte address value).1 := by
  unfold VgaCore.coreWriteByte
  exact ite (refl s) (hport.trans (hf.registers (.applyChanges _)))

lemma portWriteByte (hf : VgaView f) {address : BitVec 64} {value : BitVec 32}
    (hport : Keeps f s (s.writePort address value).1) :
    Keeps f s (s.portWriteByte address value).1 := by
  have hcore := coreWriteByte hf hport
  unfold VgaCore.portWriteByte
  refine ite (refl s) (ite ?_ hcore)
  split
  · exact ite hcore (refl s)
  · exact refl s

lemma portIoWriteHandler
    (hbyte : ∀ (s : VgaCore) address value, Keeps f s (s.portWriteByte address value).1)
    (address : BitVec 64) (value length : BitVec 32) :
    Keeps f s (s.portIoWriteHandler address value length).1 := by
  unfold VgaCore.portIoWriteHandler
  exact ite ((hbyte ..).trans (hbyte ..)) (hbyte ..)

/-! ## What else a guest does -/

lemma portReadByte (hf : VgaView f) (address : BitVec 64) :
    Keeps f s (s.portReadByte address).2 := by
  have hpel : Keeps f s s.readPelData.2 := by
    unfold VgaCore.readPelData
    exact iteRight (hf.pel ..) (refl s)
  unfold VgaCore.portReadByte
  exact iteRight (refl s) <| iteRight (hf.flipFlop ..) <| iteRight (refl s) <| iteRight (refl s) <|
    iteRight (refl s) <| iteRight (refl s) <| iteRight (refl s) <| iteRight (refl s) <|
    iteRight (refl s) <| iteRight (refl s) <| iteRight hpel <| iteRight (refl s) <|
    iteRight (refl s) <| iteRight (refl s) <| iteRight (refl s) <| iteRight (refl s) (refl s)

lemma portIoReadHandler (hf : VgaView f) (address : BitVec 64) (length : BitVec 32) :
    Keeps f s (s.portIoReadHandler address length).2 := by
  unfold VgaCore.portIoReadHandler
  exact iteRight ((portReadByte hf _).trans (portReadByte hf _)) (portReadByte hf _)

lemma mmioWriteHandler (hf : VgaView f) (data : List (BitVec 8)) :
    ∀ (s : VgaCore) (address : BitVec 32), Keeps f s (s.mmioWriteHandler address data).1 := by
  induction data with
  | nil => exact fun s _ => refl s
  | cons byte bytes ih =>
      intro s address
      exact (hf.registers VgaCore.SameRegisters.mmioWrite).trans (ih _ (address + 1))

lemma mmioReadHandler (hf : VgaView f) (length : ℕ) :
    ∀ (s : VgaCore) (address : BitVec 32), Keeps f s (s.mmioReadHandler address length).2.1 := by
  induction length with
  | zero => exact fun s _ => refl s
  | succ length ih =>
      intro s address
      obtain ⟨latch, hlatch⟩ := VgaCore.mmioRead_latches (address.setWidth 64) s
      have hfirst : Keeps f s (s.mmioRead (address.setWidth 64)).2.1 := by
        rw [hlatch]
        exact hf.latches s latch
      exact hfirst.trans (ih _ (address + 1))

lemma countUpdate (hf : VgaView f) : Keeps f s s.countUpdate.1 := by
  unfold VgaCore.countUpdate
  exact ite (hf.counter ..) <| ite (ite (hf.counter ..) <| ite (hf.counter ..) (hf.counter ..))
    (hf.counter ..)

lemma skipUpdate (hf : SizelessView f) (s : VgaCore) : Keeps f s s.skipUpdate.2 :=
  hf.clearScreen s false

lemma updateGraphics (hf : SizelessView f) (csToggle : Bool) :
    Keeps f s (s.updateGraphics csToggle).1 := by
  have hsize : Keeps f s s.withScreenSize := by
    unfold VgaCore.withScreenSize
    exact iteState (hf.size ..) (refl s)
  have hskip := hsize.trans (skipUpdate hf _)
  unfold VgaCore.updateGraphics
  refine ite hskip (hskip.trans ?_)
  exact (hf.registers (.paintTiles _ _)).trans (hf.registers (.memUpdated false))

lemma updateText (hf : SizelessView f) (fuel : ℕ) : Keeps f s (s.updateText fuel).1 := by
  have hsize : Keeps f s s.withTextSize := by
    unfold VgaCore.withTextSize
    exact iteState (hf.size ..) (refl s)
  have hskip := hsize.trans (skipUpdate hf _)
  unfold VgaCore.updateText
  refine ite (refl s) (ite hskip (ite (hskip.trans ?_) hskip))
  exact hf.registers (.memUpdated false)

lemma update (hf : SizelessView f) (fuel : ℕ) : Keeps f s (s.update fuel).1 := by
  have hcount : Keeps f s s.countUpdate.1 := countUpdate hf.toVgaView
  unfold VgaCore.update
  revert hcount
  rcases s.countUpdate with ⟨t, _ | csToggle⟩ <;> intro hcount
  · exact hcount
  · exact ite (hcount.trans (updateGraphics hf csToggle)) (hcount.trans (updateText hf fuel))

end Keeps

/-! ## The settings -/

/-- The values that are derived from the registers of the CRTC. -/
structure VgaDerived where
  lineOffset : BitVec 11
  lineCompare : BitVec 10
  verticalDisplayEnd : BitVec 10
  yDoublescan : Bool

/-- What is kept in the registers of the four indexed units, and what is derived from them. -/
structure VgaSettings where
  derived : VgaDerived
  crtcReg : Fin 0x19 → BitVec 8
  attributeCtrl : VgaAttribute
  graphicsCtrl : VgaGraphics
  sequencer : VgaSequencer

/-- The derived values of a state. -/
def VgaCore.derived (s : VgaCore) : VgaDerived :=
  ⟨s.lineOffset, s.lineCompare, s.verticalDisplayEnd, s.yDoublescan⟩

/-- The settings of a state, without the flip-flop, the indices and the latches. -/
def VgaCore.settings (s : VgaCore) : VgaSettings where
  derived := s.derived
  crtcReg := s.crtc.reg
  attributeCtrl := { s.attributeCtrl with flipFlop := false }
  graphicsCtrl := { s.graphicsCtrl with index := 0, latch := fun _ => 0 }
  sequencer := { s.sequencer with index := 0, clearScreen := false }

lemma settings_view : SizelessView VgaCore.settings where
  registers := by
    rintro s t ⟨m, k, b, rfl⟩
    rfl
  latches _ _ := rfl
  flipFlop _ _ := rfl
  sequencerIndex _ _ := rfl
  graphicsIndex _ _ := rfl
  crtcAddress _ _ := rfl
  pel _ _ := rfl
  misc _ _ := rfl
  enabled _ _ := rfl
  counter _ _ _ := rfl
  size _ _ _ _ _ _ _ := rfl
  clearScreen _ _ := rfl

/-! ## The ports of both emulations -/

lemma not_otherEmulation {address : BitVec 64} (h : 0x03c0 ≤ address) (h' : address ≤ 0x03cf) :
    ¬ s.otherEmulation address := by
  rintro (⟨-, hle, -⟩ | ⟨hle, -⟩) <;> bv_omega

/-- A byte written to a port. -/
def VgaCore.writeByte (address : BitVec 64) (b : BitVec 8) (s : VgaCore) : VgaCore :=
  (s.portIoWriteHandler address (b.setWidth 32) 1).1

/-- A byte written to a port from 0x3c0 to 0x3cf goes to its unit. -/
lemma portWriteByte_eq {address : BitVec 64} (h : 0x03c0 ≤ address) (h' : address ≤ 0x03cf)
    (value : BitVec 32) : s.portWriteByte address value =
      (s.writePort address value).1.applyChanges (s.writePort address value).2 := by
  have hother := not_otherEmulation (s := s) h h'
  have hcrtc : ¬ (address = 0x03b5 ∨ address = 0x03d5) := by
    rintro (rfl | rfl) <;> revert h h' <;> decide
  unfold VgaCore.portWriteByte VgaCore.coreWriteByte
  rw [if_neg hother, if_neg hcrtc, if_neg hother]

/-! ## Steps -/

/-- A byte written to a port, with the state that it finds. -/
structure VgaByteWrite where
  state : VgaCore
  address : BitVec 64
  value : BitVec 32

/-- The state that a byte written leaves. -/
def VgaByteWrite.after (w : VgaByteWrite) : VgaCore := (w.state.portWriteByte w.address w.value).1

/-- The bytes that an event writes to ports; a word is two of them. -/
def VgaEvent.byteWrites (s : VgaCore) : VgaEvent → List VgaByteWrite
  | .portWrite address value length =>
      if length = 2 then
        let first : VgaByteWrite := ⟨s, address, value &&& 0xff⟩
        [first, ⟨first.after, address + 1, (value >>> 8) &&& 0xff⟩]
      else [⟨s, address, value⟩]
  | _ => []

lemma effect_of_vgaStep {event : VgaEvent} (hstep : vgaStep s event = .ok t) :
    t = (event.effect textFuel s).1 := by
  unfold vgaStep at hstep
  simp only at hstep
  split_ifs at hstep
  exact (Except.ok.inj hstep).symm

/-- The bytes that a step writes lead from one state to the next, and a step that writes none leaves
what no update changes. -/
lemma vgaStep_byteWrites (hf : SizelessView f) {event : VgaEvent}
    (hstep : vgaStep s event = .ok t) :
    event.byteWrites s = [] ∧ Keeps f s t ∨
      (∃ w, event.byteWrites s = [w] ∧ w.state = s ∧ w.after = t) ∨
      ∃ w w', event.byteWrites s = [w, w'] ∧ w.state = s ∧ w'.state = w.after ∧ w'.after = t := by
  obtain rfl := effect_of_vgaStep hstep
  cases event with
  | portWrite address value length =>
      right
      unfold VgaEvent.byteWrites VgaEvent.effect VgaCore.portIoWriteHandler
      by_cases htwo : length = 2
      · simp only [if_pos htwo]
        exact .inr ⟨_, _, rfl, rfl, rfl, rfl⟩
      · simp only [if_neg htwo]
        exact .inl ⟨_, rfl, rfl, rfl⟩
  | portRead address length => exact .inl ⟨rfl, Keeps.portIoReadHandler hf.toVgaView ..⟩
  | memoryWrite address data => exact .inl ⟨rfl, Keeps.mmioWriteHandler hf.toVgaView ..⟩
  | memoryRead address length => exact .inl ⟨rfl, Keeps.mmioReadHandler hf.toVgaView ..⟩
  | update => exact .inl ⟨rfl, Keeps.update hf textFuel⟩

/-- A step keeps a view that each of the bytes it writes keeps. -/
lemma vgaStep_keeps (hf : SizelessView f) {event : VgaEvent} (hstep : vgaStep s event = .ok t)
    (hwrites : ∀ w ∈ event.byteWrites s, Keeps f w.state w.after) : Keeps f s t := by
  obtain ⟨-, h⟩ | ⟨w, hw, rfl, rfl⟩ | ⟨w, w', hw, rfl, hstate, rfl⟩ :=
    vgaStep_byteWrites hf hstep
  · exact h
  · exact hwrites w (hw ▸ List.mem_singleton_self w)
  · rw [hw, List.forall_mem_cons, List.forall_mem_singleton] at hwrites
    exact hwrites.1.trans (hstate ▸ hwrites.2)

/-- A property that some bytes bring about, and that the others leave as it was, is brought about by
the steps that write such a byte. -/
lemma vgaStep_latch {I : VgaCore → Prop} {P : VgaByteWrite → Prop} (hI : SizelessView I)
    (hwrite : ∀ w : VgaByteWrite, I w.after ↔ I w.state ∨ P w) {event : VgaEvent}
    (hstep : vgaStep s event = .ok t) : I t ↔ I s ∨ ∃ w ∈ event.byteWrites s, P w := by
  obtain ⟨hw, h⟩ | ⟨w, hw, rfl, rfl⟩ | ⟨w, w', hw, rfl, hstate, rfl⟩ :=
    vgaStep_byteWrites hI hstep
  · simp [hw, show I t = I s from h]
  · simp [hw, hwrite w]
  · simp [hw, hwrite w', hstate, hwrite w, or_assoc]

end Svmm
