import Svmm.Properties.IoApic.Level

/-!
# What an EOI leaves of a line that is still asserted

`IoApicReceiveEndOfInterrupt` ends the wait of the level pins of its vector and returns; it
does not call `IoApicService`, as the raise and the redirection-table write do.  So an EOI
never delivers an asserted line again.  What `RedeliveredByEoi` finds after an EOI, it finds
only where the EOI changed nothing about the pin and the vector was already waiting.
-/

namespace Svmm

open TransitionRun

/-- A pin whose line the EOI should serve again: unmasked, level-triggered, with a legal
fixed-mode vector the local APIC hears, its line asserted, and its vector the one in service
that the EOI is for. -/
@[mk_iff]
structure AwaitsRedelivery (s : State) (pin : Fin 24) : Prop where
  unmasked : (s.entry pin).masked = false
  levelSensitive : (s.entry pin).levelSensitive = true
  deliveryMode : (s.entry pin).deliveryMode = deliveryModeFixed
  heard : (s.entry pin).heardBy s.lapic
  legal : 15 < (s.entry pin).vector.toNat
  asserted : s.asserted pin = true
  serving : s.serving (s.entry pin).vector = true
  eoiVector : s.eoiVector = (s.entry pin).vector

/-- After the EOI the vector waits in the local APIC and the pin waits for its next EOI. -/
def RedeliveredByEoi (s : State) (pin : Fin 24) : Prop :=
  (apicReceiveEOI s).requesting (s.entry pin).vector = true ∧
    ((apicReceiveEOI s).entry pin).remoteIrr = true

/-- The EOI is not broadcast, and the vector and the pin were already waiting. -/
def WaitsBeforeEoi (s : State) (pin : Fin 24) : Prop :=
  (s.eoiVector = s.lapic.spuriousVector ∨
      hasVector s.lapic.triggerModeRegister s.eoiVector = false) ∧
    s.requesting (s.entry pin).vector = true ∧ (s.entry pin).remoteIrr = true

instance (s : State) (pin : Fin 24) : Decidable (AwaitsRedelivery s pin) :=
  decidable_of_iff _ (awaitsRedelivery_iff s pin).symm

instance (s : State) (pin : Fin 24) : Decidable (RedeliveredByEoi s pin) :=
  inferInstanceAs (Decidable (_ ∧ _))

/-- An EOI never sets a request bit or a remote IRR bit. -/
lemma redeliveredByEoi_iff {s : State} {pin : Fin 24}
    (hlevel : (s.entry pin).levelSensitive = true) (heoi : s.eoiVector = (s.entry pin).vector) :
    RedeliveredByEoi s pin ↔ WaitsBeforeEoi s pin := by
  unfold RedeliveredByEoi WaitsBeforeEoi
  have hreq : (apicReceiveEOI s).requesting (s.entry pin).vector =
      s.requesting (s.entry pin).vector := by
    simp only [State.requesting, (lapic_apicReceiveEOI_frame s).2.1]
  rw [hreq]
  by_cases hspur : s.eoiVector = s.lapic.spuriousVector
  · rw [apicReceiveEOI_of_spurious s hspur]
    simp [hspur]
  · cases htmr : hasVector s.lapic.triggerModeRegister s.eoiVector with
    | true =>
        have hended : ((apicReceiveEOI s).entry pin).remoteIrr = false := by
          rw [entry_apicReceiveEOI hspur, if_pos htmr,
            IoRedirectEntry.remoteIrr_receiveEndOfInterrupt]
          simp [hlevel, heoi]
        simp [hended, hspur]
    | false =>
        rw [entry_apicReceiveEOI hspur, if_neg (by simp [htmr])]
        simp

/-- Every EOI of the run delivers again each line that awaits it. -/
def EoiRedelivers (s : State) (op : Op) : Prop :=
  op = .apicReceiveEOI → ∀ pin, AwaitsRedelivery s pin → RedeliveredByEoi s pin

/-- At every EOI of the run, each line that awaits it was waiting already, and the EOI is not
broadcast. -/
def EoiFindsWaiting (s : State) (op : Op) : Prop :=
  op = .apicReceiveEOI → ∀ pin, AwaitsRedelivery s pin → WaitsBeforeEoi s pin

/-- **Level-triggered redelivery** happens on a run exactly when there was nothing to
redeliver: each line still asserted at an EOI had its vector waiting and its remote IRR bit
set before, and the EOI changed neither. -/
theorem level_redelivery_iff (gvm : List Ioctl → Ioctl → Bool) (ops : List Op) :
    Meets step EoiRedelivers (State.initial gvm) ops ↔
      Meets step EoiFindsWaiting (State.initial gvm) ops := by
  refine Meets.congr fun s op => ?_
  unfold EoiRedelivers EoiFindsWaiting
  refine imp_congr_right fun _ => forall_congr' fun pin => ?_
  exact imp_congr_right fun h => redeliveredByEoi_iff h.levelSensitive h.eoiVector

/-- Pin 16 is still asserted at the EOI of its vector 0x31, and is not served again. -/
theorem level_redelivery_missed :
    ∃ s, run step (State.initial fun _ _ => true)
        [.ioApicMMIOWrite 0 0x30, .ioApicMMIOWrite 0x10 0x8031, .ioApicRaiseIrq 16,
          .irqWindowOpen] = .ok s ∧
      AwaitsRedelivery s 16 ∧ ¬ RedeliveredByEoi s 16 :=
  exists_of_ends (fun s => AwaitsRedelivery s 16 ∧ ¬ RedeliveredByEoi s 16) (by decide)

end Svmm
