import Mathlib.Data.Fin.Basic
import Mathlib.Data.List.TakeWhile
import Svmm.Properties.PciConfig.Effects

/-!
# PIRQ routes

The ISA bridge keeps the routes twice: in the registers 0x60 to 0x63, and as a set of inputs for
each interrupt line.  A write adds its input to the line that it routes to, and nothing ever takes
one away: the handler gives `Piix3UnregisterIrq` the new contents of the register, whose disable bit
makes it 16 or more.  The tables are therefore told by what was written: the register holds the last
byte without the disable bit, and the sets have every such byte but the zeros at the beginning.
-/

namespace Svmm

open TransitionRun

/-! ## Statements -/

/-- A byte that is written to a route register. -/
structure PirqWrite where
  k : Fin 4
  value : BitVec 32

namespace PirqWrite

/-- The register of an input. -/
def register (k : Fin 4) : ℕ := 0x60 + k

/-- The configuration write. -/
def write (w : PirqWrite) : PciWrite where
  fn := piix3Function
  offset := BitVec.ofNat 8 (register w.k)
  value := w.value
  length := 1

/-- The byte, masked. -/
def byte (w : PirqWrite) : BitVec 8 := w.value.setWidth 8 &&& 0x8f

end PirqWrite

def pirqStep (s : PciSystem) (w : PirqWrite) : PciConfigOutcome PciSystem :=
  pciSystemWrite s w.write

/-- The bytes that a list of writes puts into a register, masked. -/
def routed (ws : List PirqWrite) (k : Fin 4) : List (BitVec 8) :=
  (ws.filter fun w => w.k = k).map PirqWrite.byte

/-- A register holds an interrupt line, with its disable bit clear. -/
def Routes (r : BitVec 8) (irq : Fin 16) : Prop :=
  Word.has r 7 = false ∧ (r &&& 0x0f).toNat = irq

/-- After a list of writes, a register holds what was written last, and the lines that its input is
registered for are those that it routes to. -/
def RouteConsistent (s : PciSystem) (ws : List PirqWrite) (k : Fin 4) : Prop :=
  (∀ b, (routed ws k).getLast? = some b → s.conf piix3Function (PirqWrite.register k) = b) ∧
    ∀ irq, Word.has (s.piix3.irqRegister irq) k ↔
      Routes (s.conf piix3Function (PirqWrite.register k)) irq

/-- The ISA bridge before the first write to a route register. -/
structure Unrouted (s : PciSystem) : Prop where
  initialized : (s.bus.device piix3Function).initialized = true
  register : ∀ k, s.conf piix3Function (PirqWrite.register k) = 0
  irqRegister : ∀ irq, s.piix3.irqRegister irq = 0

/-- The bytes without the disable bit. -/
def enabled (bytes : List (BitVec 8)) : List (BitVec 8) := bytes.filter fun b => !Word.has b 7

/-- The bytes that the sets have: the zeros at the beginning are what the register holds already. -/
def registered (bytes : List (BitVec 8)) : List (BitVec 8) :=
  (enabled bytes).dropWhile fun b => b = 0

/-- The last byte written to a register routes to a line other than 0, and every byte before it has
the disable bit, or routes to the same line, or is one of the zeros at the beginning. -/
def Settled (ws : List PirqWrite) (k : Fin 4) : Prop :=
  ∃ irq, (routed ws k).getLast? = some irq ∧ irq ≠ 0 ∧ Word.has irq 7 = false ∧
    ∀ b ∈ registered (routed ws k), b = irq

/-! ## One write -/

section Write

variable {s : PciSystem} {w : PirqWrite}

lemma toNat_register (k : Fin 4) :
    (BitVec.ofNat 8 (PirqWrite.register k)).toNat = PirqWrite.register k := by
  have := k.isLt
  rw [BitVec.toNat_ofNat, PirqWrite.register]
  omega

lemma register_mod (k : Fin 4) : PirqWrite.register k % 4 = k := by
  have := k.isLt
  unfold PirqWrite.register
  omega

lemma register_inj {k k' : Fin 4} (h : PirqWrite.register k = PirqWrite.register k') : k = k' :=
  Fin.ext (Nat.add_left_cancel h)

/-- A write to a route register is passed on to the ISA bridge. -/
lemma pirqStep_eq (h : (s.bus.device piix3Function).initialized = true) :
    pirqStep s w = .ok (piix3Route piix3Function (PirqWrite.register w.k) w.byte s) := by
  have hk := w.k.isLt
  have hoffset : w.write.offset.toNat = 0x60 + w.k.val := toNat_register w.k
  have hlength : w.write.length = 1 := rfl
  have hne : ∀ b : BitVec 8, b.toNat < 0x60 ∨ 0x63 < b.toNat → w.write.offset ≠ b := by
    rintro b hb rfl
    omega
  have hpassed : w.write.Passed s.bus := by
    refine ⟨⟨h, hne 0xff (by decide), ?_⟩, fun hbar => ?_, hne 0x30 (by decide),
      hne 0x3c (by decide)⟩
    · omega
    · have hle : w.write.offset.toNat ≤ 0x24 := hbar.2.2
      omega
  have hfn : w.write.fn = piix3Function := rfl
  have hrange : List.range w.write.length = [0] := rfl
  have hwindow : ¬ (0x10 ≤ w.write.offset.toNat ∧ w.write.offset.toNat < 0x34) := by omega
  have hroute : 0x60 ≤ w.write.offset.toNat + 0 ∧ w.write.offset.toNat + 0 ≤ 0x63 := by omega
  have hbyte : bridgeByte w.write.value 0 &&& 0x8f = w.byte := by
    unfold bridgeByte
    rw [BitVec.ushiftRight_zero]
    rfl
  rw [pirqStep, pciSystemWrite, if_pos hpassed, pciConfWriteHandler, hfn, if_neg (by decide),
    if_pos rfl, piix3PciConfWriteHandler, if_neg hwindow, hrange, hfn]
  simp only [List.foldl_cons, List.foldl_nil, piix3WriteByte, if_pos hroute, hbyte]
  rw [hoffset]
  rfl

/-- A byte that is written a second time, or that has the disable bit, leaves everything. -/
lemma piix3Route_of_disabled (h : Word.has w.byte 7 = true) :
    piix3Route piix3Function (PirqWrite.register w.k) w.byte s = s := by
  have hlt : ¬ w.byte.toNat < 16 := by
    rw [PirqWrite.byte, masked_lt_iff, ← PirqWrite.byte, h]
    simp
  rw [piix3Route, if_pos h, piix3UnregisterIrq, dif_neg hlt, ite_self]

lemma piix3Route_of_eq (h : w.byte = s.conf piix3Function (PirqWrite.register w.k)) :
    piix3Route piix3Function (PirqWrite.register w.k) w.byte s = s := by
  rw [piix3Route, if_pos h]

/-- Another byte without it is stored, and the input is added to its line. -/
lemma piix3Route_of_ne (h : Word.has w.byte 7 = false)
    (hne : w.byte ≠ s.conf piix3Function (PirqWrite.register w.k)) :
    piix3Route piix3Function (PirqWrite.register w.k) w.byte s =
      piix3RegisterIrq piix3Function (PirqWrite.register w.k) w.byte s := by
  rw [piix3Route, if_neg hne, h]
  rfl

end Write

/-! ## The bytes that were written -/

section Bytes

variable {bs : List (BitVec 8)} {b : BitVec 8}

lemma routed_append (ws : List PirqWrite) (w : PirqWrite) (k : Fin 4) :
    routed (ws ++ [w]) k = if w.k = k then routed ws k ++ [w.byte] else routed ws k := by
  unfold routed
  rw [List.filter_append, List.map_append]
  by_cases h : w.k = k
  · simp [h]
  · simp [h]

lemma enabled_append_of_disabled (h : Word.has b 7 = true) : enabled (bs ++ [b]) = enabled bs := by
  simp [enabled, List.filter_append, h]

lemma enabled_append (h : Word.has b 7 = false) : enabled (bs ++ [b]) = enabled bs ++ [b] := by
  simp [enabled, List.filter_append, h]

/-- Where nothing is registered, the register still holds zero. -/
lemma registered_eq_nil (h : registered bs = []) : (enabled bs).getLastD 0 = 0 := by
  have hzero : ∀ b ∈ enabled bs, b = 0 := fun b hb =>
    of_decide_eq_true (List.dropWhile_eq_nil_iff.mp h b hb)
  rw [List.getLastD_eq_getLast?]
  cases hlast : (enabled bs).getLast? with
  | none => rfl
  | some b => exact hzero b (List.mem_of_getLast? hlast)

/-- Otherwise what it holds is registered. -/
lemma getLastD_mem_registered (h : registered bs ≠ []) :
    (enabled bs).getLastD 0 ∈ registered bs := by
  obtain ⟨zeros, hzeros⟩ : registered bs <:+ enabled bs := List.dropWhile_suffix _
  have hlast : (enabled bs).getLast? = some ((registered bs).getLast h) := by
    rw [← hzeros, List.getLast?_append, List.getLast?_eq_some_getLast h]
    rfl
  rw [List.getLastD_eq_getLast?, hlast]
  exact List.getLast_mem h

/-- A byte without the disable bit is registered, unless the register holds it already. -/
lemma mem_registered_append (h : Word.has b 7 = false) (b' : BitVec 8) :
    b' ∈ registered (bs ++ [b]) ↔
      b' ∈ registered bs ∨ b' = b ∧ b ≠ (enabled bs).getLastD 0 := by
  have happend : registered (bs ++ [b]) =
      if registered bs = [] then (if b = 0 then [] else [b]) else registered bs ++ [b] := by
    unfold registered
    rw [enabled_append h, List.dropWhile_append]
    by_cases hb : b = 0
    · simp [hb, List.isEmpty_iff]
    · simp only [List.isEmpty_iff, List.dropWhile_cons, List.dropWhile_nil, hb, decide_false]
      rfl
  rw [happend]
  by_cases hnil : registered bs = []
  · rw [if_pos hnil, hnil, registered_eq_nil hnil]
    by_cases hb : b = 0
    · rw [if_pos hb, hb]
      simp
    · rw [if_neg hb, List.mem_singleton]
      exact ⟨fun heq => Or.inr ⟨heq, hb⟩, fun hor => (hor.resolve_left List.not_mem_nil).1⟩
  · rw [if_neg hnil, List.mem_append, List.mem_singleton]
    by_cases hb : b = (enabled bs).getLastD 0
    · have hmem := getLastD_mem_registered hnil
      rw [← hb] at hmem
      constructor
      · rintro (hold | rfl)
        · exact Or.inl hold
        · exact Or.inl hmem
      · rintro (hold | hnew)
        · exact Or.inl hold
        · exact absurd hb hnew.2
    · rw [and_iff_left hb]

end Bytes

/-! ## Every run -/

/-- The tables are those that the bytes written so far stand for. -/
structure Tracks (ws : List PirqWrite) (s : PciSystem) : Prop where
  initialized : (s.bus.device piix3Function).initialized = true
  register : ∀ k, s.conf piix3Function (PirqWrite.register k) = (enabled (routed ws k)).getLastD 0
  irqRegister : ∀ (irq : Fin 16) (k : Fin 4), Word.has (s.piix3.irqRegister irq) k = true ↔
    ∃ b ∈ registered (routed ws k), b.toNat = irq

lemma Unrouted.tracks {s : PciSystem} (h : Unrouted s) : Tracks [] s where
  initialized := h.initialized
  register k := h.register k
  irqRegister irq k := by
    rw [h.irqRegister irq]
    simp [routed, registered, enabled]

section Step

variable {ws : List PirqWrite} {w : PirqWrite} {s : PciSystem}

/-- A write that leaves the tables, and what is enabled and registered. -/
lemma Tracks.same (h : Tracks ws s)
    (henabled : (enabled (routed ws w.k ++ [w.byte])).getLastD 0 =
      (enabled (routed ws w.k)).getLastD 0)
    (hregistered : ∀ b, b ∈ registered (routed ws w.k ++ [w.byte]) ↔
      b ∈ registered (routed ws w.k)) : Tracks (ws ++ [w]) s where
  initialized := h.initialized
  register k := by
    rw [h.register k, routed_append]
    by_cases hk : w.k = k
    · subst hk
      rw [if_pos rfl, henabled]
    · rw [if_neg hk]
  irqRegister irq k := by
    rw [h.irqRegister irq k, routed_append]
    by_cases hk : w.k = k
    · subst hk
      simp only [if_true, hregistered]
    · rw [if_neg hk]

/-- A write that puts another line into the register. -/
lemma Tracks.register_irq (h : Tracks ws s) (henabled : Word.has w.byte 7 = false)
    (hne : w.byte ≠ s.conf piix3Function (PirqWrite.register w.k)) :
    Tracks (ws ++ [w]) (piix3RegisterIrq piix3Function (PirqWrite.register w.k) w.byte s) := by
  have hlt : w.byte.toNat < 16 := (masked_lt_iff _).mpr henabled
  rw [piix3RegisterIrq, dif_pos hlt]
  refine ⟨?_, fun k => ?_, fun irq k => ?_⟩
  · simp [PciSystem.storeConf, PciSystem.setConf, PciBus.setDevice, h.initialized]
  · have hconf : (Function.update (s.bus.device piix3Function).conf (PirqWrite.register w.k) w.byte)
        (PirqWrite.register k) =
        if w.k = k then w.byte else s.conf piix3Function (PirqWrite.register k) := by
      by_cases hk : w.k = k
      · subst hk
        rw [Function.update_self, if_pos rfl]
      · rw [Function.update_of_ne fun heq => hk (register_inj heq).symm, if_neg hk]
        rfl
    simp only [PciSystem.conf, PciSystem.storeConf, PciSystem.setConf, PciBus.setDevice,
      Function.update_self]
    rw [hconf, routed_append]
    by_cases hk : w.k = k
    · rw [if_pos hk, if_pos hk, enabled_append henabled]
      simp
    · rw [if_neg hk, if_neg hk, h.register k]
  · have hmem (b : BitVec 8) : b ∈ registered (routed ws w.k ++ [w.byte]) ↔ _ :=
      mem_registered_append henabled b
    rw [← h.register w.k] at hmem
    have hold := h.irqRegister irq k
    change Word.has (Function.update s.piix3.irqRegister ⟨w.byte.toNat, hlt⟩
      (Word.set (s.piix3.irqRegister ⟨w.byte.toNat, hlt⟩) (PirqWrite.register w.k % 4)) irq)
      k = true ↔ _
    rw [routed_append]
    by_cases hirq : irq = ⟨w.byte.toNat, hlt⟩
    · subst hirq
      rw [Function.update_self, Word.has_set, register_mod, Bool.or_eq_true, hold]
      by_cases hk : w.k = k
      · subst hk
        simp only [if_true, hmem]
        simp [hne]
        omega
      · have hval : ¬ w.k.val = k.val := fun heq => hk (Fin.ext heq)
        simp [hk, hval]
    · rw [Function.update_of_ne hirq, hold]
      have hval : ¬ w.byte.toNat = irq.val := fun heq => hirq (Fin.ext heq.symm)
      by_cases hk : w.k = k
      · subst hk
        simp only [if_true, hmem, or_and_right, exists_or]
        simp [hne, hval]
      · rw [if_neg hk]

/-- One write keeps what the tables stand for. -/
lemma Tracks.step (h : Tracks ws s) : ∃ t, pirqStep s w = .ok t ∧ Tracks (ws ++ [w]) t := by
  refine ⟨_, pirqStep_eq h.initialized, ?_⟩
  cases hbit : Word.has w.byte 7 with
  | true =>
      rw [piix3Route_of_disabled hbit]
      have hsame : enabled (routed ws w.k ++ [w.byte]) = enabled (routed ws w.k) :=
        enabled_append_of_disabled hbit
      exact h.same (by rw [hsame]) fun b => by rw [registered, hsame, registered]
  | false =>
      by_cases hne : w.byte = s.conf piix3Function (PirqWrite.register w.k)
      · rw [piix3Route_of_eq hne]
        have hlast := hne.trans (h.register w.k)
        refine h.same ?_ fun b => ?_
        · rw [enabled_append hbit, ← hlast]
          simp
        · rw [mem_registered_append hbit]
          simp [hlast]
      · rw [piix3Route_of_ne hbit hne]
        exact h.register_irq hbit hne

/-- Every list of writes is gone through. -/
lemma Tracks.run (vs : List PirqWrite) :
    ∀ {ws : List PirqWrite} {s : PciSystem}, Tracks ws s →
      ∃ t, run pirqStep s vs = .ok t ∧ Tracks (ws ++ vs) t := by
  induction vs with
  | nil =>
      intro ws s h
      exact ⟨s, rfl, by simpa using h⟩
  | cons v vs ih =>
      intro ws s h
      obtain ⟨u, hu, htracks⟩ := h.step (w := v)
      obtain ⟨t, ht, htracks⟩ := ih htracks
      refine ⟨t, run_cons_ok.mpr ⟨u, hu, ht⟩, ?_⟩
      simpa using htracks

end Step

/-- The register never holds the disable bit. -/
lemma has_getLastD (bs : List (BitVec 8)) : Word.has ((enabled bs).getLastD 0) 7 = false := by
  rw [List.getLastD_eq_getLast?]
  cases hlast : (enabled bs).getLast? with
  | none => rfl
  | some b => simpa using (List.mem_filter.mp (List.mem_of_getLast? hlast)).2

/-- The zeros at the beginning are not registered. -/
lemma zero_of_forall_registered {bs : List (BitVec 8)} (h : ∀ b ∈ registered bs, b = 0) :
    registered bs = [] := by
  by_contra hne
  have hhead : decide ((registered bs).head hne = 0) = false := List.head_dropWhile_not _ hne
  rw [h _ (List.head_mem hne)] at hhead
  cases hhead

/-- What the tables stand for is what was written last, in the settled cases only. -/
lemma Tracks.consistent_iff {ws : List PirqWrite} {s : PciSystem} (h : Tracks ws s) (k : Fin 4) :
    RouteConsistent s ws k ↔ Settled ws k := by
  rw [RouteConsistent, Settled, h.register k]
  simp only [h.irqRegister]
  have hbytes : ∀ b ∈ routed ws k, b.toNat < 16 ↔ Word.has b 7 = false := by
    intro b hb
    obtain ⟨w, -, rfl⟩ := List.mem_map.mp hb
    exact masked_lt_iff _
  generalize routed ws k = bs at hbytes
  have hlt : ∀ b ∈ enabled bs, b.toNat < 16 := by
    intro b hb
    obtain ⟨hmem, hbit⟩ := List.mem_filter.mp hb
    exact (hbytes b hmem).mpr (by simpa using hbit)
  have hroutes : ∀ b : BitVec 8, Word.has b 7 = false → b.toNat < 16 → ∀ irq : Fin 16,
      Routes b irq ↔ b.toNat = irq := by
    intro b hbit hb irq
    have hmask : (0x0f : BitVec 8).toNat = 2 ^ 4 - 1 := rfl
    rw [Routes, and_iff_right hbit, Word.and_mask_of_lt hmask hb]
  have hsub : registered bs ⊆ enabled bs := List.IsSuffix.subset (List.dropWhile_suffix _)
  cases hlast : bs.getLast? with
  | none =>
      obtain rfl : bs = [] := List.getLast?_eq_none_iff.mp hlast
      constructor
      · rintro ⟨-, hall⟩
        obtain ⟨b, hb, -⟩ := (hall 0).mpr ⟨rfl, rfl⟩
        cases hb
      · rintro ⟨irq, hirq, -⟩
        cases hirq
  | some last =>
      obtain ⟨init, rfl⟩ : ∃ init, bs = init ++ [last] := List.getLast?_eq_some_iff.mp hlast
      cases hbit : Word.has last 7 with
      | true =>
          constructor
          · rintro ⟨hreg, -⟩
            have hclear := has_getLastD (init ++ [last])
            rw [hreg last rfl, hbit] at hclear
            cases hclear
          · rintro ⟨irq, hirq, -, hclear, -⟩
            obtain rfl : last = irq := Option.some.inj hirq
            rw [hbit] at hclear
            cases hclear
      | false =>
          have hmem : last ∈ enabled (init ++ [last]) := by
            rw [enabled_append hbit]
            simp
          have hreg : (enabled (init ++ [last])).getLastD 0 = last := by
            rw [enabled_append hbit]
            simp
          have hline := hlt last hmem
          rw [hreg]
          constructor
          · rintro ⟨-, hall⟩
            have hsame : ∀ b ∈ registered (init ++ [last]), b = last := by
              intro b hb
              have hroute := (hall ⟨b.toNat, hlt b (hsub hb)⟩).mp ⟨b, hb, rfl⟩
              exact (BitVec.eq_of_toNat_eq ((hroutes last hbit hline _).mp hroute)).symm
            refine ⟨last, rfl, ?_, hbit, hsame⟩
            rintro rfl
            obtain ⟨b, hb, -⟩ := (hall 0).mpr ⟨rfl, rfl⟩
            rw [zero_of_forall_registered hsame] at hb
            cases hb
          · rintro ⟨irq, hirq, hne, -, hsame⟩
            obtain rfl : last = irq := Option.some.inj hirq
            refine ⟨fun b hb => Option.some.inj hb, fun irq => ?_⟩
            rw [hroutes last hbit hline irq]
            constructor
            · rintro ⟨b, hb, hval⟩
              rw [← hsame b hb, hval]
            · intro hval
              have hnil : registered (init ++ [last]) ≠ [] := fun hnil =>
                hne (hreg.symm.trans (registered_eq_nil hnil))
              have hin := getLastD_mem_registered hnil
              rw [hreg] at hin
              exact ⟨last, hin, hval⟩

/-- After every list of writes to the route registers, the tables are consistent for an input
exactly when what was written to its register is settled. -/
theorem route_consistent_iff {s : PciSystem} (h : Unrouted s) (ws : List PirqWrite) :
    ∃ t, run pirqStep s ws = .ok t ∧ ∀ k, RouteConsistent t ws k ↔ Settled ws k := by
  obtain ⟨t, ht, htracks⟩ := h.tracks.run ws
  exact ⟨t, ht, htracks.consistent_iff⟩

/-- The ISA bridge as it is set up: the writes of 0x80 have been ignored. -/
lemma exists_unrouted : ∃ s, piix3Initialize pciSystemInitialState = .ok s ∧ Unrouted s := by
  obtain ⟨s, hs, hinit, hregister, hirq⟩ := exists_of_ends
    (fun s : PciSystem => (s.bus.device piix3Function).initialized = true ∧
      (∀ k, s.conf piix3Function (PirqWrite.register k) = 0) ∧ ∀ irq, s.piix3.irqRegister irq = 0)
    (show ends _ (piix3Initialize pciSystemInitialState) = true by decide +kernel)
  exact ⟨s, hs, hinit, hregister, hirq⟩

/-- Two inputs that are routed to line 11 one after the other. -/
theorem route_consistent_two : ∃ s t, piix3Initialize pciSystemInitialState = .ok s ∧
    run pirqStep s [⟨0, 0x0b⟩, ⟨1, 0x0b⟩] = .ok t ∧
    RouteConsistent t [⟨0, 0x0b⟩, ⟨1, 0x0b⟩] 0 := by
  obtain ⟨s, hs, hunrouted⟩ := exists_unrouted
  obtain ⟨t, ht, hiff⟩ := route_consistent_iff hunrouted [⟨0, 0x0b⟩, ⟨1, 0x0b⟩]
  exact ⟨s, t, hs, ht, (hiff 0).mpr ⟨0x0b, by decide, by decide, by decide, by decide⟩⟩

/-- An input that is routed from line 11 to line 10 stays registered for line 11. -/
theorem route_stays_registered : ∃ s t, piix3Initialize pciSystemInitialState = .ok s ∧
    run pirqStep s [⟨0, 0x0b⟩, ⟨0, 0x0a⟩] = .ok t ∧
    s.conf piix3Function 0x60 = 0 ∧ t.conf piix3Function 0x60 = 0x0a ∧
    Word.has (t.piix3.irqRegister 11) 0 = true ∧
    ¬ RouteConsistent t [⟨0, 0x0b⟩, ⟨0, 0x0a⟩] 0 := by
  obtain ⟨s, hs, hunrouted⟩ := exists_unrouted
  obtain ⟨t, ht, htracks⟩ := hunrouted.tracks.run [⟨0, 0x0b⟩, ⟨0, 0x0a⟩]
  have hconf : t.conf piix3Function (PirqWrite.register 0) = 0x0a :=
    (htracks.register 0).trans (by decide)
  have hstale : Word.has (t.piix3.irqRegister 11) 0 = true :=
    (htracks.irqRegister 11 0).mpr ⟨0x0b, by decide, rfl⟩
  refine ⟨s, t, hs, ht, hunrouted.register 0, hconf, hstale, ?_⟩
  rintro ⟨-, hall⟩
  have hroutes := (hall 11).mp hstale
  rw [hconf] at hroutes
  exact absurd hroutes.2 (by decide)

end Svmm
