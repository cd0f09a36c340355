import Svmm.Framework.Loop
import Svmm.Framework.Run
import Svmm.Construction.PciConfig

/-!
# What the handlers do to configuration bytes

Each turn of a handler's loop writes to one register, and what it puts there depends on what the
register held and on the byte it takes.  The bytes after a whole write follow from this.
-/

namespace Svmm

open Bytes Loop TransitionRun

variable {s : PciSystem} {fn fn' : PciFunction} {x y a : ℕ} {byte : BitVec 8}

/-! ## Stores -/

namespace PciSystem

@[simp] lemma conf_setConf (conf : ℕ → BitVec 8) :
    (s.setConf fn conf).conf fn' y = if fn' = fn then conf y else s.conf fn' y := by
  by_cases h : fn' = fn
  · subst h
    simp [PciSystem.conf, setConf, PciBus.setDevice]
  · simp [PciSystem.conf, setConf, PciBus.setDevice, h]

@[simp] lemma conf_storeConf :
    (s.storeConf fn x byte).conf fn' y = if fn' = fn ∧ y = x then byte else s.conf fn' y := by
  rw [storeConf, conf_setConf]
  by_cases h : fn' = fn
  · subst h
    rw [if_pos rfl, Function.update_apply]
    simp [PciSystem.conf]
  · simp [h]

@[simp] lemma conf_call (c : GvmCall) : (s.call c).conf fn y = s.conf fn y := rfl

@[simp] lemma i440fx_storeConf : (s.storeConf fn x byte).i440fx = s.i440fx := rfl

@[simp] lemma piix3_storeConf : (s.storeConf fn x byte).piix3 = s.piix3 := rfl

end PciSystem

/-! ## One turn of a loop -/

/-- What a function that cannot refuse a byte puts into a register. -/
abbrev RegisterRule := ℕ → BitVec 8 → BitVec 8 → BitVec 8

/-- A turn that puts what the rule says into one register and changes no other byte. -/
def WritesRegister (rule : RegisterRule) (fn : PciFunction) (x : ℕ) (byte : BitVec 8)
    (s t : PciSystem) : Prop :=
  ∀ fn' y, t.conf fn' y = if fn' = fn ∧ y = x then rule x (s.conf fn x) byte else s.conf fn' y

lemma writesRegister_storeConf (rule : RegisterRule) :
    WritesRegister rule fn x byte s (s.storeConf fn x (rule x (s.conf fn x) byte)) := by
  intro fn' y
  rw [PciSystem.conf_storeConf]

/-- A register that already holds what the rule says. -/
lemma writesRegister_self {rule : RegisterRule} (h : rule x (s.conf fn x) byte = s.conf fn x) :
    WritesRegister rule fn x byte s s := by
  intro fn' y
  by_cases hy : fn' = fn ∧ y = x
  · rw [if_pos hy, h, hy.1, hy.2]
  · rw [if_neg hy]

lemma conf_i440fxSmram : (i440fxSmram byte s).conf fn y = s.conf fn y := by
  unfold i440fxSmram
  by_cases h : Word.has byte 6 = true
  · simp only [h, if_true, PciSystem.conf_call]
  · rw [if_neg h]
    rfl

lemma i440fxRegister_attributes {old : BitVec 8} (h : 0x59 ≤ x ∧ x ≤ 0x5f) :
    i440fxRegister x old byte = byte := by
  unfold i440fxRegister
  repeat rw [if_neg (by omega)]

/-- A turn of the host bridge's loop. -/
lemma writesRegister_i440fx (value : BitVec 32) (i : ℕ) :
    WritesRegister i440fxRegister fn (a + i) (bridgeByte value i) s
      (i440fxWriteByte fn a value s i) := by
  unfold i440fxWriteByte
  by_cases hattributes : 0x59 ≤ a + i ∧ a + i ≤ 0x5f
  · rw [if_pos hattributes]
    by_cases hne : s.conf fn (a + i) ≠ bridgeByte value i
    · rw [if_pos hne]
      exact writesRegister_storeConf i440fxRegister
    · rw [if_neg hne]
      refine writesRegister_self ?_
      rw [i440fxRegister_attributes hattributes, not_not.mp hne]
  · rw [if_neg hattributes]
    by_cases hrows : 0x60 ≤ a + i ∧ a + i ≤ 0x67
    · rw [if_pos hrows]
      exact writesRegister_storeConf i440fxRegister
    · rw [if_neg hrows]
      by_cases hsmram : a + i = 0x72
      · rw [if_pos hsmram]
        intro fn' y
        rw [PciSystem.conf_storeConf, conf_i440fxSmram, hsmram]
        rfl
      · rw [if_neg hsmram]
        exact writesRegister_storeConf i440fxRegister

/-- What a register of the ISA bridge holds after a byte is written to it, the routes included. -/
def piix3Rule : RegisterRule := fun x old byte =>
  if 0x60 ≤ x ∧ x ≤ 0x63 then (if Word.has (byte &&& 0x8f) 7 then old else byte &&& 0x8f)
  else piix3Register x old byte

/-- A masked byte is an interrupt line exactly when it lacks the disable bit. -/
lemma masked_lt_iff (byte : BitVec 8) :
    (byte &&& 0x8f).toNat < 16 ↔ Word.has (byte &&& 0x8f) 7 = false := by
  have hbits : ∀ b : BitVec 8, (b &&& 0x8f).toNat < 16 ↔ Word.has (b &&& 0x8f) 7 = false := by
    decide +kernel
  exact hbits byte

lemma conf_piix3RegisterIrq (h : byte.toNat < 16) : (piix3RegisterIrq fn x byte s).conf fn' y =
    if fn' = fn ∧ y = x then byte else s.conf fn' y := by
  rw [piix3RegisterIrq, dif_pos h]
  exact PciSystem.conf_storeConf (s := s)

/-- A turn of the ISA bridge's loop. -/
lemma writesRegister_piix3 (value : BitVec 32) (i : ℕ) :
    WritesRegister piix3Rule fn (a + i) (bridgeByte value i) s
      (piix3WriteByte fn a (s, value) i).1 := by
  unfold piix3WriteByte
  by_cases hroute : 0x60 ≤ a + i ∧ a + i ≤ 0x63
  · simp only [if_pos hroute]
    have hrule : ∀ old, piix3Rule (a + i) old (bridgeByte value i) =
        if Word.has (bridgeByte value i &&& 0x8f) 7 then old else bridgeByte value i &&& 0x8f := by
      intro old
      unfold piix3Rule
      rw [if_pos hroute]
    unfold piix3Route
    by_cases hsame : bridgeByte value i &&& 0x8f = s.conf fn (a + i)
    · rw [if_pos hsame]
      refine writesRegister_self ?_
      rw [hrule, ← hsame, ite_self]
    · rw [if_neg hsame]
      cases hbit : Word.has (bridgeByte value i &&& 0x8f) 7 with
      | true =>
          have hlt : ¬ (bridgeByte value i &&& 0x8f).toNat < 16 := by
            rw [masked_lt_iff, hbit]
            exact Bool.noConfusion
          rw [if_pos rfl, piix3UnregisterIrq, dif_neg hlt]
          refine writesRegister_self ?_
          rw [hrule, if_pos hbit]
      | false =>
          rw [if_neg Bool.false_ne_true]
          intro fn' y
          rw [hrule, if_neg (Bool.eq_false_iff.mp hbit),
            conf_piix3RegisterIrq ((masked_lt_iff _).mpr hbit)]
  · simp only [if_neg hroute]
    have hrule : piix3Register (a + i) (s.conf fn (a + i)) (bridgeByte value i) =
        piix3Rule (a + i) (s.conf fn (a + i)) (bridgeByte value i) := by
      unfold piix3Rule
      rw [if_neg hroute]
    rw [hrule]
    exact writesRegister_storeConf piix3Rule

/-! ## A whole loop -/

/-- Every turn writes its register: after the loop the registers hold what the rule says, and every
other byte is kept. -/
lemma conf_foldl {rule : RegisterRule} {f : PciSystem → ℕ → PciSystem} {taken : ℕ → BitVec 8}
    (h : ∀ s i, WritesRegister rule fn (a + i) (taken i) s (f s i)) (n : ℕ) :
    ((List.range n).foldl f s).conf fn' y =
      if fn' = fn ∧ a ≤ y ∧ y < a + n then rule y (s.conf fn y) (taken (y - a))
      else s.conf fn' y := by
  have hother : ∀ i, ¬ (fn' = fn ∧ y = a + i) →
      ∀ s : PciSystem, (f s i).conf fn' y = s.conf fn' y :=
    fun i hne s => (h s i fn' y).trans (if_neg hne)
  by_cases hin : fn' = fn ∧ a ≤ y ∧ y < a + n
  · obtain ⟨rfl, hle, hlt⟩ := hin
    rw [if_pos ⟨rfl, hle, hlt⟩]
    obtain ⟨i, rfl⟩ := Nat.exists_eq_add_of_le hle
    rw [Nat.add_sub_cancel_left]
    refine foldl_range_once (i := i) (fun s : PciSystem => s.conf fn' (a + i))
      (fun old => rule (a + i) old (taken i)) (by omega) (fun s => ?_) fun j _ hne s => ?_
    · exact (h s i fn' (a + i)).trans (if_pos ⟨rfl, rfl⟩)
    · exact hother j (by omega) s
  · rw [if_neg hin]
    refine foldl_range_keep (fun s : PciSystem => s.conf fn' y) fun i hi s => ?_
    refine hother i ?_ s
    rintro ⟨rfl, rfl⟩
    exact hin ⟨rfl, by omega, by omega⟩

/-! ## The handlers -/

/-- The value that the ISA bridge's loop takes the byte of a turn from: it is cut down at the
register of the status. -/
def piix3Value (a : ℕ) (value : BitVec 32) (i : ℕ) : BitVec 32 :=
  if a ≤ 0x07 ∧ 0x07 < a + i then value &&& 0x78 else value

lemma piix3_foldl (value : BitVec 32) (n : ℕ) :
    (List.range n).foldl (piix3WriteByte fn a) (s, value) =
      ((List.range n).foldl (fun s i => (piix3WriteByte fn a (s, piix3Value a value i) i).1) s,
        piix3Value a value n) := by
  induction n with
  | zero =>
      have hvalue : piix3Value a value 0 = value := if_neg (by omega)
      rw [hvalue]
      rfl
  | succ n ih =>
      rw [foldl_range_succ, ih, foldl_range_succ]
      refine Prod.ext rfl ?_
      unfold piix3WriteByte piix3Value
      by_cases hroute : 0x60 ≤ a + n ∧ a + n ≤ 0x63
      · have hiff : (a ≤ 0x07 ∧ 0x07 < a + (n + 1)) ↔ (a ≤ 0x07 ∧ 0x07 < a + n) := by omega
        simp only [if_pos hroute, hiff]
      · simp only [if_neg hroute]
        by_cases hstatus : a + n = 0x07
        · rw [if_pos hstatus, if_neg (by omega), if_pos (by omega)]
        · have hiff : (a ≤ 0x07 ∧ 0x07 < a + (n + 1)) ↔ (a ≤ 0x07 ∧ 0x07 < a + n) := by omega
          simp only [if_neg hstatus, hiff]

/-- What the display's function puts into a register. -/
def vgaRegister : RegisterRule := fun x old byte => if x = 0x04 ∨ x = 0x06 then old else byte

section Handlers

variable {w : PciWrite}

/-- The write names the byte. -/
def PciWrite.Covers (w : PciWrite) (x : ℕ) : Prop :=
  w.offset.toNat ≤ x ∧ x < w.offset.toNat + w.length

instance (x : ℕ) : Decidable (w.Covers x) := inferInstanceAs (Decidable (_ ∧ _))

lemma conf_i440fxHandler (h : ¬ (0x10 ≤ w.offset.toNat ∧ w.offset.toNat < 0x34)) :
    (i440fxPciConfWriteHandler w s).conf fn' y =
      if fn' = w.fn ∧ w.Covers y then
        i440fxRegister y (s.conf w.fn y) (bridgeByte w.value (y - w.offset.toNat))
      else s.conf fn' y := by
  rw [i440fxPciConfWriteHandler, if_neg h]
  exact conf_foldl (fun _ i => writesRegister_i440fx w.value i) w.length

lemma conf_piix3Handler (h : ¬ (0x10 ≤ w.offset.toNat ∧ w.offset.toNat < 0x34)) :
    (piix3PciConfWriteHandler w s).conf fn' y =
      if fn' = w.fn ∧ w.Covers y then
        piix3Rule y (s.conf w.fn y) (bridgeByte
          (piix3Value w.offset.toNat w.value (y - w.offset.toNat)) (y - w.offset.toNat))
      else s.conf fn' y := by
  rw [piix3PciConfWriteHandler, if_neg h, piix3_foldl]
  exact conf_foldl (fun _ i => writesRegister_piix3 _ i) w.length

lemma conf_ideHandler (h : ¬ (0x10 ≤ w.offset.toNat ∧ w.offset.toNat < 0x20 ∨
      0x23 < w.offset.toNat ∧ w.offset.toNat < 0x40)) :
    (idePciConfWriteHandler w s).conf fn' y =
      if fn' = ideTarget w.fn ∧ w.Covers y then
        ideRegister y (s.conf (ideTarget w.fn) y) (byteAt w.value (y - w.offset.toNat))
      else s.conf fn' y := by
  rw [idePciConfWriteHandler, if_neg h]
  exact conf_foldl (fun _ _ => writesRegister_storeConf ideRegister) w.length

lemma conf_vgaHandler (h : ¬ (0x14 ≤ w.offset.toNat ∧ w.offset.toNat < 0x30)) :
    (vgaWritePciConfHandler w s).conf fn' y =
      if fn' = w.fn ∧ w.Covers y then
        vgaRegister y (s.conf w.fn y) (byteAt w.value (y - w.offset.toNat))
      else s.conf fn' y := by
  rw [vgaWritePciConfHandler, if_neg h]
  refine conf_foldl (fun s i => ?_) w.length
  by_cases hx : w.offset.toNat + i = 0x04 ∨ w.offset.toNat + i = 0x06
  · simp only [if_pos hx]
    exact writesRegister_self (if_pos hx)
  · simp only [if_neg hx]
    have hrule : vgaRegister (w.offset.toNat + i) (s.conf w.fn (w.offset.toNat + i))
        (byteAt w.value i) = byteAt w.value i := if_neg hx
    intro fn' y
    rw [PciSystem.conf_storeConf, hrule]

end Handlers

end Svmm
