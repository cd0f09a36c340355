import Mathlib.Tactic.Common
import Svmm.Framework.Run
import Svmm.Construction.Dispatch
import Svmm.Properties.GvmMemory

/-!
# Bounds of the handler tables

The guards of `pci.c` compare an index with the length of the arrays, 65535, but the bitmaps are
allocated with 2047 words, which makes 65504 bits.  The loop of an MMIO registration looks at the
guard and at the bit of its first page only.  A call stays inside exactly when no index that it
reaches lies between the two lengths, or beyond both.
-/

namespace Svmm

open TransitionRun Dispatch

variable {η : Type}

/-- The bits of an allocated bitmap. -/
def bitmapLength : ℕ := 0xffff / 32 * 32

/-- What is computed accesses no bit past a bitmap and no entry past an array. -/
def Inside {α : Type} (o : DispatchOutcome α) : Prop := ∀ f, o = .error f → f = .exit

namespace DispatchCall

/-- The table of a call, at the time of its first access. -/
def table (s : Dispatch η) : DispatchCall η → HandlerTable η
  | registerPort _ _ _ => s.port.initializeBitMap
  | removePort _ | readPort _ | writePort _ => s.port
  | mmioRegister _ _ _ _ _ => s.mmio.initializeBitMap
  | mmioRemove _ _ | mmioRead _ | mmioWrite _ => s.mmio

/-- The index that the guard of a call looks at. -/
def index : DispatchCall η → ℕ
  | registerPort address _ _ | removePort address | readPort address | writePort address =>
    address.toNat
  | mmioRegister _ address _ _ _ | mmioRemove _ address | mmioRead address | mmioWrite address =>
      mmioIndex address

/-- A call tests and sets bits of the bitmap only, and indexes inside the arrays. -/
def StaysInside (s : Dispatch η) (c : DispatchCall η) : Prop := Inside (dispatchStepAt s c)

/-- An MMIO registration of a range of which a page is taken is refused, whatever the driver
says. -/
def RefusesTaken (s : Dispatch η) : DispatchCall η → Prop
  | c@(mmioRegister _ address size w r) =>
      (∃ x, address.toNat ≤ x ∧ x < address.toNat + size.toNat ∧
        (c.table s).bit (x / 2 ^ 16) = true) →
        ∀ answer, s.mmioRegisterHandlerAt answer address size w r = .error .exit
  | _ => True

/-- The pages of a registration whose first page is free are inside of the bitmap, and free. -/
def PagesFit (s : Dispatch η) : DispatchCall η → Prop
  | c@(mmioRegister _ address size _ _) =>
      (c.table s).bit c.index = true ∨
        ∀ x, address.toNat ≤ x → x < address.toNat + size.toNat →
          x / 2 ^ 16 < bitmapLength ∧ (c.table s).bit (x / 2 ^ 16) = false
  | _ => True

/-- The index is beyond the arrays, so that the guard refuses it, or there is a bitmap and it is
inside of it, and with it the pages of a registration. -/
def Fits (s : Dispatch η) (c : DispatchCall η) : Prop :=
  handlersLength ≤ c.index ∨
    ((c.table s).sizeOfBitMap ≠ 0 ∧ c.index < bitmapLength ∧ c.PagesFit s)

end DispatchCall

/-! ## The bitmaps along a run -/

/-- No bitmap yet, or one of the only length that is allocated. -/
def HandlerTable.Sized (t : HandlerTable η) : Prop :=
  t.sizeOfBitMap = 0 ∨ t.sizeOfBitMap = 0xffff / 32

def Dispatch.Sized (s : Dispatch η) : Prop := s.port.Sized ∧ s.mmio.Sized

namespace HandlerTable

variable {t : HandlerTable η} {i : ℕ}

lemma Sized.initializeBitMap (h : t.Sized) : t.initializeBitMap.Sized := by
  unfold HandlerTable.initializeBitMap
  split
  · exact Or.inr rfl
  · exact h

/-- The bits of a table are those of an allocated bitmap, or none. -/
lemma Sized.lt_iff (h : t.Sized) : i < 32 * t.sizeOfBitMap ↔
    t.sizeOfBitMap ≠ 0 ∧ i < bitmapLength := by
  unfold bitmapLength
  rcases h with h | h
  · rw [h]
    simp
  · rw [h]
    omega

lemma bitmapLength_lt : bitmapLength < handlersLength := by decide

lemma foldl_register_sizeOfBitMap (w r : Option η) (is : List ℕ) (t : HandlerTable η) :
    (is.foldl (register w r) t).sizeOfBitMap = t.sizeOfBitMap := by
  induction is generalizing t with
  | nil => rfl
  | cons i is ih => exact ih (t.register w r i)

/-- After a loop of registrations the taken entries are those before and those of the loop. -/
lemma foldl_register_bit (w r : Option η) (is : List ℕ) (t : HandlerTable η) (j : ℕ) :
    (is.foldl (register w r) t).bit j = true ↔ j ∈ is ∨ t.bit j = true := by
  induction is generalizing t with
  | nil => simp
  | cons i is ih =>
      rw [List.foldl_cons, ih, List.mem_cons]
      by_cases hij : j = i
      · subst hij
        simp [register]
      · simp [register, hij]

end HandlerTable

namespace Dispatch

variable {s t : Dispatch η} {answer : Bool} {address size : BitVec 32} {w r : Option η}

lemma start_sized (ram : BitVec 64) (memory : GvmMemory) : (start ram memory : Dispatch η).Sized :=
  ⟨Or.inl rfl, Or.inl rfl⟩

/-- What a registration that returns leaves of the table. -/
lemma mmio_of_mmioRegisterHandler (h : s.mmioRegisterHandler answer address size w r = .ok t) :
    t.port = s.port ∧ t.ram = s.ram ∧
      t.mmio = (mmioPages (address.toNat + size.toNat) (mmioIndex address)).foldl
        (HandlerTable.register w r) s.mmio.initializeBitMap := by
  simp only [mmioRegisterHandler] at h
  split at h
  · cases h
  · obtain ⟨memory, -, h⟩ := bind_eq_ok.mp h
    cases h
    exact ⟨rfl, rfl, rfl⟩

lemma dispatchStep_sized {c : DispatchCall η} (hs : s.Sized) (h : dispatchStep s c = .ok t) :
    t.Sized := by
  obtain ⟨hport, hmmio⟩ := hs
  cases c with
  | registerPort address w r =>
      simp only [dispatchStep, registerPortIoHandler] at h
      split at h
      · cases h
      · cases h
        exact ⟨hport.initializeBitMap, hmmio⟩
  | removePort address =>
      simp only [dispatchStep, removePortIoHandler] at h
      split at h
      · cases h
      · cases h
        exact ⟨hport, hmmio⟩
  | mmioRegister answer address size w r =>
      obtain ⟨hp, -, hm⟩ := mmio_of_mmioRegisterHandler h
      refine ⟨hp ▸ hport, ?_⟩
      rw [hm]
      have hsize := HandlerTable.foldl_register_sizeOfBitMap w r
        (mmioPages (address.toNat + size.toNat) (mmioIndex address)) s.mmio.initializeBitMap
      exact hmmio.initializeBitMap.imp hsize.trans hsize.trans
  | mmioRemove answer address =>
      simp only [dispatchStep, mmioRemoveHandler] at h
      split at h
      · cases h
      · obtain ⟨memory, -, h⟩ := bind_eq_ok.mp h
        cases h
        exact ⟨hport, hmmio⟩
  | readPort address | writePort address | mmioRead address | mmioWrite address =>
      obtain ⟨handler, -, h⟩ := bind_eq_ok.mp h
      cases h
      exact ⟨hport, hmmio⟩

end Dispatch

/-! ## Checked accesses -/

section Inside

variable {α β : Type} {x : DispatchOutcome α} {f : α → DispatchOutcome β}

lemma inside_ok (a : α) : Inside (.ok a : DispatchOutcome α) := fun _ h => by cases h

lemma inside_exit : Inside (.error .exit : DispatchOutcome α) := fun _ h => by
  cases h
  rfl

lemma not_inside_bitOutside {i : ℕ} : ¬ Inside (.error (.bitOutside i) : DispatchOutcome α) :=
  fun h => DispatchFault.noConfusion (h _ rfl)

lemma inside_exitOnError (y : Except Unit α) : Inside (exitOnError y) := by
  cases y
  · exact inside_exit
  · exact inside_ok _

lemma inside_bind : Inside (x >>= f) ↔ Inside x ∧ ∀ a, x = .ok a → Inside (f a) := by
  cases x with
  | error e =>
      constructor
      · intro h
        exact ⟨fun g hg => h g (congrArg _ (Except.error.inj hg)), fun a ha => by cases ha⟩
      · exact fun h g hg => h.1 g (congrArg _ (Except.error.inj hg))
  | ok a =>
      refine ⟨fun h => ⟨inside_ok a, fun b hb => ?_⟩, fun h => h.2 a rfl⟩
      rw [← Except.ok.inj hb]
      exact h

end Inside

namespace HandlerTable

variable {t : HandlerTable η} {i : ℕ} {bit : Bool}

lemma Sized.lt_handlersLength (h : t.Sized) (hi : i < 32 * t.sizeOfBitMap) : i < handlersLength :=
  (h.lt_iff.mp hi).2.trans bitmapLength_lt

lemma changeAt_of_lt (h : t.Sized) (w r : Option η) (hi : i < 32 * t.sizeOfBitMap) :
    t.changeAt bit w r i = .ok
      { sizeOfBitMap := t.sizeOfBitMap
        bit := Function.update t.bit i bit
        writeHandlers := Function.update t.writeHandlers i w
        readHandlers := Function.update t.readHandlers i r } := by
  have hlt := h.lt_handlersLength hi
  simp only [changeAt, changeBitAt, setHandlerAt, if_pos hi, if_pos hlt, ok_bind]
  rfl

lemma registerAt_of_lt (h : t.Sized) (w r : Option η) (hi : i < 32 * t.sizeOfBitMap) :
    t.registerAt w r i = .ok (t.register w r i) := changeAt_of_lt h w r hi

lemma removeAt_of_lt (h : t.Sized) (hi : i < 32 * t.sizeOfBitMap) :
    t.removeAt i = .ok (t.remove i) := changeAt_of_lt h none none hi

lemma inside_registerAt (h : t.Sized) {w r : Option η} :
    Inside (t.registerAt w r i) ↔ i < 32 * t.sizeOfBitMap := by
  refine ⟨fun hin => ?_, fun hi => ?_⟩
  · by_contra hi
    have herror : t.registerAt w r i = .error (.bitOutside i) := by
      simp only [registerAt, changeAt, changeBitAt, if_neg hi]
      rfl
    rw [herror] at hin
    exact not_inside_bitOutside hin
  · rw [registerAt_of_lt h w r hi]
    exact inside_ok _

/-- The loop of a registration stays inside exactly when all its entries are. -/
lemma inside_foldlM_registerAt {w r : Option η} {is : List ℕ} (h : t.Sized) :
    Inside (is.foldlM (registerAt w r) t) ↔ ∀ i ∈ is, i < 32 * t.sizeOfBitMap := by
  induction is generalizing t with
  | nil => exact iff_of_true (inside_ok t) fun _ hi => absurd hi List.not_mem_nil
  | cons i is ih =>
      rw [List.foldlM_cons, inside_bind, inside_registerAt h, List.forall_mem_cons]
      refine and_congr_right fun hi => ?_
      rw [registerAt_of_lt h w r hi]
      have hsized : (t.register w r i).Sized := h
      refine ⟨fun hall => (ih hsized).mp (hall _ rfl), fun hall u hu => ?_⟩
      rw [← Except.ok.inj hu]
      exact (ih hsized).mpr hall

lemma foldlM_registerAt {w r : Option η} {is : List ℕ} (h : t.Sized)
    (his : ∀ i ∈ is, i < 32 * t.sizeOfBitMap) :
    is.foldlM (registerAt w r) t = .ok (is.foldl (register w r) t) := by
  induction is generalizing t with
  | nil => rfl
  | cons i is ih =>
      obtain ⟨hi, hrest⟩ := List.forall_mem_cons.mp his
      rw [List.foldlM_cons, registerAt_of_lt h w r hi]
      exact ih (t := t.register w r i) h hrest

lemma guardAt_of_blocked (hin : handlersLength ≤ i ∨ i < 32 * t.sizeOfBitMap)
    (h : handlersLength ≤ i ∨ t.bit i = !bit) : t.guardAt bit i = .error .exit := by
  unfold guardAt
  by_cases hle : handlersLength ≤ i
  · exact if_pos hle
  · have hbit : t.bit i ≠ bit := by
      rw [h.resolve_left hle]
      exact Bool.not_ne_self bit
    simp only [if_neg hle, testBitAt, if_pos (hin.resolve_left hle), ok_bind, if_neg hbit]

lemma guardAt_of_free (hin : handlersLength ≤ i ∨ i < 32 * t.sizeOfBitMap)
    (h : ¬ (handlersLength ≤ i ∨ t.bit i = !bit)) : t.guardAt bit i = .ok () := by
  obtain ⟨hle, hbit⟩ := not_or.mp h
  have heq : t.bit i = bit := by
    rw [← Bool.not_not bit]
    exact Bool.eq_not_of_ne hbit
  simp only [guardAt, if_neg hle, testBitAt, if_pos (hin.resolve_left hle), ok_bind, if_pos heq]
  rfl

/-- A guard that lets a call go on has tested the bit of its index. -/
lemma guardAt_eq_ok (h : t.guardAt bit i = .ok ()) :
    i < 32 * t.sizeOfBitMap ∧ i < handlersLength ∧ t.bit i = bit := by
  unfold guardAt at h
  split at h
  · cases h
  · rename_i hlt
    obtain ⟨b, hb, hrest⟩ := bind_eq_ok.mp h
    unfold testBitAt at hb
    split at hb
    · rename_i hi
      obtain rfl := Except.ok.inj hb
      refine ⟨hi, Nat.not_le.mp hlt, ?_⟩
      by_contra hbit
      rw [if_neg hbit] at hrest
      cases hrest
    · cases hb

lemma inside_guardAt : Inside (t.guardAt bit i) ↔ handlersLength ≤ i ∨ i < 32 * t.sizeOfBitMap := by
  refine ⟨fun hin => ?_, fun h => ?_⟩
  · by_contra hnot
    obtain ⟨hle, hi⟩ := not_or.mp hnot
    have herror : t.guardAt bit i = .error (.bitOutside i) := by
      simp only [guardAt, if_neg hle, testBitAt, if_neg hi]
      rfl
    rw [herror] at hin
    exact not_inside_bitOutside hin
  · by_cases hblocked : handlersLength ≤ i ∨ t.bit i = !bit
    · rw [guardAt_of_blocked h hblocked]
      exact inside_exit
    · rw [guardAt_of_free h hblocked]
      exact inside_ok _

/-- A call that stays inside once its guard has let it go on. -/
lemma inside_guardAt_bind {α : Type} {k : Unit → DispatchOutcome α}
    (h : i < 32 * t.sizeOfBitMap → i < handlersLength → Inside (k ())) :
    Inside (t.guardAt bit i >>= k) ↔ handlersLength ≤ i ∨ i < 32 * t.sizeOfBitMap := by
  rw [inside_bind, inside_guardAt]
  refine and_iff_left_of_imp fun _ u hu => ?_
  obtain ⟨hi, hlt, -⟩ := guardAt_eq_ok hu
  exact h hi hlt

/-- A call that stays inside ends the program where its guard refuses, and otherwise goes on with
an entry that it has. -/
lemma guardAt_bind_eq {α : Type} {k : Unit → DispatchOutcome α} {y : Except Unit α}
    (h : Inside (t.guardAt bit i >>= k))
    (hk : i < 32 * t.sizeOfBitMap → i < handlersLength → Inside (k ()) → k () = exitOnError y) :
    t.guardAt bit i >>= k =
      exitOnError (if handlersLength ≤ i ∨ t.bit i = !bit then .error () else y) := by
  obtain ⟨hguard, hrest⟩ := inside_bind.mp h
  by_cases hblocked : handlersLength ≤ i ∨ t.bit i = !bit
  · rw [guardAt_of_blocked (inside_guardAt.mp hguard) hblocked, if_pos hblocked]
    rfl
  · have hfree := guardAt_of_free (inside_guardAt.mp hguard) hblocked
    obtain ⟨hi, hlt, -⟩ := guardAt_eq_ok hfree
    rw [if_neg hblocked, hfree, ok_bind]
    exact hk hi hlt (hrest () hfree)

lemma inside_dispatchAt {handlers : ℕ → Option η} :
    Inside (t.dispatchAt handlers i) ↔ handlersLength ≤ i ∨ i < 32 * t.sizeOfBitMap := by
  refine inside_guardAt_bind fun _ hlt => ?_
  simp only [handlerAt, if_pos hlt, ok_bind]
  cases handlers i
  · exact inside_exit
  · exact inside_ok _

lemma dispatchAt_eq {handlers : ℕ → Option η} (h : Inside (t.dispatchAt handlers i)) :
    t.dispatchAt handlers i = exitOnError (t.dispatch handlers i) := by
  refine guardAt_bind_eq h fun _ hlt _ => ?_
  simp only [handlerAt, if_pos hlt, ok_bind]
  cases handlers i <;> rfl

end HandlerTable

namespace Dispatch

variable {s t : Dispatch η}

/-- A call that stays inside does what the functions on tables without an end do. -/
lemma dispatchStepAt_eq {c : DispatchCall η} (hs : s.Sized) (h : c.StaysInside s) :
    dispatchStepAt s c = exitOnError (dispatchStep s c) := by
  have hmmio := hs.2.initializeBitMap
  cases c with
  | registerPort address w r =>
      refine HandlerTable.guardAt_bind_eq h fun hi _ _ => ?_
      rw [HandlerTable.registerAt_of_lt hs.1.initializeBitMap w r hi]
      rfl
  | removePort address =>
      refine HandlerTable.guardAt_bind_eq h fun hi _ _ => ?_
      rw [HandlerTable.removeAt_of_lt hs.1 hi]
      rfl
  | mmioRegister answer address size w r =>
      refine HandlerTable.guardAt_bind_eq h fun hi _ hrest => ?_
      have hpages := (HandlerTable.inside_foldlM_registerAt hmmio).mp (inside_bind.mp hrest).1
      rw [HandlerTable.foldlM_registerAt hmmio hpages, ok_bind]
      cases s.memory.gvmRegisterMmio answer address (size.setWidth 64) <;> rfl
  | mmioRemove answer address =>
      refine HandlerTable.guardAt_bind_eq h fun hi _ _ => ?_
      rw [HandlerTable.removeAt_of_lt hs.2 hi, ok_bind]
      cases s.memory.gvmRemoveMmio answer s.ram address 0x10000 <;> rfl
  | readPort address =>
      have heq := HandlerTable.dispatchAt_eq (inside_bind.mp h).1
      simp only [dispatchStepAt, dispatchStep, readPortIoHandlerAt, readPortIoHandler, heq]
      cases s.port.dispatch s.port.readHandlers address.toNat <;> rfl
  | writePort address =>
      have heq := HandlerTable.dispatchAt_eq (inside_bind.mp h).1
      simp only [dispatchStepAt, dispatchStep, writePortIoHandlerAt, writePortIoHandler, heq]
      cases s.port.dispatch s.port.writeHandlers address.toNat <;> rfl
  | mmioRead address =>
      have heq := HandlerTable.dispatchAt_eq (inside_bind.mp h).1
      simp only [dispatchStepAt, dispatchStep, mmioReadHandlerAt, mmioReadHandler, heq]
      cases s.mmio.dispatch s.mmio.readHandlers (mmioIndex address) <;> rfl
  | mmioWrite address =>
      have heq := HandlerTable.dispatchAt_eq (inside_bind.mp h).1
      simp only [dispatchStepAt, dispatchStep, mmioWriteHandlerAt, mmioWriteHandler, heq]
      cases s.mmio.dispatch s.mmio.writeHandlers (mmioIndex address) <;> rfl

/-- A checked call that returns has stayed inside. -/
lemma dispatchStep_of_dispatchStepAt {c : DispatchCall η} (hs : s.Sized)
    (h : dispatchStepAt s c = .ok t) : dispatchStep s c = .ok t := by
  have hin : c.StaysInside s := fun f hf => by
    rw [h] at hf
    cases hf
  rw [dispatchStepAt_eq hs hin] at h
  cases hstep : dispatchStep s c with
  | error =>
      rw [hstep] at h
      cases h
  | ok u =>
      rw [hstep] at h
      exact congrArg _ (Except.ok.inj h)

lemma dispatchStepAt_sized {c : DispatchCall η} (hs : s.Sized) (h : dispatchStepAt s c = .ok t) :
    t.Sized := dispatchStep_sized hs (dispatchStep_of_dispatchStepAt hs h)

end Dispatch

/-! ## The pages of a registration -/

lemma mmioIndex_eq (address : BitVec 32) : mmioIndex address = address.toNat / 2 ^ 16 := by
  rw [mmioIndex, BitVec.toNat_ushiftRight, Nat.shiftRight_eq_div_pow]

lemma mem_mmioPages {stop index p : ℕ} :
    p ∈ mmioPages stop index ↔ p = index ∨ (index < p ∧ p * 2 ^ 16 < stop) := by
  fun_induction mmioPages stop index with
  | case1 index ih =>
      rw [List.mem_cons]
      by_cases h : (index + 1) * 2 ^ 16 < stop
      · rw [if_pos h, ih h]
        constructor
        · rintro (rfl | rfl | ⟨hlt, hp⟩)
          · exact Or.inl rfl
          · exact Or.inr ⟨Nat.lt_succ_self _, h⟩
          · exact Or.inr ⟨by omega, hp⟩
        · rintro (rfl | ⟨hlt, hp⟩)
          · exact Or.inl rfl
          · exact Or.inr (by omega)
      · rw [if_neg h]
        constructor
        · rintro (rfl | hp)
          · exact Or.inl rfl
          · cases hp
        · rintro (rfl | ⟨hlt, hp⟩)
          · exact Or.inl rfl
          · omega

/-- The loop registers its first page, and the pages of the range. -/
lemma mem_mmioPages_iff {address size : BitVec 32} {p : ℕ} :
    p ∈ mmioPages (address.toNat + size.toNat) (mmioIndex address) ↔
      p = mmioIndex address ∨
        ∃ x, address.toNat ≤ x ∧ x < address.toNat + size.toNat ∧ x / 2 ^ 16 = p := by
  rw [mem_mmioPages, mmioIndex_eq]
  constructor
  · rintro (rfl | ⟨hlt, hp⟩)
    · exact Or.inl rfl
    · exact Or.inr ⟨p * 2 ^ 16, by omega, hp, by omega⟩
  · rintro (rfl | ⟨x, hx, hstop, rfl⟩)
    · exact Or.inl rfl
    · omega

/-! ## One call -/

namespace DispatchCall

variable {s : Dispatch η} {c : DispatchCall η}

lemma table_sized (hs : s.Sized) (c : DispatchCall η) : (c.table s).Sized := by
  cases c with
  | registerPort => exact hs.1.initializeBitMap
  | removePort | readPort | writePort => exact hs.1
  | mmioRegister => exact hs.2.initializeBitMap
  | mmioRemove | mmioRead | mmioWrite => exact hs.2

/-- The loop of a registration whose first page is free reaches pages with a bit only. -/
def PagesInside (s : Dispatch η) : DispatchCall η → Prop
  | c@(mmioRegister _ address size _ _) =>
      (c.table s).bit c.index = true ∨
        ∀ p ∈ mmioPages (address.toNat + size.toNat) c.index, p < 32 * (c.table s).sizeOfBitMap
  | _ => True

/-- A call stays inside exactly when its guard refuses the index unseen, or the index has a bit and
so have the pages of a registration. -/
lemma staysInside_iff (hs : s.Sized) (c : DispatchCall η) :
    c.StaysInside s ↔ handlersLength ≤ c.index ∨
      (c.index < 32 * (c.table s).sizeOfBitMap ∧ c.PagesInside s) := by
  cases c with
  | mmioRegister answer address size w r =>
      have hmmio := hs.2.initializeBitMap
      rw [StaysInside, dispatchStepAt, mmioRegisterHandlerAt, inside_bind,
        HandlerTable.inside_guardAt, or_and_left]
      refine and_congr_right fun hin => ⟨fun hrest => ?_, fun hpages u hu => ?_⟩
      · by_cases hrefused : s.mmio.initializeBitMap.Refused (mmioIndex address)
        · exact hrefused.imp_right Or.inl
        · have hfree := hrest () (HandlerTable.guardAt_of_free hin hrefused)
          exact Or.inr (Or.inr ((HandlerTable.inside_foldlM_registerAt hmmio).mp
            (inside_bind.mp hfree).1))
      · obtain ⟨-, hlt, hbit⟩ := HandlerTable.guardAt_eq_ok hu
        have hall := (hpages.resolve_left (Nat.not_le.mpr hlt)).resolve_left
          (Bool.eq_false_iff.mp hbit)
        rw [inside_bind, HandlerTable.inside_foldlM_registerAt hmmio]
        refine ⟨hall, fun mmio _ => inside_bind.mpr ⟨inside_exitOnError _, fun memory _ => ?_⟩⟩
        exact inside_ok _
  | registerPort address w r =>
      refine (HandlerTable.inside_guardAt_bind fun hi _ => ?_).trans
        (or_congr_right (and_iff_left trivial).symm)
      rw [HandlerTable.registerAt_of_lt hs.1.initializeBitMap w r hi]
      exact inside_ok _
  | removePort address =>
      refine (HandlerTable.inside_guardAt_bind fun hi _ => ?_).trans
        (or_congr_right (and_iff_left trivial).symm)
      rw [HandlerTable.removeAt_of_lt hs.1 hi]
      exact inside_ok _
  | mmioRemove answer address =>
      refine (HandlerTable.inside_guardAt_bind fun hi _ => ?_).trans
        (or_congr_right (and_iff_left trivial).symm)
      rw [HandlerTable.removeAt_of_lt hs.2 hi, ok_bind]
      exact inside_bind.mpr ⟨inside_exitOnError _, fun memory _ => inside_ok _⟩
  | readPort address | writePort address | mmioRead address | mmioWrite address =>
      refine inside_bind.trans ((and_iff_left fun handler _ => inside_ok s).trans ?_)
      exact HandlerTable.inside_dispatchAt.trans (or_congr_right (and_iff_left trivial).symm)

section Register

variable {answer : Bool} {address size : BitVec 32} {w r : Option η}

/-- A registration that its guard refuses. -/
lemma refusesTaken_of_refused
    (hin : handlersLength ≤ mmioIndex address ∨
      mmioIndex address < 32 * s.mmio.initializeBitMap.sizeOfBitMap)
    (h : s.mmio.initializeBitMap.Refused (mmioIndex address)) :
    RefusesTaken s (mmioRegister answer address size w r) := by
  intro _ answer
  have hguard : s.mmio.initializeBitMap.guardAt false (mmioIndex address) = .error .exit :=
    HandlerTable.guardAt_of_blocked hin h
  rw [mmioRegisterHandlerAt, hguard]
  rfl

/-- With the driver's consent, a registration that stays inside and whose first page is free is not
refused. -/
lemma mmioRegisterHandlerAt_ne_error (hs : s.Sized)
    (hin : StaysInside s (mmioRegister true address size w r))
    (h : ¬ s.mmio.initializeBitMap.Refused (mmioIndex address)) :
    s.mmioRegisterHandlerAt true address size w r ≠ .error .exit := by
  obtain ⟨memory, hmemory⟩ : ∃ memory,
      s.memory.gvmRegisterMmio true address (size.setWidth 64) = .ok memory :=
    s.memory.exists_gvmUnmapMemory_true address (size.setWidth 64)
  have heq : s.mmioRegisterHandlerAt true address size w r =
      exitOnError (s.mmioRegisterHandler true address size w r) := dispatchStepAt_eq hs hin
  intro herror
  simp only [heq, mmioRegisterHandler, if_neg h, hmemory, ok_bind] at herror
  cases herror

/-- The pages that the loop reaches are those of the range. -/
lemma pagesInside_iff (hs : s.Sized) (hsize : s.mmio.initializeBitMap.sizeOfBitMap ≠ 0)
    (hindex : mmioIndex address < bitmapLength)
    (hbit : ¬ s.mmio.initializeBitMap.bit (mmioIndex address) = true) :
    PagesInside s (mmioRegister answer address size w r) ↔
      ∀ x, address.toNat ≤ x → x < address.toNat + size.toNat → x / 2 ^ 16 < bitmapLength := by
  have hlt_iff (i : ℕ) : i < 32 * s.mmio.initializeBitMap.sizeOfBitMap ↔ i < bitmapLength := by
    rw [hs.2.initializeBitMap.lt_iff]
    exact and_iff_right hsize
  refine (or_iff_right hbit).trans ⟨fun hall x hx hstop => ?_, fun hall p hp => ?_⟩
  · exact (hlt_iff _).mp (hall _ (mem_mmioPages_iff.mpr (Or.inr ⟨x, hx, hstop, rfl⟩)))
  · rcases mem_mmioPages_iff.mp hp with rfl | ⟨x, hx, hstop, rfl⟩
    · exact (hlt_iff _).mpr hindex
    · exact (hlt_iff _).mpr (hall x hx hstop)

/-- A registration whose first page is free has to have all its pages inside and free. -/
lemma pages_safe_iff (hs : s.Sized) (hsize : s.mmio.initializeBitMap.sizeOfBitMap ≠ 0)
    (hindex : mmioIndex address < bitmapLength)
    (hbit : ¬ s.mmio.initializeBitMap.bit (mmioIndex address) = true) :
    (PagesInside s (mmioRegister answer address size w r) ∧
        RefusesTaken s (mmioRegister answer address size w r)) ↔
      ∀ x, address.toNat ≤ x → x < address.toNat + size.toNat →
        x / 2 ^ 16 < bitmapLength ∧ s.mmio.initializeBitMap.bit (x / 2 ^ 16) = false := by
  have hlt : mmioIndex address < 32 * s.mmio.initializeBitMap.sizeOfBitMap :=
    hs.2.initializeBitMap.lt_iff.mpr ⟨hsize, hindex⟩
  have hfree : ¬ s.mmio.initializeBitMap.Refused (mmioIndex address) := not_or.mpr
    ⟨Nat.not_le.mpr (hs.2.initializeBitMap.lt_handlersLength hlt), hbit⟩
  rw [pagesInside_iff hs hsize hindex hbit]
  constructor
  · rintro ⟨hpages, hrefuses⟩ x hx hstop
    refine ⟨hpages x hx hstop, ?_⟩
    by_contra htaken
    have hinside : StaysInside s (mmioRegister true address size w r) :=
      (staysInside_iff hs _).mpr (Or.inr ⟨hlt, (pagesInside_iff hs hsize hindex hbit).mpr hpages⟩)
    exact mmioRegisterHandlerAt_ne_error hs hinside hfree
      (hrefuses ⟨x, hx, hstop, Bool.not_eq_false _ ▸ htaken⟩ true)
  · intro hall
    refine ⟨fun x hx hstop => (hall x hx hstop).1, ?_⟩
    rintro ⟨x, hx, hstop, htaken⟩
    exact absurd htaken (Bool.eq_false_iff.mp (hall x hx hstop).2)

end Register

/-- What a call has to meet. -/
lemma safe_iff_fits (hs : s.Sized) (c : DispatchCall η) :
    (c.StaysInside s ∧ c.RefusesTaken s) ↔ c.Fits s := by
  rw [staysInside_iff hs c]
  by_cases h : handlersLength ≤ c.index
  · refine iff_of_true ⟨Or.inl h, ?_⟩ (Or.inl h)
    cases c with
    | mmioRegister => exact refusesTaken_of_refused (Or.inl h) (Or.inl h)
    | registerPort | removePort | readPort | writePort | mmioRemove | mmioRead | mmioWrite =>
      trivial
  · rw [or_iff_right h, (table_sized hs c).lt_iff, and_assoc, and_assoc, Fits, or_iff_right h]
    refine and_congr_right fun hsize => and_congr_right fun hindex => ?_
    cases c with
    | mmioRegister answer address size w r =>
        by_cases hbit : s.mmio.initializeBitMap.bit (mmioIndex address) = true
        · have hlt := hs.2.initializeBitMap.lt_iff.mpr ⟨hsize, hindex⟩
          exact iff_of_true ⟨Or.inl hbit, refusesTaken_of_refused (Or.inr hlt) (Or.inr hbit)⟩
            (Or.inl hbit)
        · exact (pages_safe_iff hs hsize hindex hbit).trans (or_iff_right hbit).symm
    | registerPort | removePort | readPort | writePort | mmioRemove | mmioRead | mmioWrite =>
      exact and_iff_left trivial

end DispatchCall

/-! ## The devices of the program -/

namespace MmioDevice

/-- The registration of the device takes the page. -/
def Covers (d : MmioDevice) (p : ℕ) : Prop :=
  p = mmioIndex d.range.1 ∨
    (mmioIndex d.range.1 < p ∧ p * 2 ^ 16 < d.range.1.toNat + d.range.2.toNat)

instance (d : MmioDevice) (p : ℕ) : Decidable (d.Covers p) := inferInstanceAs (Decidable (_ ∨ _))

/-- The end of the range of a device. -/
def stop (d : MmioDevice) : ℕ := d.range.1.toNat + d.range.2.toNat

/-- The pages of a device lie between the first and the end of its range. -/
lemma Covers.between {d : MmioDevice} {p : ℕ} (h : d.Covers p) :
    mmioIndex d.range.1 ≤ p ∧ p * 2 ^ 16 < d.stop := by
  rcases h with rfl | ⟨hlt, hstop⟩
  · have hsize : mmioIndex d.range.1 * 2 ^ 16 < d.stop := by cases d <;> decide
    exact ⟨le_rfl, hsize⟩
  · exact ⟨hlt.le, hstop⟩

/-- The ranges have no page in common. -/
def Apart (d e : MmioDevice) : Prop :=
  d.stop ≤ mmioIndex e.range.1 * 2 ^ 16 ∨ e.stop ≤ mmioIndex d.range.1 * 2 ^ 16

instance (d e : MmioDevice) : Decidable (d.Apart e) := inferInstanceAs (Decidable (_ ∨ _))

lemma Apart.not_covers {d e : MmioDevice} {p : ℕ} (h : d.Apart e) (he : e.Covers p) :
    ¬ d.Covers p := by
  intro hd
  have hepage := he.between
  have hdpage := hd.between
  unfold Apart at h
  omega

/-- A device below the end of the bitmap whose pages are free is registered. -/
lemma exists_dispatchStepAt {s : Dispatch MmioDevice} (hs : s.Sized) (d : MmioDevice)
    (hend : d.stop ≤ bitmapLength * 2 ^ 16)
    (hfree : ∀ p, d.Covers p → ¬ s.mmio.initializeBitMap.bit p = true) :
    ∃ t, dispatchStepAt s d.call = .ok t ∧ t.Sized ∧
      ∀ p, t.mmio.initializeBitMap.bit p = true ↔
        d.Covers p ∨ s.mmio.initializeBitMap.bit p = true := by
  have hsize : s.mmio.initializeBitMap.sizeOfBitMap ≠ 0 := by
    unfold HandlerTable.initializeBitMap
    split
    · exact show 0xffff / 32 ≠ 0 by decide
    · assumption
  have hinside : d.call.StaysInside s := by
    refine ((DispatchCall.safe_iff_fits hs d.call).mpr (Or.inr ⟨hsize, ?_, Or.inr ?_⟩)).1
    · cases d <;> decide
    · intro x hx hstop
      have hcovers : d.Covers (x / 2 ^ 16) := mem_mmioPages.mp
        (mem_mmioPages_iff.mpr (Or.inr ⟨x, hx, hstop, rfl⟩))
      have hlt : x < d.stop := hstop
      exact ⟨by omega, Bool.eq_false_iff.mpr (hfree _ hcovers)⟩
  obtain ⟨memory, hmemory⟩ : ∃ memory,
      s.memory.gvmRegisterMmio true d.range.1 (d.range.2.setWidth 64) = .ok memory :=
    s.memory.exists_gvmUnmapMemory_true _ _
  have hrefused : ¬ s.mmio.initializeBitMap.Refused (mmioIndex d.range.1) := by
    refine not_or.mpr ⟨?_, hfree _ (Or.inl rfl)⟩
    cases d <;> decide
  have hstep : dispatchStep s d.call = .ok
      { s with
        mmio := (mmioPages (d.range.1.toNat + d.range.2.toNat) (mmioIndex d.range.1)).foldl
          (HandlerTable.register (some d) (some d)) s.mmio.initializeBitMap
        memory := memory } := by
    simp only [dispatchStep, call, mmioRegisterHandler, if_neg hrefused, hmemory, ok_bind]
    rfl
  refine ⟨_, (dispatchStepAt_eq hs hinside).trans (congrArg exitOnError hstep),
    dispatchStep_sized hs hstep, fun p => ?_⟩
  have hinit : ∀ t : HandlerTable MmioDevice, t.sizeOfBitMap ≠ 0 → t.initializeBitMap = t :=
    fun t h => if_neg h
  rw [hinit _ (by rw [HandlerTable.foldl_register_sizeOfBitMap]; exact hsize),
    HandlerTable.foldl_register_bit, mem_mmioPages]
  exact Iff.rfl

/-- Devices below the end of the bitmap, none of which takes a page of another, are registered one
after the other. -/
lemma exists_run (ds : List MmioDevice) {s : Dispatch MmioDevice} (hs : s.Sized)
    (hend : ∀ d ∈ ds, d.stop ≤ bitmapLength * 2 ^ 16)
    (hfree : ∀ d ∈ ds, ∀ p, d.Covers p → ¬ s.mmio.initializeBitMap.bit p = true)
    (hpair : ds.Pairwise Apart) :
    ∃ t, run dispatchStepAt s (ds.map call) = .ok t ∧ t.Sized ∧
      ∀ p, t.mmio.initializeBitMap.bit p = true ↔
        s.mmio.initializeBitMap.bit p = true ∨ ∃ d ∈ ds, d.Covers p := by
  induction ds generalizing s with
  | nil => exact ⟨s, rfl, hs, fun p => by simp⟩
  | cons d ds ih =>
      obtain ⟨hhead, htail⟩ := List.pairwise_cons.mp hpair
      obtain ⟨hendd, hends⟩ := List.forall_mem_cons.mp hend
      obtain ⟨hfreed, hfrees⟩ := List.forall_mem_cons.mp hfree
      obtain ⟨u, hu, husized, hbits⟩ := d.exists_dispatchStepAt hs hendd hfreed
      obtain ⟨t, ht, htsized, htbits⟩ := ih husized hends (fun e he p hp => by
        rw [hbits]
        exact not_or.mpr ⟨(hhead e he).not_covers hp, hfrees e he p hp⟩) htail
      refine ⟨t, run_cons_ok.mpr ⟨u, hu, ht⟩, htsized, fun p => ?_⟩
      rw [htbits, hbits, List.exists_mem_cons_iff, or_comm (a := d.Covers p), or_assoc]

end MmioDevice

/-! ## The exact condition -/

/-- Along every run of calls from the start, every call stays inside the bitmaps and the arrays, and
no registration of a range with a taken page is accepted, exactly when every call fits. -/
theorem dispatch_stays_inside_iff (ram : BitVec 64) (memory : GvmMemory)
    (cs : List (DispatchCall η)) :
    Meets dispatchStepAt (fun s c => c.StaysInside s ∧ c.RefusesTaken s) (start ram memory) cs ↔
      Meets dispatchStepAt (fun s c => c.Fits s) (start ram memory) cs :=
  Meets.congr_of_invariant (fun _ _ _ hs h => dispatchStepAt_sized hs h)
    (fun _ c hs => c.safe_iff_fits hs) (start_sized ram memory)

/-- The registration of the flash reaches past the bitmap. -/
theorem flash_registration_overruns :
    ¬ Meets dispatchStepAt (fun s c => c.StaysInside s ∧ c.RefusesTaken s)
      (start 0x10000 (GvmMemory.ofGvmInit 0x10000 bootRamSize))
      ([MmioDevice.vgaCore, .ioApic, .apic, .hpet, .flash].map MmioDevice.call) := by
  intro h
  obtain ⟨t, hrun, hsized, hbits⟩ := MmioDevice.exists_run [.vgaCore, .ioApic, .apic, .hpet]
    (start_sized 0x10000 (GvmMemory.ofGvmInit 0x10000 bootRamSize)) (by decide)
    (fun d _ p _ => Bool.false_ne_true) (by decide)
  have happend : Meets dispatchStepAt (fun s c => c.StaysInside s ∧ c.RefusesTaken s) _
      ([MmioDevice.vgaCore, .ioApic, .apic, .hpet].map MmioDevice.call ++
        MmioDevice.flash.call :: []) := h
  have hsafe := happend.after hrun
  rcases (MmioDevice.flash.call.safe_iff_fits hsized).mp hsafe with hle | ⟨-, -, htaken | hpages⟩
  · exact absurd hle (by decide)
  · rcases (hbits 0xffc0).mp htaken with hnone | ⟨d, hd, hcovers⟩
    · exact Bool.false_ne_true hnone
    · revert d
      decide
  · exact absurd (hpages 0xfff00000 (by decide) (by decide)).1 (by decide)

end Svmm
