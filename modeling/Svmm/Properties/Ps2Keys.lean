import Svmm.Construction.Scancodes

/-!
# Key events of the keyboard

`keys_enqueued_whole_iff` says when a key event puts its whole sequence into the memory of the
keyboard, or nothing if there is no room for it.  The bytes are written one by one, so that what
fits of a sequence is written; and the code of a release is above the size of the table, so that
nothing is.
-/

namespace Svmm

/-- A sequence in the codes of the first set, with the prefix `0xf0` as the top bit of the byte that
follows it. -/
def translated : BitVec 8 → List (BitVec 8) → List (BitVec 8)
  | _, [] => []
  | escaped, b :: code =>
      if b ≠ 0xf0 then (translate8042 b ||| escaped) :: translated 0 code
      else translated 0x80 code

/-- `Key | BX_KEY_PRESSED` and `Key | BX_KEY_RELEASED`. -/
def keyEvent (key : BitVec 32) (released : Bool) : BitVec 32 :=
  if released then Word.set key bxKeyReleased else key

namespace Ps2

variable {s : Ps2} {key : BitVec 32} {released : Bool}

/-- What a key event is to send: the sequence of the scan-code set, translated if the controller
translates. -/
def keySequence (s : Ps2) (key : BitVec 32) (released : Bool) : List (BitVec 8) :=
  let entry := scancode key.toNat s.keyboard.scanCodeSet.toNat
  let code := if released then entry.breakCode else entry.makeCode
  if Word.has s.dataRegister dataScanCode then translated 0 code else code

/-- The memory of the keyboard has room for a sequence. -/
def Fits (s : Ps2) (sequence : List (BitVec 8)) : Prop :=
  s.keyboard.memory.length + sequence.length ≤ keyboardMemorySize

instance (s : Ps2) (sequence : List (BitVec 8)) : Decidable (s.Fits sequence) :=
  inferInstanceAs (Decidable (_ ≤ _))

/-- The whole sequence has been put into the memory, or nothing if it does not fit. -/
def EnqueuedWhole (sequence : List (BitVec 8)) (s t : Ps2) : Prop :=
  t.keyboard.memory =
    if s.Fits sequence then s.keyboard.memory ++ sequence else s.keyboard.memory

instance (sequence : List (BitVec 8)) (s t : Ps2) : Decidable (EnqueuedWhole sequence s t) :=
  inferInstanceAs (Decidable (_ = _))

/-- A press has room for the whole sequence, or for no byte; a release has nothing to send, or no
room. -/
def KeyHarmless (s : Ps2) (sequence : List (BitVec 8)) : Bool → Prop
  | false => s.Fits sequence ∨ keyboardMemorySize ≤ s.keyboard.memory.length
  | true => sequence = [] ∨ ¬ s.Fits sequence

/-! ## The loops -/

/-- The loop that translates writes the translated sequence. -/
lemma foldl_sendTranslated (code : List (BitVec 8)) (escaped : BitVec 8) (s : Ps2) :
    (code.foldl sendTranslated (escaped, s)).2 =
      (translated escaped code).foldl (fun s b => s.writeKeyboardMemory b) s := by
  induction code generalizing escaped s with
  | nil => rfl
  | cons b code ih =>
      rw [List.foldl_cons, sendTranslated, translated]
      by_cases hb : b ≠ 0xf0
      · rw [if_pos hb, if_pos hb, List.foldl_cons]
        exact ih 0 _
      · rw [if_neg hb, if_neg hb]
        exact ih 0x80 s

/-- A byte is written if there is room for it. -/
lemma memory_writeKeyboardMemory (b : BitVec 8) :
    (s.writeKeyboardMemory b).keyboard.memory =
      s.keyboard.memory ++ [b].take (keyboardMemorySize - s.keyboard.memory.length) := by
  unfold writeKeyboardMemory
  split
  · rename_i hfull
    rw [Nat.sub_eq_zero_of_le hfull, List.take_zero, List.append_nil]
  · rename_i hroom
    rw [List.take_of_length_le (by rw [List.length_singleton]; omega)]

/-- What there is room for is written. -/
lemma memory_foldl_writeKeyboardMemory (sequence : List (BitVec 8)) (s : Ps2) :
    (sequence.foldl (fun s b => s.writeKeyboardMemory b) s).keyboard.memory =
      s.keyboard.memory ++ sequence.take (keyboardMemorySize - s.keyboard.memory.length) := by
  induction sequence generalizing s with
  | nil => rw [List.foldl_nil, List.take_nil, List.append_nil]
  | cons b sequence ih =>
      rw [List.foldl_cons, ih, memory_writeKeyboardMemory]
      by_cases hfull : keyboardMemorySize ≤ s.keyboard.memory.length
      · rw [Nat.sub_eq_zero_of_le hfull, List.take_zero, List.take_zero, List.append_nil,
          Nat.sub_eq_zero_of_le hfull, List.take_zero, List.append_nil]
      · have hone : [b].take (keyboardMemorySize - s.keyboard.memory.length) = [b] :=
          List.take_of_length_le (by rw [List.length_singleton]; omega)
        have hroom : keyboardMemorySize - s.keyboard.memory.length =
            keyboardMemorySize - (s.keyboard.memory.length + 1) + 1 := by omega
        rw [hone, List.length_append, List.length_singleton, List.append_assoc,
          List.singleton_append, hroom, List.take_succ_cons]

/-- The flag of a release is the top bit. -/
lemma has_bxKeyReleased_iff : Word.has key bxKeyReleased = true ↔ 2 ^ 31 ≤ key.toNat := by
  have hlt := key.isLt
  rw [Word.has_eq_getLsbD, BitVec.getLsbD, Nat.testBit_eq_decide_div_mod_eq, decide_eq_true_eq]
  unfold bxKeyReleased
  omega

/-- A press puts into the memory what there is room for. -/
lemma memory_generateScancode_press (hkey : key < bxKeyNbkeys) :
    (s.generateScancode (keyEvent key false)).keyboard.memory =
      s.keyboard.memory ++
        (s.keySequence key false).take (keyboardMemorySize - s.keyboard.memory.length) := by
  have hbit : ¬ Word.has key bxKeyReleased = true := by
    have hlt : key.toNat < 119 := hkey
    rw [has_bxKeyReleased_iff]
    omega
  have hcode : s.generateScancode (keyEvent key false) =
      (s.keySequence key false).foldl (fun s b => s.writeKeyboardMemory b) s := by
    show s.generateScancode key = _
    rw [generateScancode, if_neg (BitVec.not_le.mpr hkey), keySequence]
    simp only [if_neg hbit, foldl_sendTranslated]
    by_cases htranslate : Word.has s.dataRegister dataScanCode = true
    · rw [if_pos htranslate, if_pos htranslate]
      rfl
    · rw [if_neg htranslate, if_neg htranslate]
      rfl
  rw [hcode, memory_foldl_writeKeyboardMemory]

/-- The code of a release is not one of a key of the table. -/
lemma generateScancode_release : s.generateScancode (keyEvent key true) = s := by
  have hbit : Word.has (keyEvent key true) bxKeyReleased = true := by
    show Word.has (Word.set key bxKeyReleased) bxKeyReleased = true
    rw [Word.has_set, decide_eq_true rfl, Bool.true_and]
    exact Bool.or_true _
  rw [has_bxKeyReleased_iff] at hbit
  refine if_pos (BitVec.not_lt.mp fun hlt => ?_)
  have hlt' : (keyEvent key true).toNat < 119 := hlt
  omega

/-- A sequence is all there exactly if there is room for it, or for none of it. -/
lemma append_take_eq_iff {sequence : List (BitVec 8)} :
    s.keyboard.memory ++ sequence.take (keyboardMemorySize - s.keyboard.memory.length) =
        (if s.Fits sequence then s.keyboard.memory ++ sequence else s.keyboard.memory) ↔
      s.Fits sequence ∨ keyboardMemorySize ≤ s.keyboard.memory.length := by
  by_cases hfits : s.Fits sequence
  · rw [if_pos hfits, List.take_of_length_le (by unfold Fits at hfits; omega)]
    exact ⟨fun _ => Or.inl hfits, fun _ => rfl⟩
  · rw [if_neg hfits, List.append_right_eq_self, List.take_eq_nil_iff]
    constructor
    · rintro (hroom | rfl)
      · exact Or.inr (by omega)
      · refine Or.inr ?_
        unfold Fits at hfits
        rw [List.length_nil] at hfits
        omega
    · rintro (h | hfull)
      · exact absurd h hfits
      · exact Or.inl (Nat.sub_eq_zero_of_le hfull)

/-- A key event is enqueued whole exactly if it is a press that finds room for all its bytes or for
none, or a release that sends nothing or finds no room. -/
theorem keys_enqueued_whole_iff (hkey : key < bxKeyNbkeys) :
    EnqueuedWhole (s.keySequence key released) s (s.generateScancode (keyEvent key released)) ↔
      s.KeyHarmless (s.keySequence key released) released := by
  unfold EnqueuedWhole
  cases released with
  | false =>
      rw [memory_generateScancode_press hkey]
      exact append_take_eq_iff
  | true =>
      rw [generateScancode_release]
      show _ ↔ s.keySequence key true = [] ∨ ¬ s.Fits (s.keySequence key true)
      by_cases hfits : s.Fits (s.keySequence key true)
      · rw [if_pos hfits, List.self_eq_append_right]
        exact ⟨Or.inl, fun h => h.resolve_right (not_not.mpr hfits)⟩
      · rw [if_neg hfits]
        exact ⟨fun _ => Or.inr hfits, fun _ => rfl⟩

/-- The key A is pressed. -/
theorem key_enqueued_press :
    EnqueuedWhole [0x1e] .initialState (generateScancode (keyEvent 20 false) .initialState) :=
  (keys_enqueued_whole_iff (s := .initialState) (by decide)).mpr (Or.inl (by decide))

/-- The release of the key A sends nothing, in whatever set; and of the right control key, pressed
while there is room for one byte, only the prefix is written. -/
theorem key_release_lost :
    (∀ s : Ps2, (s.generateScancode (keyEvent 20 true)).keyboard.memory = s.keyboard.memory) ∧
      let k : Ps2Keyboard :=
        { memory := List.replicate 15 0x1e, clockEnabled := true, scanCodeEnabled := false
          scanCodeSet := 0, ledState := 0, typematic := 0 }
      let s : Ps2 := { initialState with keyboard := k }
      s.keySequence 14 false = [0xe0, 0x1d] ∧
        (s.generateScancode (keyEvent 14 false)).keyboard.memory =
          List.replicate 15 0x1e ++ [0xe0] ∧
        ¬ EnqueuedWhole (s.keySequence 14 false) s (s.generateScancode (keyEvent 14 false)) ∧
        ¬ EnqueuedWhole ((initialState).keySequence 20 true) initialState
          ((initialState).generateScancode (keyEvent 20 true)) := by
  refine ⟨fun s => by rw [generateScancode_release], ?_⟩
  exact ⟨by decide, by decide, by decide, by decide⟩

end Ps2

end Svmm
