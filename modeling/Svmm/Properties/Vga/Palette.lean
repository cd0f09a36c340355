import Mathlib.Data.List.GetD
import Svmm.Properties.Vga.Views

/-!
# The palette through the data port

`palette_round_trip` says that the colours written to port 0x3c9 from an index on are what reads of
the port from that index on give, and that they are all that changes.

The palette is read as a tape: from an index on, entry after entry with the index modulo 256, the
red, green and blue of each (`paletteByte`).  An address written to port 0x3c8 or 0x3c7 puts the
register and the cycle of its side at the start of the tape, whatever they were, and a byte written
or read takes them to the next place (`WritesAt`, `ReadsAt`).
-/

namespace Svmm

variable {s t : VgaCore} {i : BitVec 8} {k : ℕ}

/-- The part of a colour that the data port gives in a cycle. -/
def VgaColor.part (c : VgaColor) : ℕ → BitVec 8
  | 0 => c.red
  | 1 => c.green
  | _ => c.blue

namespace VgaCore

/-- An index written to port 0x3c8, and then bytes to port 0x3c9. -/
def writePalette (i : BitVec 8) (bytes : List (BitVec 8)) (s : VgaCore) : VgaCore :=
  bytes.foldl (fun s b => s.writeByte 0x3c9 b) (s.writeByte 0x3c8 i)

/-- So many bytes read from port 0x3c9. -/
def readPelBytes : ℕ → VgaCore → List (BitVec 32) × VgaCore
  | 0, s => ([], s)
  | length + 1, s =>
      let (byte, s) := s.portIoReadHandler 0x3c9 1
      let (bytes, s) := readPelBytes length s
      (byte :: bytes, s)

/-- An index written to port 0x3c7, and then so many bytes read from port 0x3c9. -/
def readPalette (i : BitVec 8) (length : ℕ) (s : VgaCore) : List (BitVec 32) × VgaCore :=
  readPelBytes length (s.writeByte 0x3c7 i)

/-! ## The palette as a tape -/

/-- The byte of the palette so many places after the start of an entry. -/
def paletteByte (i : BitVec 8) (s : VgaCore) (k : ℕ) : BitVec 8 :=
  (s.pel.data (i + BitVec.ofNat 8 (k / 3))).part (k % 3)

/-- The next byte written goes to a place of the tape. -/
def WritesAt (i : BitVec 8) (k : ℕ) (s : VgaCore) : Prop :=
  s.pel.writeDataRegister = i + BitVec.ofNat 8 (k / 3) ∧
    s.pel.writeDataCycle = BitVec.ofNat 8 (k % 3)

/-- The next byte read comes from a place of the tape. -/
def ReadsAt (i : BitVec 8) (k : ℕ) (s : VgaCore) : Prop :=
  s.pel.readDataRegister = i + BitVec.ofNat 8 (k / 3) ∧
    s.pel.readDataCycle = BitVec.ofNat 8 (k % 3) ∧ s.pel.dacState = 3

/-- Two places of the tape of one entry are the same place. -/
lemma place_inj {k m : ℕ} (hk : k < 768) (hm : m < 768)
    (hentry : i + BitVec.ofNat 8 (k / 3) = i + BitVec.ofNat 8 (m / 3)) (hcycle : k % 3 = m % 3) :
    k = m := by
  have hquot : k / 3 = m / 3 := by
    have h := congrArg BitVec.toNat ((BitVec.add_right_inj i).mp hentry)
    rw [BitVec.toNat_ofNat, BitVec.toNat_ofNat] at h
    omega
  omega

/-- What both sides do after a byte: the next cycle, and after the third the next entry. -/
lemma next_place (i : BitVec 8) (k : ℕ) :
    let c := BitVec.ofNat 8 (k % 3)
    let r := i + BitVec.ofNat 8 (k / 3)
    (if c + 1 ≥ 3 then r + 1 else r) = i + BitVec.ofNat 8 ((k + 1) / 3) ∧
      (if c + 1 ≥ 3 then 0 else c + 1) = BitVec.ofNat 8 ((k + 1) % 3) := by
  have hcycle : k % 3 = 0 ∨ k % 3 = 1 ∨ k % 3 = 2 := by omega
  rcases hcycle with hc | hc | hc
  · have hdiv : (k + 1) / 3 = k / 3 := by omega
    have hmod : (k + 1) % 3 = 1 := by omega
    rw [hc, hdiv, hmod]
    exact ⟨rfl, rfl⟩
  · have hdiv : (k + 1) / 3 = k / 3 := by omega
    have hmod : (k + 1) % 3 = 2 := by omega
    rw [hc, hdiv, hmod]
    exact ⟨rfl, rfl⟩
  · have hdiv : (k + 1) / 3 = k / 3 + 1 := by omega
    have hmod : (k + 1) % 3 = 0 := by omega
    rw [hc, hdiv, hmod, BitVec.ofNat_add, ← BitVec.add_assoc]
    exact ⟨rfl, rfl⟩

/-! ## Writes -/

/-- A byte written to a port of both emulations leaves the palette that its unit leaves. -/
lemma writeByte_pel {address : BitVec 64} (h : 0x03c0 ≤ address) (h' : address ≤ 0x03cf)
    (b : BitVec 8) :
    (s.writeByte address b).pel = (s.writePort address (b.setWidth 32)).1.pel := by
  have hbyte : (s.writeByte address b) = (s.portWriteByte address (b.setWidth 32)).1 := rfl
  obtain ⟨m, k, u, hchanges⟩ := SameRegisters.applyChanges
    (s := (s.writePort address (b.setWidth 32)).1) (s.writePort address (b.setWidth 32)).2
  rw [hbyte, portWriteByte_eq h h', hchanges]

lemma writesAt_start (i : BitVec 8) (s : VgaCore) : WritesAt i 0 (s.writeByte 0x3c8 i) := by
  rw [WritesAt, writeByte_pel (by decide) (by decide)]
  refine ⟨?_, rfl⟩
  change (i.setWidth 32).setWidth 8 = i + 0
  rw [Word.setWidth_setWidth_eq (by decide)]
  exact (BitVec.add_zero i).symm

lemma writeStart_data (i : BitVec 8) (s : VgaCore) :
    (s.writeByte 0x3c8 i).pel.data = s.pel.data := by
  rw [writeByte_pel (by decide) (by decide)]
  rfl

/-- A byte written to its place. -/
lemma writesAt_step (h : WritesAt i k s) (b : BitVec 8) :
    WritesAt i (k + 1) (s.writeByte 0x3c9 b) := by
  obtain ⟨hregister, hcycle⟩ := h
  have hnext := next_place i k
  rw [WritesAt, writeByte_pel (by decide) (by decide)]
  rw [← hregister, ← hcycle] at hnext
  exact hnext

/-- The colour that a byte written leaves. -/
lemma part_written (c : VgaColor) (b : BitVec 8) {j n : ℕ} (hj : j < 3) (hn : n < 3) :
    (if BitVec.ofNat 8 j = 0 then { c with red := b }
      else if BitVec.ofNat 8 j = 1 then { c with green := b }
      else if BitVec.ofNat 8 j = 2 then { c with blue := b }
      else c).part n = if n = j then b else c.part n := by
  have hcycles : (j = 0 ∨ j = 1 ∨ j = 2) ∧ (n = 0 ∨ n = 1 ∨ n = 2) := by omega
  rcases hcycles with ⟨rfl | rfl | rfl, rfl | rfl | rfl⟩ <;> rfl

lemma paletteByte_step (h : WritesAt i k s) (hk : k < 768) (b : BitVec 8) {m : ℕ} (hm : m < 768) :
    paletteByte i (s.writeByte 0x3c9 b) m = if m = k then b else paletteByte i s m := by
  obtain ⟨hregister, hcycle⟩ := h
  have hdata : (s.writeByte 0x3c9 b).pel.data =
      Function.update s.pel.data s.pel.writeDataRegister
        (let color := s.pel.data s.pel.writeDataRegister
        if s.pel.writeDataCycle = 0 then { color with red := b }
        else if s.pel.writeDataCycle = 1 then { color with green := b }
        else if s.pel.writeDataCycle = 2 then { color with blue := b }
        else color) := by
    rw [writeByte_pel (by decide) (by decide)]
    change (s.writePelData (b.setWidth 32)).1.pel.data = _
    unfold writePelData
    rw [Word.setWidth_setWidth_eq (by decide)]
    rfl
  unfold paletteByte
  rw [hdata, hregister, hcycle, Function.update_apply]
  have hlt : ∀ n, n % 3 < 3 := fun n => Nat.mod_lt n (by decide)
  by_cases hentry : i + BitVec.ofNat 8 (m / 3) = i + BitVec.ofNat 8 (k / 3)
  · rw [if_pos hentry, part_written _ b (hlt k) (hlt m), hentry]
    have hplace : m % 3 = k % 3 ↔ m = k := ⟨place_inj hm hk hentry, fun h => h ▸ rfl⟩
    simp only [hplace]
  · have hne : m ≠ k := fun h => hentry (h ▸ rfl)
    rw [if_neg hentry, if_neg hne]

/-- The bytes written from a place on. -/
lemma paletteByte_run (bytes : List (BitVec 8)) : ∀ {k : ℕ} {s : VgaCore}, WritesAt i k s →
    k + bytes.length ≤ 768 → ∀ m < 768,
      paletteByte i (bytes.foldl (fun s b => s.writeByte 0x3c9 b) s) m =
        if k ≤ m then bytes.getD (m - k) (paletteByte i s m) else paletteByte i s m := by
  induction bytes with
  | nil =>
      intro k s _ _ m _
      simp
  | cons b bytes ih =>
      intro k s h hlen m hm
      rw [List.length_cons] at hlen
      rw [List.foldl_cons, ih (writesAt_step h b) (by omega) m hm,
        paletteByte_step h (by omega) b hm]
      rcases Nat.lt_trichotomy m k with hlt | rfl | hlt
      · rw [if_neg (by omega), if_neg (by omega), if_neg (by omega)]
      · rw [if_neg (by omega), if_pos rfl, if_pos (Nat.le_refl m), Nat.sub_self]
        rfl
      · obtain ⟨d, rfl⟩ := Nat.exists_eq_add_of_lt hlt
        rw [if_pos (by omega), if_neg (by omega), if_pos (by omega),
          show k + d + 1 - (k + 1) = d by omega, show k + d + 1 - k = d + 1 by omega,
          List.getD_cons_succ]

/-! ## Reads -/

lemma readsAt_start (i : BitVec 8) (s : VgaCore) : ReadsAt i 0 (s.writeByte 0x3c7 i) := by
  rw [ReadsAt, writeByte_pel (by decide) (by decide)]
  refine ⟨?_, rfl, rfl⟩
  change (i.setWidth 32).setWidth 8 = i + 0
  rw [Word.setWidth_setWidth_eq (by decide)]
  exact (BitVec.add_zero i).symm

lemma readStart_data (i : BitVec 8) (s : VgaCore) :
    (s.writeByte 0x3c7 i).pel.data = s.pel.data := by
  rw [writeByte_pel (by decide) (by decide)]
  rfl

/-- The part that a read gives. -/
lemma part_read (c : VgaColor) {j : ℕ} (hj : j < 3) :
    (if BitVec.ofNat 8 j = 0 then c.red else if BitVec.ofNat 8 j = 1 then c.green
      else if BitVec.ofNat 8 j = 2 then c.blue else 0) = c.part j := by
  have hcycle : j = 0 ∨ j = 1 ∨ j = 2 := by omega
  rcases hcycle with rfl | rfl | rfl <;> rfl

/-- A byte read from its place. -/
lemma readsAt_step (h : ReadsAt i k s) :
    (s.portIoReadHandler 0x3c9 1).1 = (paletteByte i s k).setWidth 32 ∧
      ReadsAt i (k + 1) (s.portIoReadHandler 0x3c9 1).2 ∧
      (s.portIoReadHandler 0x3c9 1).2.pel.data = s.pel.data := by
  obtain ⟨hregister, hcycle, hstate⟩ := h
  have hother : ¬ s.otherEmulation 0x3c9 := not_otherEmulation (by decide) (by decide)
  have hread : s.portIoReadHandler 0x3c9 1 = (s.readPelData.1.setWidth 32, s.readPelData.2) := by
    unfold portIoReadHandler portReadByte
    rw [if_neg (show (1 : BitVec 32) ≠ 2 by decide), if_neg hother]
    rfl
  have hnext := next_place i k
  rw [← hregister, ← hcycle] at hnext
  rw [hread]
  unfold readPelData
  simp only [if_pos hstate]
  refine ⟨congrArg (BitVec.setWidth 32) ?_, ⟨hnext.1, hnext.2, hstate⟩, rfl⟩
  rw [hregister, hcycle, part_read _ (Nat.mod_lt k (by decide))]
  rfl

/-- The bytes read from a place on. -/
lemma readPelBytes_run (length : ℕ) : ∀ {k : ℕ} {s : VgaCore}, ReadsAt i k s →
    (readPelBytes length s).1 =
        (List.range length).map (fun j => (paletteByte i s (k + j)).setWidth 32) ∧
      (readPelBytes length s).2.pel.data = s.pel.data := by
  induction length with
  | zero => exact fun _ => ⟨rfl, rfl⟩
  | succ length ih =>
      intro k s h
      obtain ⟨hbyte, hnext, hdata⟩ := readsAt_step h
      obtain ⟨hbytes, hrest⟩ := ih hnext
      refine ⟨?_, hrest.trans hdata⟩
      rw [List.range_succ_eq_map, List.map_cons, List.map_map]
      refine congrArg₂ List.cons hbyte (hbytes.trans (List.map_congr_left fun j _ => ?_))
      have hplace : paletteByte i (s.portIoReadHandler 0x3c9 1).2 = paletteByte i s :=
        funext fun m => by rw [paletteByte, paletteByte, hdata]
      rw [hplace, Function.comp_apply, Nat.add_assoc, Nat.add_comm 1 j]

/-! ## The round trip -/

/-- The bytes of the tape after a sequence from its start. -/
lemma paletteByte_writePalette {bytes : List (BitVec 8)} (hlen : bytes.length ≤ 768) {m : ℕ}
    (hm : m < 768) :
    paletteByte i (s.writePalette i bytes) m = bytes.getD m (paletteByte i s m) := by
  have hrun := paletteByte_run bytes (writesAt_start i s) (by omega) m hm
  rw [if_pos (Nat.zero_le m), Nat.sub_zero] at hrun
  have hstart : paletteByte i (s.writeByte 0x3c8 i) m = paletteByte i s m := by
    rw [paletteByte, paletteByte, writeStart_data]
  rw [writePalette, hrun, hstart]

/-- A colour by its bytes on the tape. -/
lemma data_eq (i : BitVec 8) (s : VgaCore) (k : ℕ) :
    s.pel.data (i + BitVec.ofNat 8 k) =
      ⟨paletteByte i s (3 * k), paletteByte i s (3 * k + 1), paletteByte i s (3 * k + 2)⟩ := by
  have hdiv : (3 * k) / 3 = k ∧ (3 * k + 1) / 3 = k ∧ (3 * k + 2) / 3 = k := by omega
  have hmod : (3 * k) % 3 = 0 ∧ (3 * k + 1) % 3 = 1 ∧ (3 * k + 2) % 3 = 2 := by omega
  simp only [paletteByte, hdiv, hmod]
  rfl

end VgaCore

open VgaCore

/-- From any state of the palette, the registers and the cycles. -/
theorem palette_round_trip (s : VgaCore) (i : BitVec 8) (n : ℕ) (hn : n ≤ 256)
    (bytes : List (BitVec 8)) (hlen : bytes.length = 3 * n) :
    let read := readPalette i bytes.length (s.writePalette i bytes)
    read.1 = bytes.map (BitVec.setWidth 32) ∧
      (∀ k < n, read.2.pel.data (i + BitVec.ofNat 8 k) =
        ⟨bytes.getD (3 * k) 0, bytes.getD (3 * k + 1) 0, bytes.getD (3 * k + 2) 0⟩) ∧
      ∀ entry, (∀ k < n, entry ≠ i + BitVec.ofNat 8 k) →
        read.2.pel.data entry = s.pel.data entry := by
  have htape : ∀ m < 768, paletteByte i (s.writePalette i bytes) m =
      bytes.getD m (paletteByte i s m) := fun m hm => paletteByte_writePalette (by omega) hm
  have hwritten : ∀ m < bytes.length,
      paletteByte i (s.writePalette i bytes) m = bytes.getD m 0 := fun m hm => by
    rw [htape m (by omega), List.getD_eq_getElem _ _ hm, List.getD_eq_getElem _ _ hm]
  have hrest : ∀ m, bytes.length ≤ m → m < 768 →
      paletteByte i (s.writePalette i bytes) m = paletteByte i s m := fun m hle hm => by
    rw [htape m hm, List.getD_eq_default _ _ hle]
  obtain ⟨hread, hdata⟩ := readPelBytes_run (i := i) bytes.length
    (readsAt_start i (s.writePalette i bytes))
  have hkept : (readPalette i bytes.length (s.writePalette i bytes)).2.pel.data =
      (s.writePalette i bytes).pel.data := hdata.trans (readStart_data ..)
  have hstart : paletteByte i ((s.writePalette i bytes).writeByte 0x3c7 i) =
      paletteByte i (s.writePalette i bytes) :=
    funext fun m => by rw [paletteByte, paletteByte, readStart_data]
  refine ⟨?_, fun k hk => ?_, fun entry hentry => ?_⟩
  · refine hread.trans (List.ext_getElem (by simp) fun j hj hj' => ?_)
    have hjlen : j < bytes.length := by simpa using hj'
    rw [List.getElem_map, List.getElem_map, List.getElem_range, hstart, Nat.zero_add,
      hwritten j hjlen, List.getD_eq_getElem _ _ hjlen]
  · rw [hkept, data_eq, hwritten _ (by omega), hwritten _ (by omega), hwritten _ (by omega)]
  · -- an entry that is not written is far enough from the first
    have hplace : i + BitVec.ofNat 8 (entry - i).toNat = entry := by
      rw [BitVec.ofNat_toNat, BitVec.setWidth_eq, BitVec.add_comm, BitVec.sub_add_cancel]
    have hfar : n ≤ (entry - i).toNat := by
      by_contra hlt
      exact hentry _ (Nat.lt_of_not_le hlt) hplace.symm
    have hlast := (entry - i).isLt
    rw [hkept, ← hplace, data_eq, data_eq, hrest _ (by omega) (by omega),
      hrest _ (by omega) (by omega), hrest _ (by omega) (by omega)]

/-- Two colours from the last entry on, after a byte of another sequence and a byte read. -/
theorem palette_round_trip_wraps :
    let s := ((initialState.writeByte 0x3c9 0x12).portIoReadHandler 0x3c9 1).2
    (readPalette 0xff 6 (s.writePalette 0xff [1, 2, 3, 4, 5, 6])).1 = [1, 2, 3, 4, 5, 6] :=
  (palette_round_trip _ 0xff 2 (by decide) [1, 2, 3, 4, 5, 6] rfl).1

end Svmm
