import Svmm.Construction.IoExit
import Svmm.Properties.HardDisk.PioRead

/-!
# String instructions and the data page

An exit of a string instruction is a batch of port reads or writes.  For a read the page holds the
low bytes of the words in order, whatever the device is; the last store spills over the bytes behind
them.  So the data port of a disk can be read with any mixture of exits, and the pages put together
are the sectors.  In the other direction a write hands over the bytes behind an item with it.
-/

namespace Svmm

open TransitionRun StreamDelivery Bytes

/-! ## The page after a run of stores -/

namespace PioData

/-- The page once words have been stored one behind the other, `w` bytes of each. -/
def received (p : PioData) (w : ℕ) (values : List (BitVec 32)) : PioData := fun j =>
  if j < values.length * w then byteAt (values.getD (j / w) 0) (j % w)
  else if values ≠ [] ∧ j < (values.length - 1) * w + 4 then
    byteAt (values.getLastD 0) (j - (values.length - 1) * w)
  else p j

variable (p : PioData) {w : ℕ}

@[simp] lemma received_nil : p.received w [] = p := by
  funext j
  simp [received]

/-- A store behind the last word adds a word. -/
lemma store_received (values : List (BitVec 32)) (v : BitVec 32) (hw : 0 < w) (hw4 : w ≤ 4) :
    (p.received w values).store (values.length * w) v = p.received w (values ++ [v]) := by
  funext j
  have hlength : (values ++ [v]).length = values.length + 1 := by simp
  have hne : values ++ [v] ≠ [] := by simp
  have hlast : (values ++ [v]).getLastD 0 = v := by simp
  have hmul : (values.length + 1) * w = values.length * w + w := Nat.succ_mul _ _
  unfold store received
  rw [hlength, Nat.add_sub_cancel, hmul, hlast]
  by_cases hbefore : j < values.length * w
  · -- a word stored before
    have hindex : j / w < values.length := Nat.div_lt_of_lt_mul (by rwa [Nat.mul_comm])
    have hget : (values ++ [v]).getD (j / w) 0 = values.getD (j / w) 0 := by
      rw [List.getD_eq_getElem?_getD, List.getD_eq_getElem?_getD, List.getElem?_append_left hindex]
    rw [if_neg (by omega), if_pos hbefore, if_pos (by omega), hget]
  · by_cases hnew : j < values.length * w + 4
    · rw [if_pos ⟨by omega, hnew⟩]
      by_cases hitem : j < values.length * w + w
      · -- the bytes of the new word
        have hsub : j - values.length * w < w := by omega
        have hj : j = (j - values.length * w) + w * values.length := by
          rw [Nat.mul_comm w]
          omega
        have hdiv : j / w = values.length := by
          rw [hj, Nat.add_mul_div_left _ _ hw, Nat.div_eq_of_lt hsub, Nat.zero_add]
        have hmod : j % w = j - values.length * w := by
          conv_lhs => rw [hj]
          rw [Nat.add_mul_mod_self_left, Nat.mod_eq_of_lt hsub]
        have hget : (values ++ [v]).getD values.length 0 = v := by simp
        rw [if_pos hitem, hdiv, hmod, hget]
      · rw [if_neg hitem, if_pos ⟨hne, hnew⟩]
    · -- behind everything that was stored
      have hspill : ¬ (values ≠ [] ∧ j < (values.length - 1) * w + 4) := by
        rintro ⟨-, hlt⟩
        have hle : (values.length - 1) * w ≤ values.length * w :=
          Nat.mul_le_mul_right w (Nat.sub_le _ _)
        omega
      rw [if_neg (by omega), if_neg hbefore, if_neg hspill, if_neg (by omega), if_neg (by omega)]

/-- The bytes at the head of the page are the low bytes of the words. -/
lemma take_received (values : List (BitVec 32)) (hw : 0 < w) :
    (List.range (values.length * w)).map (p.received w values) =
      values.flatMap fun v => bytesOf v w := by
  have hinside (j : ℕ) (hj : j < values.length * w) :
      p.received w values j = byteAt (values.getD (j / w) 0) (j % w) := by
    rw [received, if_pos hj]
  rw [List.map_congr_left fun j hj => hinside j (List.mem_range.mp hj)]
  clear hinside
  induction values with
  | nil => simp
  | cons v values ih =>
      rw [List.length_cons, Nat.succ_mul, Nat.add_comm, List.range_add, List.map_append,
        List.flatMap_cons, ← ih, List.map_map]
      congr 1
      · refine List.map_congr_left fun j hj => ?_
        have hlt : j < w := List.mem_range.mp hj
        rw [Nat.div_eq_of_lt hlt, Nat.mod_eq_of_lt hlt]
        rfl
      · refine List.map_congr_left fun j _ => ?_
        show byteAt ((v :: values).getD ((w + j) / w) 0) ((w + j) % w) = _
        rw [Nat.add_div_left j hw, Nat.add_mod_left]
        rfl

end PioData

/-! ## Exits -/

section Exits

variable {σ ε : Type} (f : PortFunctions σ ε)

/-- The port of an exit, as a device that gives words. -/
def wordRead (e : IoExit) (d : σ) (_ : Unit) : Except ε (σ × List (BitVec 32)) := do
  let (d, value) ← f.readPort (e.port.setWidth 32) (e.size.setWidth 32) d
  return (d, [value])

/-- As many reads as the exit has items. -/
def wordReads (e : IoExit) (d : σ) : Except ε (σ × List (BitVec 32)) :=
  batch (wordRead f e) d (List.replicate e.count.toNat ())

variable {f} {e : IoExit}

lemma wordRead_length (d : σ) (i : Unit) (d' : σ) (values : List (BitVec 32))
    (h : wordRead f e d i = .ok (d', values)) : values.length = 1 := by
  obtain ⟨⟨d₁, value⟩, -, h⟩ := bind_eq_ok.mp h
  obtain ⟨-, rfl⟩ := Prod.mk.inj (Except.ok.inj h)
  rfl

lemma wordRead_run_length {d : σ} {t : Session σ (BitVec 32)} {is : List Unit}
    (h : TransitionRun.run (sessionStep (wordRead f e)) ⟨d, []⟩ is = .ok t) :
    t.received.length = is.length := by
  have hsum : t.received.length = 0 + (is.map fun _ => 1).sum := received_length wordRead_length h
  simpa using hsum

/-- The loop of a read exit does the reads of the port, and stores their words. -/
lemma ioExit_in (hin : e.direction = gvmExitIoIn) (hsize : 0 < e.size.toNat)
    (hsize4 : e.size.toNat ≤ 4) (s : IoMachine σ) :
    ioExit f s e = do
      let (devices, values) ← wordReads f e s.devices
      return { devices := devices, pioData := s.pioData.received e.size.toNat values } := by
  unfold ioExit wordReads batch
  induction e.count.toNat with
  | zero =>
      rw [List.range_zero, List.foldlM_nil]
      show Except.ok s = Except.ok _
      rw [PioData.received_nil]
  | succ n ih =>
      rw [List.range_succ, List.foldlM_append, ih, List.replicate_succ', run_append]
      cases hrun : TransitionRun.run (sessionStep (wordRead f e)) ⟨s.devices, []⟩
          (List.replicate n ()) with
      | error err => rfl
      | ok t =>
          have hlength : t.received.length = n := by
            rw [wordRead_run_length hrun, List.length_replicate]
          simp only [ok_bind, foldlM_singleton]
          show ioExitItem f e ⟨t.device, s.pioData.received e.size.toNat t.received⟩ n = _
          simp only [ioExitItem, if_pos hin, TransitionRun.run, sessionStep, wordRead]
          cases f.readPort (e.port.setWidth 32) (e.size.setWidth 32) t.device with
          | error err => rfl
          | ok next =>
              simp only [ok_bind]
              rw [← hlength]
              show Except.ok _ = Except.ok _
              rw [s.pioData.store_received t.received next.2 hsize hsize4]

lemma wordReads_length {d d' : σ} {values : List (BitVec 32)}
    (h : wordReads f e d = .ok (d', values)) : values.length = e.count.toNat := by
  obtain ⟨t, hrun, h⟩ := bind_eq_ok.mp h
  obtain ⟨rfl, rfl⟩ := Prod.mk.inj (Except.ok.inj h)
  rw [wordRead_run_length hrun, List.length_replicate]

/-- What a read exit leaves in the page: the words in order, and behind them the rest of the last
one.  What lies further on is untouched. -/
structure ReadInto (p : PioData) (size count : ℕ) (values : List (BitVec 32)) (q : PioData) :
    Prop where
  length : values.length = count
  items : (List.range (count * size)).map q = values.flatMap fun v => bytesOf v size
  spill : ∀ j, 0 < count → count * size ≤ j → j < (count - 1) * size + 4 →
    q j = byteAt (values.getLastD 0) (j - (count - 1) * size)
  behind : ∀ j, count * size ≤ j → (count - 1) * size + 4 ≤ j ∨ count = 0 → q j = p j

/-- A read exit does its reads of the port, as many as it has items, and the page holds what they
gave; where one of them ends the program, so does the exit. -/
theorem string_in_page (hin : e.direction = gvmExitIoIn) (hsize : 0 < e.size.toNat)
    (hsize4 : e.size.toNat ≤ 4) (s : IoMachine σ) :
    (∀ error, ioExit f s e = .error error ↔ wordReads f e s.devices = .error error) ∧
      ∀ t, ioExit f s e = .ok t → ∃ values, wordReads f e s.devices = .ok (t.devices, values) ∧
        ReadInto s.pioData e.size.toNat e.count.toNat values t.pioData := by
  rw [ioExit_in hin hsize hsize4]
  cases hreads : wordReads f e s.devices with
  | error err =>
      refine ⟨fun error => ?_, fun t ht => nomatch ht⟩
      show Except.error err = Except.error error ↔ Except.error err = Except.error error
      rw [Except.error.injEq, Except.error.injEq]
  | ok next =>
      refine ⟨fun error => iff_of_false (fun h => nomatch h) (fun h => nomatch h), fun t ht => ?_⟩
      obtain rfl := Except.ok.inj ht
      have hlength := wordReads_length hreads
      have hitems := s.pioData.take_received next.2 hsize
      rw [hlength] at hitems
      refine ⟨next.2, rfl, hlength, hitems, fun j hpos hge hlt => ?_, fun j hge hout => ?_⟩
      · have hne : next.2 ≠ [] := by
          rw [← List.length_pos_iff, hlength]
          exact hpos
        show s.pioData.received e.size.toNat next.2 j = _
        rw [PioData.received, hlength, if_neg (Nat.not_lt.mpr hge), if_pos ⟨hne, hlt⟩]
      · have hspill : ¬ (next.2 ≠ [] ∧ j < (e.count.toNat - 1) * e.size.toNat + 4) := by
          rintro ⟨hne, hlt⟩
          rw [← List.length_pos_iff, hlength] at hne
          omega
        show s.pioData.received e.size.toNat next.2 j = _
        rw [PioData.received, hlength, if_neg (Nat.not_lt.mpr hge), if_neg hspill]

end Exits

/-- A port that counts its reads. -/
def countingPort : PortFunctions ℕ Unit :=
  { readPort := fun _ _ n => .ok (n + 1, BitVec.ofNat 32 n)
    writePort := fun _ _ _ n => .ok n }

/-- Three words of it, in a page of other bytes. -/
theorem string_in_page_counting :
    ∃ t values, ioExit countingPort ⟨0x1234, fun _ => 0xff⟩ ⟨gvmExitIoIn, 2, 0x40, 3⟩ = .ok t ∧
      t.devices = 0x1237 ∧ ReadInto (fun _ => 0xff) 2 3 values t.pioData := by
  obtain ⟨t, ht, hdevices⟩ : ∃ t, ioExit countingPort ⟨0x1234, fun _ => 0xff⟩
      ⟨gvmExitIoIn, 2, 0x40, 3⟩ = .ok t ∧ t.devices = 0x1237 := ⟨_, rfl, rfl⟩
  obtain ⟨values, -, hpage⟩ := (string_in_page rfl (by decide) (by decide) _).2 t ht
  exact ⟨t, values, ht, hdevices, hpage⟩

/-! ## The table of ports -/

/-- The ports of the first channel that a transfer uses lead to the disk controllers. -/
structure Dispatch.DiskMapped (d : Dispatch ExitOwner) : Prop where
  read : ∀ address ∈ [0x1f0, 0x1f7, 0x3f6], d.readPortIoHandler address = .ok .hardDisk
  write : d.writePortIoHandler 0x1f7 = .ok .hardDisk

section Registration

variable {s t : Dispatch ExitOwner}

/-- The table leads reads and writes of a port to an owner. -/
def Dispatch.Owns (d : Dispatch ExitOwner) (address : BitVec 32) (owner : ExitOwner) : Prop :=
  d.readPortIoHandler address = .ok owner ∧ d.writePortIoHandler address = .ok owner

lemma owns_registered {address : BitVec 32} {owner : ExitOwner}
    (h : s.registerPortIoHandler address (some owner) (some owner) = .ok t) :
    t.Owns address owner := by
  rw [Dispatch.registerPortIoHandler] at h
  split at h
  · cases h
  · rename_i hfree
    obtain rfl := Except.ok.inj h
    have hin : ¬ handlersLength ≤ address.toNat := fun hge => hfree (Or.inl hge)
    have hmapped : ¬ (s.port.initializeBitMap.register (some owner) (some owner)
        address.toNat).Unmapped address.toNat := by
      rintro (hge | hbit)
      · exact hin hge
      · simp [HandlerTable.register] at hbit
    constructor
    · rw [Dispatch.readPortIoHandler, HandlerTable.dispatch, if_neg hmapped]
      simp [HandlerTable.register]
    · rw [Dispatch.writePortIoHandler, HandlerTable.dispatch, if_neg hmapped]
      simp [HandlerTable.register]

lemma dispatch_eq_ok {η : Type} {h : HandlerTable η} {handlers : ℕ → Option η} {i : ℕ} {owner : η} :
    h.dispatch handlers i = .ok owner ↔ ¬ h.Unmapped i ∧ handlers i = some owner := by
  rw [HandlerTable.dispatch]
  by_cases hmapped : h.Unmapped i
  · rw [if_pos hmapped]
    exact iff_of_false (fun h => nomatch h) (fun h => h.1 hmapped)
  · rw [if_neg hmapped]
    cases handlers i with
    | none => exact iff_of_false (fun h => nomatch h) (fun h => nomatch h.2)
    | some owner' =>
        show Except.ok owner' = Except.ok owner ↔ _
        rw [Except.ok.injEq, Option.some.injEq]
        exact (and_iff_right hmapped).symm

/-- A registration that is not refused leaves the owners of other ports alone, and was for a port
without one. -/
lemma Dispatch.Owns.registered {address address' : BitVec 32} {owner : ExitOwner}
    {w r : Option ExitOwner} (howns : s.Owns address owner) (hsized : s.port.sizeOfBitMap ≠ 0)
    (h : s.registerPortIoHandler address' w r = .ok t) : t.Owns address owner := by
  obtain ⟨hmapped, hread⟩ := dispatch_eq_ok.mp howns.1
  obtain ⟨-, hwrite⟩ := dispatch_eq_ok.mp howns.2
  have htable : s.port.initializeBitMap = s.port := if_neg hsized
  rw [Dispatch.registerPortIoHandler, htable] at h
  split at h
  · cases h
  · rename_i hfree
    obtain rfl := Except.ok.inj h
    have hne : address.toNat ≠ address'.toNat := by
      intro heq
      refine hmapped (Or.inr ?_)
      rw [heq, ← Bool.not_eq_true]
      exact fun hbit => hfree (Or.inr hbit)
    have hmapped' : ¬ (s.port.register w r address'.toNat).Unmapped address.toNat := by
      show ¬ (handlersLength ≤ address.toNat ∨
        Function.update s.port.bit address'.toNat true address.toNat = false)
      rw [Function.update_of_ne hne]
      exact hmapped
    refine ⟨dispatch_eq_ok.mpr ⟨hmapped', ?_⟩, dispatch_eq_ok.mpr ⟨hmapped', ?_⟩⟩
    · show Function.update _ _ _ _ = _
      rw [Function.update_of_ne hne, hread]
    · show Function.update _ _ _ _ = _
      rw [Function.update_of_ne hne, hwrite]

lemma registered_sized {address : BitVec 32} {w r : Option ExitOwner}
    (h : s.registerPortIoHandler address w r = .ok t) : t.port.sizeOfBitMap ≠ 0 := by
  rw [Dispatch.registerPortIoHandler] at h
  split at h
  · cases h
  · obtain rfl := Except.ok.inj h
    show s.port.initializeBitMap.sizeOfBitMap ≠ 0
    unfold HandlerTable.initializeBitMap
    split
    · show (0xffff / 32 : ℕ) ≠ 0
      decide
    · assumption

/-- A loop of registrations, none of which is refused, leaves every port of the list with the
owner. -/
lemma owns_of_registrations {owner : ExitOwner} {addresses : List (BitVec 32)}
    (h : addresses.foldlM (fun s address =>
      s.registerPortIoHandler address (some owner) (some owner)) s = .ok t) :
    (∀ address, s.Owns address owner → s.port.sizeOfBitMap ≠ 0 → t.Owns address owner) ∧
      ∀ address ∈ addresses, t.Owns address owner := by
  induction addresses generalizing s with
  | nil =>
      obtain rfl := Except.ok.inj h
      exact ⟨fun address howns _ => howns, fun address hin => nomatch hin⟩
  | cons first addresses ih =>
      rw [List.foldlM_cons] at h
      obtain ⟨u, hu, h⟩ := bind_eq_ok.mp h
      obtain ⟨hkeep, hnew⟩ := ih h
      have hsized := registered_sized hu
      refine ⟨fun address howns hs => hkeep address (howns.registered hs hu) hsized, ?_⟩
      intro address hin
      rcases List.mem_cons.mp hin with rfl | hin
      · exact hkeep _ (owns_registered hu) hsized
      · exact hnew address hin

lemma mem_hardDiskPorts (base : BitVec 32) (count i : ℕ) (hi : i < count)
    (h : (base, count) ∈ [((0x1f0 : BitVec 32), 8), (0x3f0, 8), (0x170, 8), (0x370, 8), (0x1e8, 8),
      (0x3e0, 8), (0x168, 8), (0x360, 16)]) : base + BitVec.ofNat 32 i ∈ hardDiskPorts :=
  List.mem_flatMap.mpr ⟨(base, count), h, List.mem_map.mpr ⟨i, List.mem_range.mpr hi, rfl⟩⟩

/-- The registrations of `HardDiskInitialize` lead the ports of a transfer to the disk
controllers. -/
lemma diskMapped_of_registration (h : registerHardDiskPorts s = .ok t) : t.DiskMapped := by
  unfold registerHardDiskPorts at h
  have hall := (owns_of_registrations h).2
  have hdata : (0x1f0 : BitVec 32) ∈ hardDiskPorts :=
    mem_hardDiskPorts 0x1f0 8 0 (by omega) List.mem_cons_self
  have hstatus : (0x1f7 : BitVec 32) ∈ hardDiskPorts :=
    mem_hardDiskPorts 0x1f0 8 7 (by omega) List.mem_cons_self
  have hcontrol : (0x3f6 : BitVec 32) ∈ hardDiskPorts :=
    mem_hardDiskPorts 0x3f0 8 6 (by omega) (List.mem_cons_of_mem _ List.mem_cons_self)
  refine ⟨fun address hin => ?_, (hall 0x1f7 hstatus).2⟩
  simp only [List.mem_cons, List.not_mem_nil, or_false] at hin
  rcases hin with rfl | rfl | rfl
  · exact (hall _ hdata).1
  · exact (hall _ hstatus).1
  · exact (hall _ hcontrol).1

end Registration

/-! ## Reads of the disk through exits -/

/-- The length that a handler is given. -/
def IoSize.length (size : IoSize) : BitVec 32 := size.bytes.setWidth 32

lemma IoSize.length_mem (size : IoSize) : size.length ∈ portWidths := by
  cases size <;> decide

lemma IoSize.toNat_length (size : IoSize) : size.length.toNat = size.bytes.toNat := by
  cases size <;> rfl

lemma IoSize.positive (size : IoSize) : 0 < size.bytes.toNat := by
  cases size <;> decide

lemma IoSize.le_four (size : IoSize) : size.bytes.toNat ≤ 4 := by
  cases size <;> decide

/-- The port of a read. -/
def PioRead.address : PioRead → BitVec 32
  | data => 0x1f0
  | status _ => 0x1f7
  | alternateStatus _ => 0x3f6

/-- The length of a read. -/
def PioRead.length (width : BitVec 32) : PioRead → BitVec 32
  | data => width
  | status length | alternateStatus length => length

/-- The bytes of the data port in the value of a read. -/
def PioRead.bytes (width : BitVec 32) (value : BitVec 32) : PioRead → List (BitVec 8)
  | data => bytesOf value width.toNat
  | status _ | alternateStatus _ => []

lemma pioRead_eq (width : BitVec 32) (s : HardDisk) (r : PioRead) :
    pioRead width s r = do
      let (s, value) ← hardDiskPortIoReadHandler r.address (r.length width) s
      return (s, r.bytes width value) := by
  cases r <;> rfl

namespace DiskExit

/-- The read that each item of an exit is. -/
def read : DiskExit → PioRead
  | data _ => .data
  | status size _ => .status size.length
  | alternateStatus size _ => .alternateStatus size.length

def count : DiskExit → BitVec 32
  | data count | status _ count | alternateStatus _ count => count

/-- The reads of an exit. -/
def reads (x : DiskExit) : List PioRead := List.replicate x.count.toNat x.read

/-- The items that an exit takes from the data port. -/
def items : DiskExit → ℕ
  | data count => count.toNat
  | status _ _ | alternateStatus _ _ => 0

variable (width : IoSize) (x : DiskExit)

lemma io_direction : (x.io width).direction = gvmExitIoIn := by cases x <;> rfl

lemma io_count : (x.io width).count = x.count := by cases x <;> rfl

lemma io_address : (x.io width).port.setWidth 32 = x.read.address := by cases x <;> rfl

lemma io_length : (x.io width).size.setWidth 32 = x.read.length width.length := by cases x <;> rfl

lemma io_size : 0 < (x.io width).size.toNat ∧ (x.io width).size.toNat ≤ 4 := by
  cases x with
  | data count => exact ⟨width.positive, width.le_four⟩
  | status size count => exact ⟨size.positive, size.le_four⟩
  | alternateStatus size count => exact ⟨size.positive, size.le_four⟩

lemma count_reads : x.reads.count .data = x.items := by
  cases x with
  | data count => exact List.count_replicate_self
  | status size count =>
      exact List.count_eq_zero.mpr fun h => nomatch List.eq_of_mem_replicate h
  | alternateStatus size count =>
      exact List.count_eq_zero.mpr fun h => nomatch List.eq_of_mem_replicate h

end DiskExit

section Reads

variable {τ : Type} {other : ℕ → PortFunctions (PortMachine τ) HardDiskFault}

lemma PortMachine.readPort {m : PortMachine τ} {address : BitVec 32}
    (h : m.ports.readPortIoHandler address = .ok .hardDisk) (length : BitVec 32) :
    (portIo other).readPort address length m = do
      let (disk, value) ← hardDiskPortIoReadHandler address length m.disk
      return ({ m with disk := disk }, value) := by
  simp only [PortMachine.portIo, Svmm.portIo, h]
  rfl

lemma read_mapped {d : Dispatch ExitOwner} (h : d.DiskMapped) (x : DiskExit) :
    d.readPortIoHandler x.read.address = .ok .hardDisk := by
  apply h.read
  cases x with
  | data count => exact List.mem_cons_self
  | status size count => exact List.mem_cons_of_mem _ List.mem_cons_self
  | alternateStatus size count =>
      exact List.mem_cons_of_mem _ (List.mem_cons_of_mem _ List.mem_cons_self)

/-- The words that an exit reads are those behind the bytes of its reads. -/
lemma wordRead_run {width : IoSize} {x : DiskExit} {m : PortMachine τ} (hm : m.ports.DiskMapped)
    {n : ℕ} {words : List (BitVec 32)} {t : Session HardDisk (BitVec 8)}
    (hrun : TransitionRun.run (sessionStep (pioRead width.length))
      ⟨m.disk, words.flatMap fun v => x.read.bytes width.length v⟩ (List.replicate n x.read) =
        .ok t) :
    ∃ words', TransitionRun.run (sessionStep (wordRead (PortMachine.portIo other) (x.io width)))
        ⟨m, words⟩ (List.replicate n ()) = .ok ⟨{ m with disk := t.device }, words'⟩ ∧
      t.received = words'.flatMap fun v => x.read.bytes width.length v := by
  induction n generalizing m words with
  | zero =>
      obtain rfl := Except.ok.inj hrun
      exact ⟨words, rfl, rfl⟩
  | succ n ih =>
      obtain ⟨u, hu, hrun⟩ := run_cons_ok.mp hrun
      obtain ⟨⟨d, piece⟩, hd, hpiece⟩ := bind_eq_ok.mp hu
      obtain rfl := Except.ok.inj hpiece
      rw [pioRead_eq] at hd
      obtain ⟨⟨d', value⟩, hvalue, hd⟩ := bind_eq_ok.mp hd
      obtain ⟨rfl, rfl⟩ := Prod.mk.inj (Except.ok.inj hd)
      have hwords : (words.flatMap fun v => x.read.bytes width.length v) ++
          x.read.bytes width.length value =
            (words ++ [value]).flatMap fun v => x.read.bytes width.length v := by
        rw [List.flatMap_append, List.flatMap_singleton]
      have hm' : ({ m with disk := d' } : PortMachine τ).ports.DiskMapped := hm
      have hrun' : TransitionRun.run (sessionStep (pioRead width.length))
          ⟨({ m with disk := d' } : PortMachine τ).disk,
            (words ++ [value]).flatMap fun v => x.read.bytes width.length v⟩
          (List.replicate n x.read) = .ok t := by
        rw [← hwords]
        exact hrun
      obtain ⟨words', hwords', hreceived⟩ := ih hm' hrun'
      refine ⟨words', run_cons_ok.mpr ⟨⟨{ m with disk := d' }, words ++ [value]⟩, ?_, hwords'⟩,
        hreceived⟩
      rw [sessionStep, wordRead, x.io_address, x.io_length, PortMachine.readPort (read_mapped hm x),
        hvalue]
      rfl

/-- An exit of a transfer is the batch of its reads, as far as the guest sees it. -/
lemma exitRead_of_batch {width : IoSize} {x : DiskExit} {m : PortMachine τ} {page : PioData}
    (hm : m.ports.DiskMapped) {disk : HardDisk} {bytes : List (BitVec 8)}
    (h : batch (pioRead width.length) m.disk x.reads = .ok (disk, bytes)) :
    ∃ page', exitRead other width ⟨m, page⟩ x = .ok (⟨{ m with disk := disk }, page'⟩, bytes) := by
  obtain ⟨t, hrun, ht⟩ := bind_eq_ok.mp h
  obtain ⟨rfl, rfl⟩ := Prod.mk.inj (Except.ok.inj ht)
  have hstart : TransitionRun.run (sessionStep (pioRead width.length))
      ⟨m.disk, ([] : List (BitVec 32)).flatMap fun v => x.read.bytes width.length v⟩
      (List.replicate x.count.toNat x.read) = .ok t := hrun
  obtain ⟨words, hwords, hreceived⟩ := wordRead_run hm hstart
  have hreads : wordReads (PortMachine.portIo other) (x.io width) m =
      .ok ({ m with disk := t.device }, words) := by
    rw [wordReads, batch, x.io_count, hwords]
    rfl
  refine ⟨page.received (x.io width).size.toNat words, ?_⟩
  rw [exitRead, ioExit_in (x.io_direction width) (x.io_size width).1 (x.io_size width).2]
  simp only [hreads, ok_bind]
  have hlength := wordReads_length hreads
  have htaken : x.taken width (page.received (x.io width).size.toNat words) = t.received := by
    rw [hreceived]
    cases x with
    | data count =>
        have hitems := page.take_received words width.positive
        rw [hlength] at hitems
        exact hitems
    | status size count => exact (List.flatMap_eq_nil_iff.mpr fun _ _ => rfl).symm
    | alternateStatus size count => exact (List.flatMap_eq_nil_iff.mpr fun _ _ => rfl).symm
  rw [← htaken]
  rfl

end Reads

/-! ## The command -/

/-- The item of a byte exit, with the bytes behind it. -/
def PioData.word (p : PioData) : BitVec 32 := p.load 0

section Command

variable {τ : Type} {other : ℕ → PortFunctions (PortMachine τ) HardDiskFault}

/-- Nothing lies behind the item of a byte exit. -/
def PioData.Clear (p : PioData) : Prop := p 1 = 0 ∧ p 2 = 0 ∧ p 3 = 0

instance PioData.decidableClear (p : PioData) : Decidable p.Clear :=
  inferInstanceAs (Decidable (_ ∧ _))

lemma byteAt_word (p : PioData) {k : ℕ} (hk : k < 4) : byteAt p.word k = p k := by
  rw [PioData.word, PioData.load, byteAt_littleEndian _ (Nat.le_refl 4) hk, Nat.zero_add]

lemma byteAt_setWidth (x : BitVec 8) (k : ℕ) :
    byteAt (x.setWidth 32) k = if k = 0 then x else 0 := by
  apply BitVec.eq_of_getLsbD_eq
  intro i hi
  rw [getLsbD_byteAt, BitVec.getLsbD_setWidth]
  by_cases hk : k = 0
  · subst hk
    simp [hi]
    omega
  · have hge : 8 ≤ 8 * k + i := by omega
    rw [if_neg hk, BitVec.getLsbD_of_ge _ _ hge]
    simp

/-- A byte item is handed over as itself exactly when nothing lies behind it. -/
lemma word_eq_setWidth_iff (p : PioData) : p.word = (p 0).setWidth 32 ↔ p.Clear := by
  constructor
  · intro h
    have hbyte (k : ℕ) (hk : k < 4) (hpos : k ≠ 0) : p k = 0 := by
      rw [← byteAt_word p hk, h, byteAt_setWidth, if_neg hpos]
    exact ⟨hbyte 1 (by decide) (by decide), hbyte 2 (by decide) (by decide),
      hbyte 3 (by decide) (by decide)⟩
  · rintro ⟨h1, h2, h3⟩
    apply eq_of_byteAt
    intro k hk
    rw [byteAt_word p hk, byteAt_setWidth]
    obtain rfl | rfl | rfl | rfl : k = 0 ∨ k = 1 ∨ k = 2 ∨ k = 3 := by omega
    · rfl
    · exact h1
    · exact h2
    · exact h3

/-- No command has more than a byte. -/
lemma word_ne_of_not_clear {p : PioData} (h : ¬ p.Clear) (code : BitVec 8) :
    p.word ≠ code.setWidth 32 := by
  intro heq
  have hlow : p 0 = code := by
    rw [← byteAt_word p (by decide), heq, byteAt_setWidth, if_pos rfl]
  rw [← hlow] at heq
  exact h ((word_eq_setWidth_iff p).mp heq)

/-- What the switch does not know is aborted. -/
lemma hardDiskCommand_unknown {value : BitVec 32} (h : ∀ code : BitVec 8, value ≠ code.setWidth 32)
    (s : HardDisk) : hardDiskCommand 0 value s = .ok (hardDiskCommandAborted 0 s) := by
  have hnone (codes : List (BitVec 8)) : ¬ IsCommand value codes :=
    fun ⟨code, _, heq⟩ => h code heq
  have hrecalibrate : value ≠ 0x10 := h 0x10
  simp only [hardDiskCommand, if_neg hrecalibrate, if_neg (hnone _)]

/-- The 0x10 commands are told by the low byte. -/
lemma word_and_f0 (p : PioData) : p.word &&& 0xf0 = (p 0).setWidth 32 &&& 0xf0 := by
  apply eq_of_byteAt
  intro k hk
  rw [byteAt_and, byteAt_and, byteAt_word p hk, byteAt_setWidth]
  by_cases hzero : k = 0
  · rw [hzero, if_pos rfl]
  · have hmask : byteAt 0xf0 k = 0 := by
      rw [show (0xf0 : BitVec 32) = (0xf0 : BitVec 8).setWidth 32 from rfl, byteAt_setWidth,
        if_neg hzero]
    rw [if_neg hzero, hmask]
    exact BitVec.and_zero.trans BitVec.and_zero.symm

/-- A byte exit to the command register hands over the bytes behind its item, and leaves the page
alone. -/
lemma ioExit_command {m : PortMachine τ} (hm : m.ports.DiskMapped) (page : PioData) :
    ioExit (PortMachine.portIo other) ⟨m, page⟩ commandExit = do
      let disk ← hardDiskPortIoWriteHandler 0x1f7 page.word 1 m.disk
      return { devices := { m with disk := disk }, pioData := page } := by
  have hwrite : (PortMachine.portIo other).writePort 0x1f7 page.word 1 m = do
      let disk ← hardDiskPortIoWriteHandler 0x1f7 page.word 1 m.disk
      return { m with disk := disk } := by
    simp only [PortMachine.portIo, Svmm.portIo, hm.write]
    rfl
  have hrange : List.range commandExit.count.toNat = [0] := rfl
  have hout : ¬ commandExit.direction = gvmExitIoIn := by decide
  rw [ioExit, hrange, foldlM_singleton, ioExitItem, if_neg hout]
  show ((PortMachine.portIo other).writePort 0x1f7 page.word 1 m >>= fun devices =>
    Except.ok ({ devices := devices, pioData := page } : IoMachine (PortMachine τ))) = _
  rw [hwrite]
  cases hardDiskPortIoWriteHandler 0x1f7 page.word 1 m.disk <;> rfl

/-- A sector read that the controller would accept is started by a byte exit exactly when the three
bytes behind the item are zero; else the drive reports an aborted command. -/
theorem command_exit_starts (other : ℕ → PortFunctions (PortMachine τ) HardDiskFault)
    {m : PortMachine τ} (page : PioData) (hm : m.ports.DiskMapped)
    (h : ReadAccepted m.disk (page 0)) :
    ∃ disk, ioExit (PortMachine.portIo other) ⟨m, page⟩ commandExit =
        .ok { devices := { m with disk := disk }, pioData := page } ∧
      ((disk.controller 0).hasStatus ideStatusDevReq = true ↔ page.Clear) ∧
      ((disk.controller 0).hasStatus ideStatusError = true ∧
        (disk.controller 0).errorRegister = 4 ∨ page.Clear) := by
  rw [ioExit_command hm]
  by_cases hclear : page.Clear
  · obtain ⟨disk, n, hstart, -, hblock⟩ := h.start 1 1
    refine ⟨disk, ?_, iff_of_true hblock.requested hclear, Or.inr hclear⟩
    rw [(word_eq_setWidth_iff page).mpr hclear, hstart]
    rfl
  · have hvalue : ¬ page.word &&& 0xf0 = 0x10 := by
      rw [word_and_f0]
      exact not_recalibrate _ (List.mem_append_left _ h.known)
    set idle : HardDisk := (hardDiskLowerIrq 0 m.disk).modifyController 0 fun c =>
      c.clearStatus ideStatusError
    have hrun : hardDiskPortIoWriteHandler 0x1f7 page.word 1 m.disk =
        .ok (hardDiskCommandAborted 0 idle) := by
      rw [writeCommandRegister_of_idle h.installed h.idle hvalue,
        hardDiskCommand_unknown (word_ne_of_not_clear hclear)]
    have hcontroller : (hardDiskCommandAborted 0 idle).controller 0 =
        (idle.controller 0).aborted := by
      rw [hardDiskCommandAborted, HardDisk.controller_eq_drive, drive_raiseInterrupt,
        HardDisk.drive_modifyController]
    refine ⟨hardDiskCommandAborted 0 idle, ?_, iff_of_false ?_ hclear, Or.inl ⟨?_, ?_⟩⟩
    · rw [hrun]
      rfl
    · rw [hcontroller]
      simp [AtaController.aborted, AtaController.hasStatus, AtaController.clearStatus,
        AtaController.setStatus, AtaController.updateStatus, ideStatusDevReq,
        ideStatusCorrectedData]
    · rw [hcontroller]
      simp [AtaController.aborted, AtaController.hasStatus, AtaController.clearStatus,
        AtaController.setStatus, AtaController.updateStatus, ideStatusDevReq, ideStatusError,
        ideStatusDriveRdy, ideStatusCorrectedData]
    · rw [hcontroller]
      rfl

end Command

/-- Other devices, without effect. -/
def noDevice (_ : ℕ) : PortFunctions (PortMachine Unit) HardDiskFault :=
  { readPort := fun _ _ m => .ok (m, 0)
    writePort := fun _ _ _ m => .ok m }

/-- A page with a byte item, and what was left behind it. -/
def bytePage (item behind : BitVec 8) : PioData := fun k =>
  if k = 0 then item else if k = 1 then behind else 0

/-- The machine of the numbered disk, with the ports that are registered for it. -/
lemma exists_numberedMachine :
    ∃ m : PortMachine Unit, numberedDisk = .ok m.disk ∧ m.ports.DiskMapped ∧
      ReadAccepted m.disk ideCommandReadMultiple ∧
      m.disk.commandStart ideCommandReadMultiple = 5 ∧
        m.disk.commandCount ideCommandReadMultiple = 6 := by
  have hdisk : ends (fun s => ReadAccepted s ideCommandReadMultiple ∧
      s.commandStart ideCommandReadMultiple = 5 ∧
        s.commandCount ideCommandReadMultiple = 6) numberedDisk = true := by
    decide +kernel
  have hports : ends (fun _ => True)
      (registerHardDiskPorts (Dispatch.start 0 (GvmMemory.ofGvmInit 0 0))) = true := by
    decide +kernel
  obtain ⟨disk, hs, haccepted, hasked⟩ := exists_of_ends _ hdisk
  obtain ⟨ports, hregistered, -⟩ := exists_of_ends _ hports
  exact ⟨⟨ports, disk, ()⟩, hs, diskMapped_of_registration hregistered, haccepted, hasked⟩

/-- A byte of an earlier word behind the command is enough. -/
theorem command_exit_starts_stale :
    ∃ (m : PortMachine Unit) (disk : HardDisk), numberedDisk = .ok m.disk ∧
      ioExit (PortMachine.portIo noDevice) ⟨m, bytePage ideCommandReadMultiple 5⟩ commandExit =
        .ok { devices := { m with disk := disk }, pioData := bytePage ideCommandReadMultiple 5 } ∧
      ¬ (disk.controller 0).hasStatus ideStatusDevReq = true := by
  obtain ⟨m, hdisk, hm, haccepted, -⟩ := exists_numberedMachine
  obtain ⟨disk, hexit, hrequest, -⟩ := command_exit_starts noDevice
    (bytePage ideCommandReadMultiple 5) hm haccepted
  refine ⟨m, disk, hdisk, hexit, ?_⟩
  rw [hrequest]
  decide

/-! ## Sectors through exits -/

section Delivery

variable {τ : Type} {other : ℕ → PortFunctions (PortMachine τ) HardDiskFault}

/-- The machine has this table and this disk. -/
def Drives (ports : Dispatch ExitOwner) (disk : HardDisk) (s : IoMachine (PortMachine τ)) : Prop :=
  s.devices.ports = ports ∧ s.devices.disk = disk

lemma exitRead_of_drives {ports : Dispatch ExitOwner} (hm : ports.DiskMapped) {width : IoSize}
    {disk disk' : HardDisk} {s : IoMachine (PortMachine τ)} {x : DiskExit}
    {bytes : List (BitVec 8)} (h : Drives ports disk s)
    (hbatch : batch (pioRead width.length) disk x.reads = .ok (disk', bytes)) :
    ∃ s', exitRead other width s x = .ok (s', bytes) ∧ Drives ports disk' s' := by
  obtain ⟨hports, rfl⟩ := h
  have hmapped : s.devices.ports.DiskMapped := by rwa [hports]
  obtain ⟨page', hread⟩ := exitRead_of_batch hmapped hbatch
  exact ⟨_, hread, hports, rfl⟩

/-- However the reads of the data port, all of one width, are divided into exits, and whatever
status reads stand between them, the pages put together are the sectors asked for, in order; the
data request is there until the last of them. -/
theorem string_in_delivers (other : ℕ → PortFunctions (PortMachine τ) HardDiskFault)
    {m : PortMachine τ} (page : PioData) (width : IoSize)
    (hm : m.ports.DiskMapped) (h : ReadAccepted m.disk (page 0)) (hclear : page.Clear)
    (hspan : m.disk.commandStart (page 0) + m.disk.commandCount (page 0) ≤ commandSpan (page 0))
    (exits : List DiskExit) :
    ∃ started σ, ioExit (PortMachine.portIo other) ⟨m, page⟩ commandExit = .ok started ∧
      TransitionRun.run (sessionStep (exitRead other width)) ⟨started, []⟩ exits = .ok σ ∧
      σ.received.length = width.bytes.toNat * (exits.map DiskExit.items).sum ∧
      σ.received.take (m.disk.commandCount (page 0) * 512) =
        (m.disk.image.sectors (m.disk.commandStart (page 0))
          (m.disk.commandCount (page 0))).take σ.received.length ∧
      ((σ.device.devices.disk.controller 0).hasStatus ideStatusDevReq = true ↔
        σ.received.length < m.disk.commandCount (page 0) * 512) := by
  obtain ⟨disk, t, hstart, hrun, hlength, hreceived, hrequest⟩ :=
    pio_read_run h width.length_mem 1 (exits.map DiskExit.reads).flatten
  rw [prefixBytes_transfer hspan] at hreceived
  rw [← run_batches] at hrun
  have hcount : (exits.map DiskExit.reads).flatten.count .data =
      (exits.map DiskExit.items).sum := by
    rw [List.count_flatten, List.map_map]
    exact congrArg List.sum (List.map_congr_left fun x _ => x.count_reads)
  have hdisk : Drives m.ports disk ⟨{ m with disk := disk }, page⟩ := ⟨rfl, rfl⟩
  obtain ⟨s, hs, -, hdevice⟩ := run_related (fun _ _ _ _ _ => exitRead_of_drives hm) hdisk hrun
  refine ⟨⟨{ m with disk := disk }, page⟩, ⟨s, t.received⟩, ?_, hs, ?_, hreceived, ?_⟩
  · rw [ioExit_command hm, (word_eq_setWidth_iff page).mpr hclear, hstart]
    rfl
  · rw [hlength, hcount, width.toNat_length]
  · rw [hdevice]
    exact hrequest

end Delivery

/-- Six sectors in exits of different lengths. -/
theorem string_in_delivers_numbered :
    ∃ (m : PortMachine Unit) (started : IoMachine (PortMachine Unit))
      (σ : Session (IoMachine (PortMachine Unit)) (BitVec 8)), numberedDisk = .ok m.disk ∧
      ioExit (PortMachine.portIo noDevice) ⟨m, bytePage ideCommandReadMultiple 0⟩ commandExit =
        .ok started ∧
      TransitionRun.run (sessionStep (exitRead noDevice .word)) ⟨started, []⟩
        [.data 100, .status .byte 1, .data 1024, .data 412] = .ok σ ∧
      σ.received = m.disk.image.sectors 5 6 ∧
      ¬ (σ.device.devices.disk.controller 0).hasStatus ideStatusDevReq = true := by
  obtain ⟨m, hdisk, hm, haccepted, hstart, hcount⟩ := exists_numberedMachine
  have hspan : m.disk.commandStart ideCommandReadMultiple +
      m.disk.commandCount ideCommandReadMultiple ≤ commandSpan ideCommandReadMultiple := by
    rw [hstart, hcount]
    decide
  obtain ⟨started, σ, hstarted, hrun, hlength, hreceived, hrequest⟩ := string_in_delivers noDevice
    (bytePage ideCommandReadMultiple 0) .word hm haccepted (by decide) hspan
    [.data 100, .status .byte 1, .data 1024, .data 412]
  have hall : σ.received.length = 6 * 512 := hlength
  have hcommand : bytePage ideCommandReadMultiple 0 0 = ideCommandReadMultiple := rfl
  rw [hcommand, hcount, hstart, List.take_of_length_le (Nat.le_of_eq hall),
    List.take_of_length_le (Nat.le_of_eq ?_)] at hreceived
  · refine ⟨m, started, σ, hdisk, hstarted, hrun, hreceived, ?_⟩
    rw [hrequest, hcommand, hcount, hall]
    exact Nat.lt_irrefl _
  · rw [hall, DiskImage.sectors_eq, List.length_map, List.length_range]

end Svmm
