import Svmm.Framework.Run
import Svmm.Construction.Breakpoints
import Svmm.Properties.HostMemory

/-!
# Breakpoints, as the debugger sees them

The debugger keeps the breakpoints whose requests were answered with success, each with the byte
that was there before.  An entry of the table gives up its flags when its breakpoint is restored,
but not its address, so that it is never taken again; and the last handle is one that a restore
refuses.
-/

namespace Svmm

open TransitionRun

/-! ## The debugger -/

/-- A breakpoint that the debugger holds. -/
structure KdBreak where
  handle : BitVec 32
  address : BitVec 64
  original : BitVec 8
  deriving DecidableEq

/-- The guest with the debugger: the breakpoints that it holds, and every handle that it was
given. -/
structure KdSession where
  system : KdSystem
  outstanding : List KdBreak
  issued : List (BitVec 32)

namespace KdSession

variable (s : KdSession)

/-- The debugger takes a reply. -/
def take (r : KdRequest) (answer : KdSystem × KdReply) : KdSession :=
  if answer.2.returnStatus ≠ 0 then { s with system := answer.1 }
  else match r with
  | .writeBreakPoint address =>
      let handle := answer.2.breakPointHandle
      { system := answer.1
        outstanding := ⟨handle, address, s.system.byteAt address⟩ :: s.outstanding
        issued := handle :: s.issued }
  | .restoreBreakPoint handle =>
      { s with
        system := answer.1
        outstanding := s.outstanding.filter fun b => b.handle ≠ handle }

lemma system_take (r : KdRequest) (answer : KdSystem × KdReply) :
    (s.take r answer).system = answer.1 := by
  unfold take
  split
  · rfl
  · cases r <;> rfl

/-- A request and its reply. -/
def step (r : KdRequest) : KdOutcome KdSession := do
  let answer ← kdRequest s.system r
  return s.take r answer

/-- The requests that must succeed: a breakpoint at an address other than zero that has none, when
the table is not full, and a restore of one that is held. -/
def Proper : KdRequest → Prop
  | .writeBreakPoint address => address ≠ 0 ∧ (∀ b ∈ s.outstanding, b.address ≠ address) ∧
      s.outstanding.length < breakpointTableSize
  | .restoreBreakPoint handle => ∃ b ∈ s.outstanding, b.handle = handle

/-- The handle of the request was never given out. -/
def Unissued : KdRequest → Prop
  | .writeBreakPoint _ => False
  | .restoreBreakPoint handle => handle ∉ s.issued

/-- What the reply to a request must be, and its effect: a proper one succeeds, and a restore puts
the byte back; a handle that was never given out is refused, and nothing changes. -/
def Answered (r : KdRequest) (answer : KdSystem × KdReply) : Prop :=
  (s.Proper r → answer.2.returnStatus = 0 ∧
    ∀ handle, r = .restoreBreakPoint handle → ∀ b ∈ s.outstanding, b.handle = handle →
      answer.1.byteAt b.address = b.original) ∧
  (s.Unissued r → answer.2.returnStatus ≠ 0 ∧ answer.1 = s.system)

/-- Every breakpoint that is held is in place, and the request is answered as it must be. -/
def Transparent (r : KdRequest) : Prop :=
  (∀ b ∈ s.outstanding, s.system.byteAt b.address = 0xcc) ∧
    ∃ answer, kdRequest s.system r = .ok answer ∧ s.Answered r answer

/-- Storing a byte at an address leaves the places of an address and of the breakpoints held as they
are: it does not change the page tables on the way to them. -/
def Undisturbed (address : BitVec 64) (value : BitVec 8) : Prop :=
  ∀ a ∈ address :: s.outstanding.map KdBreak.address,
    (s.system.storeByte address value).svmmGetHostAddress a = s.system.svmmGetHostAddress a

instance (r : KdRequest) : Decidable (s.Proper r) := by
  unfold Proper
  cases r <;> infer_instance

/-- A breakpoint is set while an entry was never taken, at an address that the guest has, not at the
byte of one that is held; a restore is of a handle other than 0 and than the last. -/
def Serviceable : KdRequest → Prop
  | .writeBreakPoint address => s.Proper (.writeBreakPoint address) → s.system.free?.isSome ∧
      s.system.svmmGetHostAddress address ≠ 0 ∧
      (∀ b ∈ s.outstanding,
        s.system.svmmGetHostAddress b.address ≠ s.system.svmmGetHostAddress address) ∧
      s.Undisturbed address 0xcc
  | .restoreBreakPoint handle => handle ≠ 0 ∧ ∀ b ∈ s.outstanding, b.handle = handle →
      handle.toNat < breakpointTableSize ∧ s.Undisturbed b.address b.original

/-- The part of the condition that is not about page tables. -/
def ServiceableUnpaged : KdRequest → Prop
  | .writeBreakPoint address => s.Proper (.writeBreakPoint address) → s.system.free?.isSome ∧
      s.system.svmmGetHostAddress address ≠ 0 ∧
      ∀ b ∈ s.outstanding,
        s.system.svmmGetHostAddress b.address ≠ s.system.svmmGetHostAddress address
  | .restoreBreakPoint handle => handle ≠ 0 ∧ ∀ b ∈ s.outstanding, b.handle = handle →
      handle.toNat < breakpointTableSize

instance (r : KdRequest) : Decidable (s.ServiceableUnpaged r) := by
  unfold ServiceableUnpaged
  cases r <;> infer_instance

/-- The lookup does not read memory. -/
lemma host_of_bytes (m : Machine) (f : BitVec 64 → BitVec 8) (gpa : BitVec 64) :
    svmmGetHostPageFromGPA { m with byte := f } gpa = svmmGetHostPageFromGPA m gpa := by
  obtain ⟨cr3, cr4, efer, smbase, ram, ramSize, memoryEnd, pmConf5b, byte⟩ := m
  unfold svmmGetHostPageFromGPA
  rfl

section Unpaged

variable {s t : KdSession}

/-- Without paging, no address goes through memory. -/
lemma undisturbed_of_unpaged (h : Word.has s.system.cr0 cr0Pg = false)
    (address : BitVec 64) (value : BitVec 8) : s.Undisturbed address value := by
  intro a _
  have h' : Word.has (s.system.storeByte address value).cr0 cr0Pg = false := h
  simp only [KdSystem.svmmGetHostAddress, h, h', Bool.false_eq_true, if_false]
  exact host_of_bytes s.system.machine _ a

lemma serviceable_of_unpaged {r : KdRequest} (h : Word.has s.system.cr0 cr0Pg = false)
    (hr : s.ServiceableUnpaged r) : s.Serviceable r := by
  cases r with
  | writeBreakPoint address =>
      intro hproper
      obtain ⟨hfree, hhost, hapart⟩ := hr hproper
      exact ⟨hfree, hhost, hapart, undisturbed_of_unpaged h address 0xcc⟩
  | restoreBreakPoint handle =>
      exact ⟨hr.1, fun b hb hhandle => ⟨hr.2 b hb hhandle, undisturbed_of_unpaged h _ _⟩⟩

/-- No request writes to `CR0`. -/
lemma cr0_kdRequest {r : KdRequest} {k : KdSystem} {answer : KdSystem × KdReply}
    (h : kdRequest k r = .ok answer) : answer.1.cr0 = k.cr0 := by
  cases r with
  | writeBreakPoint address =>
      simp only [kdRequest, kdWriteBreakPoint] at h
      split at h
      · cases h
        rfl
      · split at h
        · cases h
          rfl
        · split_ifs at h <;> cases h <;> rfl
  | restoreBreakPoint handle =>
      simp only [kdRequest, kdRestoreBreakPoint, kdRestoreEntry] at h
      split_ifs at h <;> cases h <;> rfl

lemma cr0_step {r : KdRequest} (h : s.step r = .ok t) : t.system.cr0 = s.system.cr0 := by
  obtain ⟨answer, hanswer, ht⟩ := bind_eq_ok.mp h
  rw [← Except.ok.inj ht, system_take]
  exact cr0_kdRequest hanswer

lemma meets_serviceable_of_unpaged {requests : List KdRequest}
    (h : Word.has s.system.cr0 cr0Pg = false) (hmeets : Meets step ServiceableUnpaged s requests) :
    Meets step Serviceable s requests :=
  Meets.of_invariant (I := fun s => Word.has s.system.cr0 cr0Pg = false)
    (fun _ _ _ hs _ hstep => by rwa [cr0_step hstep])
    (fun _ _ hs hr => serviceable_of_unpaged hs hr) h hmeets

end Unpaged

end KdSession

/-- The debugger after the handshake. -/
def kdSession (cr0 : BitVec 64) (machine : Machine) : KdSession := ⟨kdHandshake cr0 machine, [], []⟩

/-! ## The table -/

lemma kdUnsuccessful_ne_zero : kdUnsuccessful ≠ 0 := by decide

lemma breakPointHandle_toNat (i : Fin breakpointTableSize) :
    (breakPointHandle i).toNat = i.val + 1 := by
  have := i.isLt
  unfold breakpointTableSize at this
  rw [breakPointHandle, BitVec.toNat_ofNat]
  omega

lemma breakPointHandle_inj {i j : Fin breakpointTableSize}
    (h : breakPointHandle i = breakPointHandle j) : i = j := by
  have hnat := congrArg BitVec.toNat h
  rw [breakPointHandle_toNat, breakPointHandle_toNat] at hnat
  exact Fin.ext (by omega)

/-- A restore of a handle other than the last is one of its entry. -/
lemma kdRestoreBreakPoint_handle {i : Fin breakpointTableSize} (s : KdSystem)
    (h : i.val + 1 < breakpointTableSize) :
    kdRestoreBreakPoint (breakPointHandle i) s = kdRestoreEntry (breakPointHandle i) i s := by
  have hnat := breakPointHandle_toNat i
  have hzero : breakPointHandle i ≠ 0 := by
    intro h
    rw [h] at hnat
    exact absurd hnat.symm (Nat.succ_ne_zero _)
  have hindex : ∀ h, (⟨(breakPointHandle i).toNat - 1, h⟩ : Fin breakpointTableSize) = i := by
    intro h
    apply Fin.ext
    simp only [hnat]
    rfl
  unfold kdRestoreBreakPoint
  rw [dif_pos (by rwa [hnat]), if_neg hzero, hindex]

/-- The handles that a restore looks up. -/
lemma exists_handle {handle : BitVec 32} (hzero : handle ≠ 0)
    (h : handle.toNat < breakpointTableSize) :
    ∃ i : Fin breakpointTableSize, i.val + 1 < breakpointTableSize ∧
      breakPointHandle i = handle := by
  have hpos : handle.toNat ≠ 0 := fun hnat => hzero (BitVec.eq_of_toNat_eq hnat)
  refine ⟨⟨handle.toNat - 1, Nat.lt_of_le_of_lt (Nat.sub_le _ _) h⟩, ?_, ?_⟩
  · simp only
    omega
  · apply BitVec.eq_of_toNat_eq
    rw [breakPointHandle_toNat]
    exact Nat.sub_add_cancel (Nat.pos_of_ne_zero hpos)

/-- A restore of an entry that is in use and nothing else. -/
lemma kdRestoreEntry_in_use {s : KdSystem} {i : Fin breakpointTableSize} {handle : BitVec 32}
    (hflags : (s.table i).flags = 1) (haddress : (s.table i).address ≠ 0)
    (hhost : s.svmmGetHostAddress (s.table i).address ≠ 0) :
    kdRestoreEntry handle i s =
      .ok ((s.storeByte (s.table i).address ((s.table i).content.setWidth 8)).setEntry i
        { s.table i with flags := 0 }, ⟨0, handle⟩) := by
  have hset : ¬ ((s.table i).flags = 0 ∨ (s.table i).address = 0) := by
    rw [hflags]
    exact fun h => h.elim (by decide) haddress
  have hsuspended : ¬ Word.has (s.table i).flags kdBreakpointSuspended := by
    rw [hflags]
    decide
  have hwrite : ¬ Word.has (s.table i).flags kdBreakpointNeedsWrite := by
    rw [hflags]
    decide
  unfold kdRestoreEntry
  rw [if_neg hset, if_neg hsuspended, if_neg hwrite, if_neg hhost]

/-- The breakpoint of an entry. -/
def BreakpointEntry.held (e : BreakpointEntry) (i : Fin breakpointTableSize) : KdBreak :=
  ⟨breakPointHandle i, e.address, e.content.setWidth 8⟩

namespace KdSystem

variable {s : KdSystem} {address : BitVec 64} {i : Fin breakpointTableSize}

lemma existing?_eq_some (h : s.existing? address = some i) :
    address = (s.table i).address ∧ Word.has (s.table i).flags kdBreakpointInUse := by
  have hfound := List.find?_some h
  rw [Bool.and_eq_true, decide_eq_true_eq] at hfound
  exact hfound

lemma existing?_eq_none (h : s.existing? address = none) (i : Fin breakpointTableSize) :
    ¬ (address = (s.table i).address ∧ Word.has (s.table i).flags kdBreakpointInUse) := by
  have hnone := List.find?_eq_none.mp h i (List.mem_finRange i)
  rwa [Bool.and_eq_true, decide_eq_true_eq] at hnone

lemma free?_eq_some (h : s.free? = some i) : (s.table i).address = 0 ∧ (s.table i).flags = 0 := by
  have hfound := List.find?_some h
  rw [Bool.and_eq_true, decide_eq_true_eq, decide_eq_true_eq] at hfound
  exact hfound

@[simp] lemma host_setEntry (e : BreakpointEntry) (a : BitVec 64) :
    (s.setEntry i e).svmmGetHostAddress a = s.svmmGetHostAddress a := rfl

@[simp] lemma byteAt_setEntry (e : BreakpointEntry) (a : BitVec 64) :
    (s.setEntry i e).byteAt a = s.byteAt a := rfl

/-- What a byte becomes when another is stored whose place stays where it is. -/
lemma byteAt_storeByte {a : BitVec 64} {value : BitVec 8}
    (h : (s.storeByte address value).svmmGetHostAddress a = s.svmmGetHostAddress a) :
    (s.storeByte address value).byteAt a =
      if s.svmmGetHostAddress a = s.svmmGetHostAddress address then value else s.byteAt a := by
  unfold byteAt
  rw [h]
  change Function.update s.machine.byte (s.svmmGetHostAddress address) value
    (s.svmmGetHostAddress a) = _
  rw [Function.update_apply]

end KdSystem

/-! ## What the requests keep -/

/-- The debugger's list and the table agree, and each breakpoint that is held has its byte for
itself. -/
structure KdSession.Kept (s : KdSession) : Prop where
  entry : ∀ i, (s.system.table i).flags = 0 ∨
    (s.system.table i).flags = 1 ∧ (s.system.table i).address ≠ 0
  mem : ∀ b, b ∈ s.outstanding ↔
    ∃ i, (s.system.table i).flags = 1 ∧ b = (s.system.table i).held i
  issued : ∀ i, breakPointHandle i ∈ s.issued ↔ (s.system.table i).address ≠ 0
  nodup : (s.outstanding.map KdBreak.handle).Nodup
  mapped : ∀ b ∈ s.outstanding, s.system.svmmGetHostAddress b.address ≠ 0
  place : ∀ b ∈ s.outstanding, s.system.byteAt b.address = 0xcc
  apart : ∀ b ∈ s.outstanding, ∀ b' ∈ s.outstanding,
    s.system.svmmGetHostAddress b.address = s.system.svmmGetHostAddress b'.address → b = b'

namespace KdSession.Kept

variable {s : KdSession} (hk : s.Kept)
include hk

lemma in_use_iff (i : Fin breakpointTableSize) :
    Word.has (s.system.table i).flags kdBreakpointInUse ↔ (s.system.table i).flags = 1 := by
  rcases hk.entry i with h | ⟨h, -⟩ <;> rw [h] <;> decide

lemma address_ne_zero {i : Fin breakpointTableSize} (h : (s.system.table i).flags = 1) :
    (s.system.table i).address ≠ 0 := by
  rcases hk.entry i with hzero | ⟨-, haddress⟩
  · rw [hzero] at h
    exact absurd h (by decide)
  · exact haddress

/-- The table has no free entry when as many breakpoints are held as it has entries. -/
lemma length_lt {i : Fin breakpointTableSize} (h : s.system.free? = some i) :
    s.outstanding.length < breakpointTableSize := by
  have hfree := KdSystem.free?_eq_some h
  have hfresh : breakPointHandle i ∉ s.outstanding.map KdBreak.handle := by
    intro hmem
    obtain ⟨b, hb, hhandle⟩ := List.mem_map.mp hmem
    obtain ⟨j, hj, rfl⟩ := (hk.mem b).mp hb
    obtain rfl := breakPointHandle_inj hhandle
    rw [hfree.2] at hj
    exact absurd hj (by decide)
  have hsubset : breakPointHandle i :: s.outstanding.map KdBreak.handle ⊆
      (List.finRange breakpointTableSize).map breakPointHandle := by
    intro handle hmem
    rcases List.mem_cons.mp hmem with rfl | hmem
    · exact List.mem_map_of_mem (List.mem_finRange i)
    · obtain ⟨b, hb, rfl⟩ := List.mem_map.mp hmem
      obtain ⟨j, -, rfl⟩ := (hk.mem b).mp hb
      exact List.mem_map_of_mem (List.mem_finRange j)
  have hle := ((List.nodup_cons.mpr ⟨hfresh, hk.nodup⟩).subperm hsubset).length_le
  simpa [Nat.succ_le_iff] using hle

/-- A write that need not succeed changes nothing. -/
lemma write_refused {address : BitVec 64} (h : ¬ s.Proper (.writeBreakPoint address)) :
    kdWriteBreakPoint address s.system = .ok (s.system, ⟨kdUnsuccessful, 0⟩) := by
  unfold kdWriteBreakPoint
  cases hexisting : s.system.existing? address with
  | some i =>
      obtain ⟨-, huse⟩ := KdSystem.existing?_eq_some hexisting
      have hclear : Word.clear (s.system.table i).flags kdBreakpointNeedsWrite =
          (s.system.table i).flags := by
        rw [(hk.in_use_iff i).mp huse]
        decide
      have hsame : s.system.setEntry i (s.system.table i) = s.system :=
        congrArg (fun f => { s.system with table := f }) (Function.update_eq_self _ _)
      simp only [hclear]
      rw [hsame]
  | none =>
      cases hfree : s.system.free? with
      | none => rfl
      | some i =>
          simp only
          by_cases hzero : address = 0
          · rw [if_pos hzero]
          · refine absurd ⟨hzero, fun b hb hb' => ?_, hk.length_lt hfree⟩ h
            obtain ⟨j, hj, rfl⟩ := (hk.mem b).mp hb
            exact KdSystem.existing?_eq_none hexisting j ⟨hb'.symm, (hk.in_use_iff j).mpr hj⟩

/-- A write that must succeed takes a free entry. -/
lemma write_accepted {address : BitVec 64} (h : s.Proper (.writeBreakPoint address))
    (hfree : s.system.free?.isSome) (hhost : s.system.svmmGetHostAddress address ≠ 0) :
    ∃ i, (s.system.table i).address = 0 ∧ (s.system.table i).flags = 0 ∧
      kdWriteBreakPoint address s.system =
        .ok ((s.system.setEntry i ⟨address, (s.system.byteAt address).setWidth 64, 1⟩).storeByte
          address 0xcc, ⟨0, breakPointHandle i⟩) := by
  obtain ⟨i, hi⟩ := Option.isSome_iff_exists.mp hfree
  obtain ⟨haddress, hflags⟩ := KdSystem.free?_eq_some hi
  refine ⟨i, haddress, hflags, ?_⟩
  have hexisting : s.system.existing? address = none := by
    cases hsome : s.system.existing? address with
    | none => rfl
    | some j =>
        obtain ⟨haddr, huse⟩ := KdSystem.existing?_eq_some hsome
        have hmem := (hk.mem _).mpr ⟨j, (hk.in_use_iff j).mp huse, rfl⟩
        exact absurd haddr.symm (h.2.1 _ hmem)
  have hset : Word.set (0 : BitVec 32) kdBreakpointInUse = 1 := by decide
  unfold kdWriteBreakPoint
  simp only [hexisting, hi]
  rw [if_neg h.1, if_neg hhost, hset]

/-- A restore of a handle that is not held is refused and changes nothing. -/
lemma restore_refused {handle : BitVec 32} (hzero : handle ≠ 0)
    (h : ∀ b ∈ s.outstanding, b.handle ≠ handle) :
    kdRestoreBreakPoint handle s.system = .ok (s.system, ⟨kdUnsuccessful, handle⟩) := by
  by_cases hlt : handle.toNat < breakpointTableSize
  · obtain ⟨i, hi, rfl⟩ := exists_handle hzero hlt
    have hflags : (s.system.table i).flags = 0 := by
      rcases hk.entry i with hflags | ⟨hflags, -⟩
      · exact hflags
      · exact absurd rfl (h _ ((hk.mem _).mpr ⟨i, hflags, rfl⟩))
    rw [kdRestoreBreakPoint_handle _ hi]
    exact if_pos (Or.inl hflags)
  · unfold kdRestoreBreakPoint
    rw [dif_neg hlt]

/-- A restore of a breakpoint that is held puts its byte back. -/
lemma restore_accepted {i : Fin breakpointTableSize} (hflags : (s.system.table i).flags = 1)
    (hlast : i.val + 1 < breakpointTableSize) :
    kdRestoreBreakPoint (breakPointHandle i) s.system =
      .ok ((s.system.storeByte (s.system.table i).address
        ((s.system.table i).content.setWidth 8)).setEntry i { s.system.table i with flags := 0 },
        ⟨0, breakPointHandle i⟩) := by
  have hhost : s.system.svmmGetHostAddress (s.system.table i).address ≠ 0 :=
    hk.mapped ((s.system.table i).held i) ((hk.mem _).mpr ⟨i, hflags, rfl⟩)
  exact (kdRestoreBreakPoint_handle s.system hlast).trans
    (kdRestoreEntry_in_use hflags (hk.address_ne_zero hflags) hhost)

omit hk in
lemma ne_of_in_use {i j : Fin breakpointTableSize} (hi : (s.system.table i).flags = 0)
    (hj : (s.system.table j).flags = 1) : j ≠ i := by
  rintro rfl
  rw [hi] at hj
  exact absurd hj (by decide)

/-- Two breakpoints of one handle are one. -/
lemma eq_of_handle {b b' : KdBreak} (hb : b ∈ s.outstanding) (hb' : b' ∈ s.outstanding)
    (h : b.handle = b'.handle) : b = b' := by
  obtain ⟨i, -, rfl⟩ := (hk.mem b).mp hb
  obtain ⟨j, -, rfl⟩ := (hk.mem b').mp hb'
  obtain rfl := breakPointHandle_inj h
  rfl

/-- A breakpoint that is set in a free entry joins those that are held. -/
lemma set {address : BitVec 64} {i : Fin breakpointTableSize}
    (hi : (s.system.table i).flags = 0) (hzero : address ≠ 0)
    (hhost : s.system.svmmGetHostAddress address ≠ 0)
    (hapart : ∀ b ∈ s.outstanding,
      s.system.svmmGetHostAddress b.address ≠ s.system.svmmGetHostAddress address)
    (hstay : s.Undisturbed address 0xcc) :
    KdSession.Kept
      { system := (s.system.setEntry i
          ⟨address, (s.system.byteAt address).setWidth 64, 1⟩).storeByte address 0xcc
        outstanding := ⟨breakPointHandle i, address, s.system.byteAt address⟩ :: s.outstanding
        issued := breakPointHandle i :: s.issued } := by
  set entry : BreakpointEntry := ⟨address, (s.system.byteAt address).setWidth 64, 1⟩ with hentry
  set t := (s.system.setEntry i entry).storeByte address 0xcc with ht
  have htable : ∀ j, t.table j = if j = i then entry else s.system.table j := fun j =>
    Function.update_apply s.system.table i entry j
  have hheld : entry.held i = ⟨breakPointHandle i, address, s.system.byteAt address⟩ := by
    simp [hentry, BreakpointEntry.held]
  have hnew : t.svmmGetHostAddress address = s.system.svmmGetHostAddress address :=
    hstay address List.mem_cons_self
  have hold : ∀ b ∈ s.outstanding, t.svmmGetHostAddress b.address =
      s.system.svmmGetHostAddress b.address := fun b hb =>
    hstay b.address (List.mem_cons_of_mem _ (List.mem_map_of_mem hb))
  constructor
  · intro j
    simp only [htable]
    split_ifs with hj
    · exact Or.inr ⟨rfl, hzero⟩
    · exact hk.entry j
  · intro b
    rw [List.mem_cons, hk.mem b]
    constructor
    · rintro (rfl | ⟨j, hj, rfl⟩)
      · exact ⟨i, by rw [htable, if_pos rfl], by rw [htable, if_pos rfl, hheld]⟩
      · have hne := ne_of_in_use hi hj
        exact ⟨j, by rw [htable, if_neg hne, hj], by rw [htable, if_neg hne]⟩
    · rintro ⟨j, hj, rfl⟩
      simp only [htable] at hj ⊢
      split_ifs at hj ⊢ with hji
      · exact Or.inl (by rw [hji, hheld])
      · exact Or.inr ⟨j, hj, rfl⟩
  · intro j
    simp only [htable, List.mem_cons]
    split_ifs with hj
    · exact iff_of_true (Or.inl (by rw [hj])) hzero
    · rw [hk.issued j]
      exact or_iff_right fun h => hj (breakPointHandle_inj h)
  · rw [List.map_cons, List.nodup_cons]
    refine ⟨fun hmem => ?_, hk.nodup⟩
    obtain ⟨b, hb, hhandle⟩ := List.mem_map.mp hmem
    obtain ⟨j, hj, rfl⟩ := (hk.mem b).mp hb
    exact ne_of_in_use hi hj (breakPointHandle_inj hhandle)
  · intro b hb
    rcases List.mem_cons.mp hb with rfl | hb
    · rwa [hnew]
    · rw [hold b hb]
      exact hk.mapped b hb
  · intro b hb
    rcases List.mem_cons.mp hb with rfl | hb
    · rw [ht, KdSystem.byteAt_storeByte hnew, if_pos rfl]
    · rw [ht, KdSystem.byteAt_storeByte (hold b hb)]
      exact (if_neg (hapart b hb)).trans (hk.place b hb)
  · intro b hb b' hb' h
    rcases List.mem_cons.mp hb with rfl | hb <;> rcases List.mem_cons.mp hb' with rfl | hb'
    · rfl
    · rw [hnew, hold b' hb'] at h
      exact absurd h.symm (hapart b' hb')
    · rw [hnew, hold b hb] at h
      exact absurd h (hapart b hb)
    · rw [hold b hb, hold b' hb'] at h
      exact hk.apart b hb b' hb' h

/-- A breakpoint that is restored leaves those that are held. -/
lemma restored {i : Fin breakpointTableSize} (hi : (s.system.table i).flags = 1)
    (hstay : s.Undisturbed (s.system.table i).address ((s.system.table i).content.setWidth 8)) :
    KdSession.Kept
      { s with
        system := (s.system.storeByte (s.system.table i).address
          ((s.system.table i).content.setWidth 8)).setEntry i { s.system.table i with flags := 0 }
        outstanding := s.outstanding.filter fun b => b.handle ≠ breakPointHandle i } := by
  have hi' := (hk.mem _).mpr ⟨i, hi, rfl⟩
  set t := (s.system.storeByte (s.system.table i).address
    ((s.system.table i).content.setWidth 8)).setEntry i { s.system.table i with flags := 0 } with ht
  have htable : ∀ j, t.table j =
      if j = i then { s.system.table i with flags := 0 } else s.system.table j := fun j =>
    Function.update_apply s.system.table i { s.system.table i with flags := 0 } j
  have hold : ∀ b ∈ s.outstanding, t.svmmGetHostAddress b.address =
      s.system.svmmGetHostAddress b.address := fun b hb =>
    hstay b.address (List.mem_cons_of_mem _ (List.mem_map_of_mem hb))
  have hmem : ∀ b, b ∈ s.outstanding.filter (fun b => b.handle ≠ breakPointHandle i) ↔
      b ∈ s.outstanding ∧ b.handle ≠ breakPointHandle i := by
    intro b
    rw [List.mem_filter, decide_eq_true_eq]
  constructor
  · intro j
    simp only [htable]
    split_ifs with hj
    · exact Or.inl rfl
    · exact hk.entry j
  · intro b
    rw [hmem, hk.mem b]
    constructor
    · rintro ⟨⟨j, hj, rfl⟩, hne⟩
      have hji : j ≠ i := by
        rintro rfl
        exact hne rfl
      exact ⟨j, by rw [htable, if_neg hji, hj], by rw [htable, if_neg hji]⟩
    · rintro ⟨j, hj, rfl⟩
      simp only [htable] at hj ⊢
      split_ifs at hj ⊢ with hji
      · cases hj
      · exact ⟨⟨j, hj, rfl⟩, fun h => hji (breakPointHandle_inj h)⟩
  · intro j
    simp only [htable]
    rw [hk.issued j]
    split_ifs with hj
    · rw [hj]
    · rfl
  · exact hk.nodup.sublist (List.Sublist.map _ List.filter_sublist)
  · intro b hb
    have hb' := ((hmem b).mp hb).1
    rw [hold b hb']
    exact hk.mapped b hb'
  · intro b hb
    obtain ⟨hb', hne⟩ := (hmem b).mp hb
    rw [ht, KdSystem.byteAt_setEntry, KdSystem.byteAt_storeByte (hold b hb'), if_neg]
    · exact hk.place b hb'
    · intro hsame
      have hsame' := hk.apart b hb' _ hi' hsame
      exact hne (by rw [hsame']; rfl)
  · intro b hb b' hb' h
    have hb := ((hmem b).mp hb).1
    have hb' := ((hmem b').mp hb').1
    rw [hold b hb, hold b' hb'] at h
    exact hk.apart b hb b' hb' h

omit hk in
/-- A request that is refused leaves the session as it was. -/
lemma take_refused (r : KdRequest) (handle : BitVec 32) :
    s.take r (s.system, ⟨kdUnsuccessful, handle⟩) = s :=
  if_pos kdUnsuccessful_ne_zero

/-- A request that meets its condition is answered as it must be, and keeps the session. -/
lemma step {r : KdRequest} (hr : s.Serviceable r) :
    ∃ answer, kdRequest s.system r = .ok answer ∧ s.Answered r answer ∧ (s.take r answer).Kept := by
  cases r with
  | writeBreakPoint address =>
      by_cases hproper : s.Proper (.writeBreakPoint address)
      · obtain ⟨hfree, hhost, hapart, hstay⟩ := hr hproper
        obtain ⟨i, -, hflags, hanswer⟩ := hk.write_accepted hproper hfree hhost
        refine ⟨_, hanswer, ⟨fun _ => ⟨rfl, fun handle h => nomatch h⟩, fun h => h.elim⟩, ?_⟩
        exact hk.set hflags hproper.1 hhost hapart hstay
      · refine ⟨_, hk.write_refused hproper, ⟨fun h => absurd h hproper, fun h => h.elim⟩, ?_⟩
        rwa [take_refused]
  | restoreBreakPoint handle =>
      by_cases hheld : ∃ b ∈ s.outstanding, b.handle = handle
      · obtain ⟨b, hb, rfl⟩ := hheld
        obtain ⟨hlast, hstay⟩ := hr.2 b hb rfl
        obtain ⟨i, hflags, rfl⟩ := (hk.mem b).mp hb
        have hlt : i.val + 1 < breakpointTableSize := by
          rw [← breakPointHandle_toNat]
          exact hlast
        refine ⟨_, hk.restore_accepted hflags hlt, ⟨fun _ => ⟨rfl, ?_⟩, fun h => ?_⟩, ?_⟩
        · intro handle hsame b' hb' hhandle
          obtain rfl := KdRequest.restoreBreakPoint.inj hsame
          obtain rfl := hk.eq_of_handle hb' hb hhandle
          rw [KdSystem.byteAt_setEntry]
          exact (KdSystem.byteAt_storeByte (hstay _ List.mem_cons_self)).trans (if_pos rfl)
        · exact absurd ((hk.issued i).mpr (hk.address_ne_zero hflags)) h
        · exact hk.restored hflags hstay
      · have hnone : ∀ b ∈ s.outstanding, b.handle ≠ handle := fun b hb h => hheld ⟨b, hb, h⟩
        refine ⟨_, hk.restore_refused hr.1 hnone, ⟨fun h => absurd h hheld, fun _ => ?_⟩, ?_⟩
        · exact ⟨kdUnsuccessful_ne_zero, rfl⟩
        · rwa [take_refused]

end KdSession.Kept

lemma kept_kdSession (cr0 : BitVec 64) (machine : Machine) : (kdSession cr0 machine).Kept where
  entry _ := Or.inl rfl
  mem b := by
    refine iff_of_false List.not_mem_nil ?_
    rintro ⟨i, hi, -⟩
    cases hi
  issued i := iff_of_false List.not_mem_nil (not_not.mpr rfl)
  nodup := List.nodup_nil
  mapped b hb := absurd hb List.not_mem_nil
  place b hb := absurd hb List.not_mem_nil
  apart b hb := absurd hb List.not_mem_nil

/-! ## Runs -/

/-- From the handshake on, every request of a run whose requests meet the condition is answered as
it must be, and every breakpoint that is held is in place throughout. -/
theorem breakpoints_transparent (cr0 : BitVec 64) (machine : Machine) (requests : List KdRequest)
    (h : Meets KdSession.step KdSession.Serviceable (kdSession cr0 machine) requests) :
    Meets KdSession.step KdSession.Transparent (kdSession cr0 machine) requests ∧
      ∀ t, run KdSession.step (kdSession cr0 machine) requests = .ok t →
        ∀ b ∈ t.outstanding, t.system.byteAt b.address = 0xcc := by
  have hstep (s : KdSession) (r : KdRequest) (t : KdSession) (hs : s.Kept) (hr : s.Serviceable r)
      (ht : s.step r = .ok t) : t.Kept := by
    obtain ⟨answer, hanswer, -, hkept⟩ := hs.step hr
    rw [KdSession.step, hanswer] at ht
    obtain rfl := Except.ok.inj ht
    exact hkept
  refine ⟨Meets.of_invariant hstep (fun s r hs hr => ?_) (kept_kdSession cr0 machine) h,
    fun t ht => ?_⟩
  · obtain ⟨answer, hanswer, hright, -⟩ := hs.step hr
    exact ⟨hs.place, answer, hanswer, hright⟩
  · exact (run_invariant hstep (kept_kdSession cr0 machine) h ht).place

/-- Three breakpoints, of which the second is restored, set again under a new handle, and restored
again with the first; a handle that was not given out comes last. -/
theorem breakpoints_transparent_several :
    Meets KdSession.step KdSession.Transparent (kdSession 0 (bootMachine 0x10000))
      [.writeBreakPoint 0x1000, .writeBreakPoint 0x2000, .writeBreakPoint 0x1001,
        .restoreBreakPoint 2, .writeBreakPoint 0x2000, .restoreBreakPoint 4,
        .restoreBreakPoint 1, .restoreBreakPoint 9] :=
  (breakpoints_transparent 0 (bootMachine 0x10000) _
    (KdSession.meets_serviceable_of_unpaged (by decide) (by decide +kernel))).1

/-- A breakpoint that is set and restored as often as the table has entries. -/
def kdCycles (count : ℕ) : List KdRequest :=
  (List.range count).flatMap fun i =>
    [.writeBreakPoint 0x1000, .restoreBreakPoint (BitVec.ofNat 32 (i + 1))]

/-- After 32 breakpoints the next is refused, though all but one of them were restored. -/
theorem breakpoint_table_leaks :
    ¬ Meets KdSession.step KdSession.Transparent (kdSession 0 (bootMachine 0x10000))
      (kdCycles 31 ++ [.writeBreakPoint 0x1000] ++ [.writeBreakPoint 0x2000]) := by
  have hends : ends (fun t : KdSession => t.Proper (.writeBreakPoint 0x2000) ∧
      ends (fun answer : KdSystem × KdReply => answer.2.returnStatus ≠ 0)
        (kdRequest t.system (.writeBreakPoint 0x2000)) = true)
      (run KdSession.step (kdSession 0 (bootMachine 0x10000))
        (kdCycles 31 ++ [.writeBreakPoint 0x1000])) = true := by
    decide +kernel
  obtain ⟨t, ht, hproper, hrefused⟩ := exists_of_ends _ hends
  intro hmeets
  obtain ⟨-, answer, hanswer, hright⟩ := hmeets.after ht
  obtain ⟨answer', hanswer', hstatus⟩ := exists_of_ends _ hrefused
  obtain rfl := Except.ok.inj (hanswer.symm.trans hanswer')
  exact hstatus (hright.1 hproper).1

end Svmm
