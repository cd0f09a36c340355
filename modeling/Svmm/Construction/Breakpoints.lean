import Mathlib.Data.List.FinRange
import Svmm.Construction.Paging

/-!
# The breakpoints of the kernel debugger

`windbg.c`: the requests that set and restore a software breakpoint, with the table of breakpoints
that they share.  Handles count from 1.  `SvmmGetHostAddress` goes through the guest's page tables
when paging is enabled.
-/

namespace Svmm

/-- `BREAKPOINT_TABLE_SIZE`. -/
def breakpointTableSize : ℕ := 32

/-- Bits of `KD_BREAKPOINT_IN_USE`, `KD_BREAKPOINT_NEEDS_WRITE`, `KD_BREAKPOINT_SUSPENDED` and
`KD_BREAKPOINT_NEEDS_REPLACE`. -/
def kdBreakpointInUse : ℕ := 0
def kdBreakpointNeedsWrite : ℕ := 1
def kdBreakpointSuspended : ℕ := 2
def kdBreakpointNeedsReplace : ℕ := 3

/-- Bit of `CR0_PG`. -/
def cr0Pg : ℕ := 31

/-- The fields of `BREAKPOINT_ENTRY` that the requests read. -/
structure BreakpointEntry where
  address : BitVec 64
  content : BitVec 64
  flags : BitVec 32
  deriving DecidableEq

/-- `KdBreakpointTable`, with the guest. -/
structure KdSystem where
  table : Fin breakpointTableSize → BreakpointEntry
  cr0 : BitVec 64
  machine : Machine

/-- What stops the program: an access through `NULL`, or to an entry beyond the table. -/
inductive KdFault where
  | nullPointer
  | tableOverrun
  deriving DecidableEq, Repr

abbrev KdOutcome := Except KdFault

/-- What a reply says of a breakpoint. -/
structure KdReply where
  returnStatus : BitVec 32
  breakPointHandle : BitVec 32

namespace KdSystem

variable (s : KdSystem)

/-- `SvmmGetHostAddress`. -/
def svmmGetHostAddress (address : BitVec 64) : BitVec 64 :=
  svmmGetHostPageFromGPA s.machine
    (if Word.has s.cr0 cr0Pg then svmmGetGpaFromGva s.machine address else address)

/-- The byte at a guest address. -/
def byteAt (address : BitVec 64) : BitVec 8 := s.machine.byte (s.svmmGetHostAddress address)

/-- Store a byte at a guest address. -/
def storeByte (address : BitVec 64) (value : BitVec 8) : KdSystem :=
  { s with machine := { s.machine with
    byte := Function.update s.machine.byte (s.svmmGetHostAddress address) value } }

def setEntry (i : Fin breakpointTableSize) (entry : BreakpointEntry) : KdSystem :=
  { s with table := Function.update s.table i entry }

/-- The first entry that is in use for an address. -/
def existing? (address : BitVec 64) : Option (Fin breakpointTableSize) :=
  (List.finRange breakpointTableSize).find? fun i =>
    decide (address = (s.table i).address) && Word.has (s.table i).flags kdBreakpointInUse

/-- The first entry without address and flags. -/
def free? : Option (Fin breakpointTableSize) :=
  (List.finRange breakpointTableSize).find? fun i =>
    decide ((s.table i).address = 0) && decide ((s.table i).flags = 0)

end KdSystem

/-- The handle of an entry. -/
def breakPointHandle (i : Fin breakpointTableSize) : BitVec 32 := BitVec.ofNat 32 (i + 1)

/-- `STATUS_UNSUCCESSFUL`. -/
def kdUnsuccessful : BitVec 32 := 0xc0000001

/-- `DbgKdWriteBreakPointApi`. -/
def kdWriteBreakPoint (address : BitVec 64) (s : KdSystem) : KdOutcome (KdSystem × KdReply) :=
  match s.existing? address with
  | some i =>
      let entry := s.table i
      .ok (s.setEntry i { entry with flags := Word.clear entry.flags kdBreakpointNeedsWrite },
        ⟨kdUnsuccessful, 0⟩)
  | none =>
      match s.free? with
      | none => .ok (s, ⟨kdUnsuccessful, 0⟩)
      | some i =>
          if address = 0 then .ok (s, ⟨kdUnsuccessful, 0⟩)
          else if s.svmmGetHostAddress address = 0 then .error .nullPointer
          else
            let entry := ⟨address, (s.byteAt address).setWidth 64, Word.set 0 kdBreakpointInUse⟩
            .ok ((s.setEntry i entry).storeByte address 0xcc, ⟨0, breakPointHandle i⟩)

/-- `DbgKdRestoreBreakPointApi`, for an entry of the table. -/
def kdRestoreEntry (handle : BitVec 32) (i : Fin breakpointTableSize) (s : KdSystem) :
    KdOutcome (KdSystem × KdReply) :=
  let entry := s.table i
  if entry.flags = 0 ∨ entry.address = 0 then .ok (s, ⟨kdUnsuccessful, handle⟩)
  else if Word.has entry.flags kdBreakpointSuspended then
    if Word.has entry.flags kdBreakpointNeedsReplace then .ok (s, ⟨0, handle⟩)
    else .ok (s.setEntry i { entry with flags := 0 }, ⟨0, handle⟩)
  else if Word.has entry.flags kdBreakpointNeedsWrite then
    .ok (s.setEntry i { entry with flags := Word.clear entry.flags kdBreakpointNeedsWrite },
      ⟨0, handle⟩)
  else if s.svmmGetHostAddress entry.address = 0 then .error .nullPointer
  else
    .ok ((s.storeByte entry.address (entry.content.setWidth 8)).setEntry i
      { entry with flags := 0 },
      ⟨0, handle⟩)

/-- `DbgKdRestoreBreakPointApi`.  The entry of handle 0 is the one before the table. -/
def kdRestoreBreakPoint (handle : BitVec 32) (s : KdSystem) : KdOutcome (KdSystem × KdReply) :=
  if h : handle.toNat < breakpointTableSize then
    if handle = 0 then .error .tableOverrun
    else kdRestoreEntry handle ⟨handle.toNat - 1, Nat.lt_of_le_of_lt (Nat.sub_le _ _) h⟩ s
  else .ok (s, ⟨kdUnsuccessful, handle⟩)

/-- A request. -/
inductive KdRequest where
  | writeBreakPoint (address : BitVec 64)
  | restoreBreakPoint (handle : BitVec 32)

def kdRequest (s : KdSystem) : KdRequest → KdOutcome (KdSystem × KdReply)
  | .writeBreakPoint address => kdWriteBreakPoint address s
  | .restoreBreakPoint handle => kdRestoreBreakPoint handle s

/-- `WindbgHandshake` clears the table. -/
def kdHandshake (cr0 : BitVec 64) (machine : Machine) : KdSystem :=
  ⟨fun _ => ⟨0, 0, 0⟩, cr0, machine⟩

end Svmm
