import Svmm.Construction.Breakpoints
import Svmm.Construction.DbgServer

/-!
# Memory requests of the kernel debugger

`windbg.c`: `DbgKdReadVirtualMemoryApi` and `DbgKdWriteVirtualMemoryApi` of `KdParsePacket`.  A
request is what the debugger sends, with the bytes that follow its `DBGKD_MANIPULATE_STATE64`; a
reply is built in a buffer of 2048 bytes and sent up to its length.
-/

namespace Svmm

/-- `KD_MAX_PACKET_SIZE`, `sizeof(KD_PACKET)`, `sizeof(DBGKD_MANIPULATE_STATE64)` and the length of
`repBuffer`. -/
def kdMaxPacketSize : ℕ := 0xfa0
def kdPacketSize : ℕ := 16
def kdManipulateSize : ℕ := 56
def kdReplySize : ℕ := 2048

inductive KdMemoryApi where
  | readVirtualMemory
  | writeVirtualMemory
  deriving DecidableEq, Repr

/-- The part of `DBGKD_READ_MEMORY64` and `DBGKD_WRITE_MEMORY64` that a debugger fills, and what
follows. -/
structure KdMemoryRequest where
  api : KdMemoryApi
  targetBaseAddress : BitVec 64
  transferCount : BitVec 32
  data : List (BitVec 8)

/-- `ActualBytesRead` or `ActualBytesWritten`, the length in the header, and the bytes that are sent
behind the `DBGKD_MANIPULATE_STATE64`. -/
structure KdMemoryReply where
  actualBytes : ℕ
  length : ℕ
  data : List (BitVec 8)
  deriving DecidableEq, Repr

/-- A copy from a null pointer, or past the end of the reply. -/
inductive KdCopyFault where
  | nullPointer
  | overrun
  deriving DecidableEq, Repr

/-- `min(TransferCount, KD_MAX_PACKET_SIZE - ..)`. -/
def kdActualBytes (transferCount : BitVec 32) : ℕ :=
  min transferCount.toNat (kdMaxPacketSize - kdManipulateSize - kdPacketSize)

/-- `memcpy` to the reply, behind its `DBGKD_MANIPULATE_STATE64`. -/
def kdCopyToReply (s : KdSystem) (host : BitVec 64) (n : ℕ) :
    Except KdCopyFault (List (BitVec 8)) :=
  if n = 0 then .ok []
  else if host = 0 then .error .nullPointer
  else if kdReplySize < kdPacketSize + kdManipulateSize + n then .error .overrun
  else .ok (s.machine.bytes host n)

/-- The two cases of `KdParsePacket`. -/
def kdParsePacket (s : KdSystem) (req : KdMemoryRequest) :
    Except KdCopyFault (KdMemoryReply × KdSystem) :=
  let actual := kdActualBytes req.transferCount
  match req.api with
  | .readVirtualMemory =>
      if req.targetBaseAddress ≠ 0xfffff780000003d8 ∧ req.targetBaseAddress ≠ 0 then do
        let data ← kdCopyToReply s (s.svmmGetHostAddress req.targetBaseAddress) actual
        return (⟨actual, kdManipulateSize + actual, data⟩, s)
      else .ok (⟨0, kdManipulateSize, []⟩, s)
  | .writeVirtualMemory => do
      -- the copy goes to the reply, which is then sent without it
      let _ ← kdCopyToReply s (s.svmmGetHostAddress req.targetBaseAddress) actual
      return (⟨actual, kdManipulateSize, []⟩, s)

end Svmm
