import Svmm.Construction.Paging
import Svmm.Framework.Bytes

/-!
# The debug server

`SvmmDbgServer.c`: `SvmmDbgRecv`, `SvmmDbgSend` and `SvmmDbgLoop`.  First the packets that answer a
memory read, of which only the data is kept: a packet without data says that the request failed.
Then one turn of the loop, from the bytes that `recv` returns in it, with the copies that the turn
makes.  A copy is told by its length and by the room that there is; one that does not fit ends the
turn.
-/

namespace Svmm

open Bytes

/-- `DBG_MAX_PACKET_DATA_SIZE`. -/
def dbgMaxPacketDataSize : ℕ := 2048

/-- Bytes of the process from a pointer on. -/
def Machine.bytes (m : Machine) (host : BitVec 64) (n : ℕ) : List (BitVec 8) :=
  (List.range n).map fun j => m.byte (host + BitVec.ofNat 64 j)

/-- The bytes that the turn at `i` sends or receives. -/
def dbgChunk (size : BitVec 64) (i : ℕ) : ℕ := min dbgMaxPacketDataSize (size.toNat - i)

/-- The loop of a read request, which compares `i` with the size as a signed number. -/
def dbgReadLoop (m : Machine) (addr size : BitVec 64) (i : ℕ) : List (List (BitVec 8)) :=
  if (i : ℤ) < size.toInt then
    let hostGpa := svmmGetHostPageFromGPA m (addr + BitVec.ofNat 64 i)
    if hostGpa = 0 then [[]]
    else m.bytes hostGpa (dbgChunk size i) :: dbgReadLoop m addr size (i + dbgMaxPacketDataSize)
  else []
termination_by (size.toInt - i).toNat
decreasing_by
  unfold dbgMaxPacketDataSize
  omega

/-- `DBG_TYPE_READ_MEMORY`: the packets of the answer. -/
def dbgReadMemory (m : Machine) (addr size : BitVec 64) : List (List (BitVec 8)) :=
  if m.memoryEnd ≤ svmmGetHostPageFromGPA m addr + size then [[]]
  else dbgReadLoop m addr size 0

/-! ## Copies -/

/-- `sizeof(DBG_PACKET_HEADER)`, which is packed, and the length of the receive buffer. -/
def dbgHeaderSize : ℕ := 18
def dbgBufferSize : ℕ := 4096

/-- `sizeof(struct Registers)`. -/
def registersSize : ℕ := 1648

/-- `sizeof(struct kvm_msrs)` with `nmsrs` entries. -/
def kvmMsrsSize (nmsrs : BitVec 32) : ℕ := 8 + 16 * nmsrs.toNat

/-- What a copy is for. -/
inductive DbgCopy where
  /-- `recv` into a packet. -/
  | receive
  /-- The bytes that `ComputeChecksum` reads. -/
  | checksum
  /-- From a packet to the buffer of the caller. -/
  | store
  /-- A call of `SvmmDbgSend`, and its copy into a packet. -/
  | send
  /-- The entries that `DeviceIoControl` reads and writes, or that are printed. -/
  | msrs
  deriving DecidableEq, Repr

/-- How a turn ends early: by `exit`, in a `recv` that has nothing to return, or by a copy that does
not fit. -/
inductive DbgStop where
  | exit
  | waits
  | overrun (copy : DbgCopy) (length room : ℕ)
  deriving DecidableEq, Repr

/-- A copy, which must fit. -/
def dbgCopy (copy : DbgCopy) (length room : ℕ) : Except DbgStop Unit :=
  if length ≤ room then .ok () else .error (.overrun copy length room)

/-! ## Packets -/

/-- An answer of `recv`: `SOCKET_ERROR`, or bytes. -/
inductive RecvAnswer where
  | error
  | bytes (bytes : List (BitVec 8))
  deriving DecidableEq, Repr

/-- `SvmmPacketId`, and what `recv` will return. -/
structure DbgState where
  packetId : BitVec 32
  answers : List RecvAnswer
  deriving DecidableEq, Repr

/-- A received packet: its header, and its data with the zeros that `memset` left behind it. -/
structure DbgPacket where
  magic : BitVec 32
  type : BitVec 32
  id : BitVec 32
  checksum : BitVec 32
  size : BitVec 32
  data : ℕ → BitVec 8

/-- Bytes at the start of a buffer of zeros. -/
def zeroPadded (bytes : List (BitVec 8)) : ℕ → BitVec 8 := fun x => bytes.getD x 0

/-- The fields of a header, packed. -/
def dbgPacket (header data : List (BitVec 8)) : DbgPacket :=
  let byte := zeroPadded header
  { magic := littleEndian byte 4
    type := littleEndian (fun j => byte (4 + j)) 2
    id := littleEndian (fun j => byte (6 + j)) 4
    checksum := littleEndian (fun j => byte (10 + j)) 4
    size := littleEndian (fun j => byte (14 + j)) 4
    data := zeroPadded data }

/-- A `ULONG` and a `ULONG64` of the data. -/
def DbgPacket.ulong (p : DbgPacket) (offset : ℕ) : BitVec 32 :=
  littleEndian (fun j => p.data (offset + j)) 4

def DbgPacket.ulong64 (p : DbgPacket) (offset : ℕ) : BitVec 64 :=
  p.ulong (offset + 4) ++ p.ulong offset

/-- `DBG_MAGIC`. -/
def dbgMagic : BitVec 32 := 0x11223344

/-- `ComputeChecksum`. -/
def computeChecksum (data : ℕ → BitVec 8) (size : ℕ) : BitVec 32 :=
  (List.range size).foldl (fun checksum i => checksum + (data i).setWidth 32) 0

namespace DbgState

/-- `recv`, which returns at most what it is asked for; `none` is `SOCKET_ERROR`. -/
def recv (size : ℕ) (s : DbgState) : Except DbgStop (Option (List (BitVec 8)) × DbgState) :=
  match s.answers with
  | [] => .error .waits
  | .error :: answers => .ok (none, { s with answers := answers })
  | .bytes bytes :: answers => .ok (some (bytes.take size), { s with answers := answers })

/-- A header with the right magic and the next number. -/
def recvHeader (s : DbgState) : Except DbgStop (List (BitVec 8) × DbgState) := do
  let (header, s) ← s.recv dbgHeaderSize
  match header with
  | none => .error .exit
  | some header =>
      if header.length ≠ dbgHeaderSize then .error .exit
      else if (dbgPacket header []).magic ≠ dbgMagic then .error .exit
      else if s.packetId + 1 ≠ (dbgPacket header []).id then .error .exit
      else .ok (header, { s with packetId := s.packetId + 1 })

/-- `SvmmDbgRecv` with a buffer of the caller. -/
def svmmDbgRecv (type : BitVec 32) (size : ℕ) (s : DbgState) : Except DbgStop DbgState := do
  let (header, s) ← s.recvHeader
  let pkt := dbgPacket header []
  if type ≠ pkt.type then .error .exit
  else if size ≠ 0 ∧ pkt.size = 0 then .ok s
  else do
    let (data, s) ← if size ≠ 0 then do
        dbgCopy .receive size dbgMaxPacketDataSize
        s.recv size
      else .ok (some [], s)
    -- what is not received stays zero
    let pkt := dbgPacket header (data.getD [])
    dbgCopy .checksum pkt.size.toNat dbgMaxPacketDataSize
    if pkt.checksum ≠ computeChecksum pkt.data pkt.size.toNat then .error .exit
    else do
      dbgCopy .store pkt.size.toNat size
      return s

/-- `SvmmDbgSend`. -/
def svmmDbgSend (size : ℕ) (s : DbgState) : Except DbgStop DbgState := do
  dbgCopy .send size dbgMaxPacketDataSize
  return { s with packetId := s.packetId + 1 }

end DbgState

open DbgState

/-! ## Requests -/

/-- The cases of the switch of `SvmmDbgLoop`. -/
inductive DbgType where
  | readRegisters
  | writeRegisters
  | readMemory
  | writeMemory
  | initReq
  | stepInto
  | stepOver
  | run
  | print
  | readMsrRegisters
  | writeMsrRegisters
  | stateChangeReq
  deriving DecidableEq, Repr

def dbgTypeWriteMemory : BitVec 32 := 3

/-- The case of a type, by the numbers of `SvmmDbgServer.h`. -/
def dbgType (type : BitVec 32) : Option DbgType :=
  [(0, DbgType.readRegisters), (1, .writeRegisters), (2, .readMemory),
    (dbgTypeWriteMemory, .writeMemory), (6, .initReq), (8, .stepInto), (9, .stepOver), (10, .run),
    (12, .print), (13, .readMsrRegisters),
    (14, .writeMsrRegisters), (15, .stateChangeReq)].lookup type

/-- The loop of a write request. -/
def dbgWriteLoop (m : Machine) (addr size : BitVec 64) (i : ℕ) (s : DbgState) :
    Except DbgStop DbgState :=
  if (i : ℤ) < size.toInt then
    if svmmGetHostPageFromGPA m (addr + BitVec.ofNat 64 i) = 0 then s.svmmDbgSend 0
    else do
      let s ← s.svmmDbgRecv dbgTypeWriteMemory (dbgChunk size i)
      dbgWriteLoop m addr size (i + dbgMaxPacketDataSize) s
  else .ok s
termination_by (size.toInt - i).toNat
decreasing_by
  unfold dbgMaxPacketDataSize
  omega

/-- `DBG_TYPE_WRITE_MEMORY`. -/
def dbgWriteMemory (m : Machine) (addr size : BitVec 64) (s : DbgState) : Except DbgStop DbgState :=
  if m.memoryEnd ≤ svmmGetHostPageFromGPA m addr + size then s.svmmDbgSend 0
  else dbgWriteLoop m addr size 0 s

/-- A call of `DeviceIoControl` for a list of MSRs in the receive buffer, whose length is a
`DWORD`. -/
def dbgDeviceIoControl (nmsrs : BitVec 32) : Except DbgStop Unit :=
  dbgCopy .msrs (dbgHeaderSize + kvmMsrsSize nmsrs % 2 ^ 32) dbgBufferSize

/-- What is there when a turn of the loop starts: the machine, and the count of MSRs that the driver
leaves in the buffer. -/
structure DbgTurn where
  machine : Machine
  nmsrs : BitVec 32 → BitVec 32
  answers : List RecvAnswer

/-- The receive part of a turn. -/
def dbgReceive (s : DbgState) : Except DbgStop (DbgPacket × DbgState) := do
  let (header, s) ← s.recvHeader
  let pkt := dbgPacket header []
  if pkt.size ≠ 0 then do
    let dataToRead := min (dbgBufferSize - dbgHeaderSize) pkt.size.toNat
    dbgCopy .receive dataToRead (dbgBufferSize - dbgHeaderSize)
    let (data, s) ← s.recv dataToRead
    let pkt := dbgPacket header (data.getD [])
    -- an error counts as bytes received
    if data ≠ some [] then do
      dbgCopy .checksum dataToRead (dbgBufferSize - dbgHeaderSize)
      if pkt.checksum ≠ computeChecksum pkt.data dataToRead then .error .exit
      else return (pkt, s)
    else return (pkt, s)
  else return (pkt, s)

/-- The switch. -/
def DbgTurn.handle (t : DbgTurn) (pkt : DbgPacket) (s : DbgState) : Except DbgStop DbgState :=
  match dbgType pkt.type with
  | none => .ok s
  | some .readRegisters => s.svmmDbgSend registersSize
  | some .writeRegisters => if pkt.size.toNat ≠ registersSize then .error .exit else .ok s
  | some .readMemory =>
      if pkt.size ≠ 16 then .error .exit
      else (dbgReadMemory t.machine (pkt.ulong64 0) (pkt.ulong64 8)).foldlM
        (fun s data => s.svmmDbgSend data.length) s
  | some .writeMemory =>
      if pkt.size ≠ 16 then .error .exit
      else dbgWriteMemory t.machine (pkt.ulong64 0) (pkt.ulong64 8) s
  | some .initReq =>
      if pkt.size ≠ 4 then .error .exit
      else if pkt.ulong 0 ≠ 1 then .error .exit
      else s.svmmDbgSend 12
  | some .stepInto | some .stepOver | some .run | some .print => .ok s
  | some .readMsrRegisters => do
      dbgDeviceIoControl (pkt.ulong 0)
      dbgCopy .msrs (dbgHeaderSize + kvmMsrsSize (t.nmsrs (pkt.ulong 0))) dbgBufferSize
      s.svmmDbgSend (kvmMsrsSize (t.nmsrs (pkt.ulong 0)))
  | some .writeMsrRegisters => do
      dbgDeviceIoControl (pkt.ulong 0)
      s.svmmDbgSend (kvmMsrsSize (t.nmsrs (pkt.ulong 0)))
  | some .stateChangeReq => s.svmmDbgSend 0

/-- A turn of `SvmmDbgLoop`, from the number of the last packet to that of the next. -/
def dbgTurn (packetId : BitVec 32) (t : DbgTurn) : Except DbgStop (BitVec 32) := do
  let (pkt, s) ← dbgReceive ⟨packetId, t.answers⟩
  let s ← t.handle pkt s
  return s.packetId

end Svmm
