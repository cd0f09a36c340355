import Svmm.Framework.Bytes
import Svmm.Framework.ByteFile

/-!
# Sparse disk images

`sparse.c`: a header, a table that gives each page of the disk a page of the file, and reads and
writes at a position that has been sought.  The file is moved through by distances from where it
is (`FILE_CURRENT`).
-/

namespace Svmm

open Bytes

/-- `SPARSE_HEADER_VERSION`. -/
def sparseHeaderVersion : BitVec 32 := 2

/-- `SPARSE_PAGE_NOT_ALLOCATED`. -/
def sparsePageNotAllocated : BitVec 32 := 0xffffffff

/-- `sizeof(standard_header_t)` and `sizeof(sparse_header_t)`. -/
def standardHeaderSize : ℕ := 72
def sparseHeaderSize : ℕ := 256

/-- What stops the program: a call of `exit`, an access beyond the page table, or a loop that goes
on. -/
inductive SparseFault where
  | exit
  | tableOverrun
  | endless
  deriving DecidableEq, Repr

abbrev SparseOutcome := Except SparseFault

/-- `sparse`.  Whether the handle may be written to is left open: `CreateFileA` asks for
`GENERIC_READ` alone. -/
structure SparseDisk where
  file : ByteFile
  writable : Bool
  pageSize : BitVec 32
  numberOfPages : BitVec 32
  pageTableFileOffet : BitVec 64
  pageTable : ℕ → BitVec 32
  totalSize : BitVec 64
  positionVirtualPage : BitVec 32
  positionPhysicalPage : BitVec 32
  positionPageOffset : BitVec 32
  totalSize_eq : totalSize = numberOfPages.setWidth 64 * pageSize.setWidth 64

/-- `SparseInitializeHardDisk`, of a file that could be opened. -/
def sparseInitializeHardDisk (writable : Bool) (file : ByteFile) : SparseOutcome SparseDisk :=
  if file.size < standardHeaderSize then .error .exit
  else
    let opened : ByteFile := { file with position := 0 }
    let header := opened.readInto sparseHeaderSize fun _ => 0
    let field (offset : ℕ) : BitVec 32 := littleEndian (fun j => header (offset + j)) 4
    let file := opened.afterRead sparseHeaderSize
    let pageSize := field 8
    let numberOfPages := field 12
    let tableSize : BitVec 64 := numberOfPages.setWidth 64 * 4
    if field 4 ≠ sparseHeaderVersion then .error .exit
    else if tableSize < numberOfPages.setWidth 64 then .error .exit
    else if pageSize % 0x200 ≠ 0 then .error .exit
    else
      let count := (tableSize.setWidth 32).toNat
      let table := file.readInto count fun _ => 0
      if BitVec.ofNat 64 (file.readCount count) ≠ tableSize then .error .exit
      else .ok
        { file := file.afterRead count
          writable := writable
          pageSize := pageSize
          numberOfPages := numberOfPages
          pageTableFileOffet := BitVec.ofNat 64 file.position
          pageTable := fun i => littleEndian (fun j => table (4 * i + j)) 4
          totalSize := numberOfPages.setWidth 64 * pageSize.setWidth 64
          positionVirtualPage := 0
          positionPhysicalPage := 0
          positionPageOffset := 0
          totalSize_eq := rfl }

/-- `SparseSeek`; its value is the physical page. -/
def sparseSeek (offset : BitVec 64) (d : SparseDisk) : SparseOutcome SparseDisk :=
  if d.totalSize ≤ offset then .error .exit
  else
    let positionVirtualPage := (offset / d.pageSize.setWidth 64).setWidth 32
    if d.numberOfPages ≤ positionVirtualPage then .error .exit
    else .ok
      { d with
        positionVirtualPage := positionVirtualPage
        positionPhysicalPage := d.pageTable positionVirtualPage.toNat
        positionPageOffset := (offset &&& (d.pageSize - 1).setWidth 64).setWidth 32 }

/-! ## Pages -/

/-- `SetFilePointerEx` from the present position. -/
def sparseMove (distance : BitVec 64) (d : SparseDisk) : SparseOutcome SparseDisk :=
  match d.file.seek d.file.position distance with
  | none => .error .exit
  | some file => .ok { d with file := file }

/-- `WriteFile`. -/
def sparseWriteFile (bytes : List (BitVec 8)) (d : SparseDisk) : SparseOutcome SparseDisk :=
  if d.writable then .ok { d with file := d.file.write bytes } else .error .exit

/-- The position in the page that the file pointer is moved by. -/
def sparseDistance (d : SparseDisk) : BitVec 64 :=
  d.positionPhysicalPage.setWidth 64 + d.positionPageOffset.setWidth 64

/-- `SparseReadPage`: the disk, and the buffer it was given. -/
def sparseReadPage (buffer : ℕ → BitVec 8) (bufferSize : BitVec 64) (d : SparseDisk) :
    SparseOutcome (SparseDisk × (ℕ → BitVec 8)) :=
  if d.positionPhysicalPage = sparsePageNotAllocated then
    .ok (d, fun j => if j < bufferSize.toNat then 0 else buffer j)
  else do
    let d ← sparseMove (sparseDistance d) d
    let count := (bufferSize.setWidth 32).toNat
    if bufferSize ≠ BitVec.ofNat 64 (d.file.readCount count) then .error .exit
    else return ({ d with file := d.file.afterRead count }, d.file.readInto count buffer)

/-- A new page at the end of the file, and its entry in the table on the disk. -/
def sparseAllocatePage (d : SparseDisk) : SparseOutcome SparseDisk := do
  let eof := d.file.size
  let d ← sparseWriteFile (List.replicate d.pageSize.toNat 0)
    { d with file := { d.file with position := eof } }
  let positionPhysicalPage := BitVec.ofNat 32 (eof / d.pageSize.toNat)
  let d ← sparseMove (d.pageTableFileOffet + 4 * d.positionVirtualPage.setWidth 64)
    { d with
      positionPhysicalPage := positionPhysicalPage
      pageTable := Function.update d.pageTable d.positionVirtualPage.toNat positionPhysicalPage }
  sparseWriteFile (bytesOf positionPhysicalPage 4) d

/-- `SparseWritePage`. -/
def sparseWritePage (buffer : ℕ → BitVec 8) (bufferSize : BitVec 64) (d : SparseDisk) :
    SparseOutcome SparseDisk := do
  let d ← if d.positionPhysicalPage = sparsePageNotAllocated then sparseAllocatePage d else .ok d
  let d ← sparseMove (sparseDistance d) d
  let count := (bufferSize.setWidth 32).toNat
  let d ← sparseWriteFile ((List.range count).map buffer) d
  if bufferSize ≠ BitVec.ofNat 64 count then .error .exit else return d

/-- What the loops take of a page: the rest of it, or the whole request. -/
def sparseRestOfPage (bufferSize : BitVec 64) (d : SparseDisk) : BitVec 64 :=
  let restOfPage := (d.pageSize - d.positionPageOffset).setWidth 64
  if bufferSize ≤ restOfPage then bufferSize else restOfPage

/-- The loops go on in the next page at the end of this one. -/
def sparseNextPage (restOfPage : BitVec 64) (d : SparseDisk) : SparseOutcome SparseDisk :=
  let positionPageOffset := d.positionPageOffset + restOfPage.setWidth 32
  if positionPageOffset = d.pageSize then
    let positionVirtualPage := d.positionVirtualPage + 1
    if d.numberOfPages ≤ positionVirtualPage then .error .tableOverrun
    else .ok
      { d with
        positionVirtualPage := positionVirtualPage
        positionPhysicalPage := d.pageTable positionVirtualPage.toNat
        positionPageOffset := 0 }
  else .ok { d with positionPageOffset := positionPageOffset }

/-! ## Reads and writes -/

/-- The loop of `SparseRead`, for at most so many turns.  Every page is read to the beginning of the
buffer. -/
def sparseReadLoop (bufferSize : BitVec 64) :
    ℕ → BitVec 64 → (ℕ → BitVec 8) → SparseDisk →
      SparseOutcome (SparseDisk × BitVec 64 × (ℕ → BitVec 8))
  | 0, i, buffer, d => if i < bufferSize then .error .endless else .ok (d, i, buffer)
  | n + 1, i, buffer, d =>
      if i < bufferSize then do
        let restOfPage := sparseRestOfPage bufferSize d
        let (d, buffer) ← sparseReadPage buffer restOfPage d
        let d ← sparseNextPage restOfPage d
        sparseReadLoop bufferSize n (i + restOfPage) buffer d
      else .ok (d, i, buffer)

/-- `SparseRead`: the disk, the value returned, and the buffer it was given. -/
def sparseRead (buffer : ℕ → BitVec 8) (bufferSize : BitVec 64) (d : SparseDisk) :
    SparseOutcome (SparseDisk × BitVec 64 × (ℕ → BitVec 8)) :=
  sparseReadLoop bufferSize bufferSize.toNat 0 buffer d

/-- The loop of `SparseWrite`, for at most so many turns. -/
def sparseWriteLoop (buffer : ℕ → BitVec 8) (bufferSize : BitVec 64) :
    ℕ → BitVec 64 → SparseDisk → SparseOutcome (SparseDisk × BitVec 64)
  | 0, i, d => if i < bufferSize then .error .endless else .ok (d, i)
  | n + 1, i, d =>
      if i < bufferSize then do
        let restOfPage := sparseRestOfPage bufferSize d
        let d ← sparseWritePage buffer restOfPage d
        let d ← sparseNextPage restOfPage d
        sparseWriteLoop buffer bufferSize n (i + restOfPage) d
      else .ok (d, i)

/-- `SparseWrite`: the disk, and the value returned. -/
def sparseWrite (buffer : ℕ → BitVec 8) (bufferSize : BitVec 64) (d : SparseDisk) :
    SparseOutcome (SparseDisk × BitVec 64) :=
  sparseWriteLoop buffer bufferSize bufferSize.toNat 0 d

/-! ## Calls -/

/-- A seek, and then a read or a write. -/
inductive SparseCall where
  | read (offset : BitVec 64) (buffer : ℕ → BitVec 8) (bufferSize : BitVec 64)
  | write (offset : BitVec 64) (buffer : ℕ → BitVec 8) (bufferSize : BitVec 64)

/-- The disk, and the value returned with the buffer. -/
def sparseCall (d : SparseDisk) :
    SparseCall → SparseOutcome (SparseDisk × BitVec 64 × (ℕ → BitVec 8))
  | .read offset buffer bufferSize => do
      let d ← sparseSeek offset d
      sparseRead buffer bufferSize d
  | .write offset buffer bufferSize => do
      let d ← sparseSeek offset d
      let (d, i) ← sparseWrite buffer bufferSize d
      return (d, i, buffer)

end Svmm
