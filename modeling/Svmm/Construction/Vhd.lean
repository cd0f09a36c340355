import Svmm.Framework.Bytes
import Svmm.Framework.ByteFile

/-!
# Virtual hard disk images

`vhd.c`: the footer at the end of a `VHD` file, the header and the block allocation table of a
dynamic one, and reads of the disk in it.  `ReadFile` leaves what it does not deliver alone, so a
buffer on the stack that it fills has a content before.
-/

namespace Svmm

open Bytes

/-! ## Constants -/

/-- `VHD_SECTOR_SIZE`. -/
def vhdSectorSize : BitVec 64 := 512

/-- `VHD_FOOTER_COOKIE` and `VHD_DYNAMIC_DISK_HEADER_COOKIE`. -/
def vhdFooterCookie : List (BitVec 8) := [0x63, 0x6f, 0x6e, 0x65, 0x63, 0x74, 0x69, 0x78]
def vhdDynamicDiskHeaderCookie : List (BitVec 8) := [0x63, 0x78, 0x73, 0x70, 0x61, 0x72, 0x73, 0x65]

def vhdFooterDiskTypeFixed : BitVec 32 := 2
def vhdFooterDiskTypeDynamic : BitVec 32 := 3
def vhdFooterDiskTypeDifferencing : BitVec 32 := 4

/-- `sizeof(VHDFooter)` and `sizeof(VHDDynamicDiskHeader)`. -/
def vhdFooterSize : ℕ := 512
def vhdDynamicDiskHeaderSize : ℕ := 1024

/-! ## An image -/

/-- What stops the program: a call of `exit`, a division by zero, or an entry beyond the table. -/
inductive VhdFault where
  | exit
  | divideByZero
  | tableOverrun
  deriving DecidableEq, Repr

abbrev VhdOutcome := Except VhdFault

/-- `VHDIMAGE`. -/
structure VhdImage where
  file : ByteFile
  cbSize : BitVec 64
  pBlockAllocationTable : Option (ℕ → BitVec 32)
  cBlockAllocationTableEntries : BitVec 32
  cSectorsPerDataBlock : BitVec 32
  cDataBlockBitmapSectors : BitVec 32
  u64DataOffset : BitVec 64

/-- `SetFilePointerEx` from the beginning, and `ReadFile`. -/
def vhdReadAt (file : ByteFile) (offset : BitVec 64) (count : ℕ) (buffer : ℕ → BitVec 8) :
    VhdOutcome (ByteFile × (ℕ → BitVec 8)) :=
  match file.seek 0 offset with
  | none => .error .exit
  | some file => .ok (file.afterRead count, file.readInto count buffer)

/-! ## Opening an image -/

/-- `cDataBlockBitmapSectors`, of the sectors of a block. -/
def vhdBitmapSectors (cSectorsPerDataBlock : BitVec 32) : BitVec 32 :=
  let cbDataBlockBitmap := cSectorsPerDataBlock / 8
  if 0 < cbDataBlockBitmap % 512 then cbDataBlockBitmap / 512 + 1 else cbDataBlockBitmap / 512

/-- `VhdLoadDynamicDisk`.  The length of the table is a `DWORD` of bytes. -/
def vhdLoadDynamicDisk (uDynamicDiskHeaderOffset : BitVec 64) (stack : ℕ → BitVec 8)
    (image : VhdImage) : VhdOutcome VhdImage := do
  let (file, header) ← vhdReadAt image.file uDynamicDiskHeaderOffset vhdDynamicDiskHeaderSize stack
  let field (offset : ℕ) : BitVec 32 := bigEndian 32 (fun j => header (offset + j)) 4
  if (List.range 8).map header ≠ vhdDynamicDiskHeaderCookie then .error .exit
  else if 0xfffffffe < field 28 then .error .exit
  else
    let cSectorsPerDataBlock := field 32 / 512
    let tableOffset : BitVec 64 := bigEndian 64 (fun j => header (16 + j)) 8
    let (file, table) ← vhdReadAt file tableOffset (4 * field 28).toNat fun _ => 0
    return { image with
      file := file
      pBlockAllocationTable := some fun i => bigEndian 32 (fun j => table (4 * i + j)) 4
      cBlockAllocationTableEntries := field 28
      cSectorsPerDataBlock := cSectorsPerDataBlock
      cDataBlockBitmapSectors := vhdBitmapSectors cSectorsPerDataBlock }

/-- `VhdInitializeHardDisk`, of a file that could be opened. -/
def vhdInitializeHardDisk (file : ByteFile) (stack : ℕ → BitVec 8) : VhdOutcome VhdImage :=
  if file.size < vhdFooterSize then .error .exit
  else do
    let (file, footer) ←
      vhdReadAt file (BitVec.ofNat 64 (file.size - vhdFooterSize)) vhdFooterSize stack
    let diskType : BitVec 32 := bigEndian 32 (fun j => footer (60 + j)) 4
    let dataOffset : BitVec 64 := bigEndian 64 (fun j => footer (16 + j)) 8
    let image : VhdImage :=
      { file := file
        cbSize := BitVec.ofNat 64 file.size
        pBlockAllocationTable := none
        cBlockAllocationTableEntries := 0
        cSectorsPerDataBlock := 0
        cDataBlockBitmapSectors := 0
        u64DataOffset := 0 }
    if (List.range 8).map footer ≠ vhdFooterCookie then .error .exit
    else do
      let image ←
        if diskType = vhdFooterDiskTypeFixed then .ok image
        else if diskType = vhdFooterDiskTypeDynamic ∨ diskType = vhdFooterDiskTypeDifferencing then
          vhdLoadDynamicDisk dataOffset stack image
        else .error .exit
      return { image with
        cbSize := bigEndian 64 (fun j => footer (48 + j)) 8
        u64DataOffset := dataOffset }

/-! ## Reads -/

/-- `VhdSeek`. -/
def vhdSeek (offset : BitVec 64) (image : VhdImage) : VhdImage :=
  { image with u64DataOffset := offset }

/-- `VhdRead`: the image, and the buffer it was given. -/
def vhdRead (buffer : ℕ → BitVec 8) (bufferSize : BitVec 64) (image : VhdImage) :
    VhdOutcome (VhdImage × (ℕ → BitVec 8)) := do
  let count := (bufferSize.setWidth 32).toNat
  let sector := image.u64DataOffset / vhdSectorSize
  let (file, buffer) ←
    match image.pBlockAllocationTable with
    | none => vhdReadAt image.file image.u64DataOffset count buffer
    | some table =>
        if image.cSectorsPerDataBlock = 0 then .error .divideByZero
        else
          let cBlockAllocationTableEntry : BitVec 32 :=
            (sector / image.cSectorsPerDataBlock.setWidth 64).setWidth 32
          let cBATEntryIndex : BitVec 32 :=
            (sector % image.cSectorsPerDataBlock.setWidth 64).setWidth 32
          if image.cBlockAllocationTableEntries ≤ cBlockAllocationTableEntry then
            .error .tableOverrun
          else if table cBlockAllocationTableEntry.toNat = 0xffffffff then .error .exit
          else
            let uVhdOffset := ((table cBlockAllocationTableEntry.toNat).setWidth 64 +
              image.cDataBlockBitmapSectors.setWidth 64 + cBATEntryIndex.setWidth 64) *
              vhdSectorSize
            vhdReadAt image.file uVhdOffset count buffer
  return ({ image with file := file }, buffer)

end Svmm
