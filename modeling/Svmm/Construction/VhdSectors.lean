import Svmm.Construction.Vhd
import Svmm.Construction.HardDisk.Transfer

/-!
# Sector reads from a virtual hard disk

The loop of `HardDiskReadSector` with the two functions of `vhd.c` that it calls.  Elsewhere the
disk image is seen through its content alone.
-/

namespace Svmm

/-- What stops a sector read: the disk controllers or the image. -/
inductive DiskFault where
  | hardDisk (fault : HardDiskFault)
  | vhd (fault : VhdFault)
  deriving DecidableEq, Repr

/-- `VhdRead(Controller.Buffer + i, HARDDISK_SECTOR_SIZE)`. -/
def AtaBuffer.readVhd (index : ℕ) (image : VhdImage) (b : AtaBuffer) :
    Except DiskFault (VhdImage × AtaBuffer) :=
  if index + hardDiskSectorSize ≤ b.size then
    match vhdRead (fun j => b.byte (index + j)) (BitVec.ofNat 64 hardDiskSectorSize) image with
    | .error fault => .error (.vhd fault)
    | .ok (image, bytes) =>
        .ok (image, { b with
          byte := fun j =>
            if index ≤ j ∧ j < index + hardDiskSectorSize then bytes (j - index) else b.byte j })
  else .error (.hardDisk .bufferOverrun)

/-- The loop of `HardDiskReadSector`, from `i` on, on the image that is open. -/
def vhdReadSectorLoop : ℕ → ℕ → AtaDrive × VhdImage → Except DiskFault (AtaDrive × VhdImage)
  | 0, _, s => .ok s
  | n + 1, i, (d, image) => do
      let logicalSector := d.calculateLogicalAddress image.cbSize
      let image := vhdSeek (logicalSector * 512) image
      let (image, buffer) ← d.controller.buffer.readVhd i image
      let d := { d with controller := { d.controller with buffer := buffer } }
      let (d, logicalSector) := d.incrementAddress logicalSector
      vhdReadSectorLoop n (i + hardDiskSectorSize) ({ d with nextLSector := logicalSector }, image)

/-- `HardDiskReadSector`, for the drive that is selected. -/
def vhdReadSectors (image : VhdImage) (d : AtaDrive) : Except DiskFault (AtaDrive × VhdImage) :=
  vhdReadSectorLoop (sectorPasses d.controller.bufferSize) 0 (d, image)

/-- One block read after the other, each for a drive of its own. -/
def vhdReadStep (image : VhdImage) (d : AtaDrive) : Except DiskFault VhdImage := do
  let (_, image) ← vhdReadSectors image d
  return image

end Svmm
