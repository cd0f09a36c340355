import Svmm.Construction.HardDisk.State

/-!
# Identification

The 256 words with which a drive answers `IDENTIFY` and `IDENTIFY PACKET DEVICE`, as the lists of
assignments to `DriveId` that `harddisk.c` makes.
-/

namespace Svmm

/-- `memset` of `DriveId`, then the assignments in order. -/
def driveIdOf (words : List (ℕ × BitVec 16)) : ℕ → BitVec 16 :=
  words.foldl (fun id word => Function.update id word.1 word.2) fun _ => 0

/-- Words of two characters each, the first in the high byte, from a word number on. -/
def stringWords (start count : ℕ) (character : ℕ → BitVec 8) : List (ℕ × BitVec 16) :=
  (List.range count).map fun i =>
    (start + i, (character (2 * i)).setWidth 16 <<< 8 ||| (character (2 * i + 1)).setWidth 16)

/-- `"BXHD00000           "`. -/
def serialNumber : ℕ → BitVec 8 := fun i =>
  [0x42, 0x58, 0x48, 0x44, 0x30, 0x30, 0x30, 0x30, 0x30].getD i 0x20

/-- `"ALPHA1  "`. -/
def firmwareRevision : ℕ → BitVec 8 := fun i =>
  [0x41, 0x4c, 0x50, 0x48, 0x41, 0x31, 0x20, 0x20].getD i 0

/-- `strlen` of `Model`. -/
def AtaDrive.modelLength (d : AtaDrive) : ℕ := (List.range 41).findIdx fun i => d.model i = 0

namespace AtaDrive

variable (d : AtaDrive)

/-- The cylinders that `IDENTIFY` reports. -/
def reportedCylinders : BitVec 16 :=
  if 16383 < d.cylinders then 16383 else d.cylinders.setWidth 16

/-- The assignments of `IDE_COMMAND_IDENTIFY`. -/
def identifyWords (ch : Fin 4) (driveSelect : BitVec 8) (diskSize : BitVec 64) :
    List (ℕ × BitVec 16) :=
  let serial := Function.update
    (Function.update serialNumber 7 (BitVec.ofNat 8 ch + 49)) 8 (driveSelect + 49)
  let chsCapacity := d.cylinders * d.heads * d.spt
  let capacity := if 0 < diskSize then diskSize / 512 else chsCapacity
  List.flatten [
    [(0, 0x0040), (1, d.reportedCylinders), (3, d.heads.setWidth 16),
      (4, (512 * d.spt).setWidth 16), (5, 512), (6, d.spt.setWidth 16)],
    stringWords 10 10 serial,
    [(20, 3), (21, 512), (22, 4), (23, 0), (24, 0), (25, 0), (26, 0)],
    stringWords 27 20 d.model,
    [(47, 16), (48, 1), (49, 0x300), (51, 0x200), (52, 0x200), (53, 0x07),
      (54, d.reportedCylinders), (55, d.heads.setWidth 16), (56, d.spt.setWidth 16),
      (57, chsCapacity.setWidth 16), (58, (chsCapacity >>> 16).setWidth 16), (59, 0x0110)],
    [(60, capacity.setWidth 16), (61, (capacity >>> 16).setWidth 16), (62, 0),
      (63, 0x07 ||| d.controller.mdmaMode.setWidth 16 <<< 8), (64, 0),
      (65, 120), (66, 120), (67, 120), (68, 120)],
    [(80, 0x7e), (81, 0), (82, 0x4000), (83, 0x7400), (84, 0x4000), (85, 0x4000), (86, 0x7400),
      (87, 0x4000), (88, 0x3f ||| d.controller.udmaMode.setWidth 16 <<< 8), (93, 0x6001),
      (100, capacity.setWidth 16), (101, (capacity >>> 16).setWidth 16),
      (102, (capacity >>> 32).setWidth 16), (103, (capacity >>> 48).setWidth 16),
      (106, 0), (117, 0), (118, 0)]]

/-- The assignments of `IDE_COMMAND_ATAPI_IDENTIFY`. -/
def atapiIdentifyWords (driveSelect : BitVec 8) : List (ℕ × BitVec 16) :=
  List.flatten [
    [(0, 0x85c0)],
    stringWords 10 10 (Function.update serialNumber 8 driveSelect),
    stringWords 23 4 firmwareRevision,
    stringWords 27 (d.modelLength / 2) d.model,
    [(47, 0), (48, 1), (49, 0x300), (50, 0), (51, 0), (52, 0), (53, 3),
      (63, 0x07 ||| d.controller.mdmaMode.setWidth 16 <<< 8), (64, 0x0001), (65, 0x00b4),
      (66, 0x00b4), (67, 0x012c), (68, 0x00b4), (71, 30), (72, 30), (80, 0x1e)]]

/-- Copy `DriveId` to the buffer. -/
def driveIdByte (j : ℕ) : BitVec 8 :=
  if j % 2 = 0 then (d.driveId (j / 2)).setWidth 8 else (d.driveId (j / 2) >>> 8).setWidth 8

/-- `DriveId` is filled in once, until `IdentifySet` is cleared. -/
def identified (words : List (ℕ × BitVec 16)) : AtaDrive :=
  if d.identifySet = 0 then { d with driveId := driveIdOf words, identifySet := 1 } else d

end AtaDrive

end Svmm
