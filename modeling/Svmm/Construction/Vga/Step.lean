import Svmm.Construction.Vga.Memory
import Svmm.Construction.Vga.Ports
import Svmm.Construction.Vga.Text

/-!
# Runs of the VGA

The handlers that a guest reaches, and `VgaCoreUpdate`, which a timer calls, in any order.  A step
that accesses what is not there, divides by zero, or is an update that never ends, is the last one.
-/

namespace Svmm

namespace VgaCore

/-- `VgaCoreMMIOWriteHandler`. -/
def mmioWriteHandler (address : BitVec 32) :
    List (BitVec 8) → VgaCore → VgaCore × List VgaAccess
  | [], s => (s, [])
  | byte :: bytes, s =>
      let (s, first) := s.mmioWrite (address.setWidth 64) (byte.setWidth 32)
      let (s, rest) := mmioWriteHandler (address + 1) bytes s
      (s, first ++ rest)

/-- `VgaCoreMMIOReadHandler`. -/
def mmioReadHandler (address : BitVec 32) :
    ℕ → VgaCore → List (BitVec 8) × VgaCore × List VgaAccess
  | 0, s => ([], s, [])
  | length + 1, s =>
      let (byte, s, first) := s.mmioRead (address.setWidth 64)
      let (bytes, s, rest) := mmioReadHandler (address + 1) length s
      (byte :: bytes, s, first ++ rest)

/-- The count of `VgaCoreUpdate`, and what it says of the update: none, or one with or without a
toggle of the cursor. -/
def countUpdate (s : VgaCore) : VgaCore × Option Bool :=
  let s := { s with csCounter := s.csCounter - 1 }
  if !s.vgaMemUpdated ∧ 0 < s.csCounter then (s, none)
  else if s.csCounter = 0 then
    let s := { s with csCounter := 1 }
    if !s.graphicsCtrl.graphicsAlpha || s.attributeCtrl.modeCtrl.blinkIntensity then
      ({ s with csVisible := !s.csVisible }, some true)
    else if !s.vgaMemUpdated then (s, none)
    else ({ s with csVisible := false }, some false)
  else (s, some false)

/-- `VgaCoreUpdate`, for so many rows of a text: the state, what is accessed, and whether it
returns. -/
def update (fuel : ℕ) (s : VgaCore) : VgaCore × List VgaAccess × Bool :=
  match s.countUpdate with
  | (s, none) => (s, [], true)
  | (s, some csToggle) =>
      if s.graphicsCtrl.graphicsAlpha then
        let (s, accesses) := s.updateGraphics csToggle
        (s, accesses, true)
      else s.updateText fuel

end VgaCore

/-- What happens to the VGA. -/
inductive VgaEvent where
  | portWrite (address : BitVec 64) (value length : BitVec 32)
  | portRead (address : BitVec 64) (length : BitVec 32)
  | memoryWrite (address : BitVec 32) (data : List (BitVec 8))
  | memoryRead (address : BitVec 32) (length : ℕ)
  | update

/-- What an event does, for so many rows of a text: the state, what is accessed, and whether the
handler returns. -/
def VgaEvent.effect (fuel : ℕ) (s : VgaCore) : VgaEvent → VgaCore × List VgaAccess × Bool
  | .portWrite address value length =>
      let (s, accesses) := s.portIoWriteHandler address value length
      (s, accesses, true)
  | .portRead address length => ((s.portIoReadHandler address length).2, [], true)
  | .memoryWrite address data =>
      let (s, accesses) := s.mmioWriteHandler address data
      (s, accesses, true)
  | .memoryRead address length =>
      let (_, s, accesses) := s.mmioReadHandler address length
      (s, accesses, true)
  | .update => s.update fuel

/-- Why the VGA stops. -/
inductive VgaStop where
  | badAccess
  | neverReturns
  deriving DecidableEq, Repr

/-- A number of rows after which a text that has not ended does not end. -/
def textFuel : ℕ := 0x400

/-- A step. -/
def vgaStep (s : VgaCore) (event : VgaEvent) : Except VgaStop VgaCore :=
  let (t, accesses, returns) := event.effect textFuel s
  if ¬ ∀ a ∈ accesses, a.InBounds ∧ a.Defined then .error .badAccess
  else if returns then .ok t
  else .error .neverReturns

end Svmm
