import Svmm.Framework.RingBuffer
import Svmm.Construction.Scancodes

/-!
# Key events of the window

`win32gui.c`: the messages of the window put key events into a ring of 20 slots, less the repeats of
the modifier keys, and the main loop takes them out and hands them to the keyboard, translated from
the scan codes of Windows.  A step is a whole call, as the lock `keyCS` makes it; `WM_KILLFOCUS` and
`set_fullscreen_mode` put their events in without the lock, and are taken as whole calls too.
-/

namespace Svmm

/-! ## Codes -/

/-- `SCANCODE_BUFSIZE`. -/
def scancodeBufsize : ℕ := 20

/-- `BX_KEY_PRESSED` and `BX_KEY_RELEASED`, `MOUSE_PRESSED`, `TOOLBAR_CLICKED`, `MOUSE_MOTION` and
`FOCUS_CHANGED`. -/
def bxPressed : BitVec 32 := 0
def bxReleased : BitVec 32 := 0x80000000
def mousePressed : BitVec 32 := 0x20000000
def toolbarClicked : BitVec 32 := 0x08000000
def mouseMotion : BitVec 32 := 0x22000000
def focusChanged : BitVec 32 := 0x44000000

/-- `win32_to_bx_key`: the key codes of the normal keys and of the extended ones. -/
def win32NormalKeys : List ℕ := [
  0, 56, 47, 48, 49, 50, 51, 52, 53, 54, 55, 46, 67, 63, 69, 71,
  36, 42, 24, 37, 39, 44, 40, 28, 34, 35, 64, 66, 70, 0, 20, 38,
  23, 25, 26, 27, 29, 30, 31, 62, 58, 68, 1, 65, 45, 43, 22, 41,
  21, 33, 32, 59, 60, 61, 15, 100, 18, 57, 16, 2, 3, 4, 5, 6,
  7, 8, 9, 10, 11, 75, 74, 89, 90, 91, 83, 87, 94, 88, 82, 84,
  85, 86, 92, 93, 0, 0, 72, 12, 13]

def win32ExtendedKeys : List ℕ := [
  0, 0, 0, 0, 0, 0, 0, 0, 0, 0, 0, 0, 0, 0, 0, 0,
  0, 0, 0, 0, 0, 0, 0, 0, 0, 0, 0, 0, 99, 14, 0, 0,
  0, 115, 0, 0, 0, 0, 0, 0, 0, 0, 0, 0, 0, 0, 0, 0,
  0, 0, 113, 0, 0, 101, 0, 73, 19, 0, 0, 0, 0, 0, 0, 0,
  0, 0, 0, 0, 0, 17, 106, 78, 95, 80, 0, 97, 0, 98, 0, 79,
  96, 81, 76, 77, 0, 0, 0, 0, 0, 0, 0, 102, 103, 104, 117, 116,
  0, 0, 0, 118, 0, 111, 112, 0, 109, 108, 107, 114, 110]

/-- `win32_to_bx_key[(key & 0x100) ? 1 : 0][key & 0xff]`; what the initializers leave out is 0. -/
def win32ToBxKey (key : BitVec 32) : BitVec 32 :=
  let keys := if key &&& 0x100 ≠ 0 then win32ExtendedKeys else win32NormalKeys
  BitVec.ofNat 32 (keys.getD (key &&& 0xff).toNat 0)

/-! ## Putting events in -/

/-- The keys that have a flag: `alt_pressed_l` and so on. -/
inductive Modifier where
  | altL
  | altR
  | ctrlL
  | ctrlR
  | shiftL
  | shiftR
  deriving DecidableEq, Repr

/-- The scan code of a modifier key. -/
def Modifier.code : Modifier → BitVec 32
  | altL => 0x38
  | altR => 0x138
  | ctrlL => 0x1d
  | ctrlR => 0x11d
  | shiftL => 0x2a
  | shiftR => 0x36

/-- The `case` of a scan code. -/
def Modifier.ofKey (key : BitVec 32) : Option Modifier :=
  [altL, altR, ctrlL, ctrlR, shiftL, shiftR].find? fun m => m.code == key

/-- The queue, whatever it is kept in, and the flags of `enq_key_event`. -/
structure KeyState (ρ : Type) where
  events : ρ
  pressed : Modifier → Bool

section Enqueue

variable {ρ : Type} (store : BitVec 32 → ρ → ρ)

def KeyState.setPressed (m : Modifier) (b : Bool) (s : KeyState ρ) : KeyState ρ :=
  { s with pressed := Function.update s.pressed m b }

/-- The end of `enq_key_event`. -/
def KeyState.put (key pressRelease : BitVec 32) (s : KeyState ρ) : KeyState ρ :=
  { s with events := store (key ||| pressRelease) s.events }

/-- `enq_key_event`, of what is neither a press nor a change of the focus. -/
def enqReleased (key pressRelease : BitVec 32) (s : KeyState ρ) : KeyState ρ :=
  match Modifier.ofKey key with
  | some .ctrlL =>
      if s.pressed .ctrlL then (s.setPressed .ctrlL false).put store key pressRelease else s
  | some m => (s.setPressed m false).put store key pressRelease
  | none => s.put store key pressRelease

/-- `enq_key_event`, of a press. -/
def enqPressed (key : BitVec 32) (s : KeyState ρ) : KeyState ρ :=
  match Modifier.ofKey key with
  | some m =>
      if s.pressed m then s
      else
        -- AltGr comes with a press of the left control key, which is taken back
        let s := if m = .altR ∧ s.pressed .ctrlL then
          enqReleased store Modifier.ctrlL.code bxReleased s else s
        (s.setPressed m true).put store key bxPressed
  | none => s.put store key bxPressed

/-- `enq_key_event`. -/
def enqKeyEvent (key pressRelease : BitVec 32) (s : KeyState ρ) : KeyState ρ :=
  if pressRelease = focusChanged then
    { s with pressed := fun _ => false }.put store key pressRelease
  else if pressRelease = bxPressed then enqPressed store key s
  else enqReleased store key pressRelease s

end Enqueue

/-! ## Taking events out -/

/-- What the events reach: the keyboard, and the calls of `win32_toolbar_click`. -/
structure KeyTarget where
  ps2 : Ps2
  clicks : List (BitVec 16)

/-- The body of the loop of `handle_events`, with the event. -/
def handleKeyEvent (t : KeyTarget) (key : BitVec 32) : KeyTarget :=
  if key = mouseMotion then t
  else if key = focusChanged then t
  else if key &&& mousePressed ≠ 0 then t
  else if key &&& toolbarClicked ≠ 0 then { t with clicks := t.clicks ++ [key.setWidth 16] }
  else
    let keyEvent := win32ToBxKey key
    let keyEvent := if key &&& bxReleased ≠ 0 then keyEvent ||| bxReleased else keyEvent
    { t with ps2 := t.ps2.generateScancode keyEvent }

/-- The window, with `keyevents`, `head` and `tail`. -/
structure KeyWindow where
  keys : KeyState (RingBuffer (BitVec 32) scancodeBufsize)
  target : KeyTarget

/-- The loop of `handle_events`, for a number of events. -/
def handleKeyEvents : ℕ → KeyWindow → KeyWindow
  | 0, s => s
  | n + 1, s =>
      match s.keys.events.pop with
      | none => s
      | some (key, ring) =>
          handleKeyEvents n
            { keys := { s.keys with events := ring }, target := handleKeyEvent s.target key }

/-! ## Messages -/

/-- What the window is told: a key with its code of nine bits, the buttons of the mouse, an entry of
the toolbar, the loss of the focus; and the turn of the main loop. -/
inductive WindowMessage where
  | key (code : BitVec 9) (released : Bool)
  | mouse (buttons : BitVec 3)
  | toolbar (entry : BitVec 16)
  | killFocus
  | handleEvents

/-- The two arguments of `enq_key_event`. -/
def WindowMessage.event : WindowMessage → Option (BitVec 32 × BitVec 32)
  | key code released => some (code.setWidth 32, if released then bxReleased else bxPressed)
  | mouse buttons => some (buttons.setWidth 32, mousePressed)
  | toolbar entry => some (entry.setWidth 32, toolbarClicked)
  | killFocus => some (0, focusChanged)
  | handleEvents => none

/-- One message. -/
def windowStep (s : KeyWindow) (m : WindowMessage) : KeyWindow :=
  match m.event with
  | some (key, pressRelease) =>
      { s with keys := enqKeyEvent (fun x r => r.push x) key pressRelease s.keys }
  | none => handleKeyEvents scancodeBufsize s

end Svmm
