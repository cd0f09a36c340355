import Svmm.Construction.Vga.State

/-!
# The times of the retrace

`get_crtc_params` and `calculate_retrace_timing` of `vgacore.c`, with the table `vclk` that
`VgaCoreInitialize` sets and nothing changes.  With the times the function gives the products and
the divisions that it computes, in order.
-/

namespace Svmm

/-- The times that `calculate_retrace_timing` sets. -/
structure VgaRetrace where
  htotalUsec : BitVec 32
  hbstartUsec : BitVec 32
  hbendUsec : BitVec 32
  vtotalUsec : BitVec 32
  vblankUsec : BitVec 32
  vrstartUsec : BitVec 32
  vrendUsec : BitVec 32
  deriving DecidableEq

/-- The times after `VgaCoreInitialize`. -/
def VgaRetrace.initial : VgaRetrace := ⟨31, 0, 0, 14285, 0, 0, 0⟩

/-- `bx_crtc_params_t`. -/
structure VgaCrtcParams where
  htotal : BitVec 16
  vtotal : BitVec 16
  vrstart : BitVec 16

/-- A step of the arithmetic that may go wrong: a product of 32 bits, or a division. -/
inductive VgaRetraceOp where
  | product (x y : BitVec 32)
  | divisor (n : BitVec 32)
  deriving DecidableEq

/-- The product fits, the divisor is not 0. -/
def VgaRetraceOp.Total : VgaRetraceOp → Prop
  | .product x y => x.toNat * y.toNat < 2 ^ 32
  | .divisor n => n ≠ 0

/-- `vclk`. -/
def vgaVclk (clockSelect : BitVec 2) : BitVec 32 :=
  if clockSelect = 0 then 25175000 else if clockSelect = 1 then 28322000 else 0

namespace VgaCore

/-- The clock of `get_crtc_params`. -/
def vclock (s : VgaCore) : BitVec 32 :=
  let vclock := vgaVclk s.miscOutput.clockSelect
  if s.xDotclockdiv2 then vclock >>> 1 else vclock

/-- `get_crtc_params`, but for the clock. -/
def crtcParams (s : VgaCore) : VgaCrtcParams where
  htotal := (s.crtc.reg 0x00).setWidth 16 + 5
  vtotal :=
    (s.crtc.reg 0x06).setWidth 16 + ((s.crtc.reg 0x07 &&& 0x01).setWidth 16 <<< 8) +
      ((s.crtc.reg 0x07 &&& 0x20).setWidth 16 <<< 4) + 2
  vrstart :=
    (s.crtc.reg 0x10).setWidth 16 + ((s.crtc.reg 0x07 &&& 0x04).setWidth 16 <<< 6) +
      ((s.crtc.reg 0x07 &&& 0x80).setWidth 16 <<< 2)

/-- `cwidth`. -/
def cwidth (s : VgaCore) : BitVec 32 := if s.sequencer.reg1 &&& 0x01 = 1 then 8 else 9

/-- `crtcp.htotal`, `crtcp.vtotal` and `crtcp.vrstart`. -/
def htotal (s : VgaCore) : BitVec 32 := s.crtcParams.htotal.setWidth 32
def vtotal (s : VgaCore) : BitVec 32 := s.crtcParams.vtotal.setWidth 32
def vrstart (s : VgaCore) : BitVec 32 := s.crtcParams.vrstart.setWidth 32

/-- `hfreq` and `vfreq`. -/
def hfreq (s : VgaCore) : BitVec 32 := s.vclock / (s.htotal * s.cwidth)
def vfreq (s : VgaCore) : BitVec 32 := s.hfreq / s.vtotal

/-- `hbstart` and `hbend`. -/
def hbstart (s : VgaCore) : BitVec 32 := (s.crtc.reg 0x02).setWidth 32

def hbend (s : VgaCore) : BitVec 32 :=
  let hbend := (s.crtc.reg 0x03 &&& 0x1f).setWidth 32 +
    ((s.crtc.reg 0x05 &&& 0x80).setWidth 32 >>> 2)
  s.hbstart + ((hbend - s.hbstart) &&& 0x3f)

/-- `vrend`. -/
def vrend (s : VgaCore) : BitVec 32 :=
  (((s.crtc.reg 0x11 &&& 0x0f).setWidth 32 - s.vrstart) &&& 0x0f) + s.vrstart

/-- `calculate_retrace_timing`. -/
def calculateRetraceTiming (s : VgaCore) (r : VgaRetrace) : VgaRetrace × List VgaRetraceOp :=
  if s.vclock = 0 then (r, [])
  else
    let htotalUsec := 1000000 / s.hfreq
    let vde : BitVec 32 := s.verticalDisplayEnd.setWidth 32
    ({ htotalUsec := htotalUsec
       hbstartUsec := 1000000 * s.hbstart * s.cwidth / s.vclock
       hbendUsec := 1000000 * s.hbend * s.cwidth / s.vclock
       vtotalUsec := 1000000 / s.vfreq
       vblankUsec := htotalUsec * vde
       vrstartUsec := htotalUsec * s.vrstart
       vrendUsec := htotalUsec * s.vrend },
      [.product s.htotal s.cwidth, .divisor (s.htotal * s.cwidth), .divisor s.hfreq,
        .product 1000000 s.hbstart, .product (1000000 * s.hbstart) s.cwidth, .divisor s.vclock,
        .product 1000000 s.hbend, .product (1000000 * s.hbend) s.cwidth, .divisor s.vclock,
        .divisor s.vtotal, .divisor s.vfreq,
        .product htotalUsec vde, .product htotalUsec s.vrstart, .product htotalUsec s.vrend])

end VgaCore

end Svmm
