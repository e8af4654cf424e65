import K2soHead.Library.ExtRat
import Mathlib.Logic.Function.Basic

/-!
# `servo_controller.cpp`

Thin wrapper around the PCA9685.  `written` records each `setAngle`: the channel, the
angle after the clamp, and the pulse it was converted to.  The 16 ranges start out as
the defaults, which is what the lazy `ensureDefaultRanges` amounts to.
-/

namespace K2soHead

def kDefaultMinUs : UInt16 := 1000
def kDefaultMaxUs : UInt16 := 2000
def kMaxChannels : ℕ := 16

/-- One `writeMicroseconds`; the pulse is `none` where the conversion is undefined. -/
structure ServoWrite where
  channel : ℕ
  angle : ExtRat
  pulseUs : Option UInt16
  deriving DecidableEq

/-- The statics of `servo_controller.cpp`, and what was written, oldest first. -/
structure ServoController where
  sMinPulseUs : ℕ → UInt16 := fun _ => kDefaultMinUs
  sMaxPulseUs : ℕ → UInt16 := fun _ => kDefaultMaxUs
  written : List ServoWrite := []

namespace ServoController

/-- The two tests at the head of `setAngle`. -/
def clampAngle (angleDegrees : ExtRat) : ExtRat :=
  -- both tests are false of NaN, which passes through
  if angleDegrees.lt (.fin 0) then .fin 0
  else if (ExtRat.fin 180).lt angleDegrees then .fin 180
  else angleDegrees

/-- `minUs + (uint16_t)((maxUs - minUs) * (angle / 180.0f))` -/
def pulse (minUs maxUs : UInt16) (angle : ExtRat) : Option UInt16 :=
  let span : ExtRat := .fin ((maxUs.toNat : ℚ) - minUs.toNat)
  ((span * (angle * .fin (1 / 180))).toUInt16?).map (minUs + ·)

def setAngle (channel : ℕ) (angleDegrees : ExtRat) (s : ServoController) : ServoController :=
  let angle := clampAngle angleDegrees
  let minUs := if channel < kMaxChannels then s.sMinPulseUs channel else kDefaultMinUs
  let maxUs := if channel < kMaxChannels then s.sMaxPulseUs channel else kDefaultMaxUs
  { s with written := s.written ++ [⟨channel, angle, pulse minUs maxUs angle⟩] }

def setPulseRange (channel : ℕ) (minPulseUs maxPulseUs : UInt16) (s : ServoController) :
    ServoController :=
  if channel < kMaxChannels then
    { s with
      sMinPulseUs := Function.update s.sMinPulseUs channel minPulseUs
      sMaxPulseUs := Function.update s.sMaxPulseUs channel maxPulseUs }
  else
    s

end ServoController

end K2soHead
