import Mathlib.Data.UInt
import Mathlib.Data.Rat.Defs

/-!
# Board configuration and the Arduino helpers

`Board` collects what the headers under `board_configs/` define.  A macro that a board
may leave undefined is an `Option` or a `Bool` here, and the `#ifdef`s of the sources
become tests on it.
-/

namespace K2soHead

/-- The audio pins: `AUDIO_BUSY_GPIO` is `none` where the header says -1. -/
structure AudioPins where
  busyGpio : Option ℕ
  deriving DecidableEq

/-- The active board header. -/
structure Board where
  /-- `LED_STRIP_LED_COUNTS`, one entry per strip -/
  ledCounts : List UInt32
  /-- `I2C_SDA_GPIO` is defined: a PCA9685 with two servos is fitted -/
  servos : Bool
  /-- `EYE_PAN_TRIM_DEG` -/
  panTrimDeg : ℚ := 0
  /-- `EYE_TILT_TRIM_DEG` -/
  tiltTrimDeg : ℚ := 0
  /-- `AUDIO_TX_GPIO` and `AUDIO_BUSY_GPIO` are defined -/
  audio : Option AudioPins
  /-- `AUDIO_TRACK_COUNT` -/
  audioTrackCount : Option UInt16 := none
  /-- `ADMIN_BUTTON_GPIO` is defined -/
  adminButton : Bool
  /-- What the C library's `sinf` makes of the Breathe wave: the level 0..255 at each
  millisecond of the three-second cycle -/
  breatheWave : ℕ → UInt8

namespace Board

/-- The board speaks and reads the DFPlayer's BUSY line. -/
def BusyWired (b : Board) : Prop :=
  ∃ pin, b.audio = some ⟨some pin⟩

theorem BusyWired.audio_isSome {b : Board} (h : b.BusyWired) : b.audio.isSome = true := by
  obtain ⟨pin, hpin⟩ := h
  rw [hpin]
  rfl

end Board

/-- `board_configs/esp32_devkitc.h`, the reference build. -/
def esp32DevKitC (breatheWave : ℕ → UInt8) : Board where
  ledCounts := [7, 7]
  servos := true
  panTrimDeg := -15
  audio := some ⟨some 16⟩
  audioTrackCount := some 16
  adminButton := true
  breatheWave := breatheWave

namespace Arduino

/-- `map()`: linear interpolation in integers, truncating toward zero, not clamped. -/
def map (x inMin inMax outMin outMax : ℤ) : ℤ :=
  ((x - inMin) * (outMax - outMin)).tdiv (inMax - inMin) + outMin

/-- `random(lo, hi)` with the draw `k` below `hi - lo`. -/
def random {n : ℕ} (lo : ℕ) (k : Fin n) : UInt32 := UInt32.ofNat (lo + k)

end Arduino

end K2soHead
