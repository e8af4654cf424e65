import K2soHead.Firmware.Board
import Mathlib.Algebra.Order.Ring.Int
import Mathlib.Tactic.Linarith
import Mathlib.Tactic.Ring

/-!
# The order of `map()`

`map` interpolates and truncates toward zero, and it does not clamp.  It keeps the order of its
inputs where the output range rises and reverses it where the range falls, outside the input
range too.
-/

namespace K2soHead.Arduino

variable {inMin inMax outMin outMax x y : ℤ}

/-- The truncation is a floor where the interpolated distance is not negative. -/
theorem map_of_nonneg (h : 0 ≤ (x - inMin) * (outMax - outMin)) :
    map x inMin inMax outMin outMax =
      (x - inMin) * (outMax - outMin) / (inMax - inMin) + outMin := by
  rw [map, Int.tdiv_eq_ediv_of_nonneg h]

/-- Where it is, it is the floor of the distance the other way, subtracted. -/
theorem map_of_nonpos (h : (x - inMin) * (outMax - outMin) ≤ 0) :
    map x inMin inMax outMin outMax =
      outMin - (inMin - x) * (outMax - outMin) / (inMax - inMin) := by
  have hneg : (x - inMin) * (outMax - outMin) = -((inMin - x) * (outMax - outMin)) := by ring
  have hnonneg : 0 ≤ (inMin - x) * (outMax - outMin) := by omega
  rw [map, hneg, Int.neg_tdiv, Int.tdiv_eq_ediv_of_nonneg hnonneg]
  ring

theorem map_mono (hin : inMin < inMax) (hout : outMin ≤ outMax) (h : x ≤ y) :
    map x inMin inMax outMin outMax ≤ map y inMin inMax outMin outMax := by
  have hrise : (x - inMin) * (outMax - outMin) ≤ (y - inMin) * (outMax - outMin) :=
    mul_le_mul_of_nonneg_right (by omega) (by omega)
  have hdiv := Int.tdiv_le_tdiv (by omega : 0 < inMax - inMin) hrise
  unfold map
  omega

theorem map_anti (hin : inMin < inMax) (hout : outMax ≤ outMin) (h : x ≤ y) :
    map y inMin inMax outMin outMax ≤ map x inMin inMax outMin outMax := by
  have hfall : (y - inMin) * (outMax - outMin) ≤ (x - inMin) * (outMax - outMin) :=
    mul_le_mul_of_nonpos_right (by omega) (by omega)
  have hdiv := Int.tdiv_le_tdiv (by omega : 0 < inMax - inMin) hfall
  unfold map
  omega

end K2soHead.Arduino
