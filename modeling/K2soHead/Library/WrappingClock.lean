import Mathlib.Data.UInt
import Mathlib.Tactic.Ring

/-!
# Wrapping millisecond clocks

A free-running 32-bit counter shows `t % 2 ^ 32` at real time `t`.  Code that reads it
knows two things about a stored reading: its age, by unsigned subtraction, and whether a
deadline lies ahead or behind, by the sign of that difference.

- `age_reading`: the age is the real one modulo `2 ^ 32`
- `reached_iff_of_le`: past the deadline the sign test is right in every even half
  period and wrong in every odd one
- `not_reached_of_lt`: up to half a period ahead of the deadline it is right
-/

namespace K2soHead.WrappingClock

/-- What the counter shows at real time `t`. -/
def reading (t : ℕ) : UInt32 := UInt32.ofNat t

/-- Age of a stored reading, as unsigned subtraction gives it. -/
def age (now stored : UInt32) : ℕ := (now - stored).toNat

/-- The sign test for a deadline: is the difference, read as signed, non-negative? -/
def reached (now deadline : UInt32) : Bool := decide (0 ≤ (now - deadline).toInt32)

/-! ## Ages -/

@[simp] theorem reading_toNat (now : UInt32) : reading now.toNat = now :=
  UInt32.ofNat_toNat

theorem reading_add (t n : ℕ) : reading (t + n) = reading t + UInt32.ofNat n :=
  UInt32.ofNat_add t n

theorem age_reading {t₀ t : ℕ} (h : t₀ ≤ t) :
    age (reading t) (reading t₀) = (t - t₀) % 2 ^ 32 := by
  rw [age, reading, reading, ← UInt32.ofNat_sub h, UInt32.toNat_ofNat']

/-! ## Deadlines -/

theorem reached_eq (now deadline : UInt32) :
    reached now deadline = decide (age now deadline < 2 ^ 31) := by
  have hcond := BitVec.toInt_eq_toNat_cond (now - deadline).toBitVec
  have hlt := (now - deadline).toNat_lt
  rw [reached, decide_eq_decide, Int32.le_iff_toInt_le, age]
  change (0 : ℤ) ≤ (now - deadline).toBitVec.toInt ↔ _
  have hnat : (now - deadline).toBitVec.toNat = (now - deadline).toNat := rfl
  rw [hcond, hnat]
  split <;> omega

/-- Past the deadline the sign test answers by the parity of the half periods gone by. -/
theorem reached_iff_of_le {d t : ℕ} (h : d ≤ t) :
    reached (reading t) (reading d) = true ↔ (t - d) % 2 ^ 32 < 2 ^ 31 := by
  rw [reached_eq, decide_eq_true_iff, age_reading h]

/-- A deadline at most half a period ahead reads as not reached. -/
theorem not_reached_of_lt {d t : ℕ} (h : t < d) (hhalf : d - t ≤ 2 ^ 31) :
    reached (reading t) (reading d) = false := by
  obtain ⟨n, rfl⟩ := Nat.exists_eq_add_of_lt h
  have hpos : n + 1 ≤ 2 ^ 31 := by omega
  have hsub : reading t - reading (t + n + 1) = UInt32.ofNat (2 ^ 32 - (n + 1)) := by
    have hwrap : UInt32.ofNat (2 ^ 32) = 0 := rfl
    rw [Nat.add_assoc, reading_add, UInt32.ofNat_sub (by omega), hwrap]
    grind
  rw [reached_eq, decide_eq_false_iff_not, age, hsub, UInt32.toNat_ofNat']
  omega

/-- A deadline set from the same reading, at most half a period on, is not reached yet. -/
theorem not_reached_add (now : UInt32) {n : ℕ} (hpos : 0 < n) (hhalf : n ≤ 2 ^ 31) :
    reached now (now + UInt32.ofNat n) = false := by
  have hdeadline : now + UInt32.ofNat n = reading (now.toNat + n) := by
    rw [reading_add, reading_toNat]
  have h := not_reached_of_lt (by omega : now.toNat < now.toNat + n) (by omega)
  rwa [reading_toNat, ← hdeadline] at h

end K2soHead.WrappingClock
