import Mathlib.Data.Nat.Periodic
import Mathlib.Order.Interval.Finset.Nat
import Mathlib.Order.SymmDiff

/-!
# Sweeps over a row of places

Two endless movements over the places `0 .. n - 1`, one step at a time:

- `filled n k`: the row fills up in order, then empties in the same order, and starts over
- `bounced n k`: one place that runs to the end, back, and starts over

Each step of the first changes one place, the next in turn (`symmDiff_filled`); each step of
the second goes to a neighbour (`bounced_succ`), and a period meets each end once and every
place between twice (`card_bounced`).
-/

namespace K2soHead.Sweeps

variable {n k i : ℕ}

/-- The places filled after `k` steps, the first place being filled at step 0. -/
def filled (n k : ℕ) : Finset ℕ :=
  if k % (2 * n) < n then Finset.range (k % (2 * n) + 1) else Finset.Ico (k % (2 * n) - n + 1) n

/-- The place after `k` steps, starting at the first one. -/
def bounced (n k : ℕ) : ℕ :=
  if k % (2 * (n - 1)) < n then k % (2 * (n - 1)) else 2 * (n - 1) - k % (2 * (n - 1))

/-- One step further modulo `m`, or back at 0. -/
theorem succ_mod_cases {m : ℕ} (hm : 0 < m) (k : ℕ) :
    (k % m + 1 < m ∧ (k + 1) % m = k % m + 1) ∨ (k % m + 1 = m ∧ (k + 1) % m = 0) := by
  have hlt := Nat.mod_lt k hm
  rw [← Nat.mod_add_mod]
  rcases Nat.lt_or_eq_of_le hlt with hinside | hend
  · exact .inl ⟨hinside, Nat.mod_eq_of_lt hinside⟩
  · refine .inr ⟨hend, ?_⟩
    have hend : k % m + 1 = m := hend
    rw [hend, Nat.mod_self]

/-! ## Filling and emptying -/

theorem filled_of_lt {cycle : ℕ} (hi : i < n) :
    filled n (cycle * (2 * n) + i) = Finset.range (i + 1) := by
  have hphase : (cycle * (2 * n) + i) % (2 * n) = i := by
    rw [Nat.add_comm, Nat.add_mul_mod_self_right, Nat.mod_eq_of_lt (by omega)]
  rw [filled, hphase, if_pos hi]

theorem filled_add_of_lt {cycle : ℕ} (hi : i < n) :
    filled n (cycle * (2 * n) + n + i) = Finset.Ico (i + 1) n := by
  have hphase : (cycle * (2 * n) + n + i) % (2 * n) = n + i := by
    rw [Nat.add_assoc, Nat.add_comm, Nat.add_mul_mod_self_right, Nat.mod_eq_of_lt (by omega)]
  rw [filled, hphase, if_neg (by omega), Nat.add_sub_cancel_left]

/-- The places change one at a time and in turn. -/
theorem symmDiff_filled (hn : 1 ≤ n) (k : ℕ) :
    symmDiff (filled n k) (filled n (k + 1)) = {(k + 1) % n} := by
  have hturn : (k + 1) % n = (k % (2 * n) + 1) % n := by
    have hdvd : n ∣ 2 * n := Nat.dvd_mul_left n 2
    rw [← Nat.mod_add_mod, ← Nat.mod_mod_of_dvd k hdvd, Nat.mod_add_mod]
  rw [hturn, filled, filled]
  -- where in the cycle the step starts: filling, full, emptying or empty
  rcases succ_mod_cases (m := 2 * n) (by omega) k with ⟨hinside, hnext⟩ | ⟨hend, hnext⟩
  · rw [hnext]
    rcases Nat.lt_trichotomy (k % (2 * n) + 1) n with hfilling | hfull | hemptying
    · rw [if_pos (by omega), if_pos hfilling, Nat.mod_eq_of_lt hfilling]
      ext i
      simp only [Finset.mem_symmDiff, Finset.mem_range, Finset.mem_singleton]
      omega
    · rw [if_pos (by omega), if_neg (by omega), hfull, Nat.mod_self]
      ext i
      simp only [Finset.mem_symmDiff, Finset.mem_range, Finset.mem_Ico, Finset.mem_singleton]
      omega
    · have hplace : (k % (2 * n) + 1) % n = k % (2 * n) + 1 - n := by
        rw [Nat.mod_eq_sub_mod (by omega), Nat.mod_eq_of_lt (by omega)]
      rw [if_neg (by omega), if_neg (by omega), hplace]
      ext i
      simp only [Finset.mem_symmDiff, Finset.mem_Ico, Finset.mem_singleton]
      omega
  · have hplace : (k % (2 * n) + 1) % n = 0 := by rw [hend, Nat.mul_mod_left]
    rw [hnext, if_neg (by omega), if_pos (by omega), hplace]
    ext i
    simp only [Finset.mem_symmDiff, Finset.mem_range, Finset.mem_Ico, Finset.mem_singleton]
    omega

/-! ## Running back and forth -/

theorem bounced_lt (hn : 2 ≤ n) (k : ℕ) : bounced n k < n := by
  unfold bounced
  split <;> omega

/-- Every step goes to a neighbour. -/
theorem bounced_succ (hn : 2 ≤ n) (k : ℕ) :
    bounced n (k + 1) = bounced n k + 1 ∨ bounced n k = bounced n (k + 1) + 1 := by
  unfold bounced
  rcases succ_mod_cases (m := 2 * (n - 1)) (by omega) k with ⟨hinside, hnext⟩ | ⟨hend, hnext⟩
  · rw [hnext]
    split <;> split <;> omega
  · rw [hnext]
    split <;> split <;> omega

theorem periodic_bounced (n i : ℕ) :
    Function.Periodic (fun k => bounced n k = i) (2 * (n - 1)) := by
  intro k
  simp only [bounced, Nat.add_mod_right]

/-- Over any full period each end is met once and every place between twice. -/
theorem card_bounced (hn : 2 ≤ n) (hi : i < n) (k : ℕ) :
    ((Finset.Ico k (k + 2 * (n - 1))).filter fun j => bounced n j = i).card =
      if i = 0 ∨ i + 1 = n then 1 else 2 := by
  rw [Nat.filter_Ico_card_eq_of_periodic _ _ _ (periodic_bounced n i),
    Nat.count_eq_card_filter_range]
  -- one visit on the way out, one on the way back unless the place is an end
  have hplace : ∀ j < 2 * (n - 1), bounced n j = i ↔ j = i ∨ (j = 2 * (n - 1) - i ∧ n ≤ j) := by
    intro j hj
    rw [bounced, Nat.mod_eq_of_lt hj]
    split <;> omega
  split
  · rename_i hend
    have hvisits : ((Finset.range (2 * (n - 1))).filter fun j => bounced n j = i) = {i} := by
      ext j
      rw [Finset.mem_filter, Finset.mem_range, Finset.mem_singleton]
      constructor
      · rintro ⟨hj, hvisit⟩
        have := (hplace j hj).mp hvisit
        omega
      · rintro rfl
        exact ⟨by omega, (hplace j (by omega)).mpr (.inl rfl)⟩
    rw [hvisits, Finset.card_singleton]
  · rename_i hinner
    have hvisits : ((Finset.range (2 * (n - 1))).filter fun j => bounced n j = i) =
        {i, 2 * (n - 1) - i} := by
      ext j
      rw [Finset.mem_filter, Finset.mem_range, Finset.mem_insert, Finset.mem_singleton]
      constructor
      · rintro ⟨hj, hvisit⟩
        exact ((hplace j hj).mp hvisit).imp id And.left
      · rintro (rfl | rfl)
        · exact ⟨by omega, (hplace j (by omega)).mpr (.inl rfl)⟩
        · exact ⟨by omega, (hplace _ (by omega)).mpr (.inr ⟨rfl, by omega⟩)⟩
    rw [hvisits, Finset.card_pair (by omega)]

end K2soHead.Sweeps
