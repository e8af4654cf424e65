import Mathlib.Data.List.Perm.Subperm
import Mathlib.Data.List.Nodup
import Mathlib.Data.List.Range
import Mathlib.Logic.Function.Iterate
import Mathlib.Data.Nat.ModEq
import Mathlib.Tactic.SplitIfs

/-!
# A cursor going round

A cursor over the places `1 .. n`, with 0 for "nowhere yet".  `next` goes round by modulo and
`previous` by a test; each undoes the other on the places, and `n` steps of either one from
anywhere meet every place exactly once.
-/

namespace K2soHead.Rounds

variable {n c : ℕ}

def next (n c : ℕ) : ℕ := c % n + 1

def previous (n c : ℕ) : ℕ := if c ≤ 1 then n else c - 1

theorem next_mem (hn : 0 < n) : 1 ≤ next n c ∧ next n c ≤ n := by
  have := Nat.mod_lt c hn
  unfold next
  omega

theorem previous_mem (hn : 0 < n) (hc : c ≤ n) : 1 ≤ previous n c ∧ previous n c ≤ n := by
  unfold previous
  split <;> omega

theorem previous_next (hpos : 1 ≤ c) (hc : c ≤ n) : previous n (next n c) = c := by
  unfold previous next
  -- only the last place goes round
  rcases Nat.lt_or_eq_of_le hc with hlt | rfl
  · rw [Nat.mod_eq_of_lt hlt, if_neg (by omega)]
    omega
  · rw [Nat.mod_self, if_pos (by omega)]

theorem next_previous (hpos : 1 ≤ c) (hc : c ≤ n) : next n (previous n c) = c := by
  unfold previous next
  split
  · rw [Nat.mod_self]
    omega
  · rw [Nat.mod_eq_of_lt (by omega)]
    omega

/-! ## Full rounds -/

/-- The places met by `k` steps of `f`. -/
def visits (f : ℕ → ℕ) (c : ℕ) : ℕ → List ℕ
  | 0 => []
  | k + 1 => f c :: visits f (f c) k

theorem visits_eq (f : ℕ → ℕ) (c k : ℕ) :
    visits f c k = (List.range k).map fun i => f^[i + 1] c := by
  induction k generalizing c with
  | zero => rfl
  | succ k ih =>
    rw [visits, ih, List.range_succ_eq_map, List.map_cons, List.map_map]
    rfl

theorem next_iterate (n c i : ℕ) : (next n)^[i + 1] c = (c + i) % n + 1 := by
  induction i with
  | zero => rfl
  | succ i ih =>
    rw [Function.iterate_succ_apply', ih, next, Nat.mod_add_mod]
    rfl

theorem previous_iterate (hc : c ≤ n) {i : ℕ} (hi : i < n) :
    (previous n)^[i + 1] c = if i + 1 < c then c - (i + 1) else n - (i + 1 - max c 1) := by
  induction i with
  | zero =>
    have hone : (previous n)^[0 + 1] c = if c ≤ 1 then n else c - 1 := rfl
    rw [hone]
    split_ifs <;> omega
  | succ i ih =>
    rw [Function.iterate_succ_apply', ih (by omega), previous]
    split_ifs <;> omega

/-- `n` steps without meeting a place twice, and without leaving the places, meet them all. -/
theorem visits_perm {f : ℕ → ℕ} (hmem : ∀ i < n, 1 ≤ f^[i + 1] c ∧ f^[i + 1] c ≤ n)
    (hinj : ∀ i < n, ∀ j < n, f^[i + 1] c = f^[j + 1] c → i = j) :
    (visits f c n).Perm (List.range' 1 n) := by
  rw [visits_eq]
  have hnodup : ((List.range n).map fun i => f^[i + 1] c).Nodup := by
    refine List.Nodup.map_on ?_ List.nodup_range
    intro i hi j hj
    exact hinj i (List.mem_range.mp hi) j (List.mem_range.mp hj)
  have hsubset : ((List.range n).map fun i => f^[i + 1] c) ⊆ List.range' 1 n := by
    intro place hplace
    obtain ⟨i, hi, rfl⟩ := List.mem_map.mp hplace
    have := hmem i (List.mem_range.mp hi)
    rw [List.mem_range'_1]
    omega
  exact (hnodup.subperm hsubset).perm_of_length_le (by simp)

theorem visits_next_perm (n c : ℕ) : (visits (next n) c n).Perm (List.range' 1 n) := by
  refine visits_perm (fun i hi => ?_) fun i hi j hj h => ?_
  · rw [Function.iterate_succ_apply']
    exact next_mem (by omega)
  · rw [next_iterate, next_iterate] at h
    -- two remainders of numbers less than `n` apart are equal only for equal numbers
    have hmod : (c + i) % n = (c + j) % n := by omega
    have hij : i % n = j % n := Nat.ModEq.add_left_cancel' c hmod
    rwa [Nat.mod_eq_of_lt hi, Nat.mod_eq_of_lt hj] at hij

theorem visits_previous_perm (hc : c ≤ n) : (visits (previous n) c n).Perm (List.range' 1 n) := by
  refine visits_perm (fun i hi => ?_) fun i hi j hj h => ?_
  · rw [previous_iterate hc hi]
    split <;> omega
  · rw [previous_iterate hc hi, previous_iterate hc hj] at h
    split_ifs at h <;> omega

end K2soHead.Rounds
