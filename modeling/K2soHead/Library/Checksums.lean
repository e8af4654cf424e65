import Mathlib.Data.Nat.ModEq
import Mathlib.Data.List.Basic

/-!
# Weighted checksums

A frame passes when the weighted sum of its symbols is 0 modulo `m`.

- `weigh_set`: replacing one symbol moves the sum by weight times the difference
- `not_passes_set`: where a weight is small enough that no such move is a multiple of `m`,
  every single replacement at that position is detected
-/

namespace K2soHead.Checksums

/-- The weighted sum; what has no weight does not count. -/
def weigh : List ℕ → List ℕ → ℕ
  | w :: weights, x :: symbols => w * x + weigh weights symbols
  | _, _ => 0

def Passes (m : ℕ) (weights symbols : List ℕ) : Prop := weigh weights symbols % m = 0

variable {m w x v : ℕ}

theorem weigh_set {weights symbols : List ℕ} {k : ℕ} (hw : weights[k]? = some w)
    (hx : symbols[k]? = some x) :
    weigh weights (symbols.set k v) + w * x = weigh weights symbols + w * v := by
  induction weights generalizing symbols k with
  | nil => simp at hw
  | cons w' weights ih =>
    cases symbols with
    | nil => simp at hx
    | cons x' symbols =>
      cases k with
      | zero =>
        obtain rfl : w' = w := by simpa using hw
        obtain rfl : x' = x := by simpa using hx
        simp only [List.set_cons_zero, weigh]
        omega
      | succ k =>
        rw [List.getElem?_cons_succ] at hw hx
        have hrest := ih hw hx
        simp only [List.set_cons_succ, weigh]
        omega

/-- A move by less than `m` in either direction is no multiple of `m`, unless it is none. -/
theorem not_passes_set {q : ℕ} {weights symbols : List ℕ} {k : ℕ} (hw : weights[k]? = some w)
    (hx : symbols[k]? = some x) (hpos : 0 < w) (hsmall : w * (q - 1) < m) (hxq : x < q)
    (hvq : v < q) (hne : v ≠ x) (hpasses : Passes m weights symbols) :
    ¬ Passes m weights (symbols.set k v) := by
  intro hpasses'
  have hmove := weigh_set (v := v) hw hx
  have hequal : w * v ≡ w * x [MOD m] := by
    have hsum :
        weigh weights symbols + w * v ≡ weigh weights (symbols.set k v) + w * x [MOD m] := by
      rw [hmove]
    have hboth : weigh weights symbols ≡ weigh weights (symbols.set k v) [MOD m] :=
      hpasses.trans hpasses'.symm
    exact Nat.ModEq.add_left_cancel hboth hsum
  have hbound : ∀ y < q, w * y < m := fun y hy =>
    Nat.lt_of_le_of_lt (Nat.mul_le_mul_left w (by omega)) hsmall
  have hproduct : w * v = w * x := hequal.eq_of_lt_of_lt (hbound v hvq) (hbound x hxq)
  exact hne (Nat.eq_of_mul_eq_mul_left hpos hproduct)

end K2soHead.Checksums
