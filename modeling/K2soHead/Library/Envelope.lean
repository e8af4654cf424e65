import K2soHead.Library.ExtRat
import Mathlib.Algebra.Order.Floor.Ring
import Mathlib.Data.UInt
import Mathlib.Tactic.Linarith

/-!
# Envelopes of floating-point values

`Within lo hi v` says that `v` is a number between `lo` and `hi`, so neither infinite nor NaN.
Each operation has one lemma: sums add the ends, easing toward a target stays in any envelope
of both, and a clamp ends in its envelope if and only if it did not start from NaN.
-/

namespace K2soHead.ExtRat

variable {lo hi lo' hi' q k : ℚ} {v x y : ExtRat}

/-- A number between `lo` and `hi`. -/
def Within (lo hi : ℚ) (v : ExtRat) : Prop := ∃ q : ℚ, v = fin q ∧ lo ≤ q ∧ q ≤ hi

@[simp] theorem within_fin : Within lo hi (fin q) ↔ lo ≤ q ∧ q ≤ hi := by
  constructor
  · rintro ⟨p, hp, hlo, hhi⟩
    obtain rfl := fin.inj hp
    exact ⟨hlo, hhi⟩
  · exact fun h => ⟨q, rfl, h⟩

theorem Within.mono (h : Within lo hi v) (hlo : lo' ≤ lo) (hhi : hi ≤ hi') : Within lo' hi' v := by
  obtain ⟨q, rfl, hq, hq'⟩ := h
  exact within_fin.mpr ⟨hlo.trans hq, hq'.trans hhi⟩

theorem Within.ne_nan (h : Within lo hi v) : v ≠ nan := by
  obtain ⟨q, rfl, -, -⟩ := h
  rintro ⟨⟩

/-- Neither infinite nor NaN. -/
def IsNumber (v : ExtRat) : Prop := ∃ q : ℚ, v = fin q

theorem isNumber_fin (q : ℚ) : IsNumber (fin q) := ⟨q, rfl⟩

theorem Within.isNumber (h : Within lo hi v) : IsNumber v := by
  obtain ⟨q, rfl, -, -⟩ := h
  exact isNumber_fin q

theorem IsNumber.within (h : IsNumber v) : ∃ q : ℚ, Within q q v := by
  obtain ⟨q, rfl⟩ := h
  exact ⟨q, within_fin.mpr ⟨le_refl q, le_refl q⟩⟩

theorem IsNumber.ne_nan (h : IsNumber v) : v ≠ nan := by
  obtain ⟨q, rfl⟩ := h
  rintro ⟨⟩

/-! ## Arithmetic of numbers -/

theorem fin_add (p q : ℚ) : fin p + fin q = fin (p + q) := rfl

theorem fin_sub (p q : ℚ) : fin p - fin q = fin (p - q) := by
  rw [sub_eq_add_neg]
  rfl

theorem fin_mul (p q : ℚ) : fin p * fin q = fin (p * q) := rfl

/-- NaN absorbs whatever it is added to. -/
theorem add_nan (v : ExtRat) : v + nan = nan := by
  cases v <;> rfl

theorem IsNumber.add (hx : IsNumber x) (hy : IsNumber y) : IsNumber (x + y) := by
  obtain ⟨p, rfl⟩ := hx
  obtain ⟨q, rfl⟩ := hy
  exact isNumber_fin (p + q)

theorem Within.add (hx : Within lo hi x) (hy : Within lo' hi' y) :
    Within (lo + lo') (hi + hi') (x + y) := by
  obtain ⟨p, rfl, hp, hp'⟩ := hx
  obtain ⟨q, rfl, hq, hq'⟩ := hy
  exact within_fin.mpr ⟨add_le_add hp hq, add_le_add hp' hq'⟩

/-! ## Easing -/

/-- One step toward a target covers the fraction `k` of the distance. -/
theorem fin_ease (p q k : ℚ) : fin p + (fin q - fin p) * fin k = fin (p + (q - p) * k) := by
  rw [fin_sub, fin_mul, fin_add]

theorem IsNumber.ease (hx : IsNumber x) (hy : IsNumber y) (k : ℚ) :
    IsNumber (x + (y - x) * fin k) := by
  obtain ⟨p, rfl⟩ := hx
  obtain ⟨q, rfl⟩ := hy
  rw [fin_ease]
  exact isNumber_fin _

/-- An eased value lies between where it was and its target. -/
theorem ease_between (p q : ℚ) (hk : 0 ≤ k) (hk' : k ≤ 1) :
    min p q ≤ p + (q - p) * k ∧ p + (q - p) * k ≤ max p q := by
  rcases le_total p q with h | h
  · rw [min_eq_left h, max_eq_right h]
    constructor <;> nlinarith
  · rw [min_eq_right h, max_eq_left h]
    constructor <;> nlinarith

/-- Easing stays in every envelope of the value and its target. -/
theorem Within.ease (hx : Within lo hi x) (hy : Within lo hi y) (hk : 0 ≤ k) (hk' : k ≤ 1) :
    Within lo hi (x + (y - x) * fin k) := by
  obtain ⟨p, rfl, hp, hp'⟩ := hx
  obtain ⟨q, rfl, hq, hq'⟩ := hy
  obtain ⟨hmin, hmax⟩ := ease_between p q hk hk'
  rw [fin_ease, within_fin]
  exact ⟨(le_min hp hq).trans hmin, hmax.trans (max_le hp' hq')⟩

/-! ## Clamping -/

/-- The two tests of a clamp, in the order the code makes them. -/
def clamp (lo hi : ℚ) (v : ExtRat) : ExtRat :=
  if v.lt (fin lo) then fin lo else if (fin hi).lt v then fin hi else v

theorem clamp_fin (h : lo ≤ hi) (q : ℚ) : clamp lo hi (fin q) = fin (max lo (min q hi)) := by
  simp only [clamp, lt, decide_eq_true_eq]
  split
  · rename_i hlo
    rw [max_eq_left (min_le_of_left_le hlo.le)]
  · rename_i hlo
    split
    · rename_i hhi
      rw [min_eq_right hhi.le, max_eq_right h]
    · rename_i hhi
      rw [min_eq_left (not_lt.mp hhi), max_eq_right (not_lt.mp hlo)]

/-- A clamp ends in its envelope if and only if it did not start from NaN. -/
theorem within_clamp_iff (h : lo ≤ hi) : Within lo hi (clamp lo hi v) ↔ v ≠ nan := by
  cases v with
  | fin q =>
    rw [clamp_fin h, within_fin]
    exact iff_of_true ⟨le_max_left _ _, max_le h (min_le_right _ _)⟩ (by rintro ⟨⟩)
  | inf s =>
    cases s with
    | true => exact iff_of_true (within_fin.mpr ⟨le_refl lo, h⟩) (by rintro ⟨⟩)
    | false => exact iff_of_true (within_fin.mpr ⟨h, le_refl hi⟩) (by rintro ⟨⟩)
  | nan => exact iff_of_false (fun hnan => hnan.ne_nan rfl) (fun hne => hne rfl)

/-- A value in the envelope is left alone. -/
theorem clamp_of_within (h : Within lo hi v) : clamp lo hi v = v := by
  obtain ⟨q, rfl, hlo, hhi⟩ := h
  rw [clamp_fin (hlo.trans hhi), min_eq_left hhi, max_eq_right hlo]

/-- Clamping keeps the order of whatever can be compared. -/
theorem clamp_mono (h : lo ≤ hi) (hx : x ≠ nan) (hy : y ≠ nan) (hxy : y.lt x = false) :
    ∃ p q : ℚ, clamp lo hi x = fin p ∧ clamp lo hi y = fin q ∧ p ≤ q := by
  obtain ⟨p, hp, hlo, hhi⟩ := (within_clamp_iff h).mpr hx
  obtain ⟨q, hq, hlo', hhi'⟩ := (within_clamp_iff h).mpr hy
  refine ⟨p, q, hp, hq, ?_⟩
  cases x with
  | nan => exact absurd rfl hx
  | inf s =>
    cases s with
    | true => exact fin.inj (hp : fin lo = fin p) ▸ hlo'
    | false =>
      -- only `+∞` itself is not below `+∞`
      cases y with
      | fin r => cases hxy
      | nan => exact absurd rfl hy
      | inf t =>
        cases t with
        | true => cases hxy
        | false => exact (fin.inj (hp.symm.trans hq)).le
  | fin r =>
    cases y with
    | nan => exact absurd rfl hy
    | inf t =>
      cases t with
      | true => cases hxy
      | false => exact fin.inj (hq : fin hi = fin q) ▸ hhi
    | fin r' =>
      have hle : r ≤ r' := not_lt.mp (of_decide_eq_false hxy)
      rw [clamp_fin h] at hp hq
      rw [← fin.inj hp, ← fin.inj hq]
      exact max_le_max (le_refl lo) (min_le_min hle (le_refl hi))

/-! ## Conversion to 16 bits -/

/-- A number in range converts to its floor. -/
theorem toUInt16?_fin (h : 0 ≤ q) (hlt : q < 65536) :
    (fin q).toUInt16? = some (UInt16.ofNat ⌊q⌋₊) := by
  have htrunc : q.num.tdiv q.den = ⌊q⌋ := by
    rw [Int.tdiv_eq_ediv_of_nonneg (Rat.num_nonneg.mpr h), Rat.floor_def']
  have hpos : 0 ≤ ⌊q⌋ := Int.floor_nonneg.mpr h
  have hmax : ⌊q⌋ < 65536 := Int.floor_lt.mpr (by exact_mod_cast hlt)
  simp only [toUInt16?, htrunc, hpos, hmax, and_self, if_true, Int.floor_toNat]

end K2soHead.ExtRat
