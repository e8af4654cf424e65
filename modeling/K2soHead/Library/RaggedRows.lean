import Mathlib.Algebra.BigOperators.Group.List.Basic
import Mathlib.Algebra.GroupWithZero.Nat
import Mathlib.Data.Prod.Lex

/-!
# Rows of different lengths, one after the other

The cells of a ragged table are numbered row by row.  `locate` finds the cell of a number by
a running subtraction over the row lengths; `number` counts the cells before a cell.

- `locate_eq_some_iff`: the two are inverse to each other on the cells there are
- `locate_eq_none_iff`: there is no cell from the total on
- `number_lt_number_iff`: the numbering follows the lexicographic order

Rows of length 0 are allowed anywhere.
-/

namespace K2soHead.RaggedRows

variable {rows : List ℕ} {n k r c : ℕ} {cell cell' : ℕ × ℕ}

/-- The cell with number `k`, as row and column. -/
def locate : List ℕ → ℕ → Option (ℕ × ℕ)
  | [], _ => none
  | n :: rows, k =>
      if k < n then some (0, k) else (locate rows (k - n)).map fun cell => (cell.1 + 1, cell.2)

/-- How many cells come before `cell`. -/
def number (rows : List ℕ) (cell : ℕ × ℕ) : ℕ := (rows.take cell.1).sum + cell.2

/-- The table has such a cell. -/
def IsCell (rows : List ℕ) (cell : ℕ × ℕ) : Prop := ∃ n, rows[cell.1]? = some n ∧ cell.2 < n

/-! ## Row by row -/

theorem not_isCell_nil : ¬ IsCell [] cell := by
  rintro ⟨n, hrow, -⟩
  simp at hrow

@[simp] theorem isCell_cons_zero : IsCell (n :: rows) (0, c) ↔ c < n := by
  simp [IsCell]

@[simp] theorem isCell_cons_succ : IsCell (n :: rows) (r + 1, c) ↔ IsCell rows (r, c) := by
  simp [IsCell]

@[simp] theorem number_cons_zero : number (n :: rows) (0, c) = c := by
  simp [number]

@[simp] theorem number_cons_succ : number (n :: rows) (r + 1, c) = n + number rows (r, c) := by
  simp [number, Nat.add_assoc]

theorem number_lt_sum (h : IsCell rows cell) : number rows cell < rows.sum := by
  obtain ⟨r, c⟩ := cell
  induction rows generalizing r with
  | nil => exact absurd h not_isCell_nil
  | cons n rows ih =>
    rw [List.sum_cons]
    cases r with
    | zero =>
      rw [isCell_cons_zero] at h
      rw [number_cons_zero]
      omega
    | succ r =>
      have := ih r (isCell_cons_succ.mp h)
      rw [number_cons_succ]
      omega

/-! ## Finding a cell -/

theorem locate_eq_some_iff :
    locate rows k = some cell ↔ IsCell rows cell ∧ number rows cell = k := by
  obtain ⟨r, c⟩ := cell
  induction rows generalizing k r with
  | nil =>
    have hnone : locate [] k ≠ some (r, c) := nofun
    exact iff_of_false hnone fun h => not_isCell_nil h.1
  | cons n rows ih =>
    rw [locate]
    -- a number below the first length stays in the first row
    by_cases hk : k < n
    · rw [if_pos hk, Option.some.injEq, Prod.mk.injEq]
      cases r with
      | zero =>
        rw [isCell_cons_zero, number_cons_zero]
        omega
      | succ r =>
        rw [number_cons_succ]
        omega
    · rw [if_neg hk, Option.map_eq_some_iff]
      cases r with
      | zero =>
        rw [isCell_cons_zero, number_cons_zero]
        refine iff_of_false ?_ (by omega)
        rintro ⟨cell, -, hcell⟩
        cases hcell
      | succ r =>
        rw [isCell_cons_succ, number_cons_succ]
        have hrest : number rows (r, c) = k - n ↔ n + number rows (r, c) = k := by omega
        rw [← hrest, ← ih]
        constructor
        · rintro ⟨⟨r', c'⟩, hlocate, hcell⟩
          obtain ⟨hr, rfl⟩ := Prod.mk.injEq .. ▸ hcell
          obtain rfl : r' = r := Nat.succ_injective hr
          exact hlocate
        · exact fun hlocate => ⟨(r, c), hlocate, rfl⟩

theorem locate_eq_none_iff : locate rows k = none ↔ rows.sum ≤ k := by
  induction rows generalizing k with
  | nil => simp [locate]
  | cons n rows ih =>
    rw [locate, List.sum_cons]
    by_cases hk : k < n
    · rw [if_pos hk]
      exact iff_of_false (Option.some_ne_none _) (by omega)
    · rw [if_neg hk, Option.map_eq_none_iff, ih]
      omega

/-! ## Order -/

theorem number_lt_of_row_lt {r' : ℕ} (h : IsCell rows (r, c)) (hrow : r < r') (c' : ℕ) :
    number rows (r, c) < number rows (r', c') := by
  induction rows generalizing r r' with
  | nil => exact absurd h not_isCell_nil
  | cons n rows ih =>
    obtain ⟨r', rfl⟩ := Nat.exists_eq_add_of_lt hrow
    cases r with
    | zero =>
      rw [isCell_cons_zero] at h
      rw [Nat.zero_add, number_cons_zero, number_cons_succ]
      omega
    | succ r =>
      have hshift : r + 1 + r' + 1 = (r + r' + 1) + 1 := by omega
      rw [hshift, number_cons_succ, number_cons_succ]
      exact Nat.add_lt_add_left (ih (isCell_cons_succ.mp h) (by omega)) n

/-- Cells are numbered in lexicographic order, rows first. -/
theorem number_lt_number_iff (h : IsCell rows cell) (h' : IsCell rows cell') :
    number rows cell < number rows cell' ↔ toLex cell < toLex cell' := by
  obtain ⟨r, c⟩ := cell
  obtain ⟨r', c'⟩ := cell'
  rw [Prod.Lex.toLex_lt_toLex]
  rcases Nat.lt_trichotomy r r' with hrow | rfl | hrow
  · have := number_lt_of_row_lt h hrow c'
    simp only
    omega
  · simp [number]
  · have := number_lt_of_row_lt h' hrow c
    simp only
    omega

end K2soHead.RaggedRows
