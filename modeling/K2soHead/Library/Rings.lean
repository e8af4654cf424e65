import Mathlib.Data.Fin.Basic
import Mathlib.Data.List.Basic
import Mathlib.Logic.Function.Basic

/-!
# Rings of cells

A ring hands out its cells in turn.  Entries lie from `head` up to, and not including,
`tail`; one cell always stays free, so that an empty ring and a full one differ.

- `walk i k`: the cell `k` steps after `i`
- `Holds`: a ring and the entries that are in it, oldest first
-/

namespace K2soHead

namespace Ring

variable {n : ℕ}

/-- The cell after `i`. -/
def next (i : Fin n) : Fin n := if h : i.val + 1 < n then ⟨i.val + 1, h⟩ else ⟨0, i.pos⟩

/-- The cell `k` steps after `i`. -/
def walk (i : Fin n) : ℕ → Fin n
  | 0 => i
  | k + 1 => walk (next i) k

@[simp] theorem walk_zero (i : Fin n) : walk i 0 = i := rfl

theorem walk_succ (i : Fin n) (k : ℕ) : walk i (k + 1) = walk (next i) k := rfl

theorem walk_succ' (i : Fin n) (k : ℕ) : walk i (k + 1) = next (walk i k) := by
  induction k generalizing i with
  | zero => rfl
  | succ k ih => rw [walk_succ, ih, walk_succ]

theorem next_val (i : Fin n) : (next i).val = if i.val + 1 < n then i.val + 1 else 0 := by
  unfold next
  split <;> rfl

/-- Within one round, a walk wraps at most once. -/
theorem walk_val (i : Fin n) {k : ℕ} (hk : k < n) :
    (walk i k).val = if i.val + k < n then i.val + k else i.val + k - n := by
  induction k with
  | zero =>
    have hi := i.isLt
    rw [walk_zero, if_pos (by omega)]
    rfl
  | succ k ih =>
    have hi := i.isLt
    rw [walk_succ', next_val, ih (by omega)]
    split_ifs <;> omega

/-- Within one round, a walk meets no cell twice. -/
theorem walk_inj {i : Fin n} {j k : ℕ} (hj : j < n) (hk : k < n) :
    walk i j = walk i k ↔ j = k := by
  refine ⟨fun h => ?_, fun h => by rw [h]⟩
  have hval := congrArg Fin.val h
  have hi := i.isLt
  rw [walk_val i hj, walk_val i hk] at hval
  split_ifs at hval <;> omega

variable {α : Type*}

/-- The entries in `k` cells from `i` on. -/
def entries (cells : Fin n → α) (i : Fin n) (k : ℕ) : List α :=
  (List.range k).map fun j => cells (walk i j)

theorem entries_succ (cells : Fin n → α) (i : Fin n) (k : ℕ) :
    entries cells i (k + 1) = cells i :: entries cells (next i) k := by
  rw [entries, List.range_succ_eq_map, List.map_cons, List.map_map, walk_zero]
  rfl

/-- Writing the cell behind the entries adds one, and changes none of them. -/
theorem entries_update (cells : Fin n → α) (i : Fin n) {k : ℕ} (hk : k < n) (a : α) :
    entries (Function.update cells (walk i k) a) i (k + 1) = entries cells i k ++ [a] := by
  rw [entries, List.range_succ, List.map_append, List.map_singleton, Function.update_self, entries]
  congr 1
  refine List.map_congr_left fun j hj => ?_
  rw [List.mem_range] at hj
  exact Function.update_of_ne ((walk_inj (hj.trans hk) hk).not.mpr hj.ne) a cells

/-- The entries `xs` lie from `head` to `tail`. -/
structure Holds (cells : Fin n → α) (head tail : Fin n) (xs : List α) : Prop where
  room : xs.length < n
  tail : tail = walk head xs.length
  entries : entries cells head xs.length = xs

namespace Holds

variable {cells : Fin n → α} {head tail : Fin n} {xs : List α}

/-- A ring is empty where `head` meets `tail`. -/
theorem start (cells : Fin n → α) (i : Fin n) : Holds cells i i [] := ⟨i.pos, rfl, rfl⟩

theorem head_eq_tail_iff (h : Holds cells head tail xs) : head = tail ↔ xs = [] := by
  rw [h.tail, ← List.length_eq_zero_iff]
  exact (walk_inj head.pos h.room).trans eq_comm

/-- A ring is full if one more step would meet `head`. -/
theorem next_eq_head_iff (h : Holds cells head tail xs) :
    next tail = head ↔ xs.length + 1 = n := by
  have hi := head.isLt
  have hroom := h.room
  rw [h.tail, ← walk_succ', Fin.ext_iff]
  by_cases hfull : xs.length + 1 = n
  · rw [walk_succ', next_val, walk_val head h.room]
    refine iff_of_true ?_ hfull
    split_ifs <;> omega
  · rw [walk_val head (by omega)]
    refine iff_of_false ?_ hfull
    split <;> omega

theorem put (h : Holds cells head tail xs) (hroom : xs.length + 1 < n) (a : α) :
    Holds (Function.update cells tail a) head (next tail) (xs ++ [a]) where
  room := by rwa [List.length_append, List.length_singleton]
  tail := by rw [List.length_append, List.length_singleton, walk_succ', h.tail]
  entries := by
    rw [List.length_append, List.length_singleton, h.tail, entries_update cells head h.room,
      h.entries]

theorem head_eq {a : α} (h : Holds cells head tail (a :: xs)) : cells head = a := by
  have hentries := h.entries
  rw [List.length_cons, entries_succ] at hentries
  exact (List.cons.inj hentries).1

theorem get {a : α} (h : Holds cells head tail (a :: xs)) : Holds cells (next head) tail xs where
  room := (Nat.lt_succ_self _).trans h.room
  tail := h.tail
  entries := by
    have hentries := h.entries
    rw [List.length_cons, entries_succ] at hentries
    exact (List.cons.inj hentries).2

end Holds

end Ring

end K2soHead
