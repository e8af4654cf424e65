import Mathlib.Data.List.Basic
import Mathlib.Data.List.Range

/-!
# Index loops over a list

`for (i = 0; i < n; i++) body(i)` as a fold over `List.range n`, for bodies that modify or
overwrite entry `i`.
-/

namespace K2soHead.Loops

variable {α β σ : Type*}

/-- After `n` turns of a loop that modifies entry `i` in turn `i`, the first `n` are done. -/
theorem getElem?_foldl_range_modify (f : ℕ → α → α) (l : List α) (n j : ℕ) :
    ((List.range n).foldl (fun l i => l.modify i (f i)) l)[j]? =
      if j < n then l[j]?.map (f j) else l[j]? := by
  induction n with
  | zero => simp
  | succ n ih =>
    rw [List.range_succ, List.foldl_append, List.foldl_cons, List.foldl_nil,
      List.getElem?_modify, ih]
    -- turn `n` reaches entry `n` and no other
    by_cases hj : n = j
    · subst hj
      simp
    · have hlt : j < n + 1 ↔ j < n := by omega
      simp [hj, hlt]

/-- The loop over all entries is `mapIdx`. -/
theorem foldl_range_modify (f : ℕ → α → α) (l : List α) :
    (List.range l.length).foldl (fun l i => l.modify i (f i)) l = l.mapIdx f := by
  apply List.ext_getElem?
  intro j
  rw [getElem?_foldl_range_modify, List.getElem?_mapIdx]
  split
  · rfl
  · rename_i h
    rw [List.getElem?_eq_none (Nat.le_of_not_lt h), Option.map_none]

/-- `mapIdx` with a function that ignores the index. -/
theorem mapIdx_ignore (f : α → β) (l : List α) : l.mapIdx (fun _ => f) = l.map f := by
  apply List.ext_getElem?
  intro j
  rw [List.getElem?_mapIdx, List.getElem?_map]

theorem mapIdx_map {γ : Type*} (f : ℕ → β → γ) (g : α → β) (l : List α) :
    (l.map g).mapIdx f = l.mapIdx fun i a => f i (g a) := by
  apply List.ext_getElem?
  intro j
  rw [List.getElem?_mapIdx, List.getElem?_map, List.getElem?_mapIdx, Option.map_map]
  rfl

/-- Rewriting every entry keeps a projection that each rewriting keeps. -/
theorem map_mapIdx_of_keeps {proj : α → β} {f : ℕ → α → α} (hf : ∀ i a, proj (f i a) = proj a)
    (l : List α) : (l.mapIdx f).map proj = l.map proj := by
  apply List.ext_getElem?
  intro j
  rw [List.getElem?_map, List.getElem?_mapIdx, List.getElem?_map, Option.map_map]
  congr 1
  funext a
  exact hf j a

/-- A list known entry by entry as the image of another. -/
theorem eq_mapIdx_of_getElem? {l : List α} {l' : List β} {f : ℕ → α → β}
    (h : ∀ i, l'[i]? = l[i]?.map (f i)) : l' = l.mapIdx f := by
  apply List.ext_getElem?
  intro i
  rw [h, List.getElem?_mapIdx]

/-- A loop that overwrites every entry forgets the list it started from. -/
theorem foldl_range_set (f : ℕ → α) (l : List α) :
    (List.range l.length).foldl (fun l i => l.set i (f i)) l = (List.range l.length).map f := by
  have hset : (fun (l : List α) i => l.set i (f i)) = fun l i => l.modify i fun _ => f i := by
    funext l i
    exact List.set_eq_modify (f i) i l
  rw [hset, foldl_range_modify]
  apply List.ext_getElem?
  intro j
  rw [List.getElem?_mapIdx, List.getElem?_map]
  by_cases hj : j < l.length
  · simp [hj]
  · simp [Nat.le_of_not_lt hj]

/-- Modifying one entry keeps a projection that the modification keeps. -/
theorem map_modify {proj : α → β} {f : α → α} (hf : ∀ a, proj (f a) = proj a) (i : ℕ)
    (l : List α) : (l.modify i f).map proj = l.map proj := by
  apply List.ext_getElem?
  intro j
  rw [List.getElem?_map, List.getElem?_modify, List.getElem?_map]
  cases l[j]? with
  | none => rfl
  | some a => by_cases hij : i = j <;> simp [hij, hf]

/-- A fold preserves what every turn of it preserves. -/
theorem foldl_keeps {P : σ → Prop} {body : σ → β → σ} (hbody : ∀ s b, P s → P (body s b))
    (bs : List β) {s : σ} (hs : P s) : P (bs.foldl body s) := by
  induction bs generalizing s with
  | nil => exact hs
  | cons b bs ih => exact ih (hbody s b hs)

/-- A projection no turn of a fold changes is the same at the end. -/
theorem foldl_proj_eq {γ : Type*} {proj : σ → γ} {body : σ → β → σ}
    (hbody : ∀ s b, proj (body s b) = proj s) (bs : List β) (s : σ) :
    proj (bs.foldl body s) = proj s :=
  foldl_keeps (P := fun s' => proj s' = proj s) (fun s' b h => (hbody s' b).trans h) bs rfl

end K2soHead.Loops
