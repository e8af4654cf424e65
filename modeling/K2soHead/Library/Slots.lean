import Mathlib.Data.List.FinRange
import Mathlib.Data.List.GetD
import Mathlib.Data.List.OfFn
import Mathlib.Logic.Function.Basic

/-!
# Tables with a blank value

A table of `n` slots holds a set: a slot with the blank value is free, and a value is put
into the first free slot.

- `entries`: the values in the table, in the order of the slots
- `Distinct`: no value twice
- `pack xs`: the table with `xs` in its first slots
-/

namespace K2soHead.Slots

variable {n : ℕ} {α : Type*} [DecidableEq α] {blank : α}

/-- The first slot with the value. -/
def first (t : Fin n → α) (a : α) : Option (Fin n) := (List.finRange n).find? fun i => t i = a

/-- The values that are not blank. -/
def entries (blank : α) (t : Fin n → α) : List α := (List.ofFn t).filter (· ≠ blank)

/-- No value is in two slots. -/
def Distinct (blank : α) (t : Fin n → α) : Prop := ∀ i j, t i = t j → t i ≠ blank → i = j

/-- The table with `xs` in its first slots. -/
def pack (n : ℕ) (blank : α) (xs : List α) : Fin n → α := fun i => xs.getD i blank

/-! ## Membership -/

theorem first_eq_some {t : Fin n → α} {a : α} {i : Fin n} (h : first t a = some i) : t i = a := by
  have hfound := List.find?_some h
  rwa [decide_eq_true_eq] at hfound

theorem first_eq_none {t : Fin n → α} {a : α} : first t a = none ↔ ∀ i, t i ≠ a := by
  rw [first, List.find?_eq_none]
  simp

theorem mem_entries {t : Fin n → α} {a : α} : a ∈ entries blank t ↔ a ≠ blank ∧ ∃ i, t i = a := by
  rw [entries, List.mem_filter, List.mem_ofFn', Set.mem_range, decide_eq_true_eq, and_comm]

theorem length_entries_le (t : Fin n → α) : (entries blank t).length ≤ n := by
  have h := List.length_filter_le (fun a => decide (a ≠ blank)) (List.ofFn t)
  rwa [List.length_ofFn] at h

/-- A table has a free slot if it holds fewer than `n` values. -/
theorem exists_blank_iff {t : Fin n → α} : (∃ i, t i = blank) ↔ (entries blank t).length < n := by
  have h := List.length_filter_lt_length_iff_exists (l := List.ofFn t)
    (p := fun a => decide (a ≠ blank))
  rw [List.length_ofFn] at h
  rw [entries, h]
  simp

/-- Two tables with the same values look the same, the blank value included. -/
theorem exists_congr_of_entries {s t : Fin n → α} (h : entries blank s = entries blank t) (a : α) :
    (∃ i, s i = a) ↔ ∃ i, t i = a := by
  by_cases ha : a = blank
  · subst ha
    rw [exists_blank_iff, exists_blank_iff, h]
  · have hmem := @mem_entries n α _ blank s a
    rw [h, mem_entries] at hmem
    simpa [ha] using hmem.symm

/-! ## Changes -/

omit [DecidableEq α] in
/-- A value that is not there yet may go into any slot. -/
theorem Distinct.update {t : Fin n → α} (h : Distinct blank t) {a : α} (ha : ∀ i, t i ≠ a)
    (i : Fin n) : Distinct blank (Function.update t i a) := by
  intro j k hjk hne
  by_cases hj : j = i <;> by_cases hk : k = i
  · rw [hj, hk]
  · rw [hj, Function.update_self, Function.update_of_ne hk] at hjk
    exact absurd hjk.symm (ha k)
  · rw [hk, Function.update_self, Function.update_of_ne hj] at hjk
    exact absurd hjk (ha j)
  · rw [Function.update_of_ne hj, Function.update_of_ne hk] at hjk
    rw [Function.update_of_ne hj] at hne
    exact h j k hjk hne

omit [DecidableEq α] in
/-- Clearing a slot makes no value appear twice. -/
theorem Distinct.clear {t : Fin n → α} (h : Distinct blank t) (i : Fin n) :
    Distinct blank (Function.update t i blank) := by
  intro j k hjk hne
  by_cases hj : j = i
  · rw [hj, Function.update_self] at hne
    exact absurd rfl hne
  · rw [Function.update_of_ne hj] at hjk hne
    by_cases hk : k = i
    · rw [hk, Function.update_self] at hjk
      exact absurd hjk hne
    · rw [Function.update_of_ne hk] at hjk
      exact h j k hjk hne

theorem Distinct.nodup_entries {t : Fin n → α} (h : Distinct blank t) :
    (entries blank t).Nodup := by
  rw [entries, List.ofFn_eq_map, List.filter_map]
  refine List.Nodup.map_on ?_ ((List.nodup_finRange n).filter _)
  intro i hi j _ hij
  rw [List.mem_filter] at hi
  exact h i j hij (by simpa using hi.2)

/-- A value goes into a free slot. -/
theorem mem_entries_put {t : Fin n → α} {i : Fin n} (hi : t i = blank) {a x : α} :
    x ∈ entries blank (Function.update t i a) ↔ x ∈ entries blank t ∨ x = a ∧ a ≠ blank := by
  rw [mem_entries, mem_entries]
  constructor
  · rintro ⟨hx, j, hj⟩
    by_cases hji : j = i
    · subst hji
      rw [Function.update_self] at hj
      subst hj
      exact .inr ⟨rfl, hx⟩
    · rw [Function.update_of_ne hji] at hj
      exact .inl ⟨hx, j, hj⟩
  · rintro (⟨hx, j, hj⟩ | ⟨rfl, hx⟩)
    · have hji : j ≠ i := by
        rintro rfl
        exact hx (hj.symm.trans hi)
      exact ⟨hx, j, by rw [Function.update_of_ne hji, hj]⟩
    · exact ⟨hx, i, Function.update_self i x t⟩

/-- The slot of a value is cleared, and no other has it. -/
theorem mem_entries_clear {t : Fin n → α} (h : Distinct blank t) {i : Fin n} {a : α} (hi : t i = a)
    {x : α} : x ∈ entries blank (Function.update t i blank) ↔ x ∈ entries blank t ∧ x ≠ a := by
  rw [mem_entries, mem_entries]
  constructor
  · rintro ⟨hx, j, hj⟩
    have hji : j ≠ i := by
      rintro rfl
      rw [Function.update_self] at hj
      exact hx hj.symm
    rw [Function.update_of_ne hji] at hj
    refine ⟨⟨hx, j, hj⟩, ?_⟩
    rintro rfl
    exact hji (h j i (hj.trans hi.symm) (hj ▸ hx))
  · rintro ⟨⟨hx, j, hj⟩, hxa⟩
    have hji : j ≠ i := by
      rintro rfl
      exact hxa (hj.symm.trans hi)
    exact ⟨hx, j, by rw [Function.update_of_ne hji, hj]⟩

/-! ## Packed tables -/

section Pack

variable {xs : List α}

omit [DecidableEq α] in
theorem pack_of_lt {i : Fin n} (hi : i.val < xs.length) : pack n blank xs i = xs[i.val] := by
  rw [pack, List.getD_eq_getElem _ _ hi]

omit [DecidableEq α] in
theorem pack_of_le {i : Fin n} (hi : xs.length ≤ i.val) : pack n blank xs i = blank := by
  rw [pack, List.getD_eq_default _ _ hi]

theorem entries_pack (hblank : blank ∉ xs) (hlength : xs.length ≤ n) :
    entries blank (pack n blank xs) = xs := by
  have hcells : List.ofFn (pack n blank xs) = xs ++ List.replicate (n - xs.length) blank := by
    refine List.ext_getElem (by simp; omega) fun i hi hi' => ?_
    rw [List.getElem_ofFn]
    by_cases hlt : i < xs.length
    · rw [pack_of_lt hlt, List.getElem_append_left hlt]
    · rw [pack_of_le (by simpa using hlt), List.getElem_append_right (by omega),
        List.getElem_replicate]
  rw [entries, hcells, List.filter_append, List.filter_eq_self.mpr, List.filter_eq_nil_iff.mpr,
    List.append_nil]
  · intro a ha
    rw [List.eq_of_mem_replicate ha]
    simp
  · intro a ha
    rw [decide_eq_true_eq]
    rintro rfl
    exact hblank ha

/-- The first free slot of a packed table is the one behind its values. -/
theorem first_blank_pack (hblank : blank ∉ xs) (hroom : xs.length < n) :
    first (pack n blank xs) blank = some ⟨xs.length, hroom⟩ := by
  rw [first, List.find?_eq_some_iff_getElem]
  refine ⟨?_, xs.length, by simpa using hroom, by simp, fun j hj => ?_⟩
  · rw [decide_eq_true_eq]
    exact pack_of_le le_rfl
  · simp only [List.getElem_finRange, Bool.not_eq_true', decide_eq_false_iff_not]
    rw [pack_of_lt (by simpa using hj)]
    exact fun heq => hblank (heq ▸ List.getElem_mem _)

omit [DecidableEq α] in
theorem update_pack (hroom : xs.length < n) (a : α) :
    Function.update (pack n blank xs) ⟨xs.length, hroom⟩ a = pack n blank (xs ++ [a]) := by
  funext i
  by_cases hi : i = ⟨xs.length, hroom⟩
  · subst hi
    rw [Function.update_self, pack_of_lt (by simp)]
    simp
  · have hne : i.val ≠ xs.length := fun h => hi (Fin.ext h)
    rw [Function.update_of_ne hi]
    by_cases hlt : i.val < xs.length
    · rw [pack_of_lt hlt, pack_of_lt (by simp; omega), List.getElem_append_left hlt]
    · rw [pack_of_le (by omega), pack_of_le (by simp; omega)]

end Pack

end K2soHead.Slots
