import Mathlib.Data.List.Basic

/-!
# Append-only logs

A log is a list, oldest entry first, that only ever grows at its end.

- `Justified allows log`: every entry is allowed by the ones before it
- `last? f log`: the latest entry that `f` reads something from, as `f` reads it

Both are known of a log as soon as they are known of the shorter one and of the entry that
was added: `justified_concat` and `last?_concat`.
-/

namespace K2soHead.Logs

variable {α β : Type*}

/-- Every entry is allowed by the ones before it. -/
def Justified (allows : List α → α → Prop) (log : List α) : Prop :=
  ∀ before a after, log = before ++ a :: after → allows before a

/-- What `f` reads from the latest entry it reads anything from. -/
def last? (f : α → Option β) (log : List α) : Option β := (log.filterMap f).getLast?

theorem justified_nil (allows : List α → α → Prop) : Justified allows [] := by
  intro before a after h
  simp at h

theorem justified_concat (allows : List α → α → Prop) (log : List α) (a : α) :
    Justified allows (log ++ [a]) ↔ Justified allows log ∧ allows log a := by
  constructor
  · intro h
    refine ⟨?_, h log a [] rfl⟩
    intro before x after hlog
    exact h before x (after ++ [a]) (by simp [hlog])
  · rintro ⟨hlog, ha⟩ before x after heq
    -- the entry is the new one exactly when nothing follows it
    rcases List.eq_nil_or_concat after with rfl | ⟨after, y, rfl⟩
    · obtain ⟨rfl, hx⟩ := List.append_inj' heq rfl
      obtain rfl : a = x := by simpa using hx
      exact ha
    · rw [List.concat_eq_append, ← List.cons_append, ← List.append_assoc] at heq
      exact hlog before x after (List.append_inj' heq rfl).1

@[simp] theorem last?_concat (f : α → Option β) (log : List α) (a : α) :
    last? f (log ++ [a]) = (f a).or (last? f log) := by
  unfold last?
  rw [List.filterMap_append, List.getLast?_append]
  cases h : f a <;> simp [h]

end K2soHead.Logs
