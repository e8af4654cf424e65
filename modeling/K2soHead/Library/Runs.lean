import Mathlib.Data.List.Basic

/-!
# Runs of deterministic systems

A deterministic system is a step function `σ → ι → σ`.  A run feeds it a list of
inputs, oldest first.  Three ways of speaking about a run are used:

- `run step s is`: the state at the end
- `Along step p s is`: `p` holds of every (state, input) pair the run meets
- `hits step p s is`: the inputs at which `p` holds

The invariant rules below turn one step lemma into a statement about whole runs, and
`along_congr` does the same for an equivalence that only holds where an invariant does.
-/

namespace K2soHead.Runs

variable {σ ι : Type*} {step : σ → ι → σ}

/-- State reached from `s` after the inputs `is`. -/
def run (step : σ → ι → σ) (s : σ) (is : List ι) : σ :=
  is.foldl step s

/-- `p` holds of every state the run meets together with the input it meets there. -/
def Along (step : σ → ι → σ) (p : σ → ι → Prop) : σ → List ι → Prop
  | _, [] => True
  | s, i :: is => p s i ∧ Along step p (step s i) is

@[simp] theorem run_nil (s : σ) : run step s [] = s := rfl

@[simp] theorem run_cons (s : σ) (i : ι) (is : List ι) :
    run step s (i :: is) = run step (step s i) is := rfl

theorem run_append (s : σ) (is js : List ι) :
    run step s (is ++ js) = run step (run step s is) js := by
  simp [run, List.foldl_append]

theorem run_concat (s : σ) (is : List ι) (i : ι) :
    run step s (is ++ [i]) = step (run step s is) i := by
  rw [run_append, run_cons, run_nil]

@[simp] theorem along_nil (p : σ → ι → Prop) (s : σ) : Along step p s [] := trivial

@[simp] theorem along_cons (p : σ → ι → Prop) (s : σ) (i : ι) (is : List ι) :
    Along step p s (i :: is) ↔ p s i ∧ Along step p (step s i) is := Iff.rfl

/-- Along a concrete run a decidable property can be evaluated. -/
instance decidableAlong (p : σ → ι → Prop) [∀ s i, Decidable (p s i)] :
    ∀ s is, Decidable (Along step p s is)
  | _, [] => .isTrue trivial
  | s, i :: is =>
      have := decidableAlong p (step s i) is
      inferInstanceAs (Decidable (p s i ∧ Along step p (step s i) is))

theorem along_append (p : σ → ι → Prop) (s : σ) (is js : List ι) :
    Along step p s (is ++ js) ↔ Along step p s is ∧ Along step p (run step s is) js := by
  induction is generalizing s with
  | nil => simp
  | cons i is ih => simp only [List.cons_append, along_cons, run_cons, ih, and_assoc]

theorem along_and {p q : σ → ι → Prop} {s : σ} {is : List ι} :
    Along step (fun s i => p s i ∧ q s i) s is ↔ Along step p s is ∧ Along step q s is := by
  induction is generalizing s with
  | nil => simp
  | cons i is ih => simp only [along_cons, ih, and_and_and_comm]

/-- A property of every input of the list holds along the run. -/
theorem along_of_forall {p : σ → ι → Prop} (h : ∀ s i, p s i) (s : σ) (is : List ι) :
    Along step p s is := by
  induction is generalizing s with
  | nil => trivial
  | cons i is ih => exact ⟨h s i, ih (step s i)⟩

theorem along_of_forall_mem {q : ι → Prop} {is : List ι} (h : ∀ i ∈ is, q i) (s : σ) :
    Along step (fun _ i => q i) s is := by
  induction is generalizing s with
  | nil => trivial
  | cons i is ih =>
    exact ⟨h i List.mem_cons_self, ih (fun j hj => h j (List.mem_cons_of_mem i hj)) _⟩

/-- The inputs at which `p` holds, oldest first. -/
def hits (step : σ → ι → σ) (p : σ → ι → Prop) [∀ s i, Decidable (p s i)] : σ → List ι → List ι
  | _, [] => []
  | s, i :: is => if p s i then i :: hits step p (step s i) is else hits step p (step s i) is

/-! ## Invariants -/

/-- An invariant every step keeps holds at the end of every run. -/
theorem inv_run {Inv : σ → Prop} (hstep : ∀ s i, Inv s → Inv (step s i))
    {s : σ} (hs : Inv s) (is : List ι) : Inv (run step s is) := by
  induction is generalizing s with
  | nil => exact hs
  | cons i is ih => exact ih (hstep s i hs)

/-- An invariant kept by the steps that meet `p` holds at the end of every run along `p`. -/
theorem inv_run_of_along {Inv : σ → Prop} {p : σ → ι → Prop}
    (hstep : ∀ s i, Inv s → p s i → Inv (step s i))
    {s : σ} (hs : Inv s) {is : List ι} (hp : Along step p s is) : Inv (run step s is) := by
  induction is generalizing s with
  | nil => exact hs
  | cons i is ih => exact ih (hstep s i hs hp.1) hp.2

/-- On runs along `r`, what an invariant gives for one step it gives along the run. -/
theorem along_of_inv {Inv : σ → Prop} {r p : σ → ι → Prop}
    (hkeep : ∀ s i, Inv s → r s i → Inv (step s i)) (hp : ∀ s i, Inv s → r s i → p s i)
    {s : σ} (hs : Inv s) {is : List ι} (hr : Along step r s is) : Along step p s is := by
  induction is generalizing s with
  | nil => trivial
  | cons i is ih => exact ⟨hp s i hs hr.1, ih (hkeep s i hs hr.1) hr.2⟩

/-- Two step properties that agree on an invariant agree along every run. -/
theorem along_congr {Inv : σ → Prop} {p q : σ → ι → Prop}
    (hstep : ∀ s i, Inv s → Inv (step s i)) (hpq : ∀ s i, Inv s → (p s i ↔ q s i))
    {s : σ} (hs : Inv s) (is : List ι) : Along step p s is ↔ Along step q s is := by
  induction is generalizing s with
  | nil => exact Iff.rfl
  | cons i is ih =>
    rw [along_cons, along_cons, hpq s i hs, ih (hstep s i hs)]

/-- On runs along `r`, two step properties agree if they agree wherever the invariant holds
that the first of them keeps. -/
theorem along_congr_of_kept {Inv : σ → Prop} {r p q : σ → ι → Prop}
    (hkeep : ∀ s i, Inv s → r s i → p s i → Inv (step s i))
    (hpq : ∀ s i, Inv s → r s i → (p s i ↔ q s i))
    {s : σ} (hs : Inv s) {is : List ι} (hr : Along step r s is) :
    Along step p s is ↔ Along step q s is := by
  induction is generalizing s with
  | nil => exact Iff.rfl
  | cons i is ih =>
    -- the rest of the run only matters where this step satisfies `p`, and there `Inv` is kept
    rw [along_cons, along_cons, ← hpq s i hs hr.1]
    exact and_congr_right fun hp => ih (hkeep s i hs hr.1 hp) hr.2

/-! ## Outputs -/

/-- What the steps of a run put out, oldest first. -/
def outputs {ο : Type*} (step : σ → ι → σ) (out : σ → ι → List ο) : σ → List ι → List ο
  | _, [] => []
  | s, i :: is => out s i ++ outputs step out (step s i) is

@[simp] theorem outputs_nil {ο : Type*} (out : σ → ι → List ο) (s : σ) :
    outputs step out s [] = [] := rfl

@[simp] theorem outputs_cons {ο : Type*} (out : σ → ι → List ο) (s : σ) (i : ι) (is : List ι) :
    outputs step out s (i :: is) = out s i ++ outputs step out (step s i) is := rfl

end K2soHead.Runs
