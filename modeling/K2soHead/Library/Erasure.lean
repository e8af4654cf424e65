import K2soHead.Library.Runs
import K2soHead.Library.Loops

/-!
# Steps that do not read what is erased

Two runs look alike from outside when the state they differ in is never read.  An `Eraser`
blanks that part of a state and says what the state has put out so far; a step is `Blind`
if what it leaves, erased, and what it puts out can be computed from the erased state.
Blind steps compose, and blind runs from states that agree after erasing put out the same.
-/

namespace K2soHead.Erasure

open Runs Loops

variable {σ τ ι α ο : Type*}

/-- A part of the state to blank, the output so far, and the states in question. -/
structure Eraser (σ ο : Type*) where
  erase : σ → σ
  output : σ → List ο
  Inv : σ → Prop
  erase_erase : ∀ s, erase (erase s) = erase s
  output_erase : ∀ s, output (erase s) = []
  inv_erase : ∀ s, Inv (erase s) ↔ Inv s

/-- `f` works on what is left after erasing. -/
structure Blind (E : Eraser σ ο) (f : σ → σ) : Prop where
  erase_eq : ∀ s, E.Inv s → E.erase (f s) = E.erase (f (E.erase s))
  output_eq : ∀ s, E.Inv s → E.output (f s) = E.output s ++ E.output (f (E.erase s))
  keeps : ∀ s, E.Inv s → E.Inv (f s)

namespace Blind

variable {E : Eraser σ ο}

theorem id : Blind E fun s => s where
  erase_eq s _ := (E.erase_erase s).symm
  output_eq s _ := by rw [E.output_erase, List.append_nil]
  keeps _ hs := hs

theorem comp {f g : σ → σ} (hf : Blind E f) (hg : Blind E g) : Blind E fun s => g (f s) where
  erase_eq s hs := by
    have hs' : E.Inv (E.erase s) := (E.inv_erase s).mpr hs
    -- erase between the two steps on either side
    rw [hg.erase_eq _ (hf.keeps s hs), hf.erase_eq s hs, ← hg.erase_eq _ (hf.keeps _ hs')]
  output_eq s hs := by
    have hs' : E.Inv (E.erase s) := (E.inv_erase s).mpr hs
    rw [hg.output_eq _ (hf.keeps s hs), hg.output_eq _ (hf.keeps _ hs'), hf.erase_eq s hs,
      hf.output_eq s hs, List.append_assoc]
  keeps s hs := hg.keeps _ (hf.keeps s hs)

/-- A parameter read off the state may be read if erasing leaves it alone. -/
theorem reading {k : σ → α} {g : α → σ → σ} (hk : ∀ s, k (E.erase s) = k s)
    (hg : ∀ a, Blind E (g a)) : Blind E fun s => g (k s) s where
  erase_eq s hs := by rw [hk]; exact (hg (k s)).erase_eq s hs
  output_eq s hs := by rw [hk]; exact (hg (k s)).output_eq s hs
  keeps s hs := (hg (k s)).keeps s hs

/-- The same for a test. -/
theorem ite {c : σ → Prop} [DecidablePred c] {f g : σ → σ} (hc : ∀ s, c (E.erase s) ↔ c s)
    (hf : Blind E f) (hg : Blind E g) : Blind E fun s => if c s then f s else g s := by
  have hbranch : ∀ q : Prop, [Decidable q] → Blind E fun s => if q then f s else g s := by
    intro q _
    by_cases hq : q
    · simpa only [if_pos hq] using hf
    · simpa only [if_neg hq] using hg
  exact ⟨fun s hs => by simpa only [hc] using (hbranch (c s)).erase_eq s hs,
    fun s hs => by simpa only [hc] using (hbranch (c s)).output_eq s hs,
    fun s hs => (hbranch (c s)).keeps s hs⟩

theorem foldl {body : σ → ι → σ} (h : ∀ i, Blind E fun s => body s i) (is : List ι) :
    Blind E fun s => is.foldl body s := by
  induction is with
  | nil => exact Blind.id
  | cons i is ih => exact (h i).comp ih

/-- A step with no output of its own. -/
theorem of_silent {f : σ → σ} (herase : ∀ s, E.erase (f s) = E.erase (f (E.erase s)))
    (houtput : ∀ s, E.output (f s) = E.output s) (hkeeps : ∀ s, E.Inv s → E.Inv (f s)) :
    Blind E f where
  erase_eq s _ := herase s
  output_eq s _ := by rw [houtput, houtput, E.output_erase, List.append_nil]
  keeps := hkeeps

/-- A silent step that commutes with erasing. -/
theorem of_commutes {f : σ → σ} (hf : ∀ s, f (E.erase s) = E.erase (f s))
    (houtput : ∀ s, E.output (f s) = E.output s) (hkeeps : ∀ s, E.Inv s → E.Inv (f s)) :
    Blind E f :=
  of_silent (fun s => by rw [hf, E.erase_erase]) houtput hkeeps

/-- Blind steps put out the same from states that agree after erasing. -/
theorem same_output {f : σ → σ} (hf : Blind E f) {s t : σ} (hs : E.Inv s)
    (hst : E.erase s = E.erase t) :
    ∃ new, E.output (f s) = E.output s ++ new ∧ E.output (f t) = E.output t ++ new := by
  have ht : E.Inv t := by
    rw [← E.inv_erase, ← hst, E.inv_erase]
    exact hs
  exact ⟨_, hf.output_eq s hs, by rw [hf.output_eq t ht, hst]⟩

theorem run {step : σ → ι → σ} (h : ∀ i, Blind E fun s => step s i) (is : List ι) :
    Blind E fun s => run step s is :=
  foldl h is

end Blind

/-- `σ` is a part of `τ`: erasing the whole erases the part, and all output is the part's. -/
structure Part (E' : Eraser τ ο) (E : Eraser σ ο) where
  get : τ → σ
  set : τ → σ → τ
  get_set : ∀ t s, get (set t s) = s
  get_erase : ∀ t, get (E'.erase t) = E.erase (get t)
  erase_set : ∀ t s, E'.erase (set t s) = set (E'.erase t) (E.erase s)
  output_eq : ∀ t, E'.output t = E.output (get t)
  inv_iff : ∀ t, E'.Inv t ↔ E.Inv (get t)

/-- What is blind on a part is blind on the whole. -/
theorem Part.lift {E' : Eraser τ ο} {E : Eraser σ ο} (p : Part E' E) {f : σ → σ}
    (hf : Blind E f) : Blind E' fun t => p.set t (f (p.get t)) where
  erase_eq t ht := by
    rw [p.erase_set, p.erase_set, p.get_erase, E'.erase_erase,
      hf.erase_eq _ ((p.inv_iff t).mp ht)]
  output_eq t ht := by
    rw [p.output_eq, p.output_eq t, p.output_eq, p.get_set, p.get_set, p.get_erase,
      hf.output_eq _ ((p.inv_iff t).mp ht)]
  keeps t ht := by
    rw [p.inv_iff, p.get_set]
    exact hf.keeps _ ((p.inv_iff t).mp ht)

end K2soHead.Erasure
