import K2soHead.Library.Runs
import Mathlib.Data.Finset.Card
import Mathlib.Data.Fintype.EquivFin
import Mathlib.Logic.Function.Basic

/-!
# Seats and who sits on them

Owners take seats, one each, and give them back.  Two accidents are possible: an owner
forgets its seat without giving it back (`forget`), and a seat is taken for nobody (`leak`).
Either way the seat is stranded, and since only an owner gives a seat back, it stays so.

- `Move s l s'`: what one step can do, labelled with the seats it strands
- `stranded_of_simulates`: the seats stranded after a run are the labels it met
- `exists_seat_of_full`: with no seat stranded, a full table has seated everybody
-/

namespace K2soHead

open Runs

/-- The seats that are taken and the seat of each owner. -/
structure Seating (δ κ : Type*) where
  taken : Finset κ
  seat : δ → Option κ
  /-- an owner sits on a taken seat -/
  mem_taken : ∀ {d k}, seat d = some k → k ∈ taken
  /-- no two owners share one -/
  owner_unique : ∀ {d e k}, seat d = some k → seat e = some k → d = e

namespace Seating

variable {δ κ : Type*}

@[ext] theorem ext {s t : Seating δ κ} (htaken : s.taken = t.taken) (hseat : s.seat = t.seat) :
    s = t := by
  cases s
  cases t
  cases htaken
  cases hseat
  rfl

/-- Nobody is seated. -/
def empty : Seating δ κ where
  taken := ∅
  seat _ := none
  mem_taken h := by cases h
  owner_unique h := by cases h

/-- `d` stands up and keeps nothing, whatever becomes of the seat. -/
theorem seat_of_update_none [DecidableEq δ] {s : Seating δ κ} {d e : δ} {j : κ}
    (he : Function.update s.seat d none e = some j) : e ≠ d ∧ s.seat e = some j := by
  by_cases hed : e = d
  · subst hed
    rw [Function.update_self] at he
    cases he
  · rw [Function.update_of_ne hed] at he
    exact ⟨hed, he⟩

section Moves

variable [DecidableEq δ] [DecidableEq κ]

/-- `d` sits down on the free seat `k`. -/
def claim (s : Seating δ κ) (d : δ) (k : κ) (hk : k ∉ s.taken) : Seating δ κ where
  taken := insert k s.taken
  seat := Function.update s.seat d (some k)
  mem_taken := by
    intro e j he
    by_cases hed : e = d
    · subst hed
      rw [Function.update_self, Option.some.injEq] at he
      exact he ▸ Finset.mem_insert_self k s.taken
    · rw [Function.update_of_ne hed] at he
      exact Finset.mem_insert_of_mem (s.mem_taken he)
  owner_unique := by
    intro e f j he hf
    -- the seat was free, so whoever else sits on it would contradict `mem_taken`
    have hfresh : ∀ g, s.seat g ≠ some k := fun g hg => hk (s.mem_taken hg)
    by_cases hed : e = d <;> by_cases hfd : f = d
    · rw [hed, hfd]
    · subst hed
      rw [Function.update_self, Option.some.injEq] at he
      rw [Function.update_of_ne hfd, ← he] at hf
      exact absurd hf (hfresh f)
    · subst hfd
      rw [Function.update_self, Option.some.injEq] at hf
      rw [Function.update_of_ne hed, ← hf] at he
      exact absurd he (hfresh e)
    · rw [Function.update_of_ne hed] at he
      rw [Function.update_of_ne hfd] at hf
      exact s.owner_unique he hf

@[simp] theorem seat_claim (s : Seating δ κ) (d : δ) {k : κ} (hk : k ∉ s.taken) :
    (s.claim d k hk).seat = Function.update s.seat d (some k) := rfl

/-- `d` gives its seat `k` back. -/
def release (s : Seating δ κ) (d : δ) (k : κ) (hd : s.seat d = some k) : Seating δ κ where
  taken := s.taken.erase k
  seat := Function.update s.seat d none
  mem_taken := by
    intro e j he
    obtain ⟨hed, hseat⟩ := seat_of_update_none he
    refine Finset.mem_erase.mpr ⟨?_, s.mem_taken hseat⟩
    rintro rfl
    exact hed (s.owner_unique hseat hd)
  owner_unique he hf :=
    s.owner_unique (seat_of_update_none he).2 (seat_of_update_none hf).2

/-- `d` leaves its seat taken behind it. -/
def forget (s : Seating δ κ) (d : δ) : Seating δ κ where
  taken := s.taken
  seat := Function.update s.seat d none
  mem_taken he := s.mem_taken (seat_of_update_none he).2
  owner_unique he hf :=
    s.owner_unique (seat_of_update_none he).2 (seat_of_update_none hf).2

/-- The free seat `k` is taken for nobody. -/
def leak (s : Seating δ κ) (k : κ) : Seating δ κ where
  taken := insert k s.taken
  seat := s.seat
  mem_taken he := Finset.mem_insert_of_mem (s.mem_taken he)
  owner_unique := s.owner_unique

/-- What a step can do to the seating, with the seats it strands. -/
inductive Move (s : Seating δ κ) : List κ → Seating δ κ → Prop
  | still : Move s [] s
  | claim (d : δ) (k : κ) (hk : k ∉ s.taken) (hd : s.seat d = none) : Move s [] (s.claim d k hk)
  | release (d : δ) (k : κ) (hd : s.seat d = some k) : Move s [] (s.release d k hd)
  | forget (d : δ) (k : κ) (hd : s.seat d = some k) : Move s [k] (s.forget d)
  | leak (k : κ) (hk : k ∉ s.taken) : Move s [k] (s.leak k)

end Moves

/-! ## Stranded seats -/

/-- Taken, and nobody sits there. -/
def stranded (s : Seating δ κ) : Set κ := {k | k ∈ s.taken ∧ ∀ d, s.seat d ≠ some k}

@[simp] theorem stranded_empty : (empty : Seating δ κ).stranded = ∅ := by
  ext k
  simp [stranded, empty]

section Stranded

variable [DecidableEq δ] [DecidableEq κ] {s s' : Seating δ κ}

theorem stranded_claim {d : δ} {k : κ} (hk : k ∉ s.taken) (hd : s.seat d = none) :
    (s.claim d k hk).stranded = s.stranded := by
  ext j
  constructor
  · rintro ⟨hj, hfree⟩
    have hjk : j ≠ k := by
      rintro rfl
      exact hfree d (Function.update_self d _ s.seat)
    refine ⟨Finset.mem_of_mem_insert_of_ne hj hjk, fun e he => ?_⟩
    have hed : e ≠ d := by
      rintro rfl
      rw [hd] at he
      cases he
    exact hfree e ((Function.update_of_ne hed _ _).trans he)
  · rintro ⟨hj, hfree⟩
    refine ⟨Finset.mem_insert_of_mem hj, fun e he => ?_⟩
    by_cases hed : e = d
    · subst hed
      rw [seat_claim, Function.update_self, Option.some.injEq] at he
      exact hk (he ▸ hj)
    · rw [seat_claim, Function.update_of_ne hed] at he
      exact hfree e he

theorem stranded_release {d : δ} {k : κ} (hd : s.seat d = some k) :
    (s.release d k hd).stranded = s.stranded := by
  ext j
  constructor
  · rintro ⟨hj, hfree⟩
    obtain ⟨hjk, hj⟩ := Finset.mem_erase.mp hj
    refine ⟨hj, fun e he => ?_⟩
    have hed : e ≠ d := by
      rintro rfl
      exact hjk (Option.some.inj (he.symm.trans hd))
    exact hfree e ((Function.update_of_ne hed _ _).trans he)
  · rintro ⟨hj, hfree⟩
    refine ⟨Finset.mem_erase.mpr ⟨?_, hj⟩, fun e he => hfree e (seat_of_update_none he).2⟩
    rintro rfl
    exact hfree d hd

theorem stranded_forget {d : δ} {k : κ} (hd : s.seat d = some k) :
    (s.forget d).stranded = s.stranded ∪ {k} := by
  ext j
  constructor
  · rintro ⟨hj, hfree⟩
    by_cases hjk : j = k
    · exact .inr hjk
    · refine .inl ⟨hj, fun e he => ?_⟩
      have hed : e ≠ d := by
        rintro rfl
        exact hjk (Option.some.inj (he.symm.trans hd))
      exact hfree e ((Function.update_of_ne hed _ _).trans he)
  · rintro (⟨hj, hfree⟩ | rfl)
    · exact ⟨hj, fun e he => hfree e (seat_of_update_none he).2⟩
    · refine ⟨s.mem_taken hd, fun e he => ?_⟩
      obtain ⟨hed, hseat⟩ := seat_of_update_none he
      exact hed (s.owner_unique hseat hd)

omit [DecidableEq δ] in
theorem stranded_leak {k : κ} (hk : k ∉ s.taken) : (s.leak k).stranded = s.stranded ∪ {k} := by
  ext j
  constructor
  · rintro ⟨hj, hfree⟩
    rcases Finset.mem_insert.mp hj with rfl | hj
    · exact .inr rfl
    · exact .inl ⟨hj, hfree⟩
  · rintro (⟨hj, hfree⟩ | rfl)
    · exact ⟨Finset.mem_insert_of_mem hj, hfree⟩
    · exact ⟨Finset.mem_insert_self _ _, fun e he => hk (s.mem_taken he)⟩

/-- A step strands what its label says, and rescues nothing. -/
theorem Move.stranded_eq {l : List κ} (h : Move s l s') :
    s'.stranded = s.stranded ∪ {k | k ∈ l} := by
  cases h with
  | still => simp
  | claim d k hk hd => simp [stranded_claim hk hd]
  | release d k hd => simp [stranded_release hd]
  | forget d k hd => simp [stranded_forget hd]
  | leak k hk => simp [stranded_leak hk]

/-- A system whose steps are moves: after a run, what is stranded is what was stranded before
and the seats the run lost. -/
theorem stranded_of_simulates {σ ι : Type*} {step : σ → ι → σ} {lost : σ → ι → List κ}
    {Seats : σ → Seating δ κ → Prop}
    (hsim : ∀ x i s, Seats x s → ∃ s', Move s (lost x i) s' ∧ Seats (step x i) s')
    {x : σ} (hx : Seats x s) (is : List ι) :
    ∃ s', Seats (run step x is) s' ∧
      s'.stranded = s.stranded ∪ {k | k ∈ outputs step lost x is} := by
  induction is generalizing x s with
  | nil => exact ⟨s, hx, by simp⟩
  | cons i is ih =>
    obtain ⟨t, hmove, ht⟩ := hsim x i s hx
    obtain ⟨s', hs', hstranded⟩ := ih ht
    refine ⟨s', hs', ?_⟩
    rw [hstranded, hmove.stranded_eq, Set.union_assoc]
    congr 1
    ext k
    simp

end Stranded

/-! ## A full table -/

/-- If no seat is stranded and there are no fewer seats than owners, a full table has a seat
for every owner. -/
theorem exists_seat_of_full [Fintype δ] [Fintype κ] {s : Seating δ κ} (hnone : s.stranded = ∅)
    (hfull : s.taken = Finset.univ) (hcard : Fintype.card δ ≤ Fintype.card κ) (d : δ) :
    ∃ k, s.seat d = some k := by
  have howned : ∀ k, ∃ e, s.seat e = some k := by
    intro k
    by_contra hfree
    have hk : k ∈ s.stranded := ⟨hfull ▸ Finset.mem_univ k, fun e he => hfree ⟨e, he⟩⟩
    rw [hnone] at hk
    exact hk
  choose owner howner using howned
  have hinjective : Function.Injective owner := by
    intro j k hjk
    exact Option.some.inj ((howner j).symm.trans (hjk ▸ howner k))
  -- as many owners as seats, so every owner is found this way
  have hbijective : Function.Bijective owner :=
    (Fintype.bijective_iff_injective_and_card owner).mpr
      ⟨hinjective, le_antisymm (Fintype.card_le_of_injective owner hinjective) hcard⟩
  obtain ⟨k, rfl⟩ := hbijective.surjective d
  exact ⟨k, howner k⟩

end Seating

end K2soHead
