import K2soHead.Library.WrappingClock
import Mathlib.Data.List.Chain

/-!
# Double clicks, holds and repeats

What a button handler can tell from one stored reading of a wrapping clock, with 0 standing
for no reading:

- `pairs_stamp_iff`: whether a click is the second of a double click
- `Keeps.completes_iff`: whether a sample completes a hold, when each hold is to fire once
- `Paced.again`: that repeats while a button is down keep their period

The stored value is only 0 for want of a reading as long as the clock never shows 0 at a
press, and its age is only the real one for less than one turn of the clock.
-/

namespace K2soHead.Presses

open WrappingClock

/-! ## Double clicks -/

/-- A click, and whether it was taken as the second of a double click. -/
structure Click where
  time : ℕ
  second : Bool

variable {window t : ℕ} {clicks : List Click}

/-- Taken greedily, a click at `t` goes with the one before if that one is still a first click
and recent enough.  The latest click comes first. -/
def Pairs (window t : ℕ) (clicks : List Click) : Prop :=
  ∃ c ∈ clicks.head?, c.second = false ∧ t ≤ c.time + window

instance : Decidable (Pairs window t clicks) :=
  inferInstanceAs (Decidable (∃ c ∈ clicks.head?, _))

/-- What the handler stores: the latest click, until it is paired. -/
def stamp : List Click → UInt32
  | [] => 0
  | c :: _ => if c.second then 0 else reading c.time

/-- The clicks a handler can tell apart at `t`: the clock did not show 0 at the latest of them,
and has not gone all the way round since. -/
def InReach (t : ℕ) (clicks : List Click) : Prop :=
  ∀ c ∈ clicks.head?, reading c.time ≠ 0 ∧ c.time ≤ t ∧ t < c.time + 2 ^ 32

/-- The stored reading pairs what is to be paired. -/
theorem pairs_stamp_iff (hreach : InReach t clicks) :
    stamp clicks ≠ 0 ∧ age (reading t) (stamp clicks) ≤ window ↔ Pairs window t clicks := by
  cases clicks with
  | nil => simp [stamp, Pairs]
  | cons c clicks =>
    obtain ⟨hshown, hbefore, hround⟩ := hreach c rfl
    cases hsecond : c.second with
    | true => simp [stamp, Pairs, hsecond]
    | false =>
      have hage : age (reading t) (reading c.time) = t - c.time := by
        rw [age_reading hbefore, Nat.mod_eq_of_lt (by omega)]
      simp only [stamp, Pairs, hsecond, hage, Bool.false_eq_true, if_false, List.head?_cons,
        Option.mem_some_iff, exists_eq_left', true_and]
      rw [and_iff_right hshown]
      omega

/-- No two clicks in a row are both second ones. -/
def Alternating (clicks : List Click) : Prop :=
  clicks.IsChain fun c d => ¬ (c.second = true ∧ d.second = true)

theorem Alternating.click {c : Click} (h : Alternating clicks)
    (hc : c.second = true → Pairs window c.time clicks) : Alternating (c :: clicks) := by
  refine List.isChain_cons.mpr ⟨fun d hd hboth => ?_, h⟩
  obtain ⟨d', hd', hfirst, -⟩ := hc hboth.1
  -- there is only one click before it
  obtain rfl : d = d' := Option.mem_unique hd hd'
  rw [hboth.2] at hfirst
  cases hfirst

/-! ## Holds -/

variable {period : ℕ} {held : List ℕ} {stored : UInt32} {fired : Bool}

/-- The samples `held` of a hold, oldest first, include one `period` after the first. -/
def Completed (period : ℕ) (held : List ℕ) : Prop :=
  ∃ first ∈ held.head?, ∃ u ∈ held, first + period ≤ u

/-- A sample at `t` completes the hold. -/
def Completes (period t : ℕ) (held : List ℕ) : Prop :=
  ¬ Completed period held ∧ ∃ first ∈ held.head?, first + period ≤ t

theorem completed_append (hperiod : 0 < period) :
    Completed period (held ++ [t]) ↔ Completed period held ∨ Completes period t held := by
  cases held with
  | nil =>
    -- the first sample cannot complete its own hold
    simp [Completed, Completes, hperiod.ne']
  | cons first held =>
    have hsplit : Completed period (first :: held ++ [t]) ↔
        Completed period (first :: held) ∨ first + period ≤ t := by
      simp only [Completed, List.cons_append, List.head?_cons, Option.mem_some_iff,
        exists_eq_left', List.exists_mem_cons_iff, List.mem_append, List.mem_singleton,
        or_and_right, exists_or, exists_eq_left, or_assoc]
    rw [hsplit, Completes, List.head?_cons]
    simp only [Option.mem_some_iff, exists_eq_left']
    tauto

/-- What the handler keeps of a hold: the reading of the first sample, and whether some sample
has completed the hold. -/
structure Keeps (period : ℕ) (held : List ℕ) (stored : UInt32) (fired : Bool) : Prop where
  stored : stored = (held.head?.map reading).getD 0
  fired : fired = true ↔ Completed period held

/-- The holds a handler can measure at `t`: the clock did not show 0 at the first sample, and
has not gone all the way round since. -/
def Measured (t : ℕ) (held : List ℕ) : Prop :=
  ∀ first ∈ held.head?, reading first ≠ 0 ∧ first ≤ t ∧ t < first + 2 ^ 32

instance : Decidable (Measured t held) :=
  inferInstanceAs (Decidable (∀ first ∈ held.head?, _))

theorem keeps_nil (period : ℕ) : Keeps period [] 0 false where
  stored := rfl
  fired := by simp [Completed]

/-- The stored reading and the flag tell when the hold is complete. -/
theorem Keeps.completes_iff (h : Keeps period held stored fired) (hmeasured : Measured t held) :
    stored ≠ 0 ∧ fired = false ∧ period ≤ age (reading t) stored ↔ Completes period t held := by
  obtain ⟨rfl, hfired⟩ := h
  have hnot : fired = false ↔ ¬ Completed period held := by rw [← hfired, Bool.not_eq_true]
  rw [hnot]
  cases held with
  | nil => simp [Completes]
  | cons first held =>
    obtain ⟨hshown, hbefore, hround⟩ := hmeasured first rfl
    have hage : age (reading t) (reading first) = t - first := by
      rw [age_reading hbefore, Nat.mod_eq_of_lt (by omega)]
    simp only [List.head?_cons, Option.map_some, Option.getD_some, Completes,
      Option.mem_some_iff, exists_eq_left', hage]
    rw [and_iff_right hshown]
    refine and_congr_right fun _ => ?_
    omega

/-- One more sample, and the flag goes up when it completes the hold. -/
theorem Keeps.sample {fired' : Bool} (h : Keeps period held stored fired) (hperiod : 0 < period)
    (hmeasured : Measured t held)
    (hfired' : fired' = true ↔ fired = true ∨ Completes period t held) :
    Keeps period (held ++ [t]) (if stored = 0 then reading t else stored) fired' := by
  obtain ⟨rfl, hfired⟩ := h
  refine ⟨?_, by rw [hfired', hfired, completed_append hperiod]⟩
  cases held with
  | nil => rfl
  | cons first held => exact if_neg (hmeasured first rfl).1

/-! ## Repeats -/

/-- Repeats that keep their period, the latest first. -/
def Paced (period : ℕ) (times : List ℕ) : Prop :=
  times.Pairwise fun later earlier => earlier + period ≤ later

/-- One more repeat, once the stored reading of the latest is old enough.  A clock that has gone
round in between only makes it look younger. -/
theorem Paced.again {times : List ℕ} (h : Paced period times)
    (hlatest : ∀ u ∈ times.head?, u ≤ t ∧ period ≤ age (reading t) (reading u)) :
    Paced period (t :: times) := by
  refine List.pairwise_cons.mpr ⟨fun u hu => ?_, h⟩
  cases times with
  | nil => cases hu
  | cons last times =>
    obtain ⟨hbefore, hdue⟩ := hlatest last rfl
    rw [age_reading hbefore] at hdue
    have hreal := hdue.trans (Nat.mod_le (t - last) (2 ^ 32))
    rcases List.mem_cons.mp hu with rfl | hu
    · omega
    · have hearlier := List.rel_of_pairwise_cons h hu
      omega

end K2soHead.Presses
