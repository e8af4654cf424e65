import K2soHead.Library.WrappingClock

/-!
# Timers on a wrapping clock

A timer is one stored reading, set some delay ahead of the present.  If everything that must
keep its distance sets the timer anew, by at least `gap`, then the timer never fires within
`gap` of any of it, however long the run is and however often the counter wraps: `Armed` is
kept by waiting and by setting, and `fires` is what it gives when the sign test answers yes.
-/

namespace K2soHead.Timers

open WrappingClock

variable {gap clock due : ℕ} {times times' : List (Option ℕ)} {deadline : UInt32}

/-- Each of the times that are known lies at least `gap` before `due`. -/
def Spaced (gap due : ℕ) (times : List (Option ℕ)) : Prop := ∀ u, some u ∈ times → u + gap ≤ due

/-- The deadline reads some real time that keeps its distance, and is not too far ahead. -/
structure Armed (gap clock : ℕ) (times : List (Option ℕ)) (deadline : UInt32) : Prop where
  due : ∃ due, deadline = reading due ∧ due ≤ clock + 2 ^ 31 ∧ Spaced gap due times

/-- A timer set now keeps its distance from everything so far. -/
theorem armed_set {delay : ℕ} (hgap : gap ≤ delay) (hdelay : delay ≤ 2 ^ 31)
    (htimes : ∀ u, some u ∈ times → u ≤ clock) :
    Armed gap clock times (reading clock + UInt32.ofNat delay) := by
  refine ⟨clock + delay, (reading_add clock delay).symm, by omega, fun u hu => ?_⟩
  have := htimes u hu
  omega

/-- A timer that is left alone stays armed, and for fewer things too. -/
theorem Armed.later (h : Armed gap clock times deadline) (n : ℕ) (hsub : times' ⊆ times) :
    Armed gap (clock + n) times' deadline := by
  obtain ⟨due, hdue, hahead, hspaced⟩ := h.due
  exact ⟨due, hdue, by omega, fun u hu => hspaced u (hsub hu)⟩

/-- When the timer fires its due time is over. -/
theorem Armed.fires (h : Armed gap clock times deadline)
    (hreached : reached (reading clock) deadline = true) : Spaced gap clock times := by
  obtain ⟨due, rfl, hahead, hspaced⟩ := h.due
  have hover : due ≤ clock := by
    by_contra hearly
    rw [not_reached_of_lt (by omega) (by omega)] at hreached
    cases hreached
  exact fun u hu => (hspaced u hu).trans hover

end K2soHead.Timers
