import K2soHead.Properties.EyeRuns

/-!
# Handing the eyes back to idle, at every uptime

The hand-back compares `millis()` with the stored deadline by the sign of a 32-bit
difference.  Only an active stick renews the deadline, so a stick left alone lets it go
stale, and from half a period on the sign alternates.
-/

namespace K2soHead

namespace EyeRun

open Runs WrappingClock EyeMotion

/-- On a tick, idle has the eyes exactly when it should: no gamepad, or the stick has not
been active since `begin` or not for five seconds. -/
def HandsOverRight (s : EyeRun) (e : EyeEvent) : Prop :=
  match e.action with
  | .update gp _ d =>
      let t := s.clock + e.wait
      let lastActive := if stickActive gp then some t else s.activeAt
      idle (millis t) gp (takeOver (millis t) gp d s.rig).motion = true ↔
        gp.connected = false ∨ lastActive = none ∨
          ∃ t₀, lastActive = some t₀ ∧ t₀ + kIdleResumeMs ≤ t
  | _ => True

/-- A tick on which the stick is left alone finds the deadline ahead of it, or behind it in
an even half period of the clock. -/
def DeadlineInView (s : EyeRun) (e : EyeEvent) : Prop :=
  match e.action with
  | .update gp _ _ =>
      let t := s.clock + e.wait
      gp.connected = false ∨ stickActive gp = true ∨ t < s.resumeAt ∨
        (t - s.resumeAt) % 2 ^ 32 < 2 ^ 31
  | _ => True

/-! ## One tick -/

/-- The deadline has passed in real time exactly when idle is due. -/
theorem Consistent.resumeAt_le_iff {s : EyeRun} (h : s.Consistent) :
    s.resumeAt ≤ s.clock ↔
      s.activeAt = none ∨ ∃ t₀, s.activeAt = some t₀ ∧ t₀ + kIdleResumeMs ≤ s.clock := by
  unfold resumeAt
  cases s.activeAt with
  | none => exact iff_of_true h.began_le (.inl rfl)
  | some t₀ => simp

/-- The deadline is never more than the hand-back time ahead. -/
theorem Consistent.resumeAt_sub_le {s : EyeRun} (h : s.Consistent) :
    s.resumeAt - s.clock ≤ kIdleResumeMs := by
  have hactive := h.active_le
  have hbegan := h.began_le
  unfold resumeAt
  cases hlast : s.activeAt with
  | none =>
    dsimp only
    omega
  | some t₀ =>
    have := hactive t₀ hlast
    dsimp only
    omega

/-- The sign test is right exactly with the deadline in view. -/
theorem Consistent.reached_iff {s : EyeRun} (h : s.Consistent) :
    (deadlinePassed (millis s.clock) s.rig.motion.sIdleResumeAtMs = true ↔
        s.resumeAt ≤ s.clock) ↔
      s.clock < s.resumeAt ∨ (s.clock - s.resumeAt) % 2 ^ 32 < 2 ^ 31 := by
  have hdeadline : s.rig.motion.sIdleResumeAtMs = millis s.resumeAt := h.resume
  rw [hdeadline, deadlinePassed, millis, millis]
  rcases Nat.lt_or_ge s.clock s.resumeAt with hahead | hbehind
  -- ahead by at most five seconds the sign is always right; behind, by its parity
  · have hnear := h.resumeAt_sub_le
    have hhalf : kIdleResumeMs ≤ 2 ^ 31 := by decide
    rw [not_reached_of_lt hahead (hnear.trans hhalf)]
    exact iff_of_true (iff_of_false Bool.false_ne_true (Nat.not_le_of_lt hahead)) (.inl hahead)
  · rw [reached_iff_of_le hbehind]
    have hnot : ¬ s.clock < s.resumeAt := Nat.not_lt_of_le hbehind
    simp only [hbehind, iff_true, hnot, false_or]

theorem Consistent.handsOverRight_iff {s : EyeRun} (h : s.Consistent) (e : EyeEvent) :
    s.HandsOverRight e ↔ s.DeadlineInView e := by
  unfold HandsOverRight DeadlineInView
  cases e.action with
  | update gp busyLow d =>
    have hwait := h.wait e.wait
    have hreached := hwait.reached_iff
    have hdue := hwait.resumeAt_le_iff
    dsimp only
    rw [idle_takeOver, driven]
    cases hconnected : gp.connected with
    | false =>
      -- no gamepad: idle on both sides, whatever the deadline says
      have hinactive : stickActive gp = false := by
        rw [stickActive, hconnected, Bool.false_and]
      simp [hinactive]
    | true =>
      cases hactive : stickActive gp with
      -- active now: driven, and five seconds are not over
      | true => simp [kIdleResumeMs]
      | false =>
        simp only [Bool.false_or, Bool.true_and, Bool.not_not, Bool.true_eq_false, false_or,
          Bool.false_eq_true, if_false]
        exact (iff_congr Iff.rfl hdue.symm).trans hreached
  | _ => exact Iff.rfl

/-! ## Every run -/

/-- In every run from `begin`, each tick hands the eyes over right if and only if each tick
that leaves the stick alone has the deadline in view. -/
theorem handsOverRight_iff_deadlineInView (b : Board) (t : ℕ) (d : RearmDraws)
    (events : List EyeEvent) :
    Along (step b) HandsOverRight (start b t d) events ↔
      Along (step b) DeadlineInView (start b t d) events :=
  along_congr (fun _ e h => h.step b e) (fun _ e h => h.handsOverRight_iff e)
    (consistent_start b t d) events

/-- A gamepad first connected when the head has been up for 2^31 ms: the stick was never
touched, and still the tick is driven. -/
theorem stale_deadline_after_half_period :
    let b := esp32DevKitC fun _ => 0
    let tick : EyeEvent := ⟨2 ^ 31, .update { connected := true } false lowestDraws⟩
    ¬ Along (step b) HandsOverRight (start b 0 lowestRearm) [tick] := by
  intro b tick
  rintro ⟨hright, -⟩
  have hview : DeadlineInView (start b 0 lowestRearm) tick :=
    ((consistent_start b 0 lowestRearm).handsOverRight_iff tick).mp hright
  -- connected, at rest, the deadline 2^31 ms behind: none of the four holds
  rcases hview with hoff | hactive | hahead | hhalf
  · cases hoff
  · exact absurd hactive (by decide)
  · exact absurd hahead (by decide)
  · exact absurd hhalf (by decide)

end EyeRun

end K2soHead
