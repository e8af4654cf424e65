import K2soHead.Library.Sweeps
import K2soHead.Properties.FlatPixels

/-!
# Color Wipe and Bounce

Both patterns show a set of lit pixels that depends on the time since the pattern was chosen
alone.  `Lights` says which pixels a frame lights; the sets themselves are the two sweeps of
`Library/Sweeps.lean`.
-/

namespace K2soHead

open LedController Sweeps

namespace LightEffects

/-- The frame `led'` paints the accent on the pixels of `lit` and black on every other pixel
a pattern reaches. -/
def Lights (le : LightEffects) (lit : Finset ℕ) (led led' : LedController) : Prop :=
  ∀ g < pixelCount led, ∀ s n, led.resolveGlobalIndex g = some (s, n) →
    led'.pixel? s n = led.storedOn s (if g ∈ lit then le.sAccent else Rgb.black)

/-! ## What a loop over the pixels leaves -/

/-- Painting one index writes the pixel it denotes with the ink's colour. -/
theorem paint_eq_setPixelGlobal (g : ℕ) (ink : Ink) (l : LedController) :
    paint g ink l = l.setPixelGlobal g ink.color := by
  cases ink <;> rfl

/-- One more turn of the loop. -/
theorem forEachPixel_succ (n : ℕ) (ink : ℕ → Ink) (l : LedController) :
    forEachPixel (n + 1) ink l = (forEachPixel n ink l).setPixelGlobal n (ink n).color := by
  rw [forEachPixel, List.range_succ, List.foldl_append, List.foldl_cons, List.foldl_nil,
    paint_eq_setPixelGlobal]
  rfl

/-- The loop paints every pixel below its bound, and leaves the others and the strips alone. -/
theorem pixel_forEachPixel (n : ℕ) (ink : ℕ → Ink) (l : LedController) :
    (∀ g s p, l.resolveGlobalIndex g = some (s, p) → (forEachPixel n ink l).pixel? s p =
        if g < n then l.storedOn s (ink g).color else l.pixel? s p) ∧
      (forEachPixel n ink l).stripLengths = l.stripLengths ∧
      (forEachPixel n ink l).sStrips.map NeoPixel.brightness =
        l.sStrips.map NeoPixel.brightness := by
  induction n with
  | zero => exact ⟨fun _ _ _ _ => rfl, rfl, rfl⟩
  | succ n ih =>
    obtain ⟨hpixels, hlengths, hbrightness⟩ := ih
    rw [forEachPixel_succ]
    have hresolve : (forEachPixel n ink l).resolveGlobalIndex n = l.resolveGlobalIndex n := by
      rw [resolveGlobalIndex_eq, hlengths, resolveGlobalIndex_eq]
    obtain ⟨hsome, hnone⟩ := setPixelGlobal_cases (forEachPixel n ink l) n (ink n).color
    rw [hresolve] at hsome hnone
    cases hn : l.resolveGlobalIndex n with
    | none =>
      -- past the last pixel nothing is written
      rw [hnone hn]
      refine ⟨fun g s p hg => ?_, hlengths, hbrightness⟩
      have hne : g ≠ n := by
        rintro rfl
        rw [hn] at hg
        cases hg
      have hlt : g < n + 1 ↔ g < n := by omega
      simp only [hpixels g s p hg, hlt]
    | some pixel =>
      obtain ⟨s₀, p₀⟩ := pixel
      have hwrites := hsome s₀ p₀ hn
      refine ⟨fun g s p hg => ?_, hwrites.lengths.trans hlengths,
        hwrites.brightness.trans hbrightness⟩
      by_cases hgn : g = n
      · subst hgn
        obtain ⟨rfl, rfl⟩ := Prod.mk.injEq .. ▸ Option.some.inj (hn.symm.trans hg)
        rw [hwrites.written, storedOn_congr hbrightness, if_pos (Nat.lt_succ_self _)]
      · have hother : (s, p) ≠ (s₀, p₀) := by
          rintro hsame
          rw [hsame] at hg
          exact hgn (resolveGlobalIndex_injective hg hn)
        have hlt : g < n + 1 ↔ g < n := by omega
        rw [hwrites.others s p hother, hpixels g s p hg]
        simp only [hlt]

/-- A frame painted with `litInk` lights what the ink lights below the pixel count. -/
theorem lights_forEachPixel {le : LightEffects} {lit : Finset ℕ} {isLit : ℕ → Bool}
    {led : LedController} (hlit : ∀ g < pixelCount led, isLit g = true ↔ g ∈ lit) :
    Lights le lit led (forEachPixel (pixelCount led) (litInk isLit le) led) := by
  intro g hg s n hresolve
  rw [(pixel_forEachPixel _ _ led).1 g s n hresolve, if_pos hg]
  have hcolor : (litInk isLit le g).color = if g ∈ lit then le.sAccent else Rgb.black := by
    simp only [litInk, Ink.color, hlit g hg]
  rw [hcolor]

/-! ## The two patterns -/

/-- Color Wipe lights what is filled after as many steps of 400 ms. -/
theorem lights_runColorWipe (now : UInt32) (le : LightEffects) (led : LedController) :
    Lights le (filled (pixelCount led) (elapsedMs now le / 400)) led (runColorWipe now le led) := by
  simp only [runColorWipe]
  by_cases hnone : pixelCount led = 0
  · intro g hg
    omega
  · rw [if_neg hnone]
    refine lights_forEachPixel fun g hg => ?_
    generalize pixelCount led = n at hnone hg
    generalize elapsedMs now le = e
    -- the phase in steps, and the time within the step that the division drops
    have hphase : e % (400 * n * 2) / 400 = e / 400 % (2 * n) := by
      have hcycle : 400 * n * 2 = 400 * (2 * n) := by ring
      rw [hcycle, Nat.mod_mul_right_div_self]
    have hwipingIn : e % (400 * n * 2) < 400 * n ↔ e / 400 % (2 * n) < n := by
      rw [← hphase]
      omega
    rw [filled]
    by_cases hin : e / 400 % (2 * n) < n
    · simp only [if_pos hin, decide_eq_true (hwipingIn.mpr hin), if_true, hphase,
        decide_eq_true_eq, Finset.mem_range, Nat.lt_succ_iff]
    · have hout : ¬ e % (400 * n * 2) < 400 * n := fun h => hin (hwipingIn.mp h)
      have hprogress : (e % (400 * n * 2) - 400 * n) / 400 = e / 400 % (2 * n) - n := by
        rw [← hphase]
        omega
      simp only [if_neg hin, decide_eq_false hout, Bool.false_eq_true, if_false, hprogress,
        decide_eq_true_eq, Finset.mem_Ico]
      omega

/-- Bounce lights one place, which runs back and forth in steps of 120 ms. -/
theorem lights_runBounce {led : LedController} (hn : 2 ≤ pixelCount led) (now : UInt32)
    (le : LightEffects) :
    Lights le {bounced (pixelCount led) (elapsedMs now le / 120)} led
      (runBounce now le led) := by
  simp only [runBounce]
  rw [if_neg (by omega), if_neg (by omega)]
  refine lights_forEachPixel fun g hg => ?_
  rw [beq_iff_eq, Finset.mem_singleton, bounced]

/-- Chosen at `t₀` and seen at `t`, up to a round of the clock later, Color Wipe lights and
then darkens one pixel after the other, one a step and starting over from none, and Bounce
shows one pixel that goes to a neighbour in every step, meeting the ends once and the pixels
between twice a period. -/
theorem moving_patterns_advance (le : LightEffects) (led : LedController) (t₀ : ℕ)
    (hn : 1 ≤ pixelCount led) (hstart : le.sEffectStartMs = WrappingClock.reading t₀) :
    let n := pixelCount led
    (∀ t, t₀ ≤ t → t - t₀ < 2 ^ 32 → Lights le (filled n ((t - t₀) / 400)) led
        (runColorWipe (WrappingClock.reading t) le led)) ∧
      (∀ k, symmDiff (filled n k) (filled n (k + 1)) = {(k + 1) % n}) ∧
      (∀ cycle, ∀ i < n, filled n (cycle * (2 * n) + i) = Finset.range (i + 1)) ∧
      (∀ cycle, ∀ i < n, filled n (cycle * (2 * n) + n + i) = Finset.Ico (i + 1) n) ∧
      (2 ≤ n →
        (∀ t, t₀ ≤ t → t - t₀ < 2 ^ 32 → Lights le {bounced n ((t - t₀) / 120)} led
            (runBounce (WrappingClock.reading t) le led)) ∧
          (∀ k, bounced n k < n) ∧
          (∀ k, bounced n (k + 1) = bounced n k + 1 ∨ bounced n k = bounced n (k + 1) + 1) ∧
          ∀ k, ∀ i < n, ((Finset.Ico k (k + 2 * (n - 1))).filter fun j => bounced n j = i).card =
            if i = 0 ∨ i + 1 = n then 1 else 2) := by
  intro n
  have helapsed : ∀ t, t₀ ≤ t → t - t₀ < 2 ^ 32 →
      elapsedMs (WrappingClock.reading t) le = t - t₀ := by
    intro t hle hlt
    rw [elapsedMs, hstart, WrappingClock.age_reading hle, Nat.mod_eq_of_lt hlt]
  refine ⟨fun t hle hlt => ?_, symmDiff_filled hn, fun _ _ => filled_of_lt,
    fun _ _ => filled_add_of_lt, fun htwo => ⟨fun t hle hlt => ?_, bounced_lt htwo,
      bounced_succ htwo, fun k _ hi => card_bounced htwo hi k⟩⟩
  · have hframe := lights_runColorWipe (WrappingClock.reading t) le led
    rwa [helapsed t hle hlt] at hframe
  · have hframe := lights_runBounce htwo (WrappingClock.reading t) le
    rwa [helapsed t hle hlt] at hframe

/-- Three pixels: after two steps Color Wipe is full, after six it starts over, and Bounce is
on its way back after three. -/
theorem three_pixels_advance :
    let led : LedController := { sStrips := [.new 2, .new 1] }
    Lights {} (filled 3 2) led (runColorWipe 800 {} led) ∧ filled 3 2 = {0, 1, 2} ∧
      filled 3 6 = {0} ∧ Lights {} {bounced 3 3} led (runBounce 360 {} led) ∧
      bounced 3 3 = 1 := by
  intro led
  obtain ⟨hwipe, -, -, -, hbounce⟩ := moving_patterns_advance {} led 0 (by decide) rfl
  exact ⟨hwipe 800 (by decide) (by decide), by decide, by decide,
    (hbounce (by decide)).1 360 (by decide) (by decide), by decide⟩

end LightEffects

end K2soHead
