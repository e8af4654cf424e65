import K2soHead.Firmware.LightEffects
import K2soHead.Properties.LedStrips

/-!
# The flattened pixel index, and painting all of it

A pattern paints flattened indices one after the other.  `paintNth` is one such write on
the list of strips; when the loop runs over every index, the strips end as `painted`,
which depends on their lengths and brightnesses and on no pixel stored before.
-/

namespace K2soHead

open Loops LedController

/-- The colour an ink ends up as. -/
def Ink.color : Ink → Rgb
  | .rgb c => c
  | .hsv hue saturation value => LedController.hsv hue saturation value

/-- Apply `f` to the strip that holds flattened index `g`, with the index on that strip. -/
def paintNth (f : ℕ → NeoPixel → NeoPixel) (g : ℕ) : List NeoPixel → List NeoPixel
  | [] => []
  | p :: strips =>
      if g < p.numPixels then f g p :: strips else p :: paintNth f (g - p.numPixels) strips

/-! ## One write -/

theorem le_of_resolveFrom {i g s n : ℕ} {strips : List NeoPixel}
    (h : resolveFrom i strips g = some (s, n)) : i ≤ s := by
  induction strips generalizing i g with
  | nil => cases h
  | cons p strips ih =>
    rw [resolveFrom] at h
    split at h
    · cases h
      exact Nat.le_refl _
    · exact Nat.le_of_succ_le (ih h)

/-- Resolving the index and then modifying that strip is `paintNth`. -/
theorem modify_resolveFrom (f : ℕ → NeoPixel → NeoPixel) (i g : ℕ) (strips : List NeoPixel) :
    (match resolveFrom i strips g with
      | some (s, n) => strips.modify (s - i) (f n)
      | none => strips) = paintNth f g strips := by
  induction strips generalizing i g with
  | nil => rfl
  | cons p strips ih =>
    rw [resolveFrom, paintNth]
    by_cases hg : g < p.numPixels
    · rw [if_pos hg, if_pos hg]
      simp
    · rw [if_neg hg, if_neg hg, ← ih (i + 1)]
      cases h : resolveFrom (i + 1) strips (g - p.numPixels) with
      | none => rfl
      | some found =>
        -- the strips from `i + 1` on sit one place further down the list
        have hle : i + 1 ≤ found.1 := le_of_resolveFrom h
        have hsucc : found.1 - i = found.1 - (i + 1) + 1 := by omega
        dsimp only
        rw [hsucc, List.modify_succ_cons]

/-- Painting one flattened index touches the strips only. -/
theorem paint_eq (g : ℕ) (ink : Ink) (l : LedController) :
    LightEffects.paint g ink l =
      { l with sStrips := paintNth (fun n => NeoPixel.setPixelColor n ink.color) g l.sStrips } := by
  have hwrite : ∀ c, l.setPixelGlobal g c =
      { l with sStrips := paintNth (fun n => NeoPixel.setPixelColor n c) g l.sStrips } := by
    intro c
    rw [← modify_resolveFrom _ 0, setPixelGlobal, resolveGlobalIndex]
    cases resolveFrom 0 l.sStrips g <;> rfl
  cases ink with
  | rgb c => exact hwrite c
  | hsv hue saturation value => exact hwrite (LedController.hsv hue saturation value)

theorem forEachPixel_eq (n : ℕ) (ink : ℕ → Ink) (l : LedController) :
    LightEffects.forEachPixel n ink l =
      { l with
        sStrips := (List.range n).foldl
          (fun strips g => paintNth (fun n => NeoPixel.setPixelColor n (ink g).color) g strips)
          l.sStrips } := by
  have hfold : ∀ (gs : List ℕ) (l : LedController),
      gs.foldl (fun l g => LightEffects.paint g (ink g) l) l =
        { l with
          sStrips := gs.foldl
            (fun strips g => paintNth (fun n => NeoPixel.setPixelColor n (ink g).color) g strips)
            l.sStrips } := by
    intro gs
    induction gs with
    | nil => intro l; rfl
    | cons g gs ih =>
      intro l
      rw [List.foldl_cons, ih, paint_eq, List.foldl_cons]
  exact hfold (List.range n) l

/-! ## The whole loop -/

/-- The strips with every pixel painted, `color` by flattened index. -/
def painted (color : ℕ → Rgb) : List NeoPixel → List NeoPixel
  | [] => []
  | p :: strips =>
      { p with
        pixels := (List.range p.numPixels).map fun i => (color i).map (NeoPixel.scale p.brightness) } ::
        painted (fun i => color (p.numPixels + i)) strips

/-- Indices below the first strip's length stay on it. -/
theorem foldl_paintNth_head (color : ℕ → Rgb) (strips : List NeoPixel) (gs : List ℕ)
    (p : NeoPixel) (h : ∀ g ∈ gs, g < p.numPixels) :
    gs.foldl (fun strips g => paintNth (fun n => NeoPixel.setPixelColor n (color g)) g strips)
        (p :: strips) =
      gs.foldl (fun p g => p.setPixelColor g (color g)) p :: strips := by
  induction gs generalizing p with
  | nil => rfl
  | cons g gs ih =>
    have hg : g < p.numPixels := h g List.mem_cons_self
    rw [List.foldl_cons, List.foldl_cons, paintNth, if_pos hg]
    refine ih _ fun g' hg' => ?_
    rw [NeoPixel.numPixels_setPixelColor]
    exact h g' (List.mem_cons_of_mem g hg')

/-- Indices from there on pass the first strip over. -/
theorem foldl_paintNth_tail (color : ℕ → Rgb) (p : NeoPixel) (gs : List ℕ)
    (strips : List NeoPixel) :
    (gs.map (p.numPixels + ·)).foldl
        (fun strips g => paintNth (fun n => NeoPixel.setPixelColor n (color g)) g strips)
        (p :: strips) =
      p :: gs.foldl
        (fun strips g =>
          paintNth (fun n => NeoPixel.setPixelColor n (color (p.numPixels + g))) g strips)
        strips := by
  induction gs generalizing strips with
  | nil => rfl
  | cons g gs ih =>
    have hpast : ¬ p.numPixels + g < p.numPixels := by omega
    have hback : p.numPixels + g - p.numPixels = g := by omega
    rw [List.map_cons, List.foldl_cons, List.foldl_cons, paintNth, if_neg hpast, hback, ih]

/-- The loop over every flattened index leaves nothing of the old pixels. -/
theorem foldl_paintNth (color : ℕ → Rgb) (strips : List NeoPixel) :
    (List.range (strips.map NeoPixel.numPixels).sum).foldl
        (fun strips g => paintNth (fun n => NeoPixel.setPixelColor n (color g)) g strips) strips =
      painted color strips := by
  induction strips generalizing color with
  | nil => rfl
  | cons p strips ih =>
    -- the first indices paint this strip, the rest count on into the next ones
    have hhead : ∀ g ∈ List.range p.numPixels, g < p.numPixels := fun g hg => List.mem_range.mp hg
    let p' : NeoPixel := { p with
      pixels := (List.range p.numPixels).map fun i => (color i).map (NeoPixel.scale p.brightness) }
    have hlen : p'.numPixels = p.numPixels := by
      rw [NeoPixel.numPixels, List.length_map, List.length_range]
    rw [List.map_cons, List.sum_cons, List.range_add, List.foldl_append,
      foldl_paintNth_head color strips _ p hhead, foldl_setPixelColor_range]
    have htail :=
      foldl_paintNth_tail color p' (List.range (strips.map NeoPixel.numPixels).sum) strips
    rw [hlen] at htail
    rw [htail, ih, painted]

/-! ## Every pattern is such a loop -/

namespace LightEffects

/-- Whatever the pattern, a frame paints the first `n` pixels with some ink, and both the ink
and the state left behind depend on the strips through their pixel count only. -/
theorem runEffect_eq (b : Board) (now : UInt32) (d : EffectDraws) (le : LightEffects) (n : ℕ) :
    ∃ le' ink, ∀ led, pixelCount led = n →
      runEffect b now d le led = (le', forEachPixel n ink led) := by
  have hfading : ∀ step spark pixel, ∃ le' ink, ∀ led, pixelCount led = n →
      runFading step spark pixel le led = (le', forEachPixel n ink led) := by
    intro step spark pixel
    let faded (i : ℕ) : UInt8 :=
      if i < n then if le.sScratch i > step then le.sScratch i - step else 0 else le.sScratch i
    by_cases hspark : n > 0 ∧ spark = true
    · refine ⟨{ le with sScratch := Function.update faded (pixel % n) 255 },
        fun i => .rgb (le.accentAt (faded i)), fun led hn => ?_⟩
      simp only [runFading, hn, if_pos hspark]
      rfl
    · refine ⟨{ le with sScratch := faded }, fun i => .rgb (le.accentAt (faded i)),
        fun led hn => ?_⟩
      simp only [runFading, hn, if_neg hspark]
      rfl
  -- a pattern that returns early on no pixels is the empty loop, whatever the ink
  have hempty : n = 0 → ∀ led, forEachPixel n (fun _ => .rgb Rgb.black) led = led := by
    rintro rfl led
    rfl
  unfold runEffect
  cases le.sEffect with
  | solid => exact ⟨le, _, fun led hn => by rw [runSolid, hn]⟩
  | solidRainbow => exact ⟨le, _, fun led hn => by simp only [runSolidRainbow, hn]; rfl⟩
  | rainbowCycle => exact ⟨le, _, fun led hn => by simp only [runRainbowCycle, hn]; rfl⟩
  | chasingRainbow =>
    by_cases hn0 : n = 0
    · exact ⟨le, _, fun led hn => by rw [hempty hn0]; simp only [runChasingRainbow, hn, if_pos hn0]⟩
    · exact ⟨le, _, fun led hn => by simp only [runChasingRainbow, hn, if_neg hn0]; rfl⟩
  | theaterChase => exact ⟨le, _, fun led hn => by simp only [runTheaterChase, hn]; rfl⟩
  | chase =>
    by_cases hn0 : n = 0
    · exact ⟨le, _, fun led hn => by rw [hempty hn0]; simp only [runChase, hn, if_pos hn0]⟩
    · exact ⟨le, _, fun led hn => by simp only [runChase, hn, if_neg hn0]; rfl⟩
  | confetti => exact hfading 8 _ _
  | twinkle => exact hfading 15 _ _
  | breathe => exact ⟨le, _, fun led hn => by simp only [runBreathe, hn]; rfl⟩
  | colorWipe =>
    by_cases hn0 : n = 0
    · exact ⟨le, _, fun led hn => by rw [hempty hn0]; simp only [runColorWipe, hn, if_pos hn0]⟩
    · exact ⟨le, _, fun led hn => by simp only [runColorWipe, hn, if_neg hn0]; rfl⟩
  | bounce =>
    by_cases hn0 : n = 0
    · exact ⟨le, _, fun led hn => by rw [hempty hn0]; simp only [runBounce, hn, if_pos hn0]⟩
    · by_cases hn1 : n = 1
      -- one pixel has nowhere to bounce to and is simply lit
      · exact ⟨le, fun _ => .rgb le.sAccent, fun led hn => by
          subst hn1
          simp [runBounce, hn, forEachPixel, paint]⟩
      · exact ⟨le, _, fun led hn => by simp only [runBounce, hn, if_neg hn0, if_neg hn1]; rfl⟩
  | fire => exact ⟨le, _, fun led hn => by simp only [runFire, hn]; rfl⟩
  | strobe => exact ⟨le, _, fun led hn => by simp only [runStrobe, hn]; rfl⟩

/-- A frame writes no field of the strips but their pixels. -/
theorem update_eq (b : Board) (now : UInt32) (gp : GamepadState) (d : EffectDraws)
    (le : LightEffects) (led : LedController) :
    ∃ strips, (update b now gp d le led).2 = { led with sStrips := strips } := by
  obtain ⟨le', ink, hrun⟩ :=
    runEffect_eq b now d (updateAccentFromGamepad gp le) (pixelCount led)
  rw [update, hrun led rfl, forEachPixel_eq]
  exact ⟨_, rfl⟩

end LightEffects

end K2soHead
