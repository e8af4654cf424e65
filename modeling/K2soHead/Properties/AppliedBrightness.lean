import K2soHead.Library.Runs
import K2soHead.Properties.LedStrips

/-!
# The applied brightness is the product of the three multipliers

`LedOp` is one call into `LedController` after `begin`.  Three of them move a multiplier;
every other one acts on strip `i` as a brush, and a brush neither moves the strip's own
brightness nor its length.

- `InStep`: every strip was last told its product, the invariant of every run
- `dark_brush`: on a strip told 0, whatever a brush covers is stored as black
-/

namespace K2soHead

open Loops Runs

/-- A call into `LedController`. -/
inductive LedOp where
  | setPixel (stripIndex pixelIndex : ℕ) (c : Rgb)
  | fill (stripIndex : ℕ) (c : Rgb)
  | fillHSV (stripIndex : ℕ) (hue : UInt16) (saturation value : UInt8)
  | clear (stripIndex : ℕ)
  | showStrip (stripIndex : ℕ)
  | fillAllHSV (hue : UInt16) (saturation value : UInt8)
  | clearAll
  | showAll
  | setPixelGlobal (globalIndex : ℕ) (c : Rgb)
  | setPixelGlobalHSV (globalIndex : ℕ) (hue : UInt16) (saturation value : UInt8)
  | setBrightness (brightness : UInt8)
  | setStripDim (stripIndex : ℕ) (dim : UInt8)
  | setBlinkLevel (level : UInt8)

/-- What a call that moves no multiplier does to one strip. -/
inductive Brush where
  | keep
  | pixel (n : ℕ) (c : Rgb)
  | all (c : Rgb)
  | clear

namespace Brush

def apply : Brush → NeoPixel → NeoPixel
  | keep, p => p
  | pixel n c, p => p.setPixelColor n c
  | all c, p => LedController.paintAll c p
  | clear, p => p.clear

/-- The pixels a brush writes. -/
def Covers (k : ℕ) : Brush → Prop
  | keep => False
  | pixel n _ => n = k
  | all _ => True
  | clear => True

@[simp] theorem brightness_apply (b : Brush) (p : NeoPixel) :
    (b.apply p).brightness = p.brightness := by
  cases b <;> simp [apply]

/-- A pixel the brush does not cover keeps its bytes. -/
theorem getElem?_apply_of_not_covers {b : Brush} {k : ℕ} (h : ¬ b.Covers k) (p : NeoPixel) :
    (b.apply p).pixels[k]? = p.pixels[k]? := by
  cases b with
  | keep => rfl
  | pixel n c =>
    rw [apply, NeoPixel.getElem?_setPixelColor, if_neg]
    rintro ⟨hn, -⟩
    exact h hn
  | all c => exact absurd trivial h
  | clear => exact absurd trivial h

/-- On a strip told to apply 0, whatever a brush covers is stored as black. -/
theorem dark_brush {b : Brush} {k : ℕ} (h : b.Covers k) {p : NeoPixel} (hp : p.brightness = 1)
    {c : Rgb} (hc : (b.apply p).pixels[k]? = some c) : c = Rgb.black := by
  cases b with
  | keep => exact absurd h id
  | pixel n d =>
    rw [apply, NeoPixel.getElem?_setPixelColor, hp, NeoPixel.map_scale_one] at hc
    split at hc
    · exact (Option.some.inj hc).symm
    · rename_i hout
      -- past the end of the strip there is no pixel to read
      have hk : ¬ k < p.pixels.length := fun hk => hout ⟨h, hk⟩
      rw [List.getElem?_eq_none (Nat.le_of_not_lt hk)] at hc
      cases hc
  | all d =>
    rw [apply, LedController.paintAll_eq, hp, NeoPixel.map_scale_one] at hc
    exact List.eq_of_mem_replicate (List.mem_of_getElem? hc)
  | clear =>
    simp only [apply, NeoPixel.clear, List.getElem?_map, Option.map_eq_some_iff] at hc
    obtain ⟨_, _, hc⟩ := hc
    exact hc.symm

end Brush

namespace LedOp

def apply (l : LedController) : LedOp → LedController
  | setPixel s n c => l.setPixel s n c
  | fill s c => l.fill s c
  | fillHSV s hue saturation value => l.fillHSV s hue saturation value
  | clear s => l.clear s
  | showStrip s => l.showStrip s
  | fillAllHSV hue saturation value => l.fillAllHSV hue saturation value
  | clearAll => l.clearAll
  | showAll => l.showAll
  | setPixelGlobal g c => l.setPixelGlobal g c
  | setPixelGlobalHSV g hue saturation value => l.setPixelGlobalHSV g hue saturation value
  | setBrightness b => l.setBrightness b
  | setStripDim s dim => l.setStripDim s dim
  | setBlinkLevel level => l.setBlinkLevel level

/-- Does the call move one of the three multipliers? -/
def MovesMultiplier : LedOp → Prop
  | setBrightness _ => True
  | setStripDim _ _ => True
  | setBlinkLevel _ => True
  | _ => False

/-- The brush that only reaches the pixel a flattened index resolves to. -/
def globalBrush (l : LedController) (i g : ℕ) (c : Rgb) : Brush :=
  match l.resolveGlobalIndex g with
  | some (s, n) => if s = i then .pixel n c else .keep
  | none => .keep

/-- What the call does to strip `i`, when it moves no multiplier. -/
def brush (l : LedController) (i : ℕ) : LedOp → Brush
  | setPixel s n c => if s = i then .pixel n c else .keep
  | fill s c => if s = i then .all c else .keep
  | fillHSV s hue saturation value =>
      if s = i then .all (LedController.hsv hue saturation value) else .keep
  | clear s => if s = i then .clear else .keep
  | fillAllHSV hue saturation value => .all (LedController.hsv hue saturation value)
  | clearAll => .clear
  | setPixelGlobal g c => globalBrush l i g c
  | setPixelGlobalHSV g hue saturation value =>
      globalBrush l i g (LedController.hsv hue saturation value)
  | _ => .keep

/-- A call that moves no multiplier acts on every strip as its brush. -/
theorem getElem?_apply (l : LedController) {o : LedOp} (h : ¬ o.MovesMultiplier) (i : ℕ) :
    (apply l o).sStrips[i]? = l.sStrips[i]?.map (o.brush l i).apply := by
  have hkeep : l.sStrips[i]? = l.sStrips[i]?.map Brush.keep.apply := Option.map_id'.symm
  -- one strip modified is the same brush there and `keep` elsewhere
  have hone : ∀ s (b : Brush), (l.modifyStrip s b.apply).sStrips[i]? =
      l.sStrips[i]?.map (if s = i then b else .keep).apply := by
    intro s b
    rw [LedController.getElem?_modifyStrip]
    split
    · rfl
    · exact hkeep
  have hglobal : ∀ g c, (l.setPixelGlobal g c).sStrips[i]? =
      l.sStrips[i]?.map (globalBrush l i g c).apply := by
    intro g c
    unfold LedController.setPixelGlobal globalBrush
    cases l.resolveGlobalIndex g with
    | none => exact hkeep
    | some place => exact hone place.1 (.pixel place.2 c)
  cases o with
  | setPixel s n c => exact hone s (.pixel n c)
  | fill s c => exact hone s (.all c)
  | fillHSV s hue saturation value => exact hone s (.all (LedController.hsv hue saturation value))
  | clear s => exact hone s .clear
  | showStrip s =>
    simp only [apply, brush, LedController.showStrip]
    split <;> exact hkeep
  | fillAllHSV hue saturation value =>
    rw [apply, LedController.fillAllHSV_eq]
    exact List.getElem?_map
  | clearAll =>
    rw [apply, LedController.clearAll_eq]
    exact List.getElem?_map
  | showAll =>
    rw [apply, LedController.showAll_eq]
    exact hkeep
  | setPixelGlobal g c => exact hglobal g c
  | setPixelGlobalHSV g hue saturation value =>
    exact hglobal g (LedController.hsv hue saturation value)
  | setBrightness _ => exact absurd trivial h
  | setStripDim _ _ => exact absurd trivial h
  | setBlinkLevel _ => exact absurd trivial h

theorem length_apply (l : LedController) (o : LedOp) :
    (apply l o).sStrips.length = l.sStrips.length := by
  by_cases hmoves : o.MovesMultiplier
  · cases o with
    | setBrightness b => rw [apply, LedController.setBrightness_eq, List.length_mapIdx]
    | setStripDim s dim =>
      simp only [apply, LedController.setStripDim]
      split
      · exact LedController.length_modifyStrip _ _ _
      · rfl
    | setBlinkLevel level =>
      by_cases h : level = l.sBlinkLevel
      · rw [apply, LedController.setBlinkLevel, if_pos h]
      · rw [apply, LedController.setBlinkLevel_eq h, List.length_mapIdx]
    | _ => exact absurd hmoves id
  -- a brush on every strip is a map over the list
  · rw [eq_mapIdx_of_getElem? (getElem?_apply l hmoves), List.length_mapIdx]

theorem multipliers_apply (l : LedController) {o : LedOp} (h : ¬ o.MovesMultiplier) :
    (apply l o).sGlobalBrightness = l.sGlobalBrightness ∧
      (apply l o).sStripDim = l.sStripDim ∧ (apply l o).sBlinkLevel = l.sBlinkLevel := by
  have hglobal : ∀ g c, let l' := l.setPixelGlobal g c
      l'.sGlobalBrightness = l.sGlobalBrightness ∧
        l'.sStripDim = l.sStripDim ∧ l'.sBlinkLevel = l.sBlinkLevel := by
    intro g c
    unfold LedController.setPixelGlobal
    cases l.resolveGlobalIndex g <;> exact ⟨rfl, rfl, rfl⟩
  cases o with
  | setBrightness _ => exact absurd trivial h
  | setStripDim _ _ => exact absurd trivial h
  | setBlinkLevel _ => exact absurd trivial h
  | setPixelGlobal g c => exact hglobal g c
  | setPixelGlobalHSV g hue saturation value =>
    exact hglobal g (LedController.hsv hue saturation value)
  | showStrip s =>
    simp only [apply, LedController.showStrip]
    split <;> exact ⟨rfl, rfl, rfl⟩
  | fillAllHSV hue saturation value =>
    rw [apply, LedController.fillAllHSV_eq]
    exact ⟨rfl, rfl, rfl⟩
  | clearAll =>
    rw [apply, LedController.clearAll_eq]
    exact ⟨rfl, rfl, rfl⟩
  | showAll =>
    rw [apply, LedController.showAll_eq]
    exact ⟨rfl, rfl, rfl⟩
  | _ => exact ⟨rfl, rfl, rfl⟩

theorem effective_apply (l : LedController) {o : LedOp} (h : ¬ o.MovesMultiplier) (i : ℕ) :
    (apply l o).effective i = l.effective i := by
  obtain ⟨hglobal, hdim, hblink⟩ := multipliers_apply l h
  rw [LedController.effective, LedController.effective, hglobal, hdim, hblink]

end LedOp

namespace LedController

/-! ## The product of the multipliers -/

/-- The three multipliers of strip `i` multiplied out, without overflow. -/
def product (l : LedController) (i : ℕ) : ℕ :=
  l.sGlobalBrightness.toNat * (l.sStripDim i).toNat * l.sBlinkLevel.toNat

theorem product_le (l : LedController) (i : ℕ) : l.product i ≤ 255 * 255 * 255 := by
  have hglobal := l.sGlobalBrightness.toNat_lt
  have hdim := (l.sStripDim i).toNat_lt
  have hblink := l.sBlinkLevel.toNat_lt
  exact Nat.mul_le_mul (Nat.mul_le_mul (by omega) (by omega)) (by omega)

/-- The 32-bit computation does not wrap. -/
theorem toNat_effective (l : LedController) (i : ℕ) :
    (l.effective i).toNat = l.product i / 65025 := by
  have hle := l.product_le i
  have hdim : l.sGlobalBrightness.toNat * (l.sStripDim i).toNat ≤ 255 * 255 := by
    have hglobal := l.sGlobalBrightness.toNat_lt
    have hdim := (l.sStripDim i).toNat_lt
    exact Nat.mul_le_mul (by omega) (by omega)
  have hfirst : l.sGlobalBrightness.toNat * (l.sStripDim i).toNat < 2 ^ 32 := by omega
  rw [product] at hle ⊢
  rw [effective, UInt32.toNat_div, UInt32.toNat_mul, UInt32.toNat_mul, UInt8.toNat_toUInt32,
    UInt8.toNat_toUInt32, UInt8.toNat_toUInt32, Nat.mod_eq_of_lt hfirst,
    Nat.mod_eq_of_lt (by omega)]
  rfl

/-- The narrowing cast loses nothing. -/
theorem toNat_effective_toUInt8 (l : LedController) (i : ℕ) :
    (l.effective i).toUInt8.toNat = l.product i / 65025 := by
  have hle := l.product_le i
  rw [UInt32.toNat_toUInt8, toNat_effective]
  omega

/-- What strip `i` was last told to apply. -/
def applied (l : LedController) (i : ℕ) : Option UInt8 :=
  l.sStrips[i]?.map NeoPixel.getBrightness

/-! ## The invariant -/

/-- Every strip was last told the product of its multipliers. -/
def InStep (l : LedController) : Prop :=
  ∀ i p, l.sStrips[i]? = some p → p.getBrightness = (l.effective i).toUInt8

/-- Telling one strip its product is enough when the others are in step already. -/
theorem inStep_applyStripBrightness {l : LedController} {s : ℕ}
    (h : ∀ i p, s ≠ i → l.sStrips[i]? = some p → p.getBrightness = (l.effective i).toUInt8) :
    (l.applyStripBrightness s).InStep := by
  intro i p hp
  rw [applyStripBrightness, getElem?_modifyStrip] at hp
  split at hp
  · rename_i hsi
    subst hsi
    obtain ⟨q, -, rfl⟩ := Option.map_eq_some_iff.mp hp
    exact NeoPixel.getBrightness_setBrightness _ q
  · rename_i hsi
    exact h i p hsi hp

theorem inStep_forEachStrip (l : LedController) : (forEachStrip applyStripBrightness l).InStep := by
  intro i p hp
  rw [forEachStrip_apply] at hp ⊢
  rw [List.getElem?_mapIdx] at hp
  obtain ⟨q, -, rfl⟩ := Option.map_eq_some_iff.mp hp
  exact NeoPixel.getBrightness_setBrightness _ q

theorem InStep.setBlinkLevel {l : LedController} (h : l.InStep) (level : UInt8) :
    (l.setBlinkLevel level).InStep := by
  unfold LedController.setBlinkLevel
  split
  · exact h
  · exact inStep_forEachStrip _

theorem effective_of_dim_eq {l l' : LedController} {i : ℕ}
    (hglobal : l'.sGlobalBrightness = l.sGlobalBrightness) (hdim : l'.sStripDim i = l.sStripDim i)
    (hblink : l'.sBlinkLevel = l.sBlinkLevel) : l'.effective i = l.effective i := by
  rw [effective, effective, hglobal, hdim, hblink]

theorem InStep.setStripDim {l : LedController} (h : l.InStep) (s : ℕ) (dim : UInt8) :
    (l.setStripDim s dim).InStep := by
  unfold LedController.setStripDim
  split
  · apply inStep_applyStripBrightness
    intro i p hsi hp
    rw [h i p hp]
    -- the other strips' products do not contain this dim
    have hdim : Function.update l.sStripDim s dim i = l.sStripDim i :=
      Function.update_of_ne (Ne.symm hsi) _ _
    exact congrArg _ (effective_of_dim_eq rfl hdim.symm rfl)
  · exact h

/-- Every call keeps the strips in step. -/
theorem InStep.apply {l : LedController} (h : l.InStep) (o : LedOp) : (o.apply l).InStep := by
  by_cases hmoves : o.MovesMultiplier
  · cases o with
    | setBrightness b => exact inStep_forEachStrip _
    | setStripDim s dim => exact h.setStripDim s dim
    | setBlinkLevel level => exact h.setBlinkLevel level
    | _ => exact absurd hmoves id
  · intro i p hp
    rw [LedOp.getElem?_apply l hmoves] at hp
    obtain ⟨q, hq, rfl⟩ := Option.map_eq_some_iff.mp hp
    rw [LedOp.effective_apply l hmoves, ← h i q hq, NeoPixel.getBrightness,
      NeoPixel.getBrightness, Brush.brightness_apply]

/-! ## Start-up -/

theorem InStep.beginStrips {l : LedController} (h : l.InStep) (counts : List UInt32) :
    (l.beginStrips counts).InStep := by
  induction counts generalizing l with
  | nil => exact h
  | cons n counts ih =>
    apply ih
    apply inStep_applyStripBrightness
    intro i p hi hp
    -- every strip but the new one was there before
    have hlt : i < l.sStrips.length := by
      have := (List.getElem?_eq_some_iff.mp hp).1
      simp only [List.length_append, List.length_singleton] at this
      omega
    rw [List.getElem?_append_left hlt] at hp
    rw [h i p hp]
    have hdim : Function.update l.sStripDim l.sStrips.length 255 i = l.sStripDim i :=
      Function.update_of_ne (Ne.symm hi) _ _
    exact congrArg _ (effective_of_dim_eq rfl hdim.symm rfl)

theorem inStep_begin (counts : List UInt32) (l : LedController) : (l.begin counts).InStep := by
  apply InStep.beginStrips
  intro i p hp
  cases hp

theorem length_beginStrips (counts : List UInt32) (l : LedController) :
    (l.beginStrips counts).sStrips.length = l.sStrips.length + counts.length := by
  induction counts generalizing l with
  | nil => rfl
  | cons n counts ih =>
    rw [beginStrips, ih, applyStripBrightness, length_modifyStrip, List.length_append]
    simp only [List.length_cons, List.length_nil]
    omega

theorem length_begin (counts : List UInt32) (l : LedController) :
    (l.begin counts).sStrips.length = min counts.length kMaxStrips := by
  rw [begin, length_beginStrips, List.length_take]
  exact (Nat.zero_add _).trans (Nat.min_comm _ _)

/-! ## What strips in step apply -/

theorem InStep.applied_eq {l : LedController} (h : l.InStep) {i : ℕ}
    (hi : i < l.sStrips.length) : l.applied i = some (UInt8.ofNat (l.product i / 65025)) := by
  have hp : l.sStrips[i]? = some l.sStrips[i] := List.getElem?_eq_getElem hi
  rw [applied, hp, Option.map_some, h i _ hp, ← toNat_effective_toUInt8, UInt8.ofNat_toNat]

theorem InStep.toNat_of_applied {l : LedController} (h : l.InStep) {i : ℕ} {v : UInt8}
    (hv : l.applied i = some v) : v.toNat = l.product i / 65025 := by
  obtain ⟨p, hp, rfl⟩ := Option.map_eq_some_iff.mp hv
  rw [h i p hp, toNat_effective_toUInt8]

/-- Both other multipliers at full leave the global brightness. -/
theorem product_of_full {l : LedController} {i : ℕ} (hdim : l.sStripDim i = 255)
    (hblink : l.sBlinkLevel = 255) : l.product i / 65025 = l.sGlobalBrightness.toNat := by
  rw [product, hdim, hblink, show (255 : UInt8).toNat = 255 from rfl]
  omega

/-- The applied value is monotone in every multiplier. -/
theorem InStep.applied_le {l l' : LedController} (h : l.InStep) (h' : l'.InStep) {i : ℕ}
    (hglobal : l.sGlobalBrightness ≤ l'.sGlobalBrightness)
    (hdim : l.sStripDim i ≤ l'.sStripDim i) (hblink : l.sBlinkLevel ≤ l'.sBlinkLevel)
    {v v' : UInt8} (hv : l.applied i = some v) (hv' : l'.applied i = some v') : v ≤ v' := by
  rw [UInt8.le_iff_toNat_le, h.toNat_of_applied hv, h'.toNat_of_applied hv']
  apply Nat.div_le_div_right
  exact Nat.mul_le_mul (Nat.mul_le_mul hglobal hdim) hblink

theorem applied_setStripDim_of_ne (l : LedController) {j i : ℕ} (hji : j ≠ i) (dim : UInt8) :
    (l.setStripDim j dim).applied i = l.applied i := by
  unfold setStripDim
  split
  · rw [applied, applyStripBrightness, getElem?_modifyStrip, if_neg hji]
    rfl
  · rfl

/-! ## Painting in the dark -/

/-- One of the three multipliers of strip `i` is 0. -/
def Dark (l : LedController) (i : ℕ) : Prop :=
  l.sGlobalBrightness = 0 ∨ l.sStripDim i = 0 ∨ l.sBlinkLevel = 0

/-- The bytes stored for pixel `k` of strip `i`. -/
def pixel? (l : LedController) (i k : ℕ) : Option Rgb :=
  l.sStrips[i]?.bind fun p => p.pixels[k]?

theorem product_of_dark {l : LedController} {i : ℕ} (h : l.Dark i) : l.product i = 0 := by
  have hzero : (0 : UInt8).toNat = 0 := rfl
  rcases h with h | h | h <;> simp [product, h]

theorem InStep.brightness_of_dark {l : LedController} (h : l.InStep) {i : ℕ} (hdark : l.Dark i)
    {p : NeoPixel} (hp : l.sStrips[i]? = some p) : p.brightness = 1 := by
  have hget : p.getBrightness = 0 := by
    rw [h i p hp, ← UInt8.toNat_inj, toNat_effective_toUInt8, product_of_dark hdark]
    rfl
  -- stored plus one, so applying 0 is storing 1
  rw [NeoPixel.getBrightness] at hget
  grind

theorem dark_apply (l : LedController) {o : LedOp} (h : ¬ o.MovesMultiplier) (i : ℕ) :
    (o.apply l).Dark i ↔ l.Dark i := by
  obtain ⟨hglobal, hdim, hblink⟩ := LedOp.multipliers_apply l h
  rw [Dark, Dark, hglobal, hdim, hblink]

/-- In the dark a call stores black in whatever it covers, and a black pixel stays black. -/
theorem InStep.pixel_apply_black {l : LedController} (h : l.InStep) {o : LedOp}
    (hmoves : ¬ o.MovesMultiplier) {i k : ℕ} (hdark : l.Dark i)
    (hpixel : (o.brush l i).Covers k ∨ ∀ c, l.pixel? i k = some c → c = Rgb.black) :
    ∀ c, (o.apply l).pixel? i k = some c → c = Rgb.black := by
  intro c hc
  rw [pixel?, LedOp.getElem?_apply l hmoves] at hc
  obtain ⟨p', hp', hc⟩ := Option.bind_eq_some_iff.mp hc
  obtain ⟨p, hp, rfl⟩ := Option.map_eq_some_iff.mp hp'
  by_cases hcovers : (o.brush l i).Covers k
  · exact Brush.dark_brush hcovers (h.brightness_of_dark hdark hp) hc
  · rw [Brush.getElem?_apply_of_not_covers hcovers] at hc
    apply hpixel.resolve_left hcovers
    rw [pixel?, hp]
    exact hc

/-- A covered pixel is still black at the end of any calls that move no multiplier. -/
theorem InStep.pixel_run_black {l : LedController} (h : l.InStep) {o : LedOp} {after : List LedOp}
    (hmoves : ∀ q ∈ o :: after, ¬ q.MovesMultiplier) {i k : ℕ} (hdark : l.Dark i)
    (hcovers : (o.brush l i).Covers k) :
    ∀ c, (run LedOp.apply l (o :: after)).pixel? i k = some c → c = Rgb.black := by
  have ho := hmoves o List.mem_cons_self
  -- still in step, still dark, and the pixel still black: every later call keeps all three
  let Inv (l : LedController) : Prop :=
    l.InStep ∧ l.Dark i ∧ ∀ c, l.pixel? i k = some c → c = Rgb.black
  have hkeep : ∀ l q, Inv l → ¬ q.MovesMultiplier → Inv (LedOp.apply l q) := by
    rintro l q ⟨hstep, hdark, hblack⟩ hq
    exact ⟨hstep.apply q, (dark_apply l hq i).mpr hdark,
      hstep.pixel_apply_black hq hdark (.inr hblack)⟩
  have hpainted : Inv (o.apply l) :=
    ⟨h.apply o, (dark_apply l ho i).mpr hdark, h.pixel_apply_black ho hdark (.inl hcovers)⟩
  have hafter : ∀ q ∈ after, ¬ q.MovesMultiplier :=
    fun q hq => hmoves q (List.mem_cons_of_mem o hq)
  exact (inv_run_of_along hkeep hpainted (along_of_forall_mem hafter _)).2.2

/-- Going dark without a multiplier moving means having been dark all along. -/
theorem dark_run {ops : List LedOp} (hmoves : ∀ q ∈ ops, ¬ q.MovesMultiplier) (l : LedController)
    (i : ℕ) : (run LedOp.apply l ops).Dark i ↔ l.Dark i := by
  have hkeep : ∀ l' q, (l'.Dark i ↔ l.Dark i) → ¬ q.MovesMultiplier →
      ((LedOp.apply l' q).Dark i ↔ l.Dark i) :=
    fun l' _ hinv hq => (dark_apply l' hq i).trans hinv
  exact inv_run_of_along hkeep Iff.rfl (along_of_forall_mem hmoves l)

/-- A call that covers a pixel moves no multiplier. -/
theorem not_movesMultiplier_of_covers {l : LedController} {o : LedOp} {i k : ℕ}
    (h : (o.brush l i).Covers k) : ¬ o.MovesMultiplier := by
  intro hmoves
  cases o with
  | setBrightness b => exact h
  | setStripDim s dim => exact h
  | setBlinkLevel level => exact h
  | _ => exact hmoves

/-! ## Every run -/

theorem inStep_run (counts : List UInt32) (ops : List LedOp) :
    (run LedOp.apply (begin counts {}) ops).InStep :=
  inv_run (fun _ o h => h.apply o) (inStep_begin counts {}) ops

theorem length_run (l : LedController) (ops : List LedOp) :
    (run LedOp.apply l ops).sStrips.length = l.sStrips.length := by
  have hkeep : ∀ l' o, l'.sStrips.length = l.sStrips.length →
      (LedOp.apply l' o).sStrips.length = l.sStrips.length :=
    fun l' o h => (LedOp.length_apply l' o).trans h
  exact inv_run hkeep rfl ops

/-- After any calls following one `begin`, on any strips: each strip was last told the
product of its multipliers, setting another strip's dim does not touch it, and what is
painted while a multiplier is 0 is stored as black. -/
theorem applied_is_product (counts : List UInt32) (ops : List LedOp) :
    let l := run LedOp.apply (begin counts {}) ops
    l.sStrips.length = min counts.length kMaxStrips ∧
    (∀ i < l.sStrips.length,
      l.product i < 2 ^ 32 ∧ l.product i / 65025 ≤ 255 ∧
      l.applied i = some (UInt8.ofNat (l.product i / 65025)) ∧
      (l.sStripDim i = 255 → l.sBlinkLevel = 255 → l.applied i = some l.brightness)) ∧
    (∀ j dim i, j ≠ i → (l.setStripDim j dim).applied i = l.applied i) ∧
    (∀ counts' ops' i v v', let l' := run LedOp.apply (begin counts' {}) ops'
      l.sGlobalBrightness ≤ l'.sGlobalBrightness → l.sStripDim i ≤ l'.sStripDim i →
      l.sBlinkLevel ≤ l'.sBlinkLevel → l.applied i = some v → l'.applied i = some v' → v ≤ v') ∧
    (∀ before o after i k c, ops = before ++ o :: after →
      (o.brush (run LedOp.apply (begin counts {}) before) i).Covers k →
      (∀ q ∈ after, ¬ q.MovesMultiplier) → l.Dark i → l.pixel? i k = some c → c = Rgb.black) := by
  intro l
  have hstep : l.InStep := inStep_run counts ops
  refine ⟨?_, ?_, ?_, ?_, ?_⟩
  · exact (length_run _ ops).trans (length_begin counts {})
  · intro i hi
    have hle := l.product_le i
    refine ⟨by omega, by omega, hstep.applied_eq hi, fun hdim hblink => ?_⟩
    rw [hstep.applied_eq hi, product_of_full hdim hblink, UInt8.ofNat_toNat]
    rfl
  · intro j dim i hji
    exact applied_setStripDim_of_ne l hji dim
  · intro counts' ops' i v v' l' hglobal hdim hblink hv hv'
    exact hstep.applied_le (inStep_run counts' ops') hglobal hdim hblink hv hv'
  · intro before o after i k c hops hcovers hafter hdark hc
    have hmoves : ∀ q ∈ o :: after, ¬ q.MovesMultiplier := by
      intro q hq
      rcases List.mem_cons.mp hq with rfl | hq
      · exact not_movesMultiplier_of_covers hcovers
      · exact hafter q hq
    -- the run is cut where the pixel was painted last
    have hl : l = run LedOp.apply (run LedOp.apply (begin counts {}) before) (o :: after) := by
      rw [← run_append, ← hops]
    rw [hl] at hdark hc
    exact (inStep_run counts before).pixel_run_black hmoves ((dark_run hmoves _ i).mp hdark)
      hcovers c hc

end LedController

end K2soHead
