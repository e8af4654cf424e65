import K2soHead.Library.RaggedRows
import K2soHead.Properties.AppliedBrightness
import K2soHead.Properties.PixelIndex

/-!
# Every pixel has one flattened index

The strips are the rows of a ragged table, and `resolveGlobalIndex` finds the cell of a
number.  A write through the flattened index therefore reaches the one pixel it denotes.
-/

namespace K2soHead.LedController

open Loops RaggedRows

/-- The lengths of the strips. -/
def stripLengths (l : LedController) : List ℕ := l.sStrips.map NeoPixel.numPixels

/-- What a colour is stored as on strip `stripIndex`. -/
def storedOn (l : LedController) (stripIndex : ℕ) (c : Rgb) : Option Rgb :=
  l.sStrips[stripIndex]?.map fun p => c.map (NeoPixel.scale p.brightness)

/-- Strips and pixels as they are, with another colour in one place. -/
structure WritesOnly (l l' : LedController) (stripIndex pixelIndex : ℕ) (c : Rgb) : Prop where
  written : l'.pixel? stripIndex pixelIndex = l.storedOn stripIndex c
  others : ∀ s n, (s, n) ≠ (stripIndex, pixelIndex) → l'.pixel? s n = l.pixel? s n
  lengths : l'.stripLengths = l.stripLengths
  brightness : l'.sStrips.map NeoPixel.brightness = l.sStrips.map NeoPixel.brightness
  rest : { l' with sStrips := l.sStrips } = l

/-! ## The index -/

theorem resolveFrom_eq (i : ℕ) (strips : List NeoPixel) (g : ℕ) :
    resolveFrom i strips g =
      (locate (strips.map NeoPixel.numPixels) g).map fun cell => (i + cell.1, cell.2) := by
  induction strips generalizing i g with
  | nil => rfl
  | cons p strips ih =>
    rw [resolveFrom, List.map_cons, locate]
    split
    · rfl
    · rw [ih, Option.map_map]
      congr 1
      funext cell
      have hindex : i + 1 + cell.1 = i + (cell.1 + 1) := by omega
      exact Prod.ext hindex rfl

theorem resolveGlobalIndex_eq (l : LedController) (g : ℕ) :
    l.resolveGlobalIndex g = locate l.stripLengths g := by
  rw [resolveGlobalIndex, resolveFrom_eq, stripLengths]
  simp

/-- No two indices denote the same pixel. -/
theorem resolveGlobalIndex_injective {l : LedController} {g g' : ℕ} {pixel : ℕ × ℕ}
    (h : l.resolveGlobalIndex g = some pixel) (h' : l.resolveGlobalIndex g' = some pixel) :
    g = g' := by
  rw [resolveGlobalIndex_eq, locate_eq_some_iff] at h h'
  exact h.2.symm.trans h'.2

/-- A cell of the table is a pixel. -/
theorem isCell_stripLengths_iff (l : LedController) (stripIndex pixelIndex : ℕ) :
    IsCell l.stripLengths (stripIndex, pixelIndex) ↔
      ∃ p, l.sStrips[stripIndex]? = some p ∧ pixelIndex < p.numPixels := by
  simp [IsCell, stripLengths]

/-! ## A write -/

theorem storedOn_congr {l l' : LedController}
    (hbrightness : l'.sStrips.map NeoPixel.brightness = l.sStrips.map NeoPixel.brightness)
    (s : ℕ) (c : Rgb) : l'.storedOn s c = l.storedOn s c := by
  have hstored : ∀ l : LedController, l.storedOn s c =
      (l.sStrips.map NeoPixel.brightness)[s]?.map fun level => c.map (NeoPixel.scale level) := by
    intro l
    rw [storedOn, List.getElem?_map, Option.map_map]
    rfl
  rw [hstored l', hstored l, hbrightness]

theorem writesOnly_modifyStrip {l : LedController} {stripIndex pixelIndex : ℕ}
    (hpixel : IsCell l.stripLengths (stripIndex, pixelIndex)) (c : Rgb) :
    WritesOnly l (l.modifyStrip stripIndex (NeoPixel.setPixelColor pixelIndex c)) stripIndex
      pixelIndex c := by
  obtain ⟨p, hp, hlt⟩ := (isCell_stripLengths_iff l stripIndex pixelIndex).mp hpixel
  refine ⟨?_, ?_, map_modify (NeoPixel.numPixels_setPixelColor pixelIndex c) stripIndex l.sStrips,
    map_modify (NeoPixel.brightness_setPixelColor pixelIndex c) stripIndex l.sStrips, rfl⟩
  · rw [pixel?, getElem?_modifyStrip, if_pos rfl, storedOn, hp]
    simp [NeoPixel.getElem?_setPixelColor, hlt]
  · intro s n hother
    rw [pixel?, getElem?_modifyStrip, pixel?]
    split
    · rename_i hs
      subst hs
      have hn : pixelIndex ≠ n := fun h => hother (h ▸ rfl)
      simp [hp, NeoPixel.getElem?_setPixelColor, hn]
    · rfl

/-- A write through the flattened index: to the pixel it denotes, or to none. -/
theorem setPixelGlobal_cases (l : LedController) (g : ℕ) (c : Rgb) :
    (∀ s n, l.resolveGlobalIndex g = some (s, n) → WritesOnly l (l.setPixelGlobal g c) s n c) ∧
      (l.resolveGlobalIndex g = none → l.setPixelGlobal g c = l) := by
  constructor
  · intro s n hresolve
    have hcell : IsCell l.stripLengths (s, n) := by
      rw [resolveGlobalIndex_eq] at hresolve
      exact (locate_eq_some_iff.mp hresolve).1
    rw [setPixelGlobal, hresolve]
    exact writesOnly_modifyStrip hcell c
  · intro hnone
    rw [setPixelGlobal, hnone]

theorem setPixelGlobalHSV_eq (l : LedController) (g : ℕ) (hue : UInt16) (saturation value : UInt8) :
    l.setPixelGlobalHSV g hue saturation value = l.setPixelGlobal g (hsv hue saturation value) :=
  rfl

/-! ## The bijection -/

/-- Below the pixel count the flattened index runs through the pixels of the strips one by one,
strip after strip, and from there on it denotes nothing; a write through it reaches the pixel
it denotes and no other. -/
theorem flattened_index_bijective (l : LedController) :
    (∀ g < l.totalPixelCount, ∃ s n, l.resolveGlobalIndex g = some (s, n) ∧
        ∃ p, l.sStrips[s]? = some p ∧ n < p.numPixels) ∧
      (∀ s n p, l.sStrips[s]? = some p → n < p.numPixels →
        ∃! g, g < l.totalPixelCount ∧ l.resolveGlobalIndex g = some (s, n)) ∧
      (∀ g g' pixel pixel', l.resolveGlobalIndex g = some pixel →
        l.resolveGlobalIndex g' = some pixel' → (g < g' ↔ toLex pixel < toLex pixel')) ∧
      (∀ g ≥ l.totalPixelCount, l.resolveGlobalIndex g = none) ∧
      (∀ g c s n, l.resolveGlobalIndex g = some (s, n) →
        WritesOnly l (l.setPixelGlobal g c) s n c) ∧
      (∀ g hue saturation value s n, l.resolveGlobalIndex g = some (s, n) →
        WritesOnly l (l.setPixelGlobalHSV g hue saturation value) s n
          (hsv hue saturation value)) ∧
      ∀ g ≥ l.totalPixelCount, (∀ c, l.setPixelGlobal g c = l) ∧
        ∀ hue saturation value, l.setPixelGlobalHSV g hue saturation value = l := by
  -- the index is the number of a cell in rows of different lengths
  have hnone : ∀ g, l.resolveGlobalIndex g = none ↔ l.totalPixelCount ≤ g := by
    intro g
    rw [resolveGlobalIndex_eq]
    exact locate_eq_none_iff
  have hsome : ∀ g s n, l.resolveGlobalIndex g = some (s, n) ↔
      IsCell l.stripLengths (s, n) ∧ number l.stripLengths (s, n) = g := by
    intro g s n
    rw [resolveGlobalIndex_eq]
    exact locate_eq_some_iff
  refine ⟨?_, ?_, ?_, fun g hg => (hnone g).mpr hg, ?_, ?_, ?_⟩
  · intro g hg
    have hfound : l.resolveGlobalIndex g ≠ none := fun h => by
      have := (hnone g).mp h
      omega
    obtain ⟨⟨s, n⟩, hresolve⟩ := Option.ne_none_iff_exists'.mp hfound
    exact ⟨s, n, hresolve, (isCell_stripLengths_iff l s n).mp ((hsome g s n).mp hresolve).1⟩
  · intro s n p hp hn
    have hcell : IsCell l.stripLengths (s, n) := (isCell_stripLengths_iff l s n).mpr ⟨p, hp, hn⟩
    refine ⟨number l.stripLengths (s, n), ⟨number_lt_sum hcell, (hsome _ s n).mpr ⟨hcell, rfl⟩⟩, ?_⟩
    rintro g ⟨-, hresolve⟩
    exact ((hsome g s n).mp hresolve).2.symm
  · rintro g g' ⟨s, n⟩ ⟨s', n'⟩ hresolve hresolve'
    obtain ⟨hcell, rfl⟩ := (hsome g s n).mp hresolve
    obtain ⟨hcell', rfl⟩ := (hsome g' s' n').mp hresolve'
    exact number_lt_number_iff hcell hcell'
  · exact fun g c => (setPixelGlobal_cases l g c).1
  · exact fun g hue saturation value => (setPixelGlobal_cases l g _).1
  · intro g hg
    have hunresolved := (hnone g).mpr hg
    refine ⟨fun c => (setPixelGlobal_cases l g c).2 hunresolved, fun hue saturation value => ?_⟩
    rw [setPixelGlobalHSV_eq]
    exact (setPixelGlobal_cases l g _).2 hunresolved

/-- Three strips, the one in the middle without pixels: the last index before the gap and the
first after it. -/
theorem index_across_empty_strip :
    let l : LedController := { sStrips := [.new 2, .new 0, .new 3] }
    l.resolveGlobalIndex 1 = some (0, 1) ∧ l.resolveGlobalIndex 2 = some (2, 0) ∧
      l.resolveGlobalIndex 5 = none ∧
      ∃! g, g < l.totalPixelCount ∧ l.resolveGlobalIndex g = some (2, 0) := by
  intro l
  obtain ⟨-, honto, -, hnone, -⟩ := flattened_index_bijective l
  exact ⟨rfl, rfl, hnone 5 (by decide), honto 2 0 (.new 3) rfl (by decide)⟩

end K2soHead.LedController
