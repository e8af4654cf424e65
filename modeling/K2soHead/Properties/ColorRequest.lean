import K2soHead.Library.Hex
import K2soHead.Properties.LoopFrames

/-!
# What `/api/color` accepts

The handler checks the length of its argument and decodes each character on its own, with zero
for one that is no digit.  So it takes six characters of any kind, where the text of its error
promises six hex digits.
-/

namespace K2soHead.WebUI

open Hex

/-! ## The decoder -/

theorem hexNibble_of_hasValue {c : UInt8} {n : Fin 16} (h : HasValue c n) :
    hexNibble c = UInt8.ofNat n := by
  have hlower : ∀ n, hexNibble (digit lower n) = UInt8.ofNat n := by decide
  have hupper : ∀ n, hexNibble (digit upper n) = UInt8.ofNat n := by decide
  rcases h with rfl | rfl
  · exact hlower n
  · exact hupper n

/-- Two digits are packed into the byte they denote. -/
theorem packed_of_hasValue {hi lo v : UInt8} {m n : Fin 16} (hhi : HasValue hi m)
    (hlo : HasValue lo n) (hv : v.toNat = 16 * m + n) :
    hexNibble hi <<< 4 ||| hexNibble lo = v := by
  have hpack : ∀ m n : Fin 16,
      (UInt8.ofNat m <<< 4 ||| UInt8.ofNat n).toNat = 16 * m.val + n.val := by decide
  rw [hexNibble_of_hasValue hhi, hexNibble_of_hasValue hlo, ← UInt8.toNat_inj, hpack, hv]

/-! ## The law and the condition -/

/-- The string is a notation of the colour. -/
def Notates (hex : List UInt8) (c : Rgb) : Prop := Denotes hex [c.r, c.g, c.b]

/-- What a request for a colour must do, of any string. -/
structure AcceptsExactly (hex : List UInt8) (h : Head) : Prop where
  accepted : ∀ c, Notates hex c →
    (handleSetColor hex h).2 = ok ∧
      (handleSetColor hex h).1 = { h with lights := h.lights.setAccentColor c }
  round_trip : ∀ c letter, letter = lower ∨ letter = upper → hex = encode letter [c.r, c.g, c.b] →
    (handleSetColor hex h).1.lights.sAccent = c
  rejected : (∀ c, ¬ Notates hex c) →
    (handleSetColor hex h).2.code = 400 ∧
      (handleSetColor hex h).1.lights.sAccent = h.lights.sAccent

/-- Six hex digits, and nothing else, are a notation of a colour. -/
theorem exists_notates_iff {hex : List UInt8} :
    (∃ c, Notates hex c) ↔ hex.length = 6 ∧ ∀ c ∈ hex, IsDigit c := by
  constructor
  · rintro ⟨c, h⟩
    exact ⟨h.length_eq, h.isDigit⟩
  · rintro ⟨hlength, hdigits⟩
    obtain ⟨bytes, hbytes⟩ := exists_denotes (n := 3) hlength hdigits
    have hthree : bytes.length = 3 := by
      have hlength_eq := hbytes.length_eq
      omega
    obtain ⟨r, g, b, rfl⟩ := List.length_eq_three.mp hthree
    exact ⟨⟨r, g, b⟩, hbytes⟩

/-! ## The handler -/

/-- Six hex digits set the colour they are the notation of. -/
theorem handleSetColor_of_notates {hex : List UInt8} {c : Rgb} (h : Notates hex c) (head : Head) :
    handleSetColor hex head =
      ({ head with lights := head.lights.setAccentColor c }, ok) := by
  rcases h with _ | ⟨hr₁, hr₀, hr, _ | ⟨hg₁, hg₀, hg, _ | ⟨hb₁, hb₀, hb, _ | _⟩⟩⟩
  simp only [handleSetColor, packed_of_hasValue hr₁ hr₀ hr, packed_of_hasValue hg₁ hg₀ hg,
    packed_of_hasValue hb₁ hb₀ hb]

/-- Any other length is refused, and nothing changes. -/
theorem handleSetColor_of_length_ne {hex : List UInt8} (h : hex.length ≠ 6) (head : Head) :
    handleSetColor hex head = (head, bad "expected 6 hex digits, e.g. ff8800") := by
  unfold handleSetColor
  split
  · exact absurd rfl h
  · rfl

/-- Six characters of any kind are answered with OK. -/
theorem reply_of_length_eq {hex : List UInt8} (h : hex.length = 6) (head : Head) :
    (handleSetColor hex head).2 = ok := by
  rcases hex with _ | ⟨r₁, _ | ⟨r₀, _ | ⟨g₁, _ | ⟨g₀, _ | ⟨b₁, _ | ⟨b₀, _ | _⟩⟩⟩⟩⟩⟩
  all_goals first | rfl | simp at h

/-- Of any string: the law holds if and only if the string is not six characters long, or all of
its characters are hex digits. -/
theorem acceptsExactly_iff (hex : List UInt8) (h : Head) :
    AcceptsExactly hex h ↔ hex.length ≠ 6 ∨ ∀ c ∈ hex, IsDigit c := by
  constructor
  · intro hlaw
    by_contra hother
    rw [not_or, not_not] at hother
    have hnone : ∀ c, ¬ Notates hex c :=
      fun c hnotates => hother.2 (exists_notates_iff.mp ⟨c, hnotates⟩).2
    have hcode := (hlaw.rejected hnone).1
    -- no colour, and still the answer is OK
    rw [reply_of_length_eq hother.1] at hcode
    exact absurd hcode (by decide)
  · intro hcond
    refine ⟨fun c hnotates => ?_, fun c letter hcase hencoded => ?_, fun hnone => ?_⟩
    · rw [handleSetColor_of_notates hnotates]
      exact ⟨rfl, rfl⟩
    · have hnotates : Notates hex c := hencoded ▸ denotes_encode hcase [c.r, c.g, c.b]
      rw [handleSetColor_of_notates hnotates]
      rfl
    · have hlength : hex.length ≠ 6 := by
        rcases hcond with hlength | hdigits
        · exact hlength
        · intro hlength
          obtain ⟨c, hnotates⟩ := exists_notates_iff.mpr ⟨hlength, hdigits⟩
          exact hnone c hnotates
      rw [handleSetColor_of_length_ne hlength]
      exact ⟨rfl, rfl⟩

/-- `zzzzzz` is answered with OK, and the accent goes black. -/
theorem zzzzzz_accepted :
    let hex : List UInt8 := List.replicate 6 0x7a
    let h := Sketch.setup (esp32DevKitC fun _ => 0) 0 lowestRearm
    (handleSetColor hex h).2 = ok ∧ (handleSetColor hex h).1.lights.sAccent = Rgb.black ∧
      ¬ AcceptsExactly hex h := by
  intro hex h
  have hreply : (handleSetColor hex h).2 = ok := rfl
  refine ⟨hreply, rfl, fun hlaw => ?_⟩
  have hnone : ∀ c, ¬ Notates hex c := by
    intro c hnotates
    exact absurd (hnotates.isDigit 0x7a (by simp [hex])) (by decide)
  have hcode := (hlaw.rejected hnone).1
  rw [hreply] at hcode
  exact absurd hcode (by decide)

end K2soHead.WebUI
