import K2soHead.Library.Runs
import K2soHead.Firmware.LightEffects

/-!
# How long a picked accent colour lasts

The accent is one cell written by the colour picker, by Y and, on every frame with a
gamepad connected, by the left stick.  A resting stick still writes: it puts the default
accent back, so the first connected frame after a pick decides.
-/

namespace K2soHead

open Runs

/-- A call into `LightEffects`; `update` paints on whatever strips it finds. -/
inductive EffectsOp where
  | update (now : UInt32) (gp : GamepadState) (d : EffectDraws) (led : LedController)
  | next (now : UInt32)
  | previous (now : UInt32)
  | selectEffect (now : UInt32) (index : UInt8)
  | setAccentColor (c : Rgb)
  | cycleDefaultAccentColor
  | setDefaultAccentToCurrent

namespace LightEffects

/-! ## What leaves the accent alone -/

/-- The colour cells: where Y stands in the palette, the accent and its default. -/
def colours (le : LightEffects) : Fin kPaletteSize × Rgb × Rgb :=
  (le.sPaletteIndex, le.sAccent, le.sDefaultAccent)

/-- No pattern writes a colour cell. -/
theorem colours_runEffect (b : Board) (now : UInt32) (d : EffectDraws) (le : LightEffects)
    (led : LedController) : (runEffect b now d le led).1.colours = le.colours := by
  have hfading : ∀ step spark pixel,
      (runFading step spark pixel le led).1.colours = le.colours := by
    intro step spark pixel
    simp only [runFading]
    split <;> rfl
  unfold runEffect
  cases le.sEffect with
  -- the other eleven patterns hand the state back as it was
  | confetti => exact hfading 8 _ _
  | twinkle => exact hfading 15 _ _
  | _ => rfl

theorem accent_runEffect (b : Board) (now : UInt32) (d : EffectDraws) (le : LightEffects)
    (led : LedController) :
    (runEffect b now d le led).1.sAccent = le.sAccent ∧
      (runEffect b now d le led).1.sDefaultAccent = le.sDefaultAccent :=
  ⟨congrArg (fun c => c.2.1) (colours_runEffect b now d le led),
    congrArg (fun c => c.2.2) (colours_runEffect b now d le led)⟩

theorem sDefaultAccent_updateAccentFromGamepad (gp : GamepadState) (le : LightEffects) :
    (updateAccentFromGamepad gp le).sDefaultAccent = le.sDefaultAccent := by
  unfold updateAccentFromGamepad
  split
  · rfl
  · split <;> rfl

theorem colours_selectEffect (now : UInt32) (index : UInt8) (le : LightEffects) :
    (le.selectEffect now index).colours = le.colours := by
  unfold selectEffect
  split <;> rfl

end LightEffects

namespace EffectsOp

open LightEffects

def apply (b : Board) (le : LightEffects) : EffectsOp → LightEffects
  | update now gp d led => (LightEffects.update b now gp d le led).1
  | next now => le.next now
  | previous now => le.previous now
  | selectEffect now index => le.selectEffect now index
  | setAccentColor c => le.setAccentColor c
  | cycleDefaultAccentColor => le.cycleDefaultAccentColor
  | setDefaultAccentToCurrent => le.setDefaultAccentToCurrent

/-- The stick rests: frames without a gamepad or with the left stick centred, and no other
write to the accent.  Switching patterns is allowed. -/
def Resting : EffectsOp → Prop
  | update _ gp _ _ => gp.connected = false ∨ stickCentered gp = true
  | next _ => True
  | previous _ => True
  | selectEffect _ _ => True
  | setAccentColor _ => False
  | cycleDefaultAccentColor => False
  | setDefaultAccentToCurrent => False

/-- A frame that sees a gamepad. -/
def SeesGamepad : EffectsOp → Prop
  | update _ gp _ _ => gp.connected = true
  | _ => False

/-- If the call is a frame, the accent its pattern renders with is `c`. -/
def RendersWith (c : Rgb) (le : LightEffects) : EffectsOp → Prop
  | update _ gp _ _ => (updateAccentFromGamepad gp le).sAccent = c
  | _ => True

/-! ## One call -/

theorem sDefaultAccent_apply (b : Board) (le : LightEffects) {o : EffectsOp} (h : o.Resting) :
    (apply b le o).sDefaultAccent = le.sDefaultAccent := by
  cases o with
  | update now gp d led =>
    exact (accent_runEffect b now d _ led).2.trans (sDefaultAccent_updateAccentFromGamepad gp le)
  | next now => rfl
  | previous now => rfl
  | selectEffect now index => exact congrArg (fun c => c.2.2) (colours_selectEffect now index le)
  | setAccentColor c => exact absurd h id
  | cycleDefaultAccentColor => exact absurd h id
  | setDefaultAccentToCurrent => exact absurd h id

/-- A resting frame renders with the default if it sees a gamepad, with the old accent if not. -/
theorem sAccent_apply (b : Board) (le : LightEffects) {o : EffectsOp} (h : o.Resting) :
    (o.SeesGamepad → (apply b le o).sAccent = le.sDefaultAccent) ∧
      (¬ o.SeesGamepad → (apply b le o).sAccent = le.sAccent) := by
  cases o with
  | update now gp d led =>
    rw [apply, LightEffects.update, (accent_runEffect b now d _ led).1]
    refine ⟨fun hgp => ?_, fun hgp => ?_⟩
    · have hconnected : gp.connected = true := hgp
      -- connected and resting leaves only the branch that puts the default back
      have hcentered : stickCentered gp = true := by
        rcases h with hoff | hcentered
        · rw [hconnected] at hoff
          cases hoff
        · exact hcentered
      simp only [updateAccentFromGamepad, hconnected, hcentered, Bool.not_true, if_true,
        Bool.false_eq_true, if_false]
    · have hoff : gp.connected = false := Bool.eq_false_of_not_eq_true hgp
      simp only [updateAccentFromGamepad, hoff, Bool.not_false, if_true]
  | next now => exact ⟨fun hgp => absurd hgp id, fun _ => rfl⟩
  | previous now => exact ⟨fun hgp => absurd hgp id, fun _ => rfl⟩
  | selectEffect now index =>
    exact ⟨fun hgp => absurd hgp id,
      fun _ => congrArg (fun c => c.2.1) (colours_selectEffect now index le)⟩
  | setAccentColor c => exact absurd h id
  | cycleDefaultAccentColor => exact absurd h id
  | setDefaultAccentToCurrent => exact absurd h id

/-- What a frame renders with is what it leaves behind. -/
theorem rendersWith_update_iff (b : Board) (c : Rgb) (le : LightEffects) (now : UInt32)
    (gp : GamepadState) (d : EffectDraws) (led : LedController) :
    (update now gp d led).RendersWith c le ↔ (apply b le (update now gp d led)).sAccent = c := by
  rw [apply, LightEffects.update, (accent_runEffect b now d _ led).1]
  exact Iff.rfl

/-! ## Any number of calls -/

/-- With the picked colour in the cell, the calls render with it exactly when none of their
frames sees a gamepad or the colour is the default anyway. -/
theorem renders_iff (b : Board) (c : Rgb) {later : List EffectsOp} (h : ∀ o ∈ later, o.Resting)
    {le : LightEffects} (hc : le.sAccent = c) :
    Along (apply b) (RendersWith c) le later ↔
      (∀ o ∈ later, ¬ o.SeesGamepad) ∨ c = le.sDefaultAccent := by
  induction later generalizing le with
  | nil => exact iff_of_true trivial (.inl fun o ho => absurd ho List.not_mem_nil)
  | cons o later ih =>
    have ho : o.Resting := h o List.mem_cons_self
    have hlater : ∀ q ∈ later, q.Resting := fun q hq => h q (List.mem_cons_of_mem o hq)
    have hdefault := sDefaultAccent_apply b le ho
    obtain ⟨hseen, hunseen⟩ := sAccent_apply b le ho
    have hrenders : o.RendersWith c le ↔ (apply b le o).sAccent = c := by
      cases o with
      | update now gp d led => exact rendersWith_update_iff b c le now gp d led
      | next now => exact iff_of_true trivial ((hunseen id).trans hc)
      | previous now => exact iff_of_true trivial ((hunseen id).trans hc)
      | selectEffect now index => exact iff_of_true trivial ((hunseen id).trans hc)
      | setAccentColor _ => exact absurd ho id
      | cycleDefaultAccentColor => exact absurd ho id
      | setDefaultAccentToCurrent => exact absurd ho id
    rw [along_cons, hrenders, List.forall_mem_cons]
    by_cases hgp : o.SeesGamepad
    · -- the default is put back here, so everything hangs on whether it is `c`
      rw [hseen hgp]
      constructor
      · rintro ⟨hsame, -⟩
        exact .inr hsame.symm
      · rintro (⟨hno, -⟩ | hsame)
        · exact absurd hgp hno
        · exact ⟨hsame.symm,
            (ih hlater ((hseen hgp).trans hsame.symm)).mpr (.inr (hsame.trans hdefault.symm))⟩
    · have hkept : (apply b le o).sAccent = c := (hunseen hgp).trans hc
      rw [ih hlater hkept, hdefault]
      exact ⟨fun ⟨_, hrest⟩ => hrest.imp_left fun hno => ⟨hgp, hno⟩,
        fun hrest => ⟨hkept, hrest.imp_left And.right⟩⟩

/-- From every reachable state, a picked colour survives any calls during which the stick
rests if and only if none of the frames sees a gamepad or the colour is the default. -/
theorem picked_colour_kept_iff (b : Board) (start : UInt32) (history : List EffectsOp) (c : Rgb)
    (later : List EffectsOp) (h : ∀ o ∈ later, o.Resting) :
    let le := run (apply b) (LightEffects.begin start {}) history
    Along (apply b) (RendersWith c) (le.setAccentColor c) later ↔
      (∀ o ∈ later, ¬ o.SeesGamepad) ∨ c = le.sDefaultAccent :=
  renders_iff b c h rfl

/-- Red picked while a gamepad lies on the table: the next frame is back to cyan. -/
theorem red_lost_to_resting_stick :
    let b := esp32DevKitC fun _ => 0
    let red : Rgb := ⟨255, 0, 0⟩
    let frame := update 30 { connected := true } .zero {}
    frame.Resting ∧
      ¬ Along (apply b) (RendersWith red) ((LightEffects.begin 0 {}).setAccentColor red)
        [frame] := by
  refine ⟨.inr rfl, ?_⟩
  rintro ⟨hrenders, -⟩
  -- what the frame renders with is the palette entry the default starts from
  have hcyan : kRainbowPalette kDefaultPaletteIndex = ⟨255, 0, 0⟩ := hrenders
  exact absurd hcyan (by decide)

/-- Red picked with no gamepad connected is still there two frames later. -/
theorem red_kept_without_gamepad :
    let b := esp32DevKitC fun _ => 0
    let red : Rgb := ⟨255, 0, 0⟩
    let frames := [update 30 {} .zero {}, next 40, update 60 {} .zero {}]
    Along (apply b) (RendersWith red) ((LightEffects.begin 0 {}).setAccentColor red) frames := by
  intro b red frames
  have hresting : ∀ o ∈ frames, o.Resting := by
    simp [frames, Resting]
  refine (picked_colour_kept_iff b 0 [] red frames hresting).mpr (.inl ?_)
  simp [frames, SeesGamepad]

end EffectsOp

end K2soHead
