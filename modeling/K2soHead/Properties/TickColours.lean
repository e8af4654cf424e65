import K2soHead.Properties.AccentColor
import K2soHead.Properties.AnalogRanges
import K2soHead.Properties.ButtonStates

/-!
# The colour cells through a tick

Three cells hold the colour: where Y stands in the palette, the accent, and the home colour a
centred stick brings back.  On a connected tick requests, Y and the stick write them, in this
order, and nothing else does.
-/

namespace K2soHead

/-! ## Requests -/

namespace WebUI

/-- Is the request one for the accent colour? -/
def picksColour : HttpRequest → Bool
  | .color _ => true
  | _ => false

/-- From `le` to `le'` the home colour stays, and with `steady` the accent too. -/
structure KeepsColours (steady : Bool) (le le' : LightEffects) : Prop where
  palette : le'.sPaletteIndex = le.sPaletteIndex
  home : le'.sDefaultAccent = le.sDefaultAccent
  accent : steady = true → le'.sAccent = le.sAccent

theorem KeepsColours.of_eq {steady : Bool} {le le' : LightEffects}
    (h : le'.colours = le.colours) : KeepsColours steady le le' :=
  ⟨congrArg Prod.fst h, congrArg (fun c => c.2.2) h, fun _ => congrArg (fun c => c.2.1) h⟩

/-- Requests leave the home colour alone, and all but one kind leave the accent alone. -/
theorem keepsColours_serve (b : Board) (now : UInt32) (h : Head) (r : HttpRequest) :
    KeepsColours (!picksColour r) h.lights (serve b now h r).lights := by
  have hserved := served_dispatch b now h r
  have hlights : (serve b now h r).lights = (dispatch b now h r).1.lights := rfl
  rw [hlights]
  generalize (dispatch b now h r).1 = h' at hserved
  cases hserved with
  | nothing => exact .of_eq rfl
  | effect value index => exact .of_eq (LightEffects.colours_selectEffect now index h.lights)
  | color hex c => exact ⟨rfl, rfl, nofun⟩
  | brightness value level => exact .of_eq rfl
  | play value track => exact .of_eq rfl
  | volume value level => exact .of_eq rfl
  | eyeTrim pan tilt m => exact .of_eq rfl

end WebUI

namespace Sketch

open WebUI

/-! ## The parts of a tick -/

/-- Is the accent colour picked over the web on this tick? -/
def servesColour (h : Head) (i : LoopInput) : Bool :=
  h.services.webRunning && i.requests.any picksColour

theorem keepsColours_poll (b : Board) (h : Head) (i : LoopInput) :
    KeepsColours (!servesColour h i) h.lights (poll b i h).lights := by
  have hrequests : ∀ (requests : List HttpRequest) (h : Head),
      KeepsColours (!requests.any picksColour) h.lights
        (requests.foldl (serve b (millis i.clock.requests)) h).lights := by
    intro requests
    induction requests with
    | nil => exact fun h => .of_eq rfl
    | cons r requests ih =>
      intro h
      have hfirst := keepsColours_serve b (millis i.clock.requests) h r
      have hrest := ih (serve b (millis i.clock.requests) h r)
      refine ⟨hrest.palette.trans hfirst.palette, hrest.home.trans hfirst.home, fun hsteady => ?_⟩
      rw [List.any_cons, Bool.not_or, Bool.and_eq_true] at hsteady
      exact (hrest.accent hsteady.2).trans (hfirst.accent hsteady.1)
  have hota : ∀ h : Head, (OtaService.handle i.otaEvents h).lights = h.lights :=
    OtaService.proj_handle Head.lights (fun _ e => by cases e <;> rfl) i.otaEvents
  rw [poll, hota, handleClient, servesColour]
  cases hweb : h.services.webRunning with
  | true =>
    rw [Bool.true_and]
    exact hrequests i.requests { h with gamepad := (GamepadInput.update i.pads h.gamepad).1 }
  | false => exact .of_eq rfl

/-- What Y does to the lights on a tick. -/
def clicked (now : UInt32) (gp : GamepadState) (s : K2soHead.Sketch) (le : LightEffects) :
    LightEffects :=
  if yEdge gp s then
    if secondClick now s then le.setDefaultAccentToCurrent else le.cycleDefaultAccentColor
  else le

/-- The colours of a click depend on the colours before it only. -/
theorem colours_clicked {now : UInt32} {gp : GamepadState} {s : K2soHead.Sketch}
    {le le' : LightEffects} (h : le.colours = le'.colours) :
    (clicked now gp s le).colours = (clicked now gp s le').colours := by
  simp only [LightEffects.colours, Prod.mk.injEq] at h
  obtain ⟨hpalette, haccent, hhome⟩ := h
  simp only [clicked]
  split
  · split
    · simp only [LightEffects.colours, LightEffects.setDefaultAccentToCurrent, hpalette, haccent]
    · simp only [LightEffects.colours, LightEffects.cycleDefaultAccentColor, hpalette]
  · simp only [LightEffects.colours, hpalette, haccent, hhome]

section Controls

variable (b : Board) (now : UInt32) (d : RearmDraws) (gp : GamepadState) (h : Head)

theorem colours_stepPatterns : (stepPatterns now gp h).lights.colours = h.lights.colours := by
  simp only [stepPatterns]
  split <;> split <;> rfl

@[simp] theorem lights_toggleX : (toggleX b now d gp h).lights = h.lights :=
  proj_toggleX b now d gp Head.lights (fun _ _ _ _ => rfl) h

theorem lights_clickY : (clickY now gp h).lights = clicked now gp h.sketch h.lights := by
  simp only [clickY, clicked, yEdge, secondClick]
  split
  · split
    · rename_i hedge hsecond
      simp [hedge, hsecond]
    · rename_i hedge hfirst
      simp [hedge, hfirst]
  · rename_i hedge
    simp [hedge]

@[simp] theorem lights_audioControls : (audioControls b now gp h).lights = h.lights :=
  proj_audioControls b now gp Head.lights (fun _ _ _ _ => rfl) h

@[simp] theorem lights_rampBrightness : (rampBrightness gp h).lights = h.lights :=
  proj_rampBrightness gp Head.lights (fun _ _ => rfl) h

/-- Of the controls of a connected tick only Y writes a colour cell. -/
theorem colours_connectedControls : (connectedControls b now d gp h).lights.colours =
    (clicked now gp h.sketch h.lights).colours := by
  have hsketch : ∀ le, clicked now gp
      (toggleX b now d gp (stepPatterns now gp (dimStrips gp h))).sketch le =
        clicked now gp h.sketch le := by
    intro le
    simp [clicked, yEdge, secondClick]
  simp only [connectedControls, lights_rampBrightness, lights_audioControls, lights_clickY, hsketch,
    lights_toggleX]
  exact colours_clicked (colours_stepPatterns now gp (dimStrips gp h))

end Controls

/-! ## Rendering -/

/-- The colour of a stick position. -/
def steered (gp : GamepadState) : Rgb := LightEffects.hueToRGB (stickHue gp.axisX)

/-- Rendering takes the accent from the stick, or from home, and writes no other colour cell. -/
theorem colours_update (b : Board) (now : UInt32) {gp : GamepadState}
    (hconnected : gp.connected = true) (d : EffectDraws) (le : LightEffects)
    (led : LedController) :
    (LightEffects.update b now gp d le led).1.colours =
      (le.sPaletteIndex,
        if LightEffects.stickCentered gp then le.sDefaultAccent else steered gp,
        le.sDefaultAccent) := by
  rw [LightEffects.update, LightEffects.colours_runEffect]
  cases hcentered : LightEffects.stickCentered gp with
  | true =>
    simp only [LightEffects.updateAccentFromGamepad, hconnected, hcentered, Bool.not_true, if_true,
      Bool.false_eq_true, if_false]
    rfl
  | false =>
    rw [updateAccentFromGamepad_eq hconnected hcentered]
    rfl

/-- The colour cells after a connected tick. -/
theorem colours_loop (b : Board) {h : Head} {i : LoopInput}
    (hconnected : (padSeen h i).connected = true) :
    let le := clicked (millis i.clock.controls) (padSeen h i) h.sketch (poll b i h).lights
    (loop b h i).lights.colours =
      (le.sPaletteIndex,
        if LightEffects.stickCentered (padSeen h i) then le.sDefaultAccent
        else steered (padSeen h i),
        le.sDefaultAccent) := by
  intro le
  have hact : (act b i (poll b i h)).lights = (controlled b h i).lights :=
    proj_act Head.lights (fun _ _ _ _ _ => rfl) b i (poll b i h)
  have hpad : (act b i (poll b i h)).gamepad.sState = padSeen h i :=
    congrArg (fun g => g.sState) (gamepad_loop b h i)
  have hcontrolled : (act b i (poll b i h)).lights.colours = le.colours := by
    rw [hact, controlled_of_connected b h i hconnected, colours_connectedControls, sketch_poll]
  have hrender : (loop b h i).lights =
      (LightEffects.update b (millis i.clock.effects) (padSeen h i) i.effectDraws
        (act b i (poll b i h)).lights (act b i (poll b i h)).led).1 := by
    rw [← hpad]
    rfl
  simp only [LightEffects.colours, Prod.mk.injEq] at hcontrolled
  rw [hrender, colours_update b _ hconnected, hcontrolled.1, hcontrolled.2.2]

end Sketch

end K2soHead
