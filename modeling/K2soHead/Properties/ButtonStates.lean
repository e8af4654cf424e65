import K2soHead.Properties.IdleParking
import K2soHead.Properties.Sessions

/-!
# What a tick does to the statics of the sketch

Every block of the controls, and the admin button, as one update of the record `Sketch`; the
rest of a tick leaves the record alone.  Edge flags, timers and latches can then be followed
through a tick without looking at the blocks again.
-/

namespace K2soHead.Sketch

/-! ## Conditions of the branches -/

/-- X goes down, as the edge flag sees it. -/
def xEdge (gp : GamepadState) (s : K2soHead.Sketch) : Bool := gp.x && !s.sXWasPressed

/-- Y goes down, as the edge flag sees it. -/
def yEdge (gp : GamepadState) (s : K2soHead.Sketch) : Bool := gp.y && !s.sYWasPressed

/-- A press of Y now would be the second click of a double click. -/
def secondClick (now : UInt32) (s : K2soHead.Sketch) : Bool :=
  s.sLastYPressMs != 0 && decide (now - s.sLastYPressMs ≤ kDoubleClickWindowMs)

/-- The volume may be stepped again. -/
def volumeDue (now : UInt32) (s : K2soHead.Sketch) : Bool :=
  decide (now - s.sLastVolumeChangeMs ≥ kVolumeRepeatMs)

/-- A low sample now completes a hold of the admin button. -/
def holdComplete (now : UInt32) (s : K2soHead.Sketch) : Bool :=
  decide (s.sAdminPressedAtMs ≠ 0) && !s.sAdminHoldFired &&
    decide (now - s.sAdminPressedAtMs ≥ kAdminHoldMs)

/-! ## The blocks -/

section Controls

variable (b : Board) (now : UInt32) (d : RearmDraws) (gp : GamepadState) (h : Head)

@[simp] theorem sketch_dimStrips : (dimStrips gp h).sketch = h.sketch := rfl

@[simp] theorem sketch_stepPatterns : (stepPatterns now gp h).sketch =
    { h.sketch with sL1WasPressed := gp.l1, sR1WasPressed := gp.r1 } := by
  simp only [stepPatterns]
  split <;> split <;> rfl

@[simp] theorem sketch_toggleX : (toggleX b now d gp h).sketch =
    { h.sketch with
      sXWasPressed := gp.x
      sBrightnessBeforeOff :=
        if xEdge gp h.sketch = true ∧ h.led.sGlobalBrightness ≠ 0 then h.led.sGlobalBrightness
        else h.sketch.sBrightnessBeforeOff } := by
  have hswitch : ∀ h : Head, (switchLights b now d h).sketch =
      { h.sketch with
        sBrightnessBeforeOff :=
          if h.led.sGlobalBrightness ≠ 0 then h.led.sGlobalBrightness
          else h.sketch.sBrightnessBeforeOff } := by
    intro h
    by_cases hoff : h.led.sGlobalBrightness = 0
    · simp only [switchLights, LedController.brightness, hoff, beq_self_eq_true, if_true]
      split <;> simp
    · simp only [switchLights, LedController.brightness, beq_iff_eq, hoff, if_false]
      split <;> simp
  simp only [toggleX, xEdge]
  split
  · rename_i hedge
    simp [hswitch, hedge, Head.call]
  · rename_i hedge
    simp [hedge]

@[simp] theorem sketch_clickY : (clickY now gp h).sketch =
    { h.sketch with
      sYWasPressed := gp.y
      sLastYPressMs :=
        if yEdge gp h.sketch then if secondClick now h.sketch then 0 else now
        else h.sketch.sLastYPressMs } := by
  simp only [clickY, yEdge, secondClick]
  -- outer split: the edge; inner split: single or double click
  split
  · split
    · rename_i hedge hsecond
      simp [hedge, hsecond]
    · rename_i hedge hfirst
      simp [hedge, hfirst]
  · rename_i hedge
    simp [hedge]

@[simp] theorem sketch_rampVolume : (rampVolume b now gp h).sketch =
    { h.sketch with
      sVolumeAdjusted :=
        volumeHeld gp && (volumeDue now h.sketch || h.sketch.sVolumeAdjusted)
      sLastVolumeChangeMs :=
        if volumeHeld gp && volumeDue now h.sketch then now
        else h.sketch.sLastVolumeChangeMs } := by
  simp only [rampVolume, volumeHeld, volumeDue]
  split
  · rename_i hheld
    split
    · rename_i hdue
      simp [hheld, hdue]
    · rename_i hdue
      simp [hheld, hdue]
  · rename_i hreleased
    split
    · simp [hreleased]
    · rename_i hlatch
      have hclear : { h.sketch with sVolumeAdjusted := false } = h.sketch := by
        rw [← Bool.eq_false_of_not_eq_true hlatch]
      simp [hreleased, hclear]

@[simp] theorem sketch_stepTracks : (stepTracks b now gp h).sketch =
    { h.sketch with
      sDpadRightWasPressed := gp.dpadRight
      sDpadLeftWasPressed := gp.dpadLeft } := by
  simp only [stepTracks]
  split <;> split <;> rfl

@[simp] theorem sketch_replayMenu : (replayMenu b now gp h).sketch =
    { h.sketch with sStartWasPressed := gp.start } := by
  simp only [replayMenu]
  split <;> rfl

@[simp] theorem sketch_rampBrightness : (rampBrightness gp h).sketch = h.sketch :=
  proj_rampBrightness gp Head.sketch (fun _ _ => rfl) h

@[simp] theorem sketch_audioControls : (audioControls b now gp h).sketch =
    if b.audio.isSome then
      { h.sketch with
        sVolumeAdjusted :=
          volumeHeld gp && (volumeDue now h.sketch || h.sketch.sVolumeAdjusted)
        sLastVolumeChangeMs :=
          if volumeHeld gp && volumeDue now h.sketch then now else h.sketch.sLastVolumeChangeMs
        sDpadRightWasPressed := gp.dpadRight
        sDpadLeftWasPressed := gp.dpadLeft
        sStartWasPressed := gp.start }
    else h.sketch := by
  unfold audioControls
  split
  · simp
  · rfl

/-- The flag of X and the level it keeps, after the controls of a connected tick. -/
theorem x_connectedControls :
    (connectedControls b now d gp h).sketch.sXWasPressed = gp.x ∧
      (connectedControls b now d gp h).sketch.sBrightnessBeforeOff =
        if xEdge gp h.sketch = true ∧ h.led.sGlobalBrightness ≠ 0 then h.led.sGlobalBrightness
        else h.sketch.sBrightnessBeforeOff := by
  have hlevel : (stepPatterns now gp (dimStrips gp h)).led.sGlobalBrightness =
      h.led.sGlobalBrightness :=
    congrArg Prod.snd ((lamp_stepPatterns now gp (dimStrips gp h)).trans (lamp_dimStrips gp h))
  have hedge : xEdge gp (stepPatterns now gp (dimStrips gp h)).sketch = xEdge gp h.sketch := by
    rw [sketch_stepPatterns]
    rfl
  simp only [connectedControls, sketch_rampBrightness, sketch_audioControls]
  split <;>
    simp only [sketch_clickY, sketch_toggleX, hlevel, hedge, true_and] <;>
    simp only [sketch_stepPatterns, sketch_dimStrips]

end Controls

section Tick

variable (b : Board) (h : Head) (i : LoopInput)

/-- The time stamp of the press starts with the first low sample and ends with a high one. -/
@[simp] theorem sketch_adminButton (now : UInt32) (low softAP : Bool) :
    (adminButton now low softAP h).sketch =
      { h.sketch with
        sAdminPressedAtMs :=
          if low then if h.sketch.sAdminPressedAtMs = 0 then now else h.sketch.sAdminPressedAtMs
          else 0
        sAdminHoldFired := low && (h.sketch.sAdminHoldFired || holdComplete now h.sketch) } := by
  simp only [adminButton, holdComplete]
  cases low with
  | false => simp
  | true =>
    by_cases hidle : h.sketch.sAdminPressedAtMs = 0
    · simp [hidle]
    · cases hfired : h.sketch.sAdminHoldFired with
      | true =>
        have hkept : { h.sketch with sAdminHoldFired := true } = h.sketch := by rw [← hfired]
        simp [hidle, hkept]
      | false =>
        have hkept : { h.sketch with sAdminHoldFired := false } = h.sketch := by rw [← hfired]
        by_cases hlong : now - h.sketch.sAdminPressedAtMs ≥ kAdminHoldMs
        · simp [hidle, hlong]
        · simp [hidle, hlong, hkept]

/-- A completed hold toggles the access point, and no other sample does. -/
theorem services_adminButton_eq (now : UInt32) (low softAP : Bool) :
    (adminButton now low softAP h).services =
      if low && holdComplete now h.sketch then toggleAP softAP h.services else h.services := by
  simp only [adminButton, holdComplete]
  cases low with
  | false => simp
  | true =>
    by_cases hidle : h.sketch.sAdminPressedAtMs = 0
    · simp [hidle]
    · simp only [if_true, if_false, Bool.true_and, ne_eq, hidle, not_false_eq_true, decide_true]
      split <;> rfl

/-- The controls as this tick finds them. -/
def controlled : Head := controls b (millis i.clock.controls) i.idleDraws (poll b i h)

/-- Eyes and rendering write neither the statics, nor the services, nor the calls. -/
theorem sketch_loop : (loop b h i).sketch =
    if b.adminButton then
      (adminButton (millis i.clock.admin) i.adminLow i.softAP (controlled b h i)).sketch
    else (controlled b h i).sketch := by
  have hact : (loop b h i).sketch = (act b i (poll b i h)).sketch := rfl
  rw [hact]
  simp only [act, controlled]
  split <;> split <;> rfl

/-- Up to here the tick has not touched the services. -/
theorem services_controlled : (controlled b h i).services = h.services :=
  (congrArg (fun c => c.2.1) (delivered_controls b _ i.idleDraws (poll b i h))).trans
    (congrArg (fun c => c.2.1) (console_poll b i h))

theorem services_loop_eq : (loop b h i).services =
    if b.adminButton then
      (adminButton (millis i.clock.admin) i.adminLow i.softAP (controlled b h i)).services
    else h.services := by
  have hact : (loop b h i).services = (act b i (poll b i h)).services := rfl
  rw [hact, ← services_controlled b h i]
  simp only [act, controlled]
  split <;> split <;> rfl

/-- The admin button writes its own two statics only. -/
theorem sketch_loop_of_admin {α : Type*} (f : K2soHead.Sketch → α)
    (hf : ∀ s p q, f { s with sAdminPressedAtMs := p, sAdminHoldFired := q } = f s) :
    f (loop b h i).sketch = f (controlled b h i).sketch :=
  proj_act (fun h => f h.sketch) (fun h _ _ p q => hf h.sketch p q) b i (poll b i h)

/-- The gamepad after the tick is the one the tick has polled. -/
theorem gamepad_loop : (loop b h i).gamepad = (GamepadInput.update i.pads h.gamepad).1 := by
  have hpoll : (poll b i h).gamepad = (GamepadInput.update i.pads h.gamepad).1 :=
    congrArg Prod.fst (console_poll b i h)
  have hcontrols : (controlled b h i).gamepad = (poll b i h).gamepad :=
    congrArg Prod.fst (delivered_controls b _ i.idleDraws (poll b i h))
  have hact : (loop b h i).gamepad = (controlled b h i).gamepad :=
    proj_act Head.gamepad (fun _ _ _ _ _ => rfl) b i (poll b i h)
  rw [hact, hcontrols, hpoll]

/-- The controls of a connected tick. -/
theorem controlled_of_connected (hconnected : (padSeen h i).connected = true) :
    controlled b h i =
      connectedControls b (millis i.clock.controls) i.idleDraws (padSeen h i) (poll b i h) := by
  have hpad : (poll b i h).gamepad.sState = padSeen h i :=
    congrArg (fun c => c.1.sState) (console_poll b i h)
  simp only [controlled, controls, hpad, hconnected, if_true]

theorem controlled_of_disconnected (hdisconnected : (padSeen h i).connected = false) :
    controlled b h i = releaseControls (poll b i h) := by
  have hpad : (poll b i h).gamepad.sState = padSeen h i :=
    congrArg (fun c => c.1.sState) (console_poll b i h)
  simp only [controlled, controls, hpad, hdisconnected, Bool.false_eq_true, if_false]

/-- Polling writes none of the statics. -/
theorem sketch_poll : (poll b i h).sketch = h.sketch :=
  congrArg (fun c => c.2.2.1) (console_poll b i h)

end Tick

end K2soHead.Sketch
