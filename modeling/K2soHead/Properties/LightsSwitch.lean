import K2soHead.Properties.ButtonStates

/-!
# X brings the lights back

Off is brightness 0, which X, A, the web and an update can all produce; only X keeps a level
to come back to.  A run is followed together with the brightness that was in force when X
last switched the lights off.
-/

namespace K2soHead.HeadEvent

open Runs Sketch

/-- X was down on the tick before, on a gamepad that was connected. -/
def xDown (h : Head) : Bool := h.gamepad.sState.connected && h.gamepad.sState.x

/-- X goes down on this tick. -/
def PressesX (h : Head) (i : LoopInput) : Prop :=
  (padSeen h i).connected = true ∧ (padSeen h i).x = true ∧ xDown h = false

/-- X goes down on this tick, and neither A nor B is held. -/
def PressesXAlone (h : Head) (i : LoopInput) : Prop :=
  PressesX h i ∧ (padSeen h i).a = false ∧ (padSeen h i).b = false

/-- X goes down while the lights are on. -/
def SwitchesOff (h : Head) : HeadEvent → Prop
  | tick i => PressesX h i ∧ h.led.sGlobalBrightness ≠ 0
  | _ => False

/-- The brightness is the same before and after. -/
def KeepsBrightness (b : Board) (h : Head) (e : HeadEvent) : Prop :=
  (step b h e).led.sGlobalBrightness = h.led.sGlobalBrightness

instance (h : Head) (i : LoopInput) : Decidable (PressesX h i) :=
  inferInstanceAs (Decidable (_ ∧ _ ∧ _))

instance (h : Head) (i : LoopInput) : Decidable (PressesXAlone h i) :=
  inferInstanceAs (Decidable (_ ∧ _ ∧ _))

instance (h : Head) : (e : HeadEvent) → Decidable (SwitchesOff h e)
  | tick _ => inferInstanceAs (Decidable (_ ∧ _))
  | request _ _ => .isFalse id
  | ota _ => .isFalse id

instance (b : Board) (h : Head) (e : HeadEvent) : Decidable (KeepsBrightness b h e) :=
  inferInstanceAs (Decidable (_ = _))

/-- A step, with the brightness in force when X last switched off. -/
def offStep (b : Board) (s : Head × Option UInt8) (e : HeadEvent) : Head × Option UInt8 :=
  (step b s.1 e, if SwitchesOff s.1 e then some s.1.led.sGlobalBrightness else s.2)

/-! ## One event -/

/-- Requests and OTA callbacks reach neither the gamepad nor the statics of the sketch. -/
theorem console_step (b : Board) (h : Head) (e : HeadEvent) (hevent : ∀ i, e ≠ tick i) :
    (step b h e).gamepad = h.gamepad ∧ (step b h e).sketch = h.sketch := by
  cases e with
  | request now r =>
    have hconsole := WebUI.console_handleClient b now [r] h
    exact ⟨congrArg Prod.fst hconsole, congrArg (fun c => c.2.2.1) hconsole⟩
  | ota e =>
    have hconsole := OtaService.console_handle [e] h
    exact ⟨congrArg Prod.fst hconsole, congrArg (fun c => c.2.2.1) hconsole⟩
  | tick i => exact absurd rfl (hevent i)

/-- What X finds and leaves on a tick. -/
theorem x_tick (b : Board) (h : Head) (i : LoopInput) :
    (step b h (tick i)).sketch.sXWasPressed = ((padSeen h i).connected && (padSeen h i).x) ∧
      (step b h (tick i)).sketch.sBrightnessBeforeOff =
        if (padSeen h i).connected = true ∧ xEdge (padSeen h i) h.sketch = true ∧
            h.led.sGlobalBrightness ≠ 0 then h.led.sGlobalBrightness
        else h.sketch.sBrightnessBeforeOff := by
  have hpad : padSeen h i.quiet = padSeen h i := rfl
  have hlevel : (poll b i.quiet h).led.sGlobalBrightness = h.led.sGlobalBrightness := by
    rw [poll_quiet]
  rw [step, sketch_loop_of_admin b h i.quiet Sketch.sXWasPressed fun _ _ _ => rfl,
    sketch_loop_of_admin b h i.quiet Sketch.sBrightnessBeforeOff fun _ _ _ => rfl]
  cases hconnected : (padSeen h i).connected with
  | true =>
    rw [controlled_of_connected b h i.quiet hconnected]
    obtain ⟨hflag, hsaved⟩ := x_connectedControls b (millis i.quiet.clock.controls)
      i.quiet.idleDraws (padSeen h i.quiet) (poll b i.quiet h)
    rw [hflag, hsaved, sketch_poll, hlevel, hpad]
    simp
  | false =>
    rw [controlled_of_disconnected b h i.quiet hconnected, releaseControls, sketch_poll]
    simp

/-! ## The edge and the kept level -/

/-- The edge flag of X follows the gamepad. -/
def EdgeFollows (h : Head) : Prop := h.sketch.sXWasPressed = xDown h

theorem xEdge_iff {h : Head} (hedge : EdgeFollows h) (i : LoopInput) :
    (padSeen h i).connected = true ∧ xEdge (padSeen h i) h.sketch = true ↔ PressesX h i := by
  rw [PressesX, xEdge, hedge]
  simp

theorem EdgeFollows.congr {h h' : Head} (hedge : EdgeFollows h)
    (hsame : h'.gamepad = h.gamepad ∧ h'.sketch = h.sketch) : EdgeFollows h' := by
  rw [EdgeFollows, xDown, hsame.1, hsame.2]
  exact hedge

theorem EdgeFollows.step {b : Board} {h : Head} (hedge : EdgeFollows h) (e : HeadEvent) :
    EdgeFollows (step b h e) := by
  cases e with
  | tick i =>
    have hdown : xDown (HeadEvent.step b h (tick i)) =
        ((padSeen h i).connected && (padSeen h i).x) := by
      rw [xDown, HeadEvent.step, gamepad_loop]
      rfl
    exact (x_tick b h i).1.trans hdown.symm
  | request now r => exact hedge.congr (console_step b h (request now r) (by simp))
  | ota e => exact hedge.congr (console_step b h (ota e) (by simp))

/-- The level X keeps is written where X switches off, and nowhere else. -/
theorem kept_step {b : Board} {h : Head} (hedge : EdgeFollows h) (e : HeadEvent) :
    (step b h e).sketch.sBrightnessBeforeOff =
      if SwitchesOff h e then h.led.sGlobalBrightness else h.sketch.sBrightnessBeforeOff := by
  cases e with
  | tick i =>
    rw [(x_tick b h i).2]
    simp only [SwitchesOff, ← xEdge_iff hedge i, and_assoc]
  | request now r =>
    rw [(console_step b h (request now r) (by simp)).2]
    exact (if_neg id).symm
  | ota e =>
    rw [(console_step b h (ota e) (by simp)).2]
    exact (if_neg id).symm

/-- A press of X with neither A nor B held. -/
theorem lamp_press (b : Board) {h : Head} {i : LoopInput} (hedge : EdgeFollows h)
    (hpress : PressesXAlone h i) :
    (step b h (tick i)).lamp =
      if h.led.sGlobalBrightness = 0 then
        (b.servos || h.motion.sIdleEnabled, h.sketch.sBrightnessBeforeOff)
      else (!b.servos && h.motion.sIdleEnabled, 0) := by
  obtain ⟨hx, ha, hb⟩ := hpress
  obtain ⟨hconnected, hdown⟩ := (xEdge_iff hedge i).mpr hx
  have hpad : (GamepadInput.update i.pads h.gamepad).1.sState = padSeen h i := rfl
  have hstill : ∀ v, ramped (padSeen h i) v = v := by
    intro v
    rw [ramped, ha, hb]
    rfl
  have hdown : ((padSeen h i).x && !h.sketch.sXWasPressed) = true := hdown
  rw [lamp_step_tick, hpad]
  simp only [hconnected, if_true, hstill, lampAfterX, hdown]
  rfl

/-! ## Whole runs -/

/-- The kept level is the one X last switched off, or the 200 the image starts with, and it is
never 0. -/
structure Remembers (b : Board) (s : Head × Option UInt8) : Prop where
  edge : EdgeFollows s.1
  kept : s.1.sketch.sBrightnessBeforeOff = s.2.getD 200
  lit : s.1.sketch.sBrightnessBeforeOff ≠ 0
  fitted : b.servos = false → s.1.motion.sIdleEnabled = true

theorem Remembers.step {b : Board} {s : Head × Option UInt8} (hs : Remembers b s)
    (e : HeadEvent) : Remembers b (offStep b s e) := by
  have hkept := kept_step (b := b) hs.edge e
  refine ⟨hs.edge.step e, ?_, ?_, fitted_step hs.fitted e⟩
  · rw [offStep, hkept]
    split
    · rfl
    · exact hs.kept
  · rw [offStep, hkept]
    split
    · rename_i hoff
      -- only a tick switches off, and only from a brightness that is not 0
      cases e with
      | tick i => exact hoff.2
      | request now r => exact absurd hoff id
      | ota e => exact absurd hoff id
    · exact hs.lit

theorem remembers_setup (b : Board) (t : ℕ) (d : RearmDraws) :
    Remembers b (setup b t d, none) where
  edge := rfl
  kept := rfl
  lit := by
    show (200 : UInt8) ≠ 0
    decide
  fitted _ := sIdleEnabled_setup b t d

/-- The lights are off and the level to come back to is `level`. -/
structure OffAt (b : Board) (level : UInt8) (h : Head) : Prop where
  edge : EdgeFollows h
  dark : h.led.sGlobalBrightness = 0
  kept : h.sketch.sBrightnessBeforeOff = level
  fitted : b.servos = false → h.motion.sIdleEnabled = true

/-- While the brightness does not change, X has nothing to switch off. -/
theorem OffAt.step {b : Board} {level : UInt8} {h : Head} (hoff : OffAt b level h) (e : HeadEvent)
    (hkeeps : KeepsBrightness b h e) : OffAt b level (step b h e) := by
  have hnot : ¬ SwitchesOff h e := by
    cases e with
    | tick i => exact fun h => h.2 hoff.dark
    | request now r => exact id
    | ota e => exact id
  refine ⟨hoff.edge.step e, hkeeps.trans hoff.dark, ?_, fitted_step hoff.fitted e⟩
  rw [kept_step hoff.edge e, if_neg hnot]
  exact hoff.kept

/-- The level X comes back to is never 0; out of the dark, however the lights went off, X
brings back the brightness in force when X last switched off, or 200; and what X switches off
it switches on again at the same brightness, with idle enabled, if nothing in between changes
the brightness. -/
theorem x_comes_back (b : Board) (t : ℕ) (d : RearmDraws) (events : List HeadEvent) :
    let s := run (offStep b) (setup b t d, none) events
    s.1.sketch.sBrightnessBeforeOff ≠ 0 ∧
      (∀ i, PressesXAlone s.1 i → s.1.led.sGlobalBrightness = 0 →
        (step b s.1 (tick i)).led.sGlobalBrightness = s.2.getD 200 ∧ s.2.getD 200 ≠ 0) ∧
      ∀ i between j, PressesXAlone s.1 i → s.1.led.sGlobalBrightness ≠ 0 →
        let off := step b s.1 (tick i)
        let later := run (step b) off between
        Along (step b) (KeepsBrightness b) off between → PressesXAlone later j →
          (step b later (tick j)).led.sGlobalBrightness = s.1.led.sGlobalBrightness ∧
            (step b later (tick j)).motion.sIdleEnabled = true := by
  intro s
  have hs : Remembers b s :=
    inv_run (fun _ e h => h.step e) (remembers_setup b t d) events
  refine ⟨hs.lit, ?_, ?_⟩
  · intro i hpress hdark
    have hlamp := lamp_press b hs.edge hpress
    rw [if_pos hdark, hs.kept] at hlamp
    exact ⟨congrArg Prod.snd hlamp, hs.kept ▸ hs.lit⟩
  · intro i between j hfirst hlit off later hkeeps hsecond
    have hoff : OffAt b s.1.led.sGlobalBrightness off := by
      have hlamp := lamp_press b hs.edge hfirst
      rw [if_neg hlit] at hlamp
      have hkept := kept_step (b := b) hs.edge (tick i)
      rw [if_pos (show SwitchesOff s.1 (tick i) from ⟨hfirst.1, hlit⟩)] at hkept
      exact ⟨hs.edge.step (tick i), congrArg Prod.snd hlamp, hkept,
        fitted_step hs.fitted (tick i)⟩
    have hlater : OffAt b s.1.led.sGlobalBrightness later :=
      inv_run_of_along (fun _ e h hkeep => h.step e hkeep) hoff hkeeps
    have hlamp := lamp_press b hlater.edge hsecond
    rw [if_pos hlater.dark, hlater.kept] at hlamp
    refine ⟨congrArg Prod.snd hlamp, (congrArg Prod.fst hlamp).trans ?_⟩
    -- without servos idle was never parked
    cases hservos : b.servos with
    | true => rfl
    | false => exact hlater.fitted hservos

/-- A brings the brightness down to 194; X switches off, is let go, and switches on again. -/
theorem x_back_to_ramped_level :
    let b := esp32DevKitC fun _ => 0
    let s := run (offStep b) (setup b 0 lowestRearm, none)
      [tick (padTick 1000 [.connected 0] (some { buttons := 0x1 }))]
    let press := padTick 1030 [] (some { buttons := 0x4 })
    let off := step b s.1 (tick press)
    let later := run (step b) off [tick (padTick 1060 [] (some {}))]
    s.1.led.sGlobalBrightness = 194 ∧ off.led.sGlobalBrightness = 0 ∧
      (step b later (tick press)).led.sGlobalBrightness = s.1.led.sGlobalBrightness ∧
      (step b later (tick press)).motion.sIdleEnabled = true := by
  refine ⟨by decide, by decide, ?_⟩
  exact (x_comes_back (esp32DevKitC fun _ => 0) 0 lowestRearm
    [tick (padTick 1000 [.connected 0] (some { buttons := 0x1 }))]).2.2
    (padTick 1030 [] (some { buttons := 0x4 })) [tick (padTick 1060 [] (some {}))]
    (padTick 1030 [] (some { buttons := 0x4 }))
    (by decide) (by decide) (by decide) (by decide)

end K2soHead.HeadEvent
