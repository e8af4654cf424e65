import K2soHead.Library.Runs
import K2soHead.Properties.EyeRuns
import K2soHead.Properties.LoopFrames
import K2soHead.Properties.PixelIndex

/-!
# Idle parked, lights on

X parks idle together with the lights.  The brightness has other writers, and none of them
wakes idle again: a web request or a held B turns the lights up and leaves idle parked.

The requests and OTA callbacks of a tick are events of their own here, so that the law can
be asked between them too; `loop_eq_run` puts a tick of `loop()` back together.
-/

namespace K2soHead

open Runs

/-- One request, one OTA callback, or the rest of a tick. -/
inductive HeadEvent where
  | request (now : UInt32) (r : HttpRequest)
  | ota (e : OtaEvent)
  | tick (i : LoopInput)

/-- The input of a tick on which nothing was pending. -/
def LoopInput.quiet (i : LoopInput) : LoopInput := { i with requests := [], otaEvents := [] }

/-- Is idle enabled, and what is the global brightness? -/
def Head.lamp (h : Head) : Bool × UInt8 := (h.motion.sIdleEnabled, h.led.sGlobalBrightness)

namespace HeadEvent

def step (b : Board) (h : Head) : HeadEvent → Head
  | request now r => WebUI.handleClient b now [r] h
  | ota e => OtaService.handle [e] h
  | tick i => Sketch.loop b h i.quiet

end HeadEvent

/-! ## What the strips keep -/

namespace LedController

@[simp] theorem sGlobalBrightness_setStripDim (s : ℕ) (dim : UInt8) (l : LedController) :
    (l.setStripDim s dim).sGlobalBrightness = l.sGlobalBrightness := by
  unfold setStripDim
  split <;> rfl

@[simp] theorem sGlobalBrightness_setBlinkLevel (level : UInt8) (l : LedController) :
    (l.setBlinkLevel level).sGlobalBrightness = l.sGlobalBrightness := by
  by_cases h : level = l.sBlinkLevel
  · rw [setBlinkLevel, if_pos h]
  · rw [setBlinkLevel_eq h]

@[simp] theorem sGlobalBrightness_setBrightness (brightness : UInt8) (l : LedController) :
    (l.setBrightness brightness).sGlobalBrightness = brightness := by
  rw [setBrightness_eq]

/-- The flash puts the brightness back. -/
theorem sGlobalBrightness_flashAdminAck (apNowRunning : Bool) (l : LedController) :
    (Sketch.flashAdminAck apNowRunning l).sGlobalBrightness = l.sGlobalBrightness := by
  rw [Sketch.flashAdminAck, sGlobalBrightness_setBrightness]
  rfl

end LedController

/-! ## What the blocks of a tick do to the lamp -/

/-- A brightness request sets the brightness, and no request wakes or parks idle. -/
theorem WebUI.lamp_serve (b : Board) (now : UInt32) (h : Head) (r : HttpRequest) :
    (serve b now h r).lamp = (h.lamp.1, (requestedLevel? r).getD h.lamp.2) := by
  obtain ⟨change, response, hlevel, hserve⟩ := serve_eq b now h r
  have hh : serve b now h r = { change.apply h with replies := h.replies ++ [response] } :=
    hserve h.gamepad
  rw [hh, ← hlevel]
  cases change with
  | brightness level =>
    exact Prod.ext rfl (LedController.sGlobalBrightness_setBrightness level h.led)
  | nothing => rfl
  | lights le => rfl
  | audio a => rfl
  | trims pan tilt => rfl

namespace Sketch

section Controls

variable (b : Board) (now : UInt32) (d : RearmDraws) (gp : GamepadState) (h : Head)

theorem lamp_dimStrips : (dimStrips gp h).lamp = h.lamp := by
  simp [dimStrips, Head.lamp]

theorem lamp_stepPatterns : (stepPatterns now gp h).lamp = h.lamp :=
  proj_stepPatterns now gp Head.lamp (fun _ _ _ _ _ => rfl) h

theorem lamp_clickY : (clickY now gp h).lamp = h.lamp :=
  proj_clickY now gp Head.lamp (fun _ _ _ _ => rfl) h

theorem lamp_audioControls : (audioControls b now gp h).lamp = h.lamp :=
  proj_audioControls b now gp Head.lamp (fun _ _ _ _ => rfl) h

/-- The lamp after X has been looked at. -/
def lampAfterX : Bool × UInt8 :=
  if gp.x && !h.sketch.sXWasPressed then
    if h.lamp.2 = 0 then (b.servos || h.lamp.1, h.sketch.sBrightnessBeforeOff)
    else (!b.servos && h.lamp.1, 0)
  else h.lamp

theorem lamp_toggleX : (toggleX b now d gp h).lamp = lampAfterX b gp h := by
  have hidle : ∀ enabled (r : Rig),
      (EyeMotion.setIdleEnabled now d enabled r).motion.sIdleEnabled = enabled := by
    intro enabled r
    have hview := congrArg EyeView.enabled (EyeMotion.view_setIdleEnabled now d enabled r)
    refine Eq.trans hview ?_
    split
    · rename_i hsame
      exact hsame.symm
    · split
      · rename_i henabled
        exact henabled.symm
      · rename_i henabled
        exact (Bool.eq_false_of_not_eq_true henabled).symm
  have hbrightness : ∀ enabled (r : Rig),
      (EyeMotion.setIdleEnabled now d enabled r).led.sGlobalBrightness = r.led.sGlobalBrightness :=
    fun enabled r => (EyeMotion.setsLevels_setIdleEnabled now d enabled r).keeps
      fun l level => LedController.sGlobalBrightness_setBlinkLevel level l
  unfold lampAfterX
  simp only [toggleX]
  split
  · by_cases hoff : h.led.sGlobalBrightness = 0
    · cases hservos : b.servos <;>
        simp [switchLights, LedController.brightness, Head.call, Head.lamp, hoff, hservos, hidle,
          hbrightness]
    · cases hservos : b.servos <;>
        simp [switchLights, LedController.brightness, Head.call, Head.lamp, hoff, hservos, hidle,
          hbrightness]
  · rfl

/-- The brightness after A and B have been looked at. -/
def ramped (v : UInt8) : UInt8 :=
  if gp.a then
    UInt8.ofInt (if (v.toNat : ℤ) - kBrightnessStepPerTick < 0 then 0
      else v.toNat - kBrightnessStepPerTick)
  else if gp.b then
    UInt8.ofInt (if (v.toNat : ℤ) + kBrightnessStepPerTick > 255 then 255
      else v.toNat + kBrightnessStepPerTick)
  else v

theorem lamp_rampBrightness : (rampBrightness gp h).lamp = (h.lamp.1, ramped gp h.lamp.2) := by
  simp only [rampBrightness, ramped, Head.lamp, LedController.brightness]
  split
  · rw [LedController.sGlobalBrightness_setBrightness]
    rfl
  · split
    · rw [LedController.sGlobalBrightness_setBrightness]
      rfl
    · rfl

/-- Out of the dark, only a B held alone ramps the lights up. -/
theorem ramped_zero_iff : ramped gp 0 = 0 ↔ ¬ (gp.b = true ∧ gp.a = false) := by
  unfold ramped
  cases gp.a <;> cases gp.b <;> decide

theorem lampAfterX_stepPatterns :
    lampAfterX b gp (stepPatterns now gp (dimStrips gp h)) = lampAfterX b gp h := by
  have hx : (stepPatterns now gp (dimStrips gp h)).sketch.sXWasPressed = h.sketch.sXWasPressed :=
    proj_stepPatterns now gp (fun h => h.sketch.sXWasPressed) (fun _ _ _ _ _ => rfl) _
  have hbefore : (stepPatterns now gp (dimStrips gp h)).sketch.sBrightnessBeforeOff =
      h.sketch.sBrightnessBeforeOff :=
    proj_stepPatterns now gp (fun h => h.sketch.sBrightnessBeforeOff) (fun _ _ _ _ _ => rfl) _
  rw [lampAfterX, lampAfterX, hx, hbefore, lamp_stepPatterns, lamp_dimStrips]

theorem lamp_controls : (controls b now d h).lamp =
    if h.gamepad.sState.connected then
      ((lampAfterX b h.gamepad.sState h).1,
        ramped h.gamepad.sState (lampAfterX b h.gamepad.sState h).2)
    else h.lamp := by
  simp only [controls]
  split
  · simp only [connectedControls]
    rw [lamp_rampBrightness, lamp_audioControls, lamp_clickY, lamp_toggleX, lampAfterX_stepPatterns]
  · simp [releaseControls, Head.lamp]

end Controls

theorem lamp_adminButton (now : UInt32) (low softAP : Bool) (h : Head) :
    (adminButton now low softAP h).lamp = h.lamp := by
  simp only [adminButton]
  split
  · split
    · rfl
    · split
      · simp only [Head.lamp, LedController.sGlobalBrightness_flashAdminAck]
      · rfl
  · rfl

/-- The eyes leave the lamp alone: they set blink levels, and no tick parks or wakes idle. -/
theorem lamp_eyes (b : Board) (now : UInt32) (gp : GamepadState) (busyLow : Bool) (d : EyeDraws)
    (h : Head) :
    Head.lamp { h with toRig := EyeMotion.update b now gp busyLow d h.toRig } = h.lamp := by
  have henabled : (EyeMotion.update b now gp busyLow d h.toRig).motion.sIdleEnabled =
      h.motion.sIdleEnabled :=
    (EyeMotion.update_outcome b now gp busyLow d h.toRig).enabled
  have hbrightness : (EyeMotion.update b now gp busyLow d h.toRig).led.sGlobalBrightness =
      h.led.sGlobalBrightness :=
    (EyeMotion.setsLevels_update b now gp busyLow d h.toRig).keeps
      fun l level => LedController.sGlobalBrightness_setBlinkLevel level l
  rw [Head.lamp, henabled, hbrightness]
  rfl

theorem lamp_render (b : Board) (i : LoopInput) (h : Head) : (render b i h).lamp = h.lamp := by
  obtain ⟨strips, hled⟩ := LightEffects.update_eq b (millis i.clock.effects) h.gamepad.sState
    i.effectDraws h.lights h.led
  simp only [render, Head.lamp]
  rw [LedController.showAll_eq, hled]

/-- With nothing pending, polling only moves the gamepad. -/
theorem poll_quiet (b : Board) (i : LoopInput) (h : Head) :
    poll b i.quiet h = { h with gamepad := (GamepadInput.update i.pads h.gamepad).1 } := by
  simp [poll, LoopInput.quiet, WebUI.handleClient, OtaService.handle]

/-- A tick on which nothing was pending. -/
theorem lamp_tick (b : Board) (h : Head) (i : LoopInput) :
    (loop b h i.quiet).lamp =
      (controls b (millis i.clock.controls) i.idleDraws
        { h with gamepad := (GamepadInput.update i.pads h.gamepad).1 }).lamp := by
  rw [loop, lamp_render, poll_quiet, act]
  simp only [LoopInput.quiet]
  split
  · rw [lamp_eyes]
    split
    · rw [lamp_adminButton]
    · rfl
  · split
    · rw [lamp_adminButton]
    · rfl

end Sketch

/-! ## The law and the condition -/

namespace HeadEvent

/-- Idle is parked only while the lights are off. -/
def ParkedDark (h : Head) : Prop := h.motion.sIdleEnabled = false → h.led.sGlobalBrightness = 0

/-- Lights turned up past parked idle: a request for some brightness while idle is parked, or
a B held alone on a tick that has idle parked, since before or by an X just pressed. -/
def LightsParkedIdle (b : Board) (h : Head) : HeadEvent → Prop
  | request _ r => h.services.webRunning = true ∧ h.motion.sIdleEnabled = false ∧
      ∃ value, r = .brightness (some value) ∧ 0 < value
  | ota _ => False
  | tick i =>
      let gp := (GamepadInput.update i.pads h.gamepad).1.sState
      gp.connected = true ∧ gp.b = true ∧ gp.a = false ∧
        if gp.x && !h.sketch.sXWasPressed then b.servos = true ∧ h.led.sGlobalBrightness ≠ 0
        else h.motion.sIdleEnabled = false

/-- What the condition relies on: the law so far, and that without servos nothing parks idle. -/
structure Sound (b : Board) (h : Head) : Prop where
  dark : ParkedDark h
  fitted : b.servos = false → h.motion.sIdleEnabled = true

/-! ## One event -/

theorem parkedDark_of_lamp {h h' : Head} (hlamp : h'.lamp = h.lamp) (h0 : ParkedDark h) :
    ParkedDark h' := by
  obtain ⟨henabled, hbrightness⟩ := Prod.mk.injEq .. ▸ hlamp
  unfold ParkedDark
  rw [henabled, hbrightness]
  exact h0

/-- What a brightness request stores is 0 only for values up to 0. -/
theorem storedLevel_eq_zero_iff (value : ℤ) : WebUI.storedLevel value = 0 ↔ ¬ 0 < value := by
  have hofInt : ∀ n : ℤ, 0 ≤ n → n ≤ 255 → (UInt8.ofInt n = 0 ↔ n = 0) := by
    intro n hnonneg hle
    rw [← UInt8.toNat_inj, UInt8.ofInt, UInt8.toNat_ofNat', show (0 : UInt8).toNat = 0 from rfl]
    omega
  unfold WebUI.storedLevel
  -- clamped from below, from above, or stored as it is
  by_cases hneg : value < 0
  · simp only [if_pos hneg]
    rw [if_neg (by omega)]
    exact iff_of_true rfl (by omega)
  · simp only [if_neg hneg]
    by_cases hlarge : value > 255
    · rw [if_pos hlarge]
      exact iff_of_false (by decide) (by omega)
    · rw [if_neg hlarge, hofInt value (by omega) (by omega)]
      omega

theorem parkedDark_request_iff {b : Board} {h : Head} (hdark : ParkedDark h) (now : UInt32)
    (r : HttpRequest) :
    ParkedDark (step b h (request now r)) ↔ ¬ LightsParkedIdle b h (request now r) := by
  simp only [step, LightsParkedIdle, WebUI.handleClient]
  cases hweb : h.services.webRunning with
  -- with the web UI off no request is served
  | false => exact iff_of_true hdark fun hlit => absurd hlit.1 Bool.false_ne_true
  | true =>
    have hlamp := WebUI.lamp_serve b now h r
    rw [if_pos rfl, List.foldl_cons, List.foldl_nil]
    by_cases hbrightness : ∃ value, r = .brightness (some value)
    · obtain ⟨value, rfl⟩ := hbrightness
      obtain ⟨henabled, hset⟩ := Prod.mk.injEq .. ▸ hlamp
      have hset : (WebUI.serve b now h (.brightness (some value))).led.sGlobalBrightness =
          WebUI.storedLevel value := hset
      unfold ParkedDark
      rw [henabled, hset, storedLevel_eq_zero_iff]
      simp [Head.lamp]
    · have hnone : WebUI.requestedLevel? r = none := by
        unfold WebUI.requestedLevel?
        split
        · rename_i value
          exact absurd ⟨value, rfl⟩ hbrightness
        · rfl
      have hsame : (WebUI.serve b now h r).lamp = h.lamp := by
        rw [hlamp, hnone]
        rfl
      refine iff_of_true (parkedDark_of_lamp hsame hdark) ?_
      rintro ⟨-, -, value, hr, -⟩
      exact hbrightness ⟨value, hr⟩

/-- An OTA callback can only switch the lights off. -/
theorem lamp_ota (b : Board) (h : Head) (e : OtaEvent) :
    (step b h (ota e)).lamp = h.lamp ∨ (step b h (ota e)).lamp = (h.lamp.1, 0) := by
  have hstart : (OtaService.onStart h.led).sGlobalBrightness = 0 := by
    rw [OtaService.onStart, LedController.showAll_eq, LedController.clearAll_eq]
    exact LedController.sGlobalBrightness_setBrightness 0 h.led
  simp only [step, OtaService.handle]
  split
  · rw [List.foldl_cons, List.foldl_nil]
    cases e with
    | start => exact .inr (Prod.ext rfl hstart)
    | progress done total => exact .inl rfl
    | finish => exact .inl rfl
    | error code => exact .inl rfl
  · exact .inl rfl

/-- On a tick the lamp is what X, A and B make of it. -/
theorem lamp_step_tick (b : Board) (h : Head) (i : LoopInput) :
    (step b h (tick i)).lamp =
      let gp := (GamepadInput.update i.pads h.gamepad).1.sState
      if gp.connected then
        ((Sketch.lampAfterX b gp h).1, Sketch.ramped gp (Sketch.lampAfterX b gp h).2)
      else h.lamp :=
  (Sketch.lamp_tick b h i).trans
    (Sketch.lamp_controls b (millis i.clock.controls) i.idleDraws
      { h with gamepad := (GamepadInput.update i.pads h.gamepad).1 })

theorem fitted_step {b : Board} {h : Head}
    (hfitted : b.servos = false → h.motion.sIdleEnabled = true) (e : HeadEvent) :
    b.servos = false → (step b h e).motion.sIdleEnabled = true := by
  intro hservos
  have henabled : h.lamp.1 = true := hfitted hservos
  change (step b h e).lamp.1 = true
  cases e with
  | request now r =>
    simp only [step, WebUI.handleClient]
    split
    · rw [List.foldl_cons, List.foldl_nil, WebUI.lamp_serve]
      exact henabled
    · exact henabled
  | ota e =>
    rcases lamp_ota b h e with hsame | hoff
    · rw [hsame]
      exact henabled
    · rw [hoff]
      exact henabled
  | tick i =>
    rw [lamp_step_tick]
    dsimp only
    split
    · -- without servos X leaves idle as it was
      unfold Sketch.lampAfterX
      rw [hservos]
      split
      · split <;> simpa using henabled
      · exact henabled
    · exact henabled

theorem parkedDark_tick_iff {b : Board} {h : Head} (hsound : Sound b h) (i : LoopInput) :
    ParkedDark (step b h (tick i)) ↔ ¬ LightsParkedIdle b h (tick i) := by
  have hdark : h.lamp.1 = false → h.lamp.2 = 0 := hsound.dark
  have hlamp := lamp_step_tick b h i
  change ((step b h (tick i)).lamp.1 = false → (step b h (tick i)).lamp.2 = 0) ↔ _
  simp only [LightsParkedIdle]
  -- only the gamepad state matters from here, not how it was polled
  generalize (GamepadInput.update i.pads h.gamepad).1.sState = gp at hlamp ⊢
  rw [hlamp]
  dsimp only
  cases gp.connected with
  | false => exact iff_of_true hdark fun hlit => absurd hlit.1 Bool.false_ne_true
  | true =>
    -- if X leaves idle parked, the lights are off when A and B are looked at
    have hoff : (Sketch.lampAfterX b gp h).1 = false → (Sketch.lampAfterX b gp h).2 = 0 := by
      unfold Sketch.lampAfterX
      split
      · split
        · rename_i hzero
          intro hparked
          rw [Bool.or_eq_false_iff] at hparked
          have hidle : h.motion.sIdleEnabled = false := hparked.2
          rw [hsound.fitted hparked.1] at hidle
          cases hidle
        · exact fun _ => rfl
      · exact hdark
    have hparked : (Sketch.lampAfterX b gp h).1 = false ↔
        if gp.x && !h.sketch.sXWasPressed then b.servos = true ∧ h.led.sGlobalBrightness ≠ 0
        else h.motion.sIdleEnabled = false := by
      have hfitted : b.servos = false → h.lamp.1 = true := hsound.fitted
      unfold Sketch.lampAfterX
      split
      · change _ ↔ b.servos = true ∧ h.lamp.2 ≠ 0
        split
        · rename_i hzero
          simp only [hzero, ne_eq, not_true_eq_false, and_false, iff_false, Bool.or_eq_false_iff]
          exact fun ⟨hservos, hidle⟩ => absurd (hfitted hservos) (hidle ▸ Bool.false_ne_true)
        · rename_i hlit
          have hidle : h.lamp.1 = true := by
            by_contra hnot
            exact hlit (hdark (Bool.eq_false_of_not_eq_true hnot))
          simp [hlit, hidle]
      · exact Iff.rfl
    rw [if_pos rfl]
    dsimp only
    rw [← hparked]
    constructor
    · rintro hlaw ⟨-, hb, ha, hidle⟩
      have hzero := hlaw hidle
      rw [hoff hidle] at hzero
      exact (Sketch.ramped_zero_iff gp).mp hzero ⟨hb, ha⟩
    · intro hlit hidle
      rw [hoff hidle, Sketch.ramped_zero_iff]
      exact fun ⟨hb, ha⟩ => hlit ⟨rfl, hb, ha, hidle⟩

/-! ## A tick of `loop()` as events -/

theorem handleClient_gamepad (b : Board) (now : UInt32) (requests : List HttpRequest) (h : Head)
    (g : GamepadInput) :
    WebUI.handleClient b now requests { h with gamepad := g } =
      { WebUI.handleClient b now requests h with gamepad := g } := by
  have hfold : ∀ (requests : List HttpRequest) (h : Head),
      requests.foldl (WebUI.serve b now) { h with gamepad := g } =
        { requests.foldl (WebUI.serve b now) h with gamepad := g } := by
    intro requests
    induction requests with
    | nil => intro h; rfl
    | cons r requests ih =>
      intro h
      rw [List.foldl_cons, List.foldl_cons, WebUI.serve_gamepad, ih]
  simp only [WebUI.handleClient]
  split
  · exact hfold requests h
  · rfl

theorem handle_gamepad (events : List OtaEvent) (h : Head) (g : GamepadInput) :
    OtaService.handle events { h with gamepad := g } =
      { OtaService.handle events h with gamepad := g } := by
  have hevent : ∀ (h : Head) (e : OtaEvent), OtaService.event { h with gamepad := g } e =
      { OtaService.event h e with gamepad := g } := by
    intro h e
    cases e <;> rfl
  have hfold : ∀ (events : List OtaEvent) (h : Head),
      events.foldl OtaService.event { h with gamepad := g } =
        { events.foldl OtaService.event h with gamepad := g } := by
    intro events
    induction events with
    | nil => intro h; rfl
    | cons e events ih =>
      intro h
      rw [List.foldl_cons, List.foldl_cons, hevent, ih]
  simp only [OtaService.handle]
  split
  · exact hfold events h
  · rfl

theorem run_requests (b : Board) (now : UInt32) (requests : List HttpRequest) (h : Head) :
    run (step b) h (requests.map (request now)) = WebUI.handleClient b now requests h := by
  induction requests generalizing h with
  | nil => simp [WebUI.handleClient]
  | cons r requests ih =>
    rw [List.map_cons, run_cons, ih]
    -- no request can stop the server in the middle of the list
    have hweb : (step b h (request now r)).services = h.services :=
      congrArg (fun c => c.2.1) (WebUI.console_handleClient b now [r] h)
    simp only [WebUI.handleClient, hweb]
    cases hrunning : h.services.webRunning with
    | false => simp [step, WebUI.handleClient, hrunning]
    | true => simp [step, WebUI.handleClient, hrunning]

theorem run_otaEvents (b : Board) (events : List OtaEvent) (h : Head) :
    run (step b) h (events.map ota) = OtaService.handle events h := by
  induction events generalizing h with
  | nil => simp [OtaService.handle]
  | cons e events ih =>
    rw [List.map_cons, run_cons, ih]
    have hota : (step b h (ota e)).services = h.services :=
      congrArg (fun c => c.2.1) (OtaService.console_handle [e] h)
    simp only [OtaService.handle, hota]
    cases hrunning : h.services.otaRunning with
    | false => simp [step, OtaService.handle, hrunning]
    | true => simp [step, OtaService.handle, hrunning]

/-- A tick of `loop()` is its requests, then its OTA callbacks, then the rest. -/
theorem loop_eq_run (b : Board) (h : Head) (i : LoopInput) :
    Sketch.loop b h i = run (step b) h
      (i.requests.map (request (millis i.clock.requests)) ++ i.otaEvents.map ota ++ [tick i]) := by
  rw [run_append, run_append, run_requests, run_otaEvents, run_cons, run_nil]
  let h' := OtaService.handle i.otaEvents
    (WebUI.handleClient b (millis i.clock.requests) i.requests h)
  have hgamepad : h'.gamepad = h.gamepad := by
    have hconsole : h'.console = h.console :=
      (OtaService.console_handle i.otaEvents _).trans (WebUI.console_handleClient b _ i.requests h)
    exact congrArg Prod.fst hconsole
  -- nothing is pending on the quiet tick, so it only moves the gamepad
  have hpoll : Sketch.poll b i h = Sketch.poll b i.quiet h' := by
    rw [Sketch.poll_quiet, hgamepad, Sketch.poll, handleClient_gamepad, handle_gamepad]
  exact congrArg (fun polled => Sketch.render b i (Sketch.act b i polled)) hpoll

/-! ## Every run -/

theorem sIdleEnabled_setup (b : Board) (t : ℕ) (d : RearmDraws) :
    (Sketch.setup b t d).motion.sIdleEnabled = true := by
  simp only [Sketch.setup]
  split
  · simp only [EyeMotion.begin, EyeMotion.rearm, EyeMotion.scheduleSaccade]
    split <;> rfl
  · rfl

theorem parkedDark_step_iff {b : Board} {h : Head} (hsound : Sound b h) (e : HeadEvent) :
    ParkedDark (step b h e) ↔ ¬ LightsParkedIdle b h e := by
  cases e with
  | request now r => exact parkedDark_request_iff hsound.dark now r
  | tick i => exact parkedDark_tick_iff hsound i
  | ota e =>
    refine iff_of_true ?_ id
    rcases lamp_ota b h e with hsame | hoff
    · exact parkedDark_of_lamp hsame hsound.dark
    · intro _
      exact congrArg Prod.snd hoff

/-- In every run of requests, OTA callbacks and ticks, idle is parked only while the lights
are off if and only if nothing ever lights the head past parked idle. -/
theorem parked_dark_iff (b : Board) (t : ℕ) (d : RearmDraws) (events : List HeadEvent) :
    Along (step b) (fun h e => ParkedDark (step b h e)) (Sketch.setup b t d) events ↔
      Along (step b) (fun h e => ¬ LightsParkedIdle b h e) (Sketch.setup b t d) events := by
  have hidle := sIdleEnabled_setup b t d
  have hstart : Sound b (Sketch.setup b t d) :=
    ⟨fun hparked => absurd hidle (hparked ▸ Bool.false_ne_true), fun _ => hidle⟩
  have hkeep : ∀ h e, Sound b h → True → ParkedDark (step b h e) → Sound b (step b h e) :=
    fun h e hsound _ hdark => ⟨hdark, fitted_step hsound.fitted e⟩
  have hanything : Along (step b) (fun _ _ => True) (Sketch.setup b t d) events :=
    along_of_forall_mem (fun _ _ => trivial) _
  exact along_congr_of_kept hkeep (fun _ e hsound _ => parkedDark_step_iff hsound e) hstart
    hanything

/-- X switches the lights off, B held on the next tick brings them up, and idle stays
parked. -/
theorem lights_ramped_past_parked_idle :
    let b := esp32DevKitC fun _ => 0
    let events := [tick (padTick 1000 [.connected 0] (some { buttons := 0x4 })),
      tick (padTick 1030 [] (some { buttons := 0x2 }))]
    ¬ Along (step b) (fun h e => ParkedDark (step b h e)) (Sketch.setup b 0 lowestRearm)
      events := by
  intro b events
  rintro ⟨-, hdark, -⟩
  -- idle has stayed parked, and B has brought the brightness up to 6
  have hparked : (step b (step b (Sketch.setup b 0 lowestRearm)
      (tick (padTick 1000 [.connected 0] (some { buttons := 0x4 }))))
      (tick (padTick 1030 [] (some { buttons := 0x2 })))).motion.sIdleEnabled = false := by decide
  exact absurd (hdark hparked) (by decide)

end HeadEvent

end K2soHead
