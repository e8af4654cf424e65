import K2soHead.Firmware.Sketch
import K2soHead.Library.Loops

/-!
# What each block of `loop()` leaves alone

Requests and OTA callbacks reach no button state, the controls reach no radio, and the
rendering reaches nothing but patterns and strips.  A block's frame is an equation between
projections of the head before and after it.
-/

namespace K2soHead

open Loops

/-- The parts no request and no OTA callback writes. -/
def Head.console (h : Head) : GamepadInput × Services × Sketch × List LoopCall :=
  (h.gamepad, h.services, h.sketch, h.calls)

/-- The parts the controls do not write. -/
def Head.delivered (h : Head) : GamepadInput × Services × OtaProgress × List Response :=
  (h.gamepad, h.services, h.ota, h.replies)

/-! ## The polled part -/

namespace WebUI

/-- What one request can change: one subsystem, or nothing. -/
inductive Change where
  | nothing
  | lights (le : LightEffects)
  | brightness (level : UInt8)
  | audio (a : AudioPlayer)
  | trims (pan tilt : ExtRat)

def Change.apply : Change → Head → Head
  | nothing, h => h
  | lights le, h => { h with lights := le }
  | brightness level, h => { h with led := h.led.setBrightness level }
  | audio a, h => { h with audio := a }
  | trims pan tilt, h => { h with motion := { h.motion with sPanTrim := pan, sTiltTrim := tilt } }

/-- The level a change sets the brightness to. -/
def Change.level? : Change → Option UInt8
  | brightness level => some level
  | _ => none

/-- The level a request for brightness `value` stores. -/
def storedLevel (value : ℤ) : UInt8 :=
  UInt8.ofInt
    (if (if value < 0 then 0 else value) > 255 then 255 else if value < 0 then 0 else value)

/-- The level a request sets the brightness to. -/
def requestedLevel? : HttpRequest → Option UInt8
  | .brightness (some value) => some (storedLevel value)
  | _ => none

/-- A request is one change and one reply, and neither depends on the gamepad. -/
theorem serve_eq (b : Board) (now : UInt32) (h : Head) (r : HttpRequest) :
    ∃ (change : Change) (response : Response), change.level? = requestedLevel? r ∧
      ∀ g, serve b now { h with gamepad := g } r =
        { change.apply { h with gamepad := g } with replies := h.replies ++ [response] } := by
  cases r with
  | effect index =>
    cases index with
    | none => exact ⟨.nothing, _, rfl, fun _ => rfl⟩
    | some index =>
      by_cases hrange : index < 0 ∨ index ≥ Effect.kCount
      · exact ⟨.nothing, bad "bad index", rfl, fun _ => by
          simp only [serve, dispatch, handleSelectEffect, if_pos hrange, Change.apply]⟩
      · exact ⟨.lights (h.lights.selectEffect now (UInt8.ofInt index)), ok, rfl, fun _ => by
          simp only [serve, dispatch, handleSelectEffect, if_neg hrange, Change.apply]⟩
  | color hex =>
    -- six digits set the colour, anything else is refused
    simp only [serve, dispatch, handleSetColor]
    split
    · exact ⟨.lights _, _, rfl, fun _ => rfl⟩
    · exact ⟨.nothing, _, rfl, fun _ => rfl⟩
  | brightness value =>
    cases value with
    | none => exact ⟨.nothing, _, rfl, fun _ => rfl⟩
    | some value => exact ⟨.brightness (storedLevel value), _, rfl, fun _ => rfl⟩
  | status => exact ⟨.nothing, (handleStatus b h).2, rfl, fun _ => rfl⟩
  | play track =>
    cases haudio : b.audio.isSome with
    | false =>
      exact ⟨.nothing, notFound, rfl, fun _ => by simp [serve, dispatch, haudio, Change.apply]⟩
    | true =>
      cases track with
      | none =>
        exact ⟨.nothing, bad "missing track", rfl, fun _ => by
          simp [serve, dispatch, haudio, handlePlay, Change.apply]⟩
      | some track =>
        by_cases hrange : track < 1 ∨ track > (AudioPlayer.trackCount b).toNat
        · exact ⟨.nothing, bad "track out of range", rfl, fun _ => by
            simp only [serve, dispatch, haudio, if_true, handlePlay, if_pos hrange, Change.apply]⟩
        · exact ⟨.audio (h.audio.play now (UInt16.ofInt track)), ok, rfl, fun _ => by
            simp only [serve, dispatch, haudio, if_true, handlePlay, if_neg hrange, Change.apply]⟩
  | volume value =>
    cases haudio : b.audio.isSome with
    | false =>
      exact ⟨.nothing, notFound, rfl, fun _ => by simp [serve, dispatch, haudio, Change.apply]⟩
    | true =>
      cases value with
      | none =>
        exact ⟨.nothing, bad "missing value", rfl, fun _ => by
          simp [serve, dispatch, haudio, handleSetVolume, Change.apply]⟩
      | some value =>
        exact ⟨.audio (h.audio.setVolume now (UInt8.ofInt
            (if (if value < 0 then 0 else value) > 30 then 30
              else if value < 0 then 0 else value))),
          ok, rfl, fun _ => by simp only [serve, dispatch, haudio, if_true, handleSetVolume,
            Change.apply]⟩
  | eyeTrim pan tilt =>
    cases hservos : b.servos with
    | false =>
      exact ⟨.nothing, notFound, rfl, fun _ => by simp [serve, dispatch, hservos, Change.apply]⟩
    | true =>
      -- a missing argument leaves its trim at the old value
      refine ⟨.trims (handleEyeTrim pan tilt h).1.motion.sPanTrim
          (handleEyeTrim pan tilt h).1.motion.sTiltTrim, (handleEyeTrim pan tilt h).2, rfl,
        fun _ => ?_⟩
      simp only [serve, dispatch, hservos, if_true, Change.apply]
      cases pan <;> cases tilt <;> rfl

/-- What a request can leave behind, besides its reply: the head as it was, or one call into one
subsystem. -/
inductive Served (now : UInt32) (h : Head) : HttpRequest → Head → Prop where
  | nothing (r : HttpRequest) : Served now h r h
  | effect (value : Option ℤ) (index : UInt8) :
      Served now h (.effect value) { h with lights := h.lights.selectEffect now index }
  | color (hex : List UInt8) (c : Rgb) :
      Served now h (.color hex) { h with lights := h.lights.setAccentColor c }
  | brightness (value : Option ℤ) (level : UInt8) :
      Served now h (.brightness value) { h with led := h.led.setBrightness level }
  | play (value : Option ℤ) (track : UInt16) :
      Served now h (.play value) { h with audio := h.audio.play now track }
  | volume (value : Option ℤ) (level : UInt8) :
      Served now h (.volume value) { h with audio := h.audio.setVolume now level }
  | eyeTrim (pan tilt : Option ExtRat) (m : EyeMotion) :
      Served now h (.eyeTrim pan tilt) { h with motion := m }

theorem served_dispatch (b : Board) (now : UInt32) (h : Head) (r : HttpRequest) :
    Served now h r (dispatch b now h r).1 := by
  cases r with
  | effect index =>
    simp only [dispatch, handleSelectEffect]
    split
    · exact .nothing _
    · split
      · exact .nothing _
      · exact .effect _ _
  | color hex =>
    simp only [dispatch, handleSetColor]
    split
    · exact .color _ _
    · exact .nothing _
  | brightness value =>
    simp only [dispatch, handleSetBrightness]
    split
    · exact .nothing _
    · exact .brightness _ _
  | status => exact .nothing _
  | play track =>
    simp only [dispatch, handlePlay]
    split
    · split
      · exact .nothing _
      · split
        · exact .nothing _
        · exact .play _ _
    · exact .nothing _
  | volume value =>
    simp only [dispatch, handleSetVolume]
    split
    · split
      · exact .nothing _
      · exact .volume _ _
    · exact .nothing _
  | eyeTrim pan tilt =>
    simp only [dispatch]
    split
    · exact .eyeTrim pan tilt _
    · exact .nothing _

/-- A request writes no part of the console. -/
theorem console_serve (b : Board) (now : UInt32) (h : Head) (r : HttpRequest) :
    (serve b now h r).console = h.console := by
  obtain ⟨change, response, -, hserve⟩ := serve_eq b now h r
  have hh : serve b now h r = { change.apply h with replies := h.replies ++ [response] } :=
    hserve h.gamepad
  rw [hh]
  cases change <;> rfl

/-- The gamepad may as well be polled after the request. -/
theorem serve_gamepad (b : Board) (now : UInt32) (h : Head) (g : GamepadInput) (r : HttpRequest) :
    serve b now { h with gamepad := g } r = { serve b now h r with gamepad := g } := by
  obtain ⟨change, response, -, hserve⟩ := serve_eq b now h r
  have hh : serve b now h r = { change.apply h with replies := h.replies ++ [response] } :=
    hserve h.gamepad
  rw [hserve g, hh]
  cases change <;> rfl

end WebUI

theorem WebUI.console_handleClient (b : Board) (now : UInt32) (requests : List HttpRequest)
    (h : Head) : (handleClient b now requests h).console = h.console := by
  unfold handleClient
  split
  · exact foldl_proj_eq (console_serve b now) requests h
  · rfl

/-- What no OTA callback writes is left alone by all of them together. -/
theorem OtaService.proj_handle {α : Type*} (proj : Head → α)
    (hevent : ∀ h e, proj (event h e) = proj h) (events : List OtaEvent) (h : Head) :
    proj (handle events h) = proj h := by
  unfold handle
  split
  · exact foldl_proj_eq hevent events h
  · rfl

theorem OtaService.console_handle (events : List OtaEvent) (h : Head) :
    (handle events h).console = h.console :=
  proj_handle Head.console (fun _ e => by cases e <;> rfl) events h

namespace Sketch

/-- Polling moves the gamepad by one update and no other part of the console. -/
theorem console_poll (b : Board) (i : LoopInput) (h : Head) :
    (poll b i h).console =
      ((GamepadInput.update i.pads h.gamepad).1, h.services, h.sketch, h.calls) := by
  rw [poll, OtaService.console_handle, WebUI.console_handleClient]
  rfl

/-! ## The controls

Whatever a block does not write, it leaves alone: `proj` is any such part of the head. -/

section Controls

variable (b : Board) (now : UInt32) (d : RearmDraws) (gp : GamepadState)

theorem proj_stepPatterns {α : Type*} (proj : Head → α)
    (hproj : ∀ h lights calls l1 r1,
      proj { h with
        lights := lights
        calls := calls
        sketch := { h.sketch with sL1WasPressed := l1, sR1WasPressed := r1 } } = proj h)
    (h : Head) : proj (stepPatterns now gp h) = proj h := by
  simp only [stepPatterns]
  split <;> split <;> exact hproj h _ _ _ _

theorem proj_toggleX {α : Type*} (proj : Head → α)
    (hproj : ∀ h rig sketch calls,
      proj { h with toRig := rig, sketch := sketch, calls := calls } = proj h)
    (h : Head) : proj (toggleX b now d gp h) = proj h := by
  have hswitch : ∀ h : Head, proj (switchLights b now d h) = proj h := by
    intro h
    simp only [switchLights]
    split <;> split <;> exact hproj h _ _ _
  simp only [toggleX]
  split
  · exact ((hproj _ _ _ _).trans (hswitch _)).trans (hproj h _ _ _)
  · exact hproj h _ _ _

theorem proj_clickY {α : Type*} (proj : Head → α)
    (hproj : ∀ h lights sketch calls,
      proj { h with lights := lights, sketch := sketch, calls := calls } = proj h)
    (h : Head) : proj (clickY now gp h) = proj h := by
  simp only [clickY]
  -- outer split: the edge; inner split: single or double click
  split
  · split <;> exact hproj h _ _ _
  · exact hproj h _ _ _

theorem proj_audioControls {α : Type*} (proj : Head → α)
    (hproj : ∀ h audio sketch calls,
      proj { h with audio := audio, sketch := sketch, calls := calls } = proj h)
    (h : Head) : proj (audioControls b now gp h) = proj h := by
  have hvolume : proj (rampVolume b now gp h) = proj h := by
    simp only [rampVolume]
    split <;> split
    · exact hproj h _ _ _
    · rfl
    · exact hproj h _ _ _
    · rfl
  have htracks : ∀ h, proj (stepTracks b now gp h) = proj h := by
    intro h
    simp only [stepTracks]
    split <;> split <;> exact hproj h _ _ _
  have hmenu : ∀ h, proj (replayMenu b now gp h) = proj h := by
    intro h
    simp only [replayMenu]
    split <;> exact hproj h _ _ _
  unfold audioControls
  split
  · rw [hmenu, htracks, hvolume]
  · rfl

theorem proj_rampBrightness {α : Type*} (proj : Head → α)
    (hproj : ∀ h led, proj { h with led := led } = proj h) (h : Head) :
    proj (rampBrightness gp h) = proj h := by
  simp only [rampBrightness]
  split
  · exact hproj h _
  · split
    · exact hproj h _
    · rfl

/-- The controls change nothing that was delivered to the tick. -/
theorem delivered_controls (h : Head) : (controls b now d h).delivered = h.delivered := by
  simp only [controls]
  split
  · rw [connectedControls, proj_rampBrightness _ Head.delivered fun _ _ => rfl,
      proj_audioControls _ _ _ Head.delivered fun _ _ _ _ => rfl,
      proj_clickY _ _ Head.delivered fun _ _ _ _ => rfl,
      proj_toggleX _ _ _ _ Head.delivered fun _ _ _ _ => rfl,
      proj_stepPatterns _ _ Head.delivered fun _ _ _ _ _ => rfl]
    rfl
  · rfl

end Controls

/-! ## After the controls -/

/-- The admin button writes the services, two statics of the sketch and the strips. -/
theorem proj_adminButton {α : Type*} (proj : Head → α)
    (hproj : ∀ h services pressed fired led,
      proj { h with
        services := services
        sketch := { h.sketch with sAdminPressedAtMs := pressed, sAdminHoldFired := fired }
        led := led } = proj h)
    (now : UInt32) (low softAP : Bool) (h : Head) :
    proj (adminButton now low softAP h) = proj h := by
  simp only [adminButton]
  split
  · split
    · exact hproj h h.services now h.sketch.sAdminHoldFired h.led
    · split
      · exact hproj h _ h.sketch.sAdminPressedAtMs true _
      · rfl
  · exact hproj h h.services 0 false h.led

/-- What neither the admin button nor the eyes write is as the controls have left it. -/
theorem proj_act {α : Type*} (proj : Head → α)
    (hproj : ∀ h rig services pressed fired,
      proj { h with
        toRig := rig
        services := services
        sketch := { h.sketch with sAdminPressedAtMs := pressed, sAdminHoldFired := fired } } =
      proj h)
    (b : Board) (i : LoopInput) (h : Head) :
    proj (act b i h) = proj (controls b (millis i.clock.controls) i.idleDraws h) := by
  have hadmin := proj_adminButton proj
    (fun h services pressed fired led =>
      hproj h { h.toRig with led := led } services pressed fired)
    (millis i.clock.admin) i.adminLow i.softAP
  have heyes : ∀ h rig, proj { h with toRig := rig } = proj h := fun h rig =>
    hproj h rig h.services h.sketch.sAdminPressedAtMs h.sketch.sAdminHoldFired
  simp only [act]
  split <;> split
  · exact (heyes _ _).trans (hadmin _)
  · exact heyes _ _
  · exact hadmin _
  · rfl

/-- The admin button can only toggle the access point, or leave the services alone. -/
theorem services_adminButton (now : UInt32) (low softAP : Bool) (h : Head) :
    (adminButton now low softAP h).services = h.services ∨
      (adminButton now low softAP h).services = toggleAP softAP h.services := by
  simp only [adminButton]
  split
  · split
    · exact .inl rfl
    · split
      · exact .inr rfl
      · exact .inl rfl
  · exact .inl rfl

/-- Over a whole tick the services are left alone or toggled once. -/
theorem services_loop (b : Board) (h : Head) (i : LoopInput) :
    (loop b h i).services = h.services ∨ (loop b h i).services = toggleAP i.softAP h.services := by
  have hpoll : (poll b i h).services = h.services :=
    congrArg (fun c => c.2.1) (console_poll b i h)
  have hcontrols : (controls b (millis i.clock.controls) i.idleDraws (poll b i h)).services =
      (poll b i h).services :=
    congrArg (fun c => c.2.1) (delivered_controls b _ i.idleDraws (poll b i h))
  have hact : (loop b h i).services = (act b i (poll b i h)).services := rfl
  rw [hact, ← hpoll, ← hcontrols]
  simp only [act]
  -- the eyes, where fitted, come after and do not reach the radio
  split <;> split
  · exact services_adminButton _ i.adminLow i.softAP _
  · exact .inl rfl
  · exact services_adminButton _ i.adminLow i.softAP _
  · exact .inl rfl

end Sketch

/-! ## Inputs for runs on fixed inputs -/

/-- Every draw at its lowest. -/
def lowestRearm : RearmDraws where
  saccade := ⟨0, ⟨0, by decide⟩, ⟨0, by decide⟩⟩
  blink := ⟨0, by decide⟩

def lowestDraws : EyeDraws where
  suspend := lowestRearm
  panHop := ⟨0, 0⟩
  tiltHop := ⟨0, 0⟩
  saccade := lowestRearm.saccade
  blink := lowestRearm.blink

/-- A tick at real time `t` on which slot 0 holds a pad with this report, or no pad. -/
def padTick (t : ℕ) (callbacks : List Callback) (pad : Option Report) : LoopInput where
  pads :=
    { callbacks := callbacks
      controller := fun _ => ⟨pad.isSome, true, true, pad.getD {}⟩
      dataUpdated := true }
  requests := []
  otaEvents := []
  clock := ⟨t, t, t, t, t⟩
  adminLow := false
  softAP := true
  busyLow := false
  idleDraws := lowestRearm
  eyeDraws := lowestDraws
  effectDraws := .zero

end K2soHead
