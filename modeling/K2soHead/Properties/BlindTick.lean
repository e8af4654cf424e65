import K2soHead.Properties.PixelErasure

/-!
# Every block of a tick but the rendering is blind

`Head.bare` drops from a head what the firmware never reads back: the pixel buffers and
everything logged.  The blocks of `loop()` up to the rendering work on what is left.
-/

namespace K2soHead

open Erasure

/-! ## The eyes -/

namespace AudioPlayer

/-- The packets dropped. -/
def mute (a : AudioPlayer) : AudioPlayer := { a with serial := [] }

theorem mute_ensureInitialized (now : UInt32) (a : AudioPlayer) :
    (ensureInitialized now a.mute).mute = (ensureInitialized now a).mute := by
  have hinit : ∀ a, (ensureInitialized now a).mute =
      if a.sInitSent || !WrappingClock.reached now a.sReadyAtMs then a.mute
      else { a.mute with sInitSent := true } := by
    intro a
    unfold ensureInitialized
    split <;> rfl
  rw [hinit, hinit]
  rfl

theorem mute_play (now : UInt32) (track : UInt16) (a : AudioPlayer) :
    (play now track a.mute).mute = (play now track a).mute := by
  have hplay : ∀ a, (play now track a).mute =
      { (ensureInitialized now a).mute with
        sCurrentTrack := track, sLastPlayCommandMs := now, sHasPlayed := true } := fun _ => rfl
  rw [hplay, hplay, mute_ensureInitialized]

theorem mute_playNext (b : Board) (now : UInt32) (a : AudioPlayer) :
    (playNext b now a.mute).mute = (playNext b now a).mute := by
  simp only [playNext]
  split
  · rfl
  · exact mute_play now _ a

theorem mute_playPrevious (b : Board) (now : UInt32) (a : AudioPlayer) :
    (playPrevious b now a.mute).mute = (playPrevious b now a).mute := by
  simp only [playPrevious]
  split
  · rfl
  · exact mute_play now _ a

theorem mute_replay (b : Board) (now : UInt32) (a : AudioPlayer) :
    (replay b now a.mute).mute = (replay b now a).mute := by
  simp only [replay]
  split
  · rfl
  · exact mute_play now _ a

theorem mute_setVolume (now : UInt32) (volume : UInt8) (a : AudioPlayer) :
    (setVolume now volume a.mute).mute = (setVolume now volume a).mute := by
  have hsent : ∀ a : AudioPlayer,
      (if a.sInitSent then sendCommand kCmdSetVolume a.sVolume.toUInt16 a else a).mute =
        a.mute := by
    intro a
    split <;> rfl
  let level : UInt8 := if volume > 30 then 30 else volume
  calc (setVolume now volume a.mute).mute
      = (ensureInitialized now { a.mute with sVolume := level }).mute := hsent _
    _ = (ensureInitialized now { a with sVolume := level }).mute :=
        mute_ensureInitialized now { a with sVolume := level }
    _ = (setVolume now volume a).mute := (hsent _).symm

end AudioPlayer

/-- Pixel buffers, servo writes and packets dropped. -/
def Rig.bare (r : Rig) : Rig :=
  { r with led := r.led.blank, servo := { r.servo with written := [] }, audio := r.audio.mute }

namespace Rig

def eraser : Eraser Rig (ℕ × List Rgb) where
  erase := bare
  output r := r.led.pushed
  Inv r := LedController.eraser.Inv r.led
  erase_erase r := by
    have hblank : r.led.blank.blank = r.led.blank := LedController.eraser.erase_erase r.led
    simp only [bare, hblank, AudioPlayer.mute]
  output_erase _ := rfl
  inv_erase r := LedController.eraser.inv_erase r.led

/-- The strips as a part of the rig. -/
def strips : Part eraser LedController.eraser where
  get := Rig.led
  set r l := { r with led := l }
  get_set _ _ := rfl
  get_erase _ := rfl
  erase_set _ _ := rfl
  output_eq _ := rfl
  inv_iff _ := Iff.rfl

theorem blind_motion (g : EyeMotion → EyeMotion) :
    Blind eraser fun r => { r with motion := g r.motion } :=
  Blind.of_commutes (fun _ => rfl) (fun _ => rfl) fun _ hr => hr

theorem blind_level (level : UInt8) :
    Blind eraser fun r => { r with led := r.led.setBlinkLevel level } :=
  strips.lift (LedController.blind_setBlinkLevel level)

end Rig

namespace EyeMotion

open Rig

section Eyes

variable (b : Board) (now : UInt32) (gp : GamepadState) (busyLow : Bool) (d : EyeDraws)

theorem blind_suspendIdle (d : RearmDraws) : Blind eraser (suspendIdle now d) := by
  have hrelight : Blind eraser fun r =>
      if r.motion.sBlinking then
        { r with
          motion := { r.motion with sBlinking := false }
          led := r.led.setBlinkLevel kEyeRestLevel }
      else r :=
    Blind.ite (fun _ => Iff.rfl)
      ((blind_motion fun m => { m with sBlinking := false }).comp (blind_level kEyeRestLevel))
      Blind.id
  exact hrelight.comp (blind_motion (rearm now d))

theorem blind_takeOver : Blind eraser (takeOver now gp d) := by
  unfold takeOver
  exact Blind.ite (fun _ => Iff.rfl)
    ((blind_motion fun m => { m with sIdleResumeAtMs := now + UInt32.ofNat kIdleResumeMs }).comp
      (blind_suspendIdle now d.suspend))
    Blind.id

theorem blind_updateBlink : Blind eraser (updateBlink now d) := by
  -- the level of the ramp is read off the clock and the blink's start
  have hreopening : Blind eraser fun r => { r with
      led := r.led.setBlinkLevel (blinkRamp (WrappingClock.age now r.motion.sBlinkStartMs)) } :=
    Blind.reading (k := fun r : Rig => blinkRamp (WrappingClock.age now r.motion.sBlinkStartMs))
      (g := fun level r => { r with led := r.led.setBlinkLevel level }) (fun _ => rfl) blind_level
  have hreopened : Blind eraser fun r => { r with
      led := r.led.setBlinkLevel kEyeRestLevel
      motion := scheduleBlink now d.blink { r.motion with sBlinking := false } } :=
    (blind_level kEyeRestLevel).comp
      (blind_motion fun m => scheduleBlink now d.blink { m with sBlinking := false })
  have hclose : Blind eraser fun r =>
      { r with motion := { r.motion with sBlinking := true, sBlinkStartMs := now } } :=
    blind_motion fun m => { m with sBlinking := true, sBlinkStartMs := now }
  unfold updateBlink
  exact Blind.ite (fun _ => Iff.rfl)
    (Blind.ite (fun _ => Iff.rfl) (blind_level 0)
      (Blind.ite (fun _ => Iff.rfl) hreopening hreopened))
    (Blind.ite (fun _ => Iff.rfl) hclose (blind_level kEyeRestLevel))

/-- The level speech asks for depends on the last play command, not on the packets. -/
theorem blind_updateEyeLevel : Blind eraser (updateEyeLevel b now busyLow d) := by
  have hspoken : ∀ level : UInt8, Blind eraser fun r : Rig =>
      { r with
        led := r.led.setBlinkLevel level
        motion := scheduleBlink now d.blink { r.motion with sBlinking := false } } :=
    fun level => (blind_level level).comp
      (blind_motion fun m => scheduleBlink now d.blink { m with sBlinking := false })
  have helim : updateEyeLevel b now busyLow d = fun r =>
      (if b.audio.isSome then speechLevel now busyLow r.audio else none).elim
        (updateBlink now d r) fun level =>
          { r with
            led := r.led.setBlinkLevel level
            motion := scheduleBlink now d.blink { r.motion with sBlinking := false } } := by
    funext r
    unfold updateEyeLevel
    cases if b.audio.isSome then speechLevel now busyLow r.audio else none <;> rfl
  rw [helim]
  exact Blind.reading
    (k := fun r : Rig => if b.audio.isSome then speechLevel now busyLow r.audio else none)
    (g := fun speech r => speech.elim (updateBlink now d r) fun level =>
      { r with
        led := r.led.setBlinkLevel level
        motion := scheduleBlink now d.blink { r.motion with sBlinking := false } })
    (fun _ => rfl) fun speech => by
      cases speech with
      | none => exact blind_updateBlink now d
      | some level => exact hspoken level

theorem blind_runIdle : Blind eraser (runIdle b now busyLow d) := by
  have hpick : Blind eraser fun r : Rig =>
      if deadlinePassed now r.motion.sNextSaccadeMs then
        { r with motion := pickIdleTarget now d r.motion }
      else r :=
    Blind.ite (fun _ => Iff.rfl) (blind_motion (pickIdleTarget now d)) Blind.id
  exact hpick.comp (blind_updateEyeLevel b now busyLow d)

theorem blind_easeAndWrite (ease : ExtRat) : Blind eraser (easeAndWrite ease) :=
  Blind.of_silent (fun r => by
    have hblank : r.led.blank.blank = r.led.blank := LedController.eraser.erase_erase r.led
    simp only [eraser, bare, easeAndWrite, ServoController.setAngle, AudioPlayer.mute, hblank])
    (fun _ => rfl) fun _ hr => hr

theorem blind_update : Blind eraser (update b now gp busyLow d) := by
  have hbranch : Blind eraser fun r : Rig =>
      if idle now gp r.motion then
        easeAndWrite kIdleEase (if r.motion.sIdleEnabled then runIdle b now busyLow d r else r)
      else
        easeAndWrite kGamepadEase { r with motion := driveTargets gp r.motion } :=
    Blind.ite (fun _ => Iff.rfl)
      ((Blind.ite (fun _ => Iff.rfl) (blind_runIdle b now busyLow d) Blind.id).comp
        (blind_easeAndWrite kIdleEase))
      ((blind_motion (driveTargets gp)).comp (blind_easeAndWrite kGamepadEase))
  exact (blind_takeOver now gp d).comp hbranch

theorem blind_setIdleEnabled (d : RearmDraws) (enabled : Bool) :
    Blind eraser (setIdleEnabled now d enabled) := by
  unfold setIdleEnabled
  refine Blind.ite (fun _ => Iff.rfl) Blind.id ?_
  cases enabled with
  | true => exact blind_motion fun m => rearm now d { m with sIdleEnabled := true }
  | false =>
    exact (blind_motion fun m => { m with sIdleEnabled := false, sBlinking := false }).comp
      (blind_level kEyeRestLevel)

end Eyes

end EyeMotion

/-! ## The whole head -/

namespace Head

/-- Pixel buffers and logs dropped. -/
def bare (h : Head) : Head :=
  { h with
    toRig := h.toRig.bare
    services := { h.services with radio := [] }
    ota := { h.ota with printed := [] }
    replies := []
    calls := [] }

def eraser : Eraser Head (ℕ × List Rgb) where
  erase := bare
  output h := h.led.pushed
  Inv h := Rig.eraser.Inv h.toRig
  erase_erase h := by
    have hrig : h.toRig.bare.bare = h.toRig.bare := Rig.eraser.erase_erase h.toRig
    simp only [bare, hrig]
  output_erase _ := rfl
  inv_erase h := Rig.eraser.inv_erase h.toRig

/-- The rig as a part of the head. -/
def rig : Part eraser Rig.eraser where
  get := Head.toRig
  set h r := { h with toRig := r }
  get_set _ _ := rfl
  get_erase _ := rfl
  erase_set _ _ := rfl
  output_eq _ := rfl
  inv_iff _ := Iff.rfl

theorem blind_led {f : LedController → LedController} (hf : Blind LedController.eraser f) :
    Blind eraser fun h => { h with led := f h.led } :=
  rig.lift (Rig.strips.lift hf)

theorem blind_sketch (g : Sketch → Sketch) :
    Blind eraser fun h => { h with sketch := g h.sketch } :=
  Blind.of_commutes (fun _ => rfl) (fun _ => rfl) fun _ hh => hh

theorem blind_lights (g : LightEffects → LightEffects) :
    Blind eraser fun h => { h with lights := g h.lights } :=
  Blind.of_commutes (fun _ => rfl) (fun _ => rfl) fun _ hh => hh

/-- What only touches what is erased, the strips apart. -/
theorem blind_of_bare_eq {f : Head → Head} (hrig : ∀ h, (f h).toRig = h.toRig)
    (hbare : ∀ h, (f h).bare = h.bare) : Blind eraser f :=
  Blind.of_silent (fun h => (hbare h).trans ((hbare h.bare).trans (eraser.erase_erase h)).symm)
    (fun h => congrArg (fun r => r.led.pushed) (hrig h))
    fun h hh => (congrArg Rig.eraser.Inv (hrig h)).mpr hh

theorem blind_call (c : LoopCall) : Blind eraser (Head.call c) :=
  blind_of_bare_eq (fun _ => rfl) fun _ => rfl

/-- Replying is logged only, whatever the reply says. -/
theorem blind_replying {f : Head → Head × Response} (hf : Blind eraser fun h => (f h).1) :
    Blind eraser fun h => { (f h).1 with replies := (f h).1.replies ++ [(f h).2] } :=
  ⟨hf.erase_eq, hf.output_eq, hf.keeps⟩

theorem blind_audio {g : AudioPlayer → AudioPlayer} (hg : ∀ a, (g a.mute).mute = (g a).mute) :
    Blind eraser fun h => { h with audio := g h.audio } :=
  Blind.of_silent (fun h => by
      have hblank : h.led.blank.blank = h.led.blank := LedController.eraser.erase_erase h.led
      simp only [eraser, bare, Rig.bare, hblank, hg])
    (fun _ => rfl) fun _ hh => hh

end Head

open Head

/-! ## Requests and OTA callbacks -/

theorem WebUI.blind_serve (b : Board) (now : UInt32) (r : HttpRequest) :
    Blind eraser fun h => serve b now h r := by
  refine blind_replying (f := fun h => dispatch b now h r) ?_
  -- a request goes to one part of the head, and every part is blind on its own
  cases r with
  | effect index =>
    cases index with
    | none => exact Blind.id
    | some index =>
      simp only [dispatch, handleSelectEffect]
      split
      · exact Blind.id
      · exact blind_lights (LightEffects.selectEffect now (UInt8.ofInt index))
  | color hex =>
    simp only [dispatch, handleSetColor]
    split
    · exact blind_lights _
    · exact Blind.id
  | brightness value =>
    cases value with
    | none => exact Blind.id
    | some value => exact blind_led (LedController.blind_setBrightness _)
  | status => exact Blind.id
  | play track =>
    simp only [dispatch, handlePlay]
    split
    · cases track with
      | none => exact Blind.id
      | some track =>
        dsimp only
        split
        · exact Blind.id
        · exact blind_audio (AudioPlayer.mute_play now _)
    · exact Blind.id
  | volume value =>
    simp only [dispatch, handleSetVolume]
    split
    · cases value with
      | none => exact Blind.id
      | some value => exact blind_audio (AudioPlayer.mute_setVolume now _)
    · exact Blind.id
  | eyeTrim pan tilt =>
    simp only [dispatch, handleEyeTrim]
    split
    · cases pan with
      | none =>
        cases tilt with
        | none => exact Blind.id
        | some tilt => exact rig.lift (Rig.blind_motion (EyeMotion.setTiltTrim tilt))
      | some pan =>
        cases tilt with
        | none => exact rig.lift (Rig.blind_motion (EyeMotion.setPanTrim pan))
        | some tilt =>
          exact rig.lift (Rig.blind_motion fun m => (m.setPanTrim pan).setTiltTrim tilt)
    · exact Blind.id

theorem WebUI.blind_handleClient (b : Board) (now : UInt32) (requests : List HttpRequest) :
    Blind eraser (handleClient b now requests) := by
  unfold handleClient
  exact Blind.ite (fun _ => Iff.rfl) (Blind.foldl (blind_serve b now) requests) Blind.id

theorem OtaService.blind_event (e : OtaEvent) : Blind eraser fun h => event h e := by
  cases e with
  | start =>
    -- the dark frame shows what `clearAll` has just written
    exact blind_led ((LedController.blind_setBrightness 0).comp
      LedController.repaints_clearAll.showAll)
  | progress done total =>
    refine Blind.of_silent (fun h => ?_) (fun _ => rfl) fun _ hh => hh
    -- what is printed depends on the last percentage, never on what was printed
    have hpct : (onProgress done total { h.ota with printed := [] }).lastPct =
        (onProgress done total h.ota).lastPct := by
      rw [onProgress, onProgress, apply_ite OtaProgress.lastPct, apply_ite OtaProgress.lastPct]
    have hrig : h.toRig.bare.bare = h.toRig.bare := Rig.eraser.erase_erase h.toRig
    simp only [eraser, bare, event, hpct, hrig]
  | finish => exact Blind.id
  | error code => exact Blind.id

theorem OtaService.blind_handle (events : List OtaEvent) : Blind eraser (handle events) := by
  unfold handle
  exact Blind.ite (fun _ => Iff.rfl) (Blind.foldl blind_event events) Blind.id

namespace Sketch

/-! ## The controls -/

section Controls

variable (b : Board) (now : UInt32) (d : RearmDraws) (gp : GamepadState)

theorem blind_dimStrips : Blind eraser (dimStrips gp) :=
  blind_led ((LedController.blind_setStripDim 0 _).comp (LedController.blind_setStripDim 1 _))

theorem blind_stepPatterns : Blind eraser (stepPatterns now gp) := by
  have hl1 : Blind eraser fun h : Head =>
      if gp.l1 && !h.sketch.sL1WasPressed then
        { h.call .previous with lights := h.lights.previous now }
      else h :=
    Blind.ite (fun _ => Iff.rfl) ((blind_call _).comp (blind_lights (LightEffects.previous now)))
      Blind.id
  have hr1 : Blind eraser fun h : Head =>
      if gp.r1 && !h.sketch.sR1WasPressed then
        { h.call .next with lights := h.lights.next now }
      else h :=
    Blind.ite (fun _ => Iff.rfl) ((blind_call _).comp (blind_lights (LightEffects.next now)))
      Blind.id
  exact (hl1.comp hr1).comp
    (blind_sketch fun s => { s with sL1WasPressed := gp.l1, sR1WasPressed := gp.r1 })

/-- Off, the brightness is remembered; on, it is put back.  Neither looks at a pixel. -/
theorem blind_switchLights : Blind eraser (switchLights b now d) := by
  have hon : Blind eraser fun h : Head =>
      { h with led := h.led.setBrightness h.sketch.sBrightnessBeforeOff } :=
    Blind.reading (k := fun h : Head => h.sketch.sBrightnessBeforeOff)
      (g := fun level h => { h with led := h.led.setBrightness level }) (fun _ => rfl)
      fun level => blind_led (LedController.blind_setBrightness level)
  have hoff : Blind eraser fun h : Head =>
      { h with
        sketch := { h.sketch with sBrightnessBeforeOff := h.led.brightness }
        led := h.led.setBrightness 0 } :=
    Blind.reading (k := fun h : Head => h.led.brightness)
      (g := fun level h =>
        { h with
          sketch := { h.sketch with sBrightnessBeforeOff := level }
          led := h.led.setBrightness 0 })
      (fun _ => rfl)
      fun level => (blind_sketch fun s => { s with sBrightnessBeforeOff := level }).comp
        (blind_led (LedController.blind_setBrightness 0))
  have hswitch : ∀ turningOn : Bool, Blind eraser fun h : Head =>
      let h := if turningOn then { h with led := h.led.setBrightness h.sketch.sBrightnessBeforeOff }
        else
          { h with
            sketch := { h.sketch with sBrightnessBeforeOff := h.led.brightness }
            led := h.led.setBrightness 0 }
      if b.servos then { h with toRig := EyeMotion.setIdleEnabled now d turningOn h.toRig }
      else h :=
    fun turningOn =>
      (Blind.ite (c := fun _ => turningOn = true) (fun _ => Iff.rfl) hon hoff).comp
        (Blind.ite (c := fun _ => b.servos = true) (fun _ => Iff.rfl)
          (rig.lift (EyeMotion.blind_setIdleEnabled now d turningOn)) Blind.id)
  exact Blind.reading (k := fun h : Head => h.led.brightness == 0) (fun _ => rfl) hswitch

theorem blind_toggleX : Blind eraser (toggleX b now d gp) := by
  have hx : Blind eraser fun h : Head =>
      if gp.x && !h.sketch.sXWasPressed then switchLights b now d (h.call .toggleX) else h :=
    Blind.ite (fun _ => Iff.rfl) ((blind_call _).comp (blind_switchLights b now d)) Blind.id
  exact hx.comp (blind_sketch fun s => { s with sXWasPressed := gp.x })

theorem blind_clickY : Blind eraser (clickY now gp) := by
  have hpin : Blind eraser fun h : Head =>
      { h.call .setDefaultAccentToCurrent with
        lights := h.lights.setDefaultAccentToCurrent
        sketch := { h.sketch with sLastYPressMs := 0 } } :=
    ((blind_call _).comp (blind_lights LightEffects.setDefaultAccentToCurrent)).comp
      (blind_sketch fun s => { s with sLastYPressMs := 0 })
  have hcycle : Blind eraser fun h : Head =>
      { h.call .cycleDefaultAccentColor with
        lights := h.lights.cycleDefaultAccentColor
        sketch := { h.sketch with sLastYPressMs := now } } :=
    ((blind_call _).comp (blind_lights LightEffects.cycleDefaultAccentColor)).comp
      (blind_sketch fun s => { s with sLastYPressMs := now })
  have hy : Blind eraser fun h : Head =>
      if gp.y && !h.sketch.sYWasPressed then
        if h.sketch.sLastYPressMs != 0 &&
            decide (now - h.sketch.sLastYPressMs ≤ kDoubleClickWindowMs) then
          { h.call .setDefaultAccentToCurrent with
            lights := h.lights.setDefaultAccentToCurrent
            sketch := { h.sketch with sLastYPressMs := 0 } }
        else
          { h.call .cycleDefaultAccentColor with
            lights := h.lights.cycleDefaultAccentColor
            sketch := { h.sketch with sLastYPressMs := now } }
      else h :=
    Blind.ite (fun _ => Iff.rfl) (Blind.ite (fun _ => Iff.rfl) hpin hcycle) Blind.id
  exact hy.comp (blind_sketch fun s => { s with sYWasPressed := gp.y })

theorem blind_rampVolume : Blind eraser (rampVolume b now gp) := by
  have hset : ∀ volume : UInt8, Blind eraser fun h : Head =>
      { h.call (.setVolume volume) with
        audio := h.audio.setVolume now volume
        sketch := { h.sketch with sLastVolumeChangeMs := now, sVolumeAdjusted := true } } :=
    fun volume => ((blind_call _).comp (blind_audio (AudioPlayer.mute_setVolume now volume))).comp
      (blind_sketch fun s => { s with sLastVolumeChangeMs := now, sVolumeAdjusted := true })
  have hreplay : Blind eraser fun h : Head =>
      { h.call .volumeReplay with
        audio := h.audio.replay b now
        sketch := { h.sketch with sVolumeAdjusted := false } } :=
    ((blind_call _).comp (blind_audio (AudioPlayer.mute_replay b now))).comp
      (blind_sketch fun s => { s with sVolumeAdjusted := false })
  unfold rampVolume
  refine Blind.ite (c := fun _ => (gp.dpadUp || gp.dpadDown) = true) (fun _ => Iff.rfl) ?_
    (Blind.ite (fun _ => Iff.rfl) hreplay Blind.id)
  refine Blind.ite (fun _ => Iff.rfl) ?_ Blind.id
  -- the new volume is read off the player's own volume, which no packet log can change
  exact Blind.reading (k := fun h : Head => h.audio.volume)
    (g := fun volume h =>
      let next := (volume.toNat : ℤ) + if gp.dpadUp then kVolumeStep else -kVolumeStep
      let next := if next < 0 then 0 else if next > 30 then 30 else next
      { h.call (.setVolume (UInt8.ofInt next)) with
        audio := h.audio.setVolume now (UInt8.ofInt next)
        sketch := { h.sketch with sLastVolumeChangeMs := now, sVolumeAdjusted := true } })
    (fun _ => rfl) fun _ => hset _

theorem blind_stepTracks : Blind eraser (stepTracks b now gp) := by
  have hright : Blind eraser fun h : Head =>
      if gp.dpadRight && !h.sketch.sDpadRightWasPressed then
        { h.call .playNext with audio := h.audio.playNext b now }
      else h :=
    Blind.ite (fun _ => Iff.rfl)
      ((blind_call _).comp (blind_audio (AudioPlayer.mute_playNext b now))) Blind.id
  have hleft : Blind eraser fun h : Head =>
      if gp.dpadLeft && !h.sketch.sDpadLeftWasPressed then
        { h.call .playPrevious with audio := h.audio.playPrevious b now }
      else h :=
    Blind.ite (fun _ => Iff.rfl)
      ((blind_call _).comp (blind_audio (AudioPlayer.mute_playPrevious b now))) Blind.id
  exact (hright.comp hleft).comp
    (blind_sketch fun s =>
      { s with sDpadRightWasPressed := gp.dpadRight, sDpadLeftWasPressed := gp.dpadLeft })

theorem blind_replayMenu : Blind eraser (replayMenu b now gp) := by
  have hstart : Blind eraser fun h : Head =>
      if gp.start && !h.sketch.sStartWasPressed then
        { h.call .menuReplay with audio := h.audio.replay b now }
      else h :=
    Blind.ite (fun _ => Iff.rfl)
      ((blind_call _).comp (blind_audio (AudioPlayer.mute_replay b now))) Blind.id
  exact hstart.comp (blind_sketch fun s => { s with sStartWasPressed := gp.start })

theorem blind_audioControls : Blind eraser (audioControls b now gp) := by
  unfold audioControls
  exact Blind.ite (c := fun _ => b.audio.isSome = true) (fun _ => Iff.rfl)
    (((blind_rampVolume b now gp).comp (blind_stepTracks b now gp)).comp
      (blind_replayMenu b now gp))
    Blind.id

theorem blind_rampBrightness : Blind eraser (rampBrightness gp) := by
  have hset : ∀ current : ℤ, Blind eraser fun h : Head =>
      if gp.a then
        { h with led := h.led.setBrightness (UInt8.ofInt
          (if current - kBrightnessStepPerTick < 0 then 0 else current - kBrightnessStepPerTick)) }
      else if gp.b then
        { h with led := h.led.setBrightness (UInt8.ofInt
          (if current + kBrightnessStepPerTick > 255 then 255
            else current + kBrightnessStepPerTick)) }
      else h :=
    fun current => Blind.ite (c := fun _ => gp.a = true) (fun _ => Iff.rfl)
      (blind_led (LedController.blind_setBrightness _))
      (Blind.ite (c := fun _ => gp.b = true) (fun _ => Iff.rfl)
        (blind_led (LedController.blind_setBrightness _)) Blind.id)
  exact Blind.reading (k := fun h : Head => (h.led.brightness.toNat : ℤ)) (fun _ => rfl) hset

theorem blind_connectedControls : Blind eraser (connectedControls b now d gp) :=
  (((((blind_dimStrips gp).comp (blind_stepPatterns now gp)).comp (blind_toggleX b now d gp)).comp
    (blind_clickY now gp)).comp (blind_audioControls b now gp)).comp (blind_rampBrightness gp)

theorem blind_releaseControls : Blind eraser releaseControls :=
  (blind_sketch fun s =>
    { s with
      sL1WasPressed := false
      sR1WasPressed := false
      sXWasPressed := false
      sYWasPressed := false
      sDpadLeftWasPressed := false
      sDpadRightWasPressed := false
      sStartWasPressed := false
      sLastYPressMs := 0 }).comp
    (blind_led ((LedController.blind_setStripDim 0 255).comp
      (LedController.blind_setStripDim 1 255)))

theorem blind_controls : Blind eraser (controls b now d) := by
  have hbranch : ∀ gp : GamepadState, Blind eraser fun h : Head =>
      if gp.connected then connectedControls b now d gp h else releaseControls h :=
    fun gp => Blind.ite (c := fun _ => gp.connected = true) (fun _ => Iff.rfl)
      (blind_connectedControls b now d gp) blind_releaseControls
  exact Blind.reading (k := fun h : Head => h.gamepad.sState) (fun _ => rfl) hbranch

end Controls

/-! ## The admin button -/

/-- Each flash fills every strip before it shows, and so does the dark after it. -/
theorem blind_flash (hue : UInt16) : Blind LedController.eraser (flash hue) :=
  (LedController.repaints_fillAllHSV hue 255 255).showAll.comp
    LedController.repaints_clearAll.showAll

theorem blind_flashAdminAck (apNowRunning : Bool) :
    Blind LedController.eraser (flashAdminAck apNowRunning) := by
  have hflash : ∀ (hue : UInt16) (saved : UInt8), Blind LedController.eraser fun l =>
      (flash hue (flash hue ((l.setBlinkLevel 255).setBrightness 160))).setBrightness saved :=
    fun hue saved => ((((LedController.blind_setBlinkLevel 255).comp
      (LedController.blind_setBrightness 160)).comp (blind_flash hue)).comp (blind_flash hue)).comp
      (LedController.blind_setBrightness saved)
  have hack := Blind.reading (k := LedController.brightness) (fun _ => rfl)
    (hflash (if apNowRunning then 120 else 0))
  exact hack

/-- Toggling reads the running flags and not the log of radio calls. -/
theorem toggleAP_radio (softAP : Bool) (s : Services) :
    { toggleAP softAP { s with radio := [] } with radio := [] } =
      { toggleAP softAP s with radio := [] } := by
  obtain ⟨web, ota, radio⟩ := s
  cases web <;> cases ota <;> cases softAP <;> rfl

theorem blind_adminButton (now : UInt32) (low softAP : Bool) :
    Blind eraser (adminButton now low softAP) := by
  have htoggle : Blind eraser fun h : Head =>
      { h with services := toggleAP softAP h.services } := by
    refine Blind.of_silent (fun h => ?_) (fun _ => rfl) fun _ hh => hh
    have hrig : h.toRig.bare.bare = h.toRig.bare := Rig.eraser.erase_erase h.toRig
    simp only [eraser, bare, hrig, toggleAP_radio]
  -- the flash shows the new state of the access point
  have hack : Blind eraser fun h : Head =>
      { h with led := flashAdminAck h.services.webRunning h.led } :=
    Blind.reading (k := fun h : Head => h.services.webRunning)
      (g := fun running h => { h with led := flashAdminAck running h.led }) (fun _ => rfl)
      fun running => blind_led (blind_flashAdminAck running)
  have hfire : Blind eraser fun h : Head =>
      let services := toggleAP softAP h.services
      { h with
        services := services
        sketch := { h.sketch with sAdminHoldFired := true }
        led := flashAdminAck services.webRunning h.led } :=
    (htoggle.comp (blind_sketch fun s => { s with sAdminHoldFired := true })).comp hack
  unfold adminButton
  exact Blind.ite (c := fun _ => low = true) (fun _ => Iff.rfl)
    (Blind.ite (fun _ => Iff.rfl) (blind_sketch fun s => { s with sAdminPressedAtMs := now })
      (Blind.ite (fun _ => Iff.rfl) hfire Blind.id))
    (blind_sketch fun s => { s with sAdminPressedAtMs := 0, sAdminHoldFired := false })

/-! ## Up to the rendering -/

theorem blind_poll (b : Board) (i : LoopInput) : Blind eraser (poll b i) := by
  have hpads : Blind eraser fun h : Head =>
      { h with gamepad := (GamepadInput.update i.pads h.gamepad).1 } :=
    Blind.of_commutes (fun _ => rfl) (fun _ => rfl) fun _ hh => hh
  exact (hpads.comp (WebUI.blind_handleClient b (millis i.clock.requests) i.requests)).comp
    (OtaService.blind_handle i.otaEvents)

theorem blind_act (b : Board) (i : LoopInput) : Blind eraser (act b i) := by
  have hadmin : Blind eraser fun h : Head =>
      if b.adminButton then adminButton (millis i.clock.admin) i.adminLow i.softAP h else h :=
    Blind.ite (c := fun _ => b.adminButton = true) (fun _ => Iff.rfl)
      (blind_adminButton (millis i.clock.admin) i.adminLow i.softAP) Blind.id
  have hupdate : ∀ gp : GamepadState, Blind eraser fun h : Head =>
      { h with
        toRig := EyeMotion.update b (millis i.clock.eyes) gp i.busyLow i.eyeDraws h.toRig } :=
    fun gp => rig.lift (EyeMotion.blind_update b (millis i.clock.eyes) gp i.busyLow i.eyeDraws)
  have heyes : Blind eraser fun h : Head =>
      if b.servos && !kServoZeroingMode then
        { h with
          toRig :=
            EyeMotion.update b (millis i.clock.eyes) h.gamepad.sState i.busyLow i.eyeDraws h.toRig }
      else h :=
    Blind.ite (c := fun _ => (b.servos && !kServoZeroingMode) = true) (fun _ => Iff.rfl)
      (Blind.reading (k := fun h : Head => h.gamepad.sState) (fun _ => rfl) hupdate) Blind.id
  exact ((blind_controls b (millis i.clock.controls) i.idleDraws).comp hadmin).comp heyes

end Sketch

end K2soHead
