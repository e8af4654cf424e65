import K2soHead.Library.Runs
import K2soHead.Properties.EyeTicks
import K2soHead.Properties.LoopFrames

/-!
# Runs of the eyes in real time

A run starts where `setup()` leaves the eyes.  Time is unbounded and every event waits for
some time first, so the times never decrease; the code only sees `millis`.  Beside the
statics a run remembers in real time what the code remembers in readings: when the stick
was last active, when the last play command went out, when the last blink began.
-/

namespace K2soHead

open Runs WrappingClock

/-- Something that reaches the eyes, the strips they look at or the player.  `strips` is
whatever other modules do to the strips, which is never to move the blink level. -/
inductive EyeAction where
  | update (gp : GamepadState) (busyLow : Bool) (d : EyeDraws)
  | play (track : UInt16)
  | setVolume (volume : UInt8)
  | setIdleEnabled (d : RearmDraws) (enabled : Bool)
  | setTrims (pan tilt : ExtRat)
  | flashAdminAck (apNowRunning : Bool)
  | strips (f : LedController → LedController) (keeps : ∀ l, (f l).sBlinkLevel = l.sBlinkLevel)

/-- An action, some time after the one before. -/
structure EyeEvent where
  wait : ℕ
  action : EyeAction

/-- The eyes with their history in real time. -/
structure EyeRun where
  rig : Rig
  clock : ℕ
  beganAt : ℕ
  activeAt : Option ℕ := none
  playedAt : Option ℕ := none
  blinkAt : ℕ

namespace EyeRun

/-- What `setup()` leaves, with the eyes begun. -/
def start (b : Board) (t : ℕ) (d : RearmDraws) : EyeRun where
  rig := { (Sketch.setup b t d).toRig with
    motion := EyeMotion.begin (millis t) d (EyeMotion.initial b) }
  clock := t
  beganAt := t
  blinkAt := t

def act (b : Board) (s : EyeRun) : EyeAction → EyeRun
  | .update gp busyLow d =>
      let rig := EyeMotion.update b (millis s.clock) gp busyLow d s.rig
      { s with
        rig := rig
        -- the two real times are taken when the code takes its readings
        activeAt := if EyeMotion.stickActive gp then some s.clock else s.activeAt
        blinkAt := if rig.view.blinking && !s.rig.view.blinking then s.clock else s.blinkAt }
  | .play track =>
      { s with
        rig := { s.rig with audio := s.rig.audio.play (millis s.clock) track }
        playedAt := some s.clock }
  | .setVolume volume =>
      { s with rig := { s.rig with audio := s.rig.audio.setVolume (millis s.clock) volume } }
  | .setIdleEnabled d enabled =>
      { s with rig := EyeMotion.setIdleEnabled (millis s.clock) d enabled s.rig }
  | .setTrims pan tilt =>
      { s with rig := { s.rig with motion := (s.rig.motion.setPanTrim pan).setTiltTrim tilt } }
  | .flashAdminAck apNowRunning =>
      { s with rig := { s.rig with led := Sketch.flashAdminAck apNowRunning s.rig.led } }
  | .strips f _ => { s with rig := { s.rig with led := f s.rig.led } }

def wait (n : ℕ) (s : EyeRun) : EyeRun := { s with clock := s.clock + n }

def step (b : Board) (s : EyeRun) (e : EyeEvent) : EyeRun := act b (s.wait e.wait) e.action

/-- When idle is due again: five seconds after the stick was last active, or at once. -/
def resumeAt (s : EyeRun) : ℕ :=
  match s.activeAt with
  | some t => t + kIdleResumeMs
  | none => s.beganAt

/-! ## The statics agree with the history -/

/-- What holds of the eyes in every run. -/
structure Consistent (s : EyeRun) : Prop where
  resume : s.rig.view.resumeAt = millis s.resumeAt
  began_le : s.beganAt ≤ s.clock
  active_le : ∀ t, s.activeAt = some t → t ≤ s.clock
  blink : s.rig.view.blinking = true → s.rig.view.blinkStart = millis s.blinkAt
  blink_le : s.blinkAt ≤ s.clock
  played : s.rig.audio.sHasPlayed = s.playedAt.isSome
  played_at : ∀ t, s.playedAt = some t → s.rig.audio.sLastPlayCommandMs = millis t ∧ t ≤ s.clock
  parked : s.rig.view.enabled = false →
    s.rig.view.blinking = false ∧ kEyeRestLevel ≤ s.rig.view.level
  settled : s.rig.view.blinking = false →
    s.rig.view.level = kSpeechDipLevel ∨ kEyeRestLevel ≤ s.rig.view.level

theorem Consistent.wait {s : EyeRun} (h : s.Consistent) (n : ℕ) : (s.wait n).Consistent where
  resume := h.resume
  began_le := Nat.le_add_right_of_le h.began_le
  active_le t ht := Nat.le_add_right_of_le (h.active_le t ht)
  blink := h.blink
  blink_le := Nat.le_add_right_of_le h.blink_le
  played := h.played
  played_at t ht := ⟨(h.played_at t ht).1, Nat.le_add_right_of_le (h.played_at t ht).2⟩
  parked := h.parked
  settled := h.settled

/-- The age of the last play command, as the player reads it. -/
theorem Consistent.sinceLastPlayCommand {s : EyeRun} (h : s.Consistent) {t₀ t : ℕ}
    (hplayed : s.playedAt = some t₀) (ht : s.clock ≤ t) :
    (s.rig.audio.sinceLastPlayCommand (millis t)).toNat = (t - t₀) % 2 ^ 32 := by
  obtain ⟨hlast, hle⟩ := h.played_at t₀ hplayed
  have hhas : s.rig.audio.sHasPlayed = true := by
    rw [h.played, hplayed]
    rfl
  rw [AudioPlayer.sinceLastPlayCommand, if_pos hhas, hlast]
  exact age_reading (hle.trans ht)

/-- An action that moves neither the view nor the memory of the last play command. -/
theorem Consistent.of_same {s : EyeRun} (h : s.Consistent) {rig : Rig}
    (hview : rig.view = s.rig.view) (hplayed : rig.audio.sHasPlayed = s.rig.audio.sHasPlayed)
    (hplayed_at : rig.audio.sLastPlayCommandMs = s.rig.audio.sLastPlayCommandMs) :
    ({ s with rig := rig } : EyeRun).Consistent where
  resume := (congrArg EyeView.resumeAt hview).trans h.resume
  began_le := h.began_le
  active_le := h.active_le
  blink := by rw [hview]; exact h.blink
  blink_le := h.blink_le
  played := hplayed.trans h.played
  played_at := by rw [hplayed_at]; exact h.played_at
  parked := by rw [hview]; exact h.parked
  settled := by rw [hview]; exact h.settled

/-- Setting the volume may send the start-up commands, and never a play command. -/
theorem audio_setVolume (now : UInt32) (volume : UInt8) (a : AudioPlayer) :
    (a.setVolume now volume).sHasPlayed = a.sHasPlayed ∧
      (a.setVolume now volume).sLastPlayCommandMs = a.sLastPlayCommandMs ∧
      (a.setVolume now volume).sBusyGpio = a.sBusyGpio := by
  have hinit : ∀ a : AudioPlayer,
      (a.ensureInitialized now).sHasPlayed = a.sHasPlayed ∧
        (a.ensureInitialized now).sLastPlayCommandMs = a.sLastPlayCommandMs ∧
        (a.ensureInitialized now).sBusyGpio = a.sBusyGpio := by
    intro a
    unfold AudioPlayer.ensureInitialized
    split <;> exact ⟨rfl, rfl, rfl⟩
  unfold AudioPlayer.setVolume
  dsimp only
  generalize (if volume > 30 then 30 else volume) = clamped
  split
  · exact hinit { a with sVolume := clamped }
  · exact hinit { a with sVolume := clamped }

/-- The flash leaves the blink level wide open. -/
theorem sBlinkLevel_flashAdminAck (apNowRunning : Bool) (l : LedController) :
    (Sketch.flashAdminAck apNowRunning l).sBlinkLevel = kSpeechActiveLevel := by
  simp only [Sketch.flashAdminAck, Sketch.flash, LedController.setBrightness_eq,
    LedController.fillAllHSV_eq, LedController.clearAll_eq, LedController.showAll_eq,
    LedController.sBlinkLevel_setBlinkLevel]
  rfl

/-- A tick keeps the statics in agreement with the history. -/
theorem Consistent.update {s : EyeRun} (h : s.Consistent) (b : Board) (gp : GamepadState)
    (busyLow : Bool) (d : EyeDraws) : (act b s (.update gp busyLow d)).Consistent := by
  have hout := EyeMotion.update_outcome b (millis s.clock) gp busyLow d s.rig
  have haudio := (EyeMotion.setsLevels_update b (millis s.clock) gp busyLow d s.rig).audio
  simp only [act]
  -- from here on only the outcome of the tick is known, not how it came about
  generalize EyeMotion.update b (millis s.clock) gp busyLow d s.rig = rig at hout haudio ⊢
  refine ⟨?_, h.began_le, ?_, ?_, ?_, ?_, ?_, ?_, hout.settled h.settled⟩
  · -- an active stick sets both deadlines, and nothing else sets either
    rw [hout.resumeAt]
    cases EyeMotion.stickActive gp with
    | true => exact (reading_add s.clock kIdleResumeMs).symm
    | false => exact h.resume
  · intro t ht
    dsimp only at ht
    split at ht
    · exact Nat.le_of_eq (Option.some.inj ht).symm
    · exact h.active_le t ht
  · intro hblink
    dsimp only at hblink ⊢
    rw [hout.blinking hblink, hblink]
    -- a blink that goes on keeps its start, one that begins starts now
    cases hbefore : s.rig.view.blinking with
    | true => exact h.blink hbefore
    | false => rfl
  · dsimp only
    split
    · exact Nat.le_refl _
    · exact h.blink_le
  · exact (congrArg AudioPlayer.sHasPlayed haudio).trans h.played
  · intro t ht
    rw [haudio]
    exact h.played_at t ht
  · intro hparked
    -- parked after the tick is parked before it, and parked eyes are left alone
    rw [hout.enabled] at hparked
    obtain ⟨hrested, hlit⟩ := h.parked hparked
    obtain ⟨hrested', hlevel⟩ := hout.kept_of_parked hparked hrested
    exact ⟨hrested', hlevel ▸ hlit⟩

theorem Consistent.play {s : EyeRun} (h : s.Consistent) (b : Board) (track : UInt16) :
    (act b s (.play track)).Consistent where
  resume := h.resume
  began_le := h.began_le
  active_le := h.active_le
  blink := h.blink
  blink_le := h.blink_le
  played := rfl
  played_at t ht := by
    obtain rfl := Option.some.inj ht
    exact ⟨rfl, Nat.le_refl _⟩
  parked := h.parked
  settled := h.settled

theorem Consistent.setIdleEnabled {s : EyeRun} (h : s.Consistent) (b : Board) (d : RearmDraws)
    (enabled : Bool) : (act b s (.setIdleEnabled d enabled)).Consistent := by
  have hview := EyeMotion.view_setIdleEnabled (millis s.clock) d enabled s.rig
  have haudio := (EyeMotion.setsLevels_setIdleEnabled (millis s.clock) d enabled s.rig).audio
  simp only [act]
  generalize EyeMotion.setIdleEnabled (millis s.clock) d enabled s.rig = rig at hview haudio ⊢
  split at hview
  -- asked for what is already so, nothing happens
  · exact h.of_same hview (congrArg _ haudio) (congrArg _ haudio)
  · have hplayed : rig.audio.sHasPlayed = s.playedAt.isSome :=
      (congrArg AudioPlayer.sHasPlayed haudio).trans h.played
    have hplayed_at : ∀ t, s.playedAt = some t →
        rig.audio.sLastPlayCommandMs = millis t ∧ t ≤ s.clock := by
      rw [haudio]
      exact h.played_at
    cases enabled with
    | true =>
      rw [if_pos rfl] at hview
      refine ⟨(congrArg EyeView.resumeAt hview).trans h.resume, h.began_le, h.active_le,
        fun hon => ?_, h.blink_le, hplayed, hplayed_at, fun hoff => ?_, fun hrested => ?_⟩
      · rw [hview] at hon ⊢
        exact h.blink hon
      · rw [hview] at hoff
        cases hoff
      · rw [hview] at hrested ⊢
        exact h.settled hrested
    | false =>
      rw [if_neg Bool.false_ne_true] at hview
      -- parking ends any blink and relights the eyes
      refine ⟨(congrArg EyeView.resumeAt hview).trans h.resume, h.began_le, h.active_le,
        fun hon => ?_, h.blink_le, hplayed, hplayed_at, fun _ => ?_, fun _ => ?_⟩
      · rw [hview] at hon
        cases hon
      · rw [hview]
        exact ⟨rfl, UInt8.le_refl _⟩
      · rw [hview]
        exact .inr (UInt8.le_refl _)

theorem Consistent.flashAdminAck {s : EyeRun} (h : s.Consistent) (b : Board)
    (apNowRunning : Bool) : (act b s (.flashAdminAck apNowRunning)).Consistent := by
  have hlit : kEyeRestLevel ≤ (Sketch.flashAdminAck apNowRunning s.rig.led).sBlinkLevel := by
    rw [sBlinkLevel_flashAdminAck]
    decide
  simp only [act]
  generalize Sketch.flashAdminAck apNowRunning s.rig.led = led at hlit ⊢
  exact ⟨h.resume, h.began_le, h.active_le, h.blink, h.blink_le, h.played, h.played_at,
    fun hoff => ⟨(h.parked hoff).1, hlit⟩, fun _ => .inr hlit⟩

theorem Consistent.step {s : EyeRun} (h : s.Consistent) (b : Board) (e : EyeEvent) :
    (s.step b e).Consistent := by
  have hwait := h.wait e.wait
  -- waiting first keeps everything, then one case for each action
  unfold EyeRun.step
  cases e.action with
  | update gp busyLow d => exact hwait.update b gp busyLow d
  | play track => exact hwait.play b track
  | setVolume volume =>
    obtain ⟨hplayed, hplayed_at, -⟩ :=
      audio_setVolume (millis (s.wait e.wait).clock) volume (s.wait e.wait).rig.audio
    exact hwait.of_same rfl hplayed hplayed_at
  | setIdleEnabled d enabled => exact hwait.setIdleEnabled b d enabled
  | setTrims pan tilt => exact hwait.of_same rfl rfl rfl
  | flashAdminAck apNowRunning => exact hwait.flashAdminAck b apNowRunning
  | strips f keeps =>
    have hview : Rig.view { s.rig with led := f s.rig.led } = s.rig.view := by
      simp only [Rig.view, keeps]
    exact hwait.of_same hview rfl rfl

/-! ## Start-up -/

theorem audio_start (b : Board) (t : ℕ) (d : RearmDraws) :
    (start b t d).rig.audio.sHasPlayed = false ∧
      ∀ pins, b.audio = some pins → (start b t d).rig.audio.sBusyGpio = pins.busyGpio := by
  have haudio : (start b t d).rig.audio = b.audio.elim {} fun pins =>
      (({} : AudioPlayer).begin (millis t) pins.busyGpio).setVolume (millis t) 20 := by
    simp only [start, Sketch.setup]
    cases b.audio <;> rfl
  rw [haudio]
  cases b.audio with
  | none => exact ⟨rfl, fun _ h => by cases h⟩
  | some pins =>
    obtain ⟨hplayed, -, hbusy⟩ :=
      audio_setVolume (millis t) 20 (({} : AudioPlayer).begin (millis t) pins.busyGpio)
    refine ⟨hplayed, ?_⟩
    rintro _ ⟨⟩
    exact hbusy

theorem view_start (b : Board) (t : ℕ) (d : RearmDraws) :
    (start b t d).rig.view =
      { enabled := true
        blinking := false
        blinkStart := 0
        resumeAt := millis t
        level := kSpeechActiveLevel } := by
  have hlevel : (start b t d).rig.led.sBlinkLevel = kSpeechActiveLevel := by
    have hled : (start b t d).rig.led =
        (({} : LedController).begin b.ledCounts).clearAll.showAll := rfl
    rw [hled, LedController.showAll_eq, LedController.clearAll_eq]
    exact LedController.sBlinkLevel_beginStrips _ _
  rw [Rig.view, hlevel, start, EyeMotion.begin, EyeMotion.rearm, EyeMotion.scheduleSaccade]
  split <;> rfl

theorem consistent_start (b : Board) (t : ℕ) (d : RearmDraws) : (start b t d).Consistent := by
  have hview := view_start b t d
  have hlit : kEyeRestLevel ≤ kSpeechActiveLevel := by decide
  refine ⟨congrArg EyeView.resumeAt hview, Nat.le_refl t, ?_, fun hblink => ?_, Nat.le_refl t,
    (audio_start b t d).1, ?_, fun hoff => ?_, fun _ => ?_⟩
  · intro _ hnever
    cases hnever
  · rw [hview] at hblink
    cases hblink
  · intro _ hnever
    cases hnever
  · rw [hview] at hoff
    cases hoff
  · rw [hview]
    exact .inr hlit

theorem consistent_run (b : Board) (t : ℕ) (d : RearmDraws) (events : List EyeEvent) :
    (run (step b) (start b t d) events).Consistent :=
  inv_run (fun _ e h => h.step b e) (consistent_start b t d) events

/-! ## The BUSY pin -/

/-- Nothing rewires the BUSY pin. -/
theorem sBusyGpio_step (b : Board) (s : EyeRun) (e : EyeEvent) :
    (step b s e).rig.audio.sBusyGpio = s.rig.audio.sBusyGpio := by
  unfold step
  cases e.action with
  | update gp busyLow d =>
    exact congrArg AudioPlayer.sBusyGpio (EyeMotion.setsLevels_update b _ gp busyLow d _).audio
  | play track =>
    simp only [act, AudioPlayer.play, AudioPlayer.ensureInitialized]
    split <;> rfl
  | setVolume volume => exact (audio_setVolume _ volume _).2.2
  | setIdleEnabled d enabled =>
    exact congrArg AudioPlayer.sBusyGpio (EyeMotion.setsLevels_setIdleEnabled _ d enabled _).audio
  | setTrims pan tilt => rfl
  | flashAdminAck apNowRunning => rfl
  | strips f keeps => rfl

/-- On a board with BUSY wired, the pin is there in every run. -/
theorem busy_run {b : Board} (hwired : b.BusyWired) (t : ℕ) (d : RearmDraws)
    (events : List EyeEvent) :
    (run (step b) (start b t d) events).rig.audio.sBusyGpio.isSome = true := by
  obtain ⟨pin, hpin⟩ := hwired
  have hstart : (start b t d).rig.audio.sBusyGpio.isSome = true := by
    rw [(audio_start b t d).2 ⟨some pin⟩ hpin]
    rfl
  have hstep : ∀ s e, s.rig.audio.sBusyGpio.isSome = true →
      (step b s e).rig.audio.sBusyGpio.isSome = true := by
    intro s e h
    rw [sBusyGpio_step]
    exact h
  exact inv_run hstep hstart events

end EyeRun

end K2soHead
