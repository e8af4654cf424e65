import K2soHead.Library.Presses
import K2soHead.Properties.ButtonCalls
import K2soHead.Properties.EyeTicks
import K2soHead.Properties.PlayerPackets

/-!
# Ramping the volume with the D-pad

The web and the D-pad write one volume.  A connected stretch is followed with the times at which
the D-pad has set the volume, latest first, and with how often it has since Up and Down were
last let go.
-/

namespace K2soHead

open Runs Presses

/-! ## The volume -/

namespace AudioPlayer

@[simp] theorem sVolume_setVolume (now : UInt32) (volume : UInt8) (a : AudioPlayer) :
    (a.setVolume now volume).sVolume = clampVolume volume := by
  rw [setVolume_eq]
  simp

@[simp] theorem sVolume_play (now : UInt32) (track : UInt16) (a : AudioPlayer) :
    (a.play now track).sVolume = a.sVolume := by
  rw [play_eq]
  simp

/-- The three ways of picking a track leave the volume alone. -/
theorem sVolume_tracks (b : Board) (now : UInt32) (a : AudioPlayer) :
    (a.playNext b now).sVolume = a.sVolume ∧ (a.playPrevious b now).sVolume = a.sVolume ∧
      (a.replay b now).sVolume = a.sVolume := by
  simp only [playNext, playPrevious, replay]
  split
  · exact ⟨rfl, rfl, rfl⟩
  · exact ⟨sVolume_play _ _ a, sVolume_play _ _ a, sVolume_play _ _ a⟩

end AudioPlayer

/-- The volume is in the range of the module. -/
def Head.VolumeInRange (h : Head) : Prop := h.audio.volume ≤ 30

theorem Head.VolumeInRange.of_eq {h h' : Head} (hh : h.VolumeInRange)
    (heq : h'.audio.sVolume = h.audio.sVolume) : h'.VolumeInRange := by
  rw [Head.VolumeInRange, AudioPlayer.volume, heq]
  exact hh

theorem WebUI.volumeInRange_serve (b : Board) (now : UInt32) (h : Head) (r : HttpRequest)
    (hh : h.VolumeInRange) : (serve b now h r).VolumeInRange := by
  have hserved := served_dispatch b now h r
  refine Head.VolumeInRange.of_eq (h := (dispatch b now h r).1) ?_ rfl
  generalize (dispatch b now h r).1 = h' at hserved
  cases hserved with
  | nothing => exact hh
  | effect value index => exact hh
  | color hex c => exact hh
  | brightness value level => exact hh
  | play value track => exact hh.of_eq (AudioPlayer.sVolume_play now track h.audio)
  | volume value level =>
    rw [Head.VolumeInRange, AudioPlayer.volume, AudioPlayer.sVolume_setVolume]
    exact AudioPlayer.clampVolume_le level
  | eyeTrim pan tilt m => exact hh

namespace Sketch

/-- The level a call sets the volume to. -/
def levelSet : LoopCall → Option UInt8
  | .setVolume level => some level
  | _ => none

/-- The levels the D-pad sets the volume to on a tick. -/
def dpadLevels (b : Board) (h : Head) (i : LoopInput) : List UInt8 :=
  (newCalls b h i).filterMap levelSet

/-! ## One step -/

/-- A step stays in the range and moves the volume by at most one. -/
theorem steppedVolume_near (gp : GamepadState) {volume : UInt8} (hvolume : volume ≤ 30) :
    steppedVolume gp volume ≤ 30 ∧ (steppedVolume gp volume).toNat ≤ volume.toNat + 1 ∧
      volume.toNat ≤ (steppedVolume gp volume).toNat + 1 := by
  have hmax : (30 : UInt8).toNat = 30 := rfl
  have hle := UInt8.le_iff_toNat_le.mp hvolume
  have hdelta : ∀ up : Bool, (if up then kVolumeStep else -kVolumeStep) = 1 ∨
      (if up then kVolumeStep else -kVolumeStep) = -1 := by
    intro up
    cases up
    · exact .inr rfl
    · exact .inl rfl
  rw [UInt8.le_iff_toNat_le, steppedVolume, UInt8.ofInt, UInt8.toNat_ofNat']
  rcases hdelta gp.dpadUp with hup | hdown
  · rw [hup]
    omega
  · rw [hdown]
    omega

/-! ## One tick -/

theorem volumeInRange_poll (b : Board) {h : Head} (i : LoopInput) (hh : h.VolumeInRange) :
    (poll b i h).VolumeInRange := by
  have hota : ∀ h : Head, (OtaService.handle i.otaEvents h).audio = h.audio :=
    OtaService.proj_handle (fun h => h.audio) (fun _ e => by cases e <;> rfl) i.otaEvents
  rw [Head.VolumeInRange, poll, hota, WebUI.handleClient]
  split
  · exact Loops.foldl_keeps (fun h r => WebUI.volumeInRange_serve b _ h r) i.requests hh
  · exact hh

/-- After the controls nothing reaches the player. -/
theorem audio_loop (b : Board) (h : Head) (i : LoopInput) :
    (loop b h i).audio = (controlled b h i).audio := by
  have hadmin : ∀ h : Head, (adminButton (millis i.clock.admin) i.adminLow i.softAP h).audio =
      h.audio :=
    proj_adminButton (fun h => h.audio) (fun _ _ _ _ _ => rfl) _ i.adminLow i.softAP
  have hact : (loop b h i).audio = (act b i (poll b i h)).audio := rfl
  rw [hact]
  simp only [act, controlled]
  split <;> split
  · exact (EyeMotion.setsLevels_update b _ _ i.busyLow i.eyeDraws _).audio.trans (hadmin _)
  · exact (EyeMotion.setsLevels_update b _ _ i.busyLow i.eyeDraws _).audio
  · exact hadmin _
  · rfl

section Controls

variable (b : Board) (now : UInt32) (d : RearmDraws) (gp : GamepadState) (h : Head)

theorem sVolume_rampVolume : (rampVolume b now gp h).audio.sVolume =
    if volumeHeld gp && volumeDue now h.sketch then
      AudioPlayer.clampVolume (steppedVolume gp h.audio.volume)
    else h.audio.sVolume := by
  simp only [rampVolume, volumeHeld, volumeDue]
  split
  · split
    · rename_i hheld hdue
      simp [hheld, hdue, steppedVolume]
    · rename_i hheld hearly
      simp [hheld, hearly]
  · split
    · rename_i hreleased hlatch
      simp [hreleased, (AudioPlayer.sVolume_tracks b now h.audio).2.2]
    · rename_i hreleased hlatch
      simp [hreleased]

/-- Of the audio controls only the ramp writes the volume. -/
theorem sVolume_audioControls : (audioControls b now gp h).audio.sVolume =
    if b.audio.isSome then (rampVolume b now gp h).audio.sVolume else h.audio.sVolume := by
  have htracks : ∀ h : Head, (stepTracks b now gp h).audio.sVolume = h.audio.sVolume := by
    intro h
    have hnext := (AudioPlayer.sVolume_tracks b now h.audio).1
    simp only [stepTracks]
    split <;> split
    · exact ((AudioPlayer.sVolume_tracks b now _).2.1).trans hnext
    · exact hnext
    · exact (AudioPlayer.sVolume_tracks b now _).2.1
    · rfl
  have hmenu : ∀ h : Head, (replayMenu b now gp h).audio.sVolume = h.audio.sVolume := by
    intro h
    simp only [replayMenu]
    split
    · exact (AudioPlayer.sVolume_tracks b now h.audio).2.2
    · rfl
  unfold audioControls
  split
  · rw [hmenu, htracks]
  · rfl

theorem audio_stepTracks : (stepTracks b now gp h).audio =
    let a := if gp.dpadRight && !h.sketch.sDpadRightWasPressed then h.audio.playNext b now
      else h.audio
    if gp.dpadLeft && !h.sketch.sDpadLeftWasPressed then a.playPrevious b now else a := by
  cases hright : gp.dpadRight && !h.sketch.sDpadRightWasPressed <;>
    cases hleft : gp.dpadLeft && !h.sketch.sDpadLeftWasPressed <;>
      simp only [stepTracks, hright, hleft, Head.call, if_true, Bool.false_eq_true, if_false]

/-- What Left, Right and Menu do to the player depends on it and on their edge flags. -/
theorem audio_presses_congr {h h' : Head} (haudio : h'.audio = h.audio)
    (hright : h'.sketch.sDpadRightWasPressed = h.sketch.sDpadRightWasPressed)
    (hleft : h'.sketch.sDpadLeftWasPressed = h.sketch.sDpadLeftWasPressed)
    (hstart : h'.sketch.sStartWasPressed = h.sketch.sStartWasPressed) :
    (replayMenu b now gp (stepTracks b now gp h')).audio =
      (replayMenu b now gp (stepTracks b now gp h)).audio := by
  have htracks : (stepTracks b now gp h').audio = (stepTracks b now gp h).audio := by
    rw [audio_stepTracks, audio_stepTracks, haudio, hright, hleft]
  simp only [replayMenu, sketch_stepTracks, hstart]
  split
  · exact congrArg (fun a => a.replay b now) htracks
  · exact htracks

/-- On a release that replays, the later presses of the tick find the player replaying. -/
theorem audio_connectedControls_of_fires (hfires : firesReplay b gp h = true) :
    (connectedControls b now d gp h).audio =
      (replayMenu b now gp
        (stepTracks b now gp { h with audio := h.audio.replay b now })).audio := by
  obtain ⟨⟨hfitted, hlatch⟩, hreleased⟩ :
      (b.audio.isSome = true ∧ h.sketch.sVolumeAdjusted = true) ∧ volumeHeld gp = false := by
    simpa [firesReplay] using hfires
  have hbright : ∀ h : Head, (rampBrightness gp h).audio = h.audio :=
    proj_rampBrightness gp (fun h => h.audio) fun _ _ => rfl
  have hbefore := audio_clickY b now d gp (dimStrips gp h)
  simp only [connectedControls, hbright, audioControls, hfitted, if_true]
  refine audio_presses_congr b now gp ?_ ?_ ?_ ?_
  · have hreplays : ∀ h : Head, h.sketch.sVolumeAdjusted = true →
        (rampVolume b now gp h).audio = h.audio.replay b now := by
      intro h hlatch
      have hbranch : (gp.dpadUp || gp.dpadDown) = false := hreleased
      simp only [rampVolume, hbranch, hlatch, Bool.false_eq_true, if_true, if_false]
    rw [hreplays _ (by simpa using hlatch), hbefore]
    rfl
  · simp
  · simp
  · simp

theorem sVolume_connectedControls : (connectedControls b now d gp h).audio.sVolume =
    if b.audio.isSome && volumeHeld gp && volumeDue now h.sketch then
      AudioPlayer.clampVolume (steppedVolume gp h.audio.volume)
    else h.audio.sVolume := by
  have hbright : ∀ h : Head, (rampBrightness gp h).audio = h.audio :=
    proj_rampBrightness gp (fun h => h.audio) fun _ _ => rfl
  have hbefore := audio_clickY b now d gp (dimStrips gp h)
  have hpad : (dimStrips gp h).audio = h.audio := rfl
  simp only [connectedControls, hbright, sVolume_audioControls, sVolume_rampVolume, hbefore, hpad]
  cases b.audio.isSome with
  | true => simp [volumeDue]
  | false => rfl

end Controls

/-- May the D-pad set the volume on this tick? -/
def ramps (b : Board) (h : Head) (i : LoopInput) : Bool :=
  b.audio.isSome && volumeHeld (padSeen h i) && volumeDue (millis i.clock.controls) h.sketch

section Tick

variable {b : Board} {h : Head} {i : LoopInput} (hconnected : (padSeen h i).connected = true)
include hconnected

theorem dpadLevels_eq : dpadLevels b h i =
    if ramps b h i then [steppedVolume (padSeen h i) (poll b i h).audio.volume] else [] := by
  have hvolume : ∀ calls : List LoopCall,
      calls.filterMap levelSet = (callsOf .volume calls).filterMap levelSet := by
    intro calls
    rw [callsOf, List.filterMap_filter]
    congr 1
    funext c
    cases c <;> rfl
  rw [dpadLevels, hvolume, volumeCalls_newCalls hconnected, volumeCalls, ramps]
  cases b.audio.isSome with
  | false => rfl
  | true =>
    cases volumeHeld (padSeen h i) with
    | true => cases volumeDue (millis i.clock.controls) h.sketch <;> rfl
    | false => cases h.sketch.sVolumeAdjusted <;> rfl

theorem replays_eq : (newCalls b h i).count .volumeReplay =
    if firesReplay b (padSeen h i) h then 1 else 0 := by
  have hvolume : ∀ calls : List LoopCall,
      calls.count .volumeReplay = (callsOf .volume calls).count .volumeReplay := by
    intro calls
    rw [callsOf, List.count_filter]
    rfl
  rw [hvolume, volumeCalls_newCalls hconnected, volumeCalls, firesReplay]
  cases b.audio.isSome with
  | false => rfl
  | true =>
    cases volumeHeld (padSeen h i) with
    | true => cases volumeDue (millis i.clock.controls) h.sketch <;> simp
    | false => cases h.sketch.sVolumeAdjusted <;> rfl

/-- The latch and the time stamp of the volume after a connected tick. -/
theorem volume_loop :
    (loop b h i).sketch.sVolumeAdjusted =
        (if b.audio.isSome then
          volumeHeld (padSeen h i) &&
            (volumeDue (millis i.clock.controls) h.sketch || h.sketch.sVolumeAdjusted)
        else h.sketch.sVolumeAdjusted) ∧
      (loop b h i).sketch.sLastVolumeChangeMs =
        if ramps b h i then millis i.clock.controls else h.sketch.sLastVolumeChangeMs := by
  rw [sketch_loop_of_admin b h i Sketch.sVolumeAdjusted fun _ _ _ => rfl,
    sketch_loop_of_admin b h i Sketch.sLastVolumeChangeMs fun _ _ _ => rfl,
    controlled_of_connected b h i hconnected]
  simp only [connectedControls, sketch_rampBrightness, sketch_audioControls, ramps]
  split
  · rename_i haudio
    simp [haudio, volumeDue, sketch_poll]
  · rename_i hnone
    simp [hnone, sketch_poll]

/-- The tick ends with the level the D-pad has set, or with the one the requests have left. -/
theorem level_loop (hh : h.VolumeInRange) :
    (loop b h i).audio.volume = (dpadLevels b h i).headD (poll b i h).audio.volume := by
  have hstepped := (steppedVolume_near (padSeen h i) (volumeInRange_poll b i hh)).1
  have hclamp : AudioPlayer.clampVolume (steppedVolume (padSeen h i) (poll b i h).audio.volume) =
      steppedVolume (padSeen h i) (poll b i h).audio.volume :=
    if_neg (UInt8.not_lt.mpr hstepped)
  have hlevel : (loop b h i).audio.volume =
      if ramps b h i then steppedVolume (padSeen h i) (poll b i h).audio.volume
      else (poll b i h).audio.volume := by
    rw [AudioPlayer.volume, audio_loop, controlled_of_connected b h i hconnected,
      sVolume_connectedControls, sketch_poll, hclamp]
    rfl
  rw [hlevel, dpadLevels_eq hconnected]
  split <;> rfl

end Tick

/-- Every tick keeps the volume in range, gamepad or not. -/
theorem volumeInRange_loop (b : Board) {h : Head} (i : LoopInput) (hh : h.VolumeInRange) :
    (loop b h i).VolumeInRange := by
  have hpoll := volumeInRange_poll b i hh
  cases hconnected : (padSeen h i).connected with
  | true =>
    rw [Head.VolumeInRange, level_loop hconnected hh, dpadLevels_eq hconnected]
    split
    · exact (steppedVolume_near _ hpoll).1
    · exact hpoll
  | false =>
    rw [Head.VolumeInRange, audio_loop, controlled_of_disconnected b h i hconnected]
    exact hpoll

theorem volumeInRange_setup (b : Board) (t : ℕ) (d : RearmDraws) :
    (setup b t d).VolumeInRange := by
  simp only [Head.VolumeInRange, AudioPlayer.volume, setup]
  cases b.audio with
  | some pins =>
    rw [AudioPlayer.sVolume_setVolume]
    exact AudioPlayer.clampVolume_le 20
  | none =>
    show (20 : UInt8) ≤ 30
    decide

end Sketch

/-! ## A connected stretch -/

/-- A head followed through a connected stretch. -/
structure VolumeRun where
  head : Head
  /-- when the D-pad has set the volume, the latest first -/
  times : List ℕ := []
  /-- how often it has since Up and Down were last let go -/
  steps : ℕ := 0

namespace VolumeRun

open Sketch

def step (b : Board) (s : VolumeRun) (i : LoopInput) : VolumeRun where
  head := loop b s.head i
  times := (dpadLevels b s.head i).map (fun _ => i.clock.controls) ++ s.times
  steps := if volumeHeld (padSeen s.head i) then s.steps + (dpadLevels b s.head i).length else 0

/-- A connected tick, not earlier than the latest step. -/
def InStretch (s : VolumeRun) (i : LoopInput) : Prop :=
  (padSeen s.head i).connected = true ∧ ∀ u ∈ s.times.head?, u ≤ i.clock.controls

instance (s : VolumeRun) (i : LoopInput) : Decidable (InStretch s i) :=
  inferInstanceAs (Decidable (_ ∧ ∀ u ∈ s.times.head?, _))

/-- The volume stays in range throughout the tick, and what the D-pad makes of it is at most one
off what the requests have left. -/
def StepsByOne (b : Board) (s : VolumeRun) (i : LoopInput) : Prop :=
  let found := (poll b i s.head).audio.volume
  found ≤ 30 ∧ (loop b s.head i).audio.volume ≤ 30 ∧
    (loop b s.head i).audio.volume = (dpadLevels b s.head i).headD found ∧
    ∀ level ∈ dpadLevels b s.head i,
      level.toNat ≤ found.toNat + 1 ∧ found.toNat ≤ level.toNat + 1

/-- The tick finds Up and Down let go after at least one step. -/
def LetsGo (s : VolumeRun) (i : LoopInput) : Prop :=
  volumeHeld (padSeen s.head i) = false ∧ s.steps ≠ 0

instance (s : VolumeRun) (i : LoopInput) : Decidable (s.LetsGo i) :=
  inferInstanceAs (Decidable (_ ∧ _))

/-- What Left, Right and Menu still do to a player on the tick. -/
def pressedAfter (b : Board) (s : VolumeRun) (i : LoopInput) (a : AudioPlayer) : AudioPlayer :=
  let gp := padSeen s.head i
  let now := millis i.clock.controls
  (replayMenu b now gp (stepTracks b now gp { s.head with audio := a })).audio

/-- The volume branch replays on the tick that lets go, once, and on no other; what it replays on
is the player the requests of the tick have left. -/
structure ReplaysOnRelease (b : Board) (s : VolumeRun) (i : LoopInput) : Prop where
  count : (newCalls b s.head i).count .volumeReplay = if s.LetsGo i then 1 else 0
  player : s.LetsGo i → (loop b s.head i).audio =
    s.pressedAfter b i ((poll b i s.head).audio.replay b (millis i.clock.controls))

/-- What the volume block keeps says what it has done in the stretch. -/
structure Tracks (b : Board) (s : VolumeRun) : Prop where
  range : s.head.VolumeInRange
  latch : s.head.sketch.sVolumeAdjusted = true ↔ s.steps ≠ 0
  silent : b.audio.isSome = false → s.steps = 0
  stored : ∀ u ∈ s.times.head?, s.head.sketch.sLastVolumeChangeMs = millis u
  paced : Paced kVolumeRepeatMs.toNat s.times

section Stretch

variable {b : Board} {s : VolumeRun} {i : LoopInput}

theorem stepsByOne_of_tracks (hs : Tracks b s) (hin : InStretch s i) : StepsByOne b s i := by
  have hpoll := volumeInRange_poll b i hs.range
  refine ⟨hpoll, volumeInRange_loop b i hs.range, level_loop hin.1 hs.range, fun level hlevel => ?_⟩
  rw [dpadLevels_eq hin.1] at hlevel
  split at hlevel
  · rw [List.mem_singleton.mp hlevel]
    exact (steppedVolume_near _ hpoll).2
  · cases hlevel

theorem replaysOnRelease_of_tracks (hs : Tracks b s) (hin : InStretch s i) :
    ReplaysOnRelease b s i := by
  have hfires : firesReplay b (padSeen s.head i) s.head = true ↔ s.LetsGo i := by
    rw [LetsGo, firesReplay, Bool.and_eq_true, Bool.and_eq_true, Bool.not_eq_true', hs.latch]
    constructor
    · rintro ⟨⟨-, hsteps⟩, hreleased⟩
      exact ⟨hreleased, hsteps⟩
    · rintro ⟨hreleased, hsteps⟩
      -- without a player there are no steps
      exact ⟨⟨Bool.eq_true_of_not_eq_false fun hnone => hsteps (hs.silent hnone), hsteps⟩,
        hreleased⟩
  refine ⟨?_, fun hgo => ?_⟩
  · rw [replays_eq hin.1]
    exact if_congr hfires rfl rfl
  · have hpoll : firesReplay b (padSeen s.head i) (poll b i s.head) = true := by
      rw [firesReplay, sketch_poll]
      exact hfires.mpr hgo
    rw [audio_loop, controlled_of_connected b s.head i hin.1,
      audio_connectedControls_of_fires b _ _ _ _ hpoll]
    refine audio_presses_congr b _ _ rfl ?_ ?_ ?_ <;> rw [sketch_poll]

/-- A step is due 120 ms after the one before at the earliest. -/
theorem paced_step (hs : Tracks b s) (hin : InStretch s i) (hramps : ramps b s.head i = true) :
    Paced kVolumeRepeatMs.toNat (i.clock.controls :: s.times) := by
  refine hs.paced.again fun u hu => ⟨hin.2 u hu, ?_⟩
  simp only [ramps, volumeDue, Bool.and_eq_true, decide_eq_true_eq] at hramps
  have hdue := hramps.2
  rw [hs.stored u hu, ge_iff_le, UInt32.le_iff_toNat_le] at hdue
  exact hdue

theorem times_step (hin : InStretch s i) : (s.step b i).times =
    if ramps b s.head i then i.clock.controls :: s.times else s.times := by
  rw [VolumeRun.step, dpadLevels_eq hin.1]
  split <;> rfl

theorem steps_step (hin : InStretch s i) : (s.step b i).steps =
    if volumeHeld (padSeen s.head i) then s.steps + (if ramps b s.head i then 1 else 0)
    else 0 := by
  rw [VolumeRun.step, dpadLevels_eq hin.1]
  cases ramps b s.head i <;> rfl

/-- The latch is set by a step, kept while Up or Down is held, and cleared by letting go. -/
theorem latch_step (hs : Tracks b s) (hin : InStretch s i) :
    (loop b s.head i).sketch.sVolumeAdjusted = true ↔ (s.step b i).steps ≠ 0 := by
  rw [(volume_loop hin.1).1, steps_step hin, ramps]
  cases haudio : b.audio.isSome with
  | false =>
    -- without a player nothing steps, and the latch was never set
    have hsteps := hs.silent haudio
    have hlatch := hs.latch
    rw [hsteps] at hlatch ⊢
    simpa using hlatch
  | true =>
    cases volumeHeld (padSeen s.head i) with
    | false => simp
    | true =>
      cases volumeDue (millis i.clock.controls) s.head.sketch with
      | true => simp
      | false => simpa using hs.latch

theorem Tracks.step (hs : Tracks b s) (hin : InStretch s i) : Tracks b (s.step b i) := by
  refine ⟨volumeInRange_loop b i hs.range, latch_step hs hin, fun hnone => ?_, fun u hu => ?_, ?_⟩
  · rw [steps_step hin, ramps, hnone, hs.silent hnone]
    split <;> rfl
  · have hstamp := (volume_loop (b := b) hin.1).2
    rw [times_step hin] at hu
    cases hramps : ramps b s.head i with
    | true =>
      rw [hramps, if_pos rfl, List.head?_cons, Option.mem_some_iff] at hu
      rw [hramps, if_pos rfl, hu] at hstamp
      exact hstamp
    | false =>
      rw [hramps] at hu hstamp
      exact hstamp.trans (hs.stored u hu)
  · rw [times_step hin]
    split
    · rename_i hramps
      exact paced_step hs hin hramps
    · exact hs.paced

end Stretch

/-- Whatever came before, through every stretch of connected ticks that begins with no
adjustment pending: two settings of the volume by the D-pad are 120 ms apart or more, each is at
most one off the volume found and the volume stays within 30, and letting go replays once if
there was a step since Up and Down were last let go, and not at all if there was none. -/
theorem volume_ramp (b : Board) (t : ℕ) (d : RearmDraws) (before stretch : List LoopInput) :
    let h := run (loop b) (setup b t d) before
    h.sketch.sVolumeAdjusted = false → Along (step b) InStretch { head := h } stretch →
      Paced kVolumeRepeatMs.toNat (run (step b) { head := h } stretch).times ∧
        Along (step b) (StepsByOne b) { head := h } stretch ∧
        Along (step b) (ReplaysOnRelease b) { head := h } stretch := by
  intro h hlatch hstretch
  have hrange : h.VolumeInRange :=
    inv_run (fun _ i hh => volumeInRange_loop b i hh) (volumeInRange_setup b t d) before
  have hstart : Tracks b { head := h } :=
    { range := hrange
      latch := by simp [hlatch]
      silent := fun _ => rfl
      stored := nofun
      paced := List.Pairwise.nil }
  have hkeep : ∀ s i, Tracks b s → InStretch s i → Tracks b (step b s i) :=
    fun _ _ hs hin => hs.step hin
  refine ⟨(inv_run_of_along hkeep hstart hstretch).paced, ?_, ?_⟩
  · exact along_of_inv hkeep (fun _ _ hs hin => stepsByOne_of_tracks hs hin) hstart hstretch
  · exact along_of_inv hkeep (fun _ _ hs hin => replaysOnRelease_of_tracks hs hin) hstart hstretch

/-- Up is held over three ticks, two of them far enough apart to step, and let go. -/
theorem two_steps_one_replay :
    let b := esp32DevKitC fun _ => 0
    let held := [padTick 1000 [.connected 0] (some { dpad := 0x1 }),
      padTick 1030 [] (some { dpad := 0x1 }), padTick 1130 [] (some { dpad := 0x1 })]
    let s := run (step b) { head := setup b 0 lowestRearm } held
    s.times = [1130, 1000] ∧
      (newCalls b s.head (padTick 1160 [] (some {}))).count .volumeReplay = 1 := by
  obtain ⟨-, -, -, -, -, hreplay, -⟩ := volume_ramp (esp32DevKitC fun _ => 0) 0 lowestRearm []
    [padTick 1000 [.connected 0] (some { dpad := 0x1 }), padTick 1030 [] (some { dpad := 0x1 }),
      padTick 1130 [] (some { dpad := 0x1 }), padTick 1160 [] (some {})] rfl (by decide)
  exact ⟨by decide, hreplay.count.trans (by decide)⟩

end VolumeRun

end K2soHead
