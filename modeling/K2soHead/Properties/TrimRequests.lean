import K2soHead.Firmware.Sketch
import K2soHead.Library.Runs
import K2soHead.Properties.ServoEnvelope

/-!
# Trim requests and the servos

Three clamps stand between `/api/eyetrim` and a servo, and all three let NaN through.  A NaN
trim stays, and from then on every tick hands NaN to its servo; any other argument, infinities
included, is harmless.
-/

namespace K2soHead

open Runs ExtRat

/-- What reaches the trims and the servos, on a board with eyes. -/
inductive TrimEvent where
  | request (pan tilt : Option ExtRat)
  | tick (now : UInt32) (gp : GamepadState) (busyLow : Bool) (d : EyeDraws)
  | setIdleEnabled (now : UInt32) (d : RearmDraws) (enabled : Bool)

namespace TrimEvent

def step (b : Board) (h : Head) : TrimEvent → Head
  | request pan tilt => (WebUI.handleEyeTrim pan tilt h).1
  | tick now gp busyLow d => { h with toRig := EyeMotion.update b now gp busyLow d h.toRig }
  | setIdleEnabled now d enabled =>
      { h with toRig := EyeMotion.setIdleEnabled now d enabled h.toRig }

/-- After a request both trims are in range; on a tick so is every angle, as it is handed to
`setAngle` and as `setAngle` converts it. -/
def Safe (b : Board) (h : Head) (e : TrimEvent) : Prop :=
  match e with
  | request _ _ =>
      Within (-45) 45 (step b h e).motion.sPanTrim ∧ Within (-45) 45 (step b h e).motion.sTiltTrim
  | tick _ _ _ _ =>
      Within 0 180 (step b h e).motion.gaze.panAngle ∧
        Within 0 180 (step b h e).motion.gaze.tiltAngle ∧
        ∃ pan tilt : ServoWrite, (step b h e).servo.written = h.servo.written ++ [pan, tilt] ∧
          Within 0 180 pan.angle ∧ Within 0 180 tilt.angle
  | setIdleEnabled _ _ _ => True

/-- No argument is NaN, and one that is left out finds its trim in range. -/
def Sound (h : Head) : TrimEvent → Prop
  | request pan tilt =>
      pan ≠ some .nan ∧ tilt ≠ some .nan ∧
        (pan = none → Within (-45) 45 h.motion.sPanTrim) ∧
        (tilt = none → Within (-45) 45 h.motion.sTiltTrim)
  | tick _ _ _ _ => True
  | setIdleEnabled _ _ _ => True

/-! ## One event -/

/-- Everything that moves the servos is a number. -/
structure Numbers (g : Gaze) : Prop where
  pan : IsNumber g.pan
  tilt : IsNumber g.tilt
  targetPan : IsNumber g.targetPan
  targetTilt : IsNumber g.targetTilt
  panTrim : IsNumber g.panTrim
  tiltTrim : IsNumber g.tiltTrim

/-- The trim one argument leaves. -/
def trimAfter (arg : Option ExtRat) (trim : ExtRat) : ExtRat :=
  arg.elim trim (clamp (-45) 45)

theorem handleEyeTrim_eq (pan tilt : Option ExtRat) (h : Head) :
    (WebUI.handleEyeTrim pan tilt h).1 =
      { h with motion := { h.motion with
        sPanTrim := trimAfter pan h.motion.sPanTrim
        sTiltTrim := trimAfter tilt h.motion.sTiltTrim } } := by
  cases pan <;> cases tilt <;> rfl

theorem within_trimAfter_iff {arg : Option ExtRat} {trim : ExtRat} :
    Within (-45) 45 (trimAfter arg trim) ↔
      arg ≠ some .nan ∧ (arg = none → Within (-45) 45 trim) := by
  cases arg with
  | none => simp [trimAfter]
  | some degrees =>
    have hclamp : trimAfter (some degrees) trim = clamp (-45) 45 degrees := rfl
    rw [hclamp, within_clamp_iff (by norm_num)]
    simp

theorem safe_request_iff (b : Board) (h : Head) (pan tilt : Option ExtRat) :
    Safe b h (request pan tilt) ↔ Sound h (request pan tilt) := by
  simp only [Safe, Sound, step, handleEyeTrim_eq, within_trimAfter_iff]
  tauto

/-- Targets are numbers, whoever chooses them. -/
theorem numbers_aim {m : EyeMotion} (h : Numbers m.gaze) (now : UInt32) (gp : GamepadState)
    (d : EyeDraws) : Numbers (EyeMotion.aim now gp d m) := by
  unfold EyeMotion.aim
  split
  · exact ⟨h.pan, h.tilt, isNumber_fin _, isNumber_fin _, h.panTrim, h.tiltTrim⟩
  · split
    · obtain ⟨lo, hpan⟩ := h.targetPan.within
      obtain ⟨lo', htilt⟩ := h.targetTilt.within
      exact ⟨h.pan, h.tilt, (EyeMotion.within_idleTarget hpan 90 d.panHop).isNumber,
        (EyeMotion.within_idleTarget htilt 90 d.tiltHop).isNumber, h.panTrim, h.tiltTrim⟩
    · exact h

theorem numbers_update {r : Rig} (h : Numbers r.motion.gaze) (b : Board) (now : UInt32)
    (gp : GamepadState) (busyLow : Bool) (d : EyeDraws) :
    Numbers (EyeMotion.update b now gp busyLow d r).motion.gaze := by
  have haim := numbers_aim h now gp d
  rw [(EyeMotion.gaze_update b now gp busyLow d r).1, EyeMotion.activeEase_eq]
  exact ⟨haim.pan.ease haim.targetPan _, haim.tilt.ease haim.targetTilt _, haim.targetPan,
    haim.targetTilt, haim.panTrim, haim.tiltTrim⟩

/-- Numbers are handed to both servos as angles. -/
theorem within_angles {g : Gaze} (h : Numbers g) :
    Within 0 180 g.panAngle ∧ Within 0 180 g.tiltAngle := by
  have hpan : g.panAngle = clamp 0 180 (g.pan + g.panTrim) := rfl
  have htilt : g.tiltAngle = clamp 0 180 (g.tilt + g.tiltTrim) := rfl
  rw [hpan, htilt, within_clamp_iff (by norm_num), within_clamp_iff (by norm_num)]
  exact ⟨(h.pan.add h.panTrim).ne_nan, (h.tilt.add h.tiltTrim).ne_nan⟩

theorem safe_tick (b : Board) {h : Head} (hnumbers : Numbers h.motion.gaze) (now : UInt32)
    (gp : GamepadState) (busyLow : Bool) (d : EyeDraws) : Safe b h (tick now gp busyLow d) := by
  obtain ⟨hgaze, hservo⟩ := EyeMotion.gaze_update b now gp busyLow d h.toRig
  obtain ⟨hpan, htilt⟩ := within_angles (numbers_update hnumbers b now gp busyLow d)
  rw [← hgaze] at hservo
  have hwritten := congrArg ServoController.written hservo
  rw [ServoController.written_setAngle, ServoController.written_setAngle,
    List.append_assoc] at hwritten
  refine ⟨hpan, htilt, _, _, hwritten, ?_, ?_⟩
  · rw [ServoController.clampAngle_eq, clamp_of_within hpan]
    exact hpan
  · rw [ServoController.clampAngle_eq, clamp_of_within htilt]
    exact htilt

/-- On eyes that are all numbers an event is safe exactly when it is sound. -/
theorem safe_iff_sound (b : Board) {h : Head} (hnumbers : Numbers h.motion.gaze) (e : TrimEvent) :
    Safe b h e ↔ Sound h e := by
  cases e with
  | request pan tilt => exact safe_request_iff b h pan tilt
  | tick now gp busyLow d => exact iff_of_true (safe_tick b hnumbers now gp busyLow d) trivial
  | setIdleEnabled now d enabled => exact Iff.rfl

/-- A safe event leaves numbers. -/
theorem numbers_step {b : Board} {h : Head} (hnumbers : Numbers h.motion.gaze) {e : TrimEvent}
    (hsafe : Safe b h e) : Numbers (step b h e).motion.gaze := by
  cases e with
  | request pan tilt =>
    obtain ⟨hpan, htilt⟩ := hsafe
    have hkept : (step b h (request pan tilt)).motion = { h.motion with
        sPanTrim := trimAfter pan h.motion.sPanTrim
        sTiltTrim := trimAfter tilt h.motion.sTiltTrim } := by
      rw [step, handleEyeTrim_eq]
    rw [hkept] at hpan htilt ⊢
    exact { hnumbers with panTrim := hpan.isNumber, tiltTrim := htilt.isNumber }
  | tick now gp busyLow d => exact numbers_update hnumbers b now gp busyLow d
  | setIdleEnabled now d enabled =>
    have hgaze := EyeMotion.gaze_setIdleEnabled now d enabled h.toRig
    exact hgaze ▸ hnumbers

/-! ## Every run -/

theorem numbers_setup (b : Board) (t : ℕ) (d : RearmDraws) :
    Numbers (Sketch.setup b t d).motion.gaze := by
  simp only [Sketch.setup]
  split
  · rw [EyeMotion.begin, EyeMotion.gaze_rearm]
    exact ⟨isNumber_fin _, isNumber_fin _, isNumber_fin _, isNumber_fin _, isNumber_fin _,
      isNumber_fin _⟩
  · exact ⟨isNumber_fin _, isNumber_fin _, isNumber_fin _, isNumber_fin _, isNumber_fin _,
      isNumber_fin _⟩

/-- Over every sequence of requests and ticks, no trim poisons the servos if and only if no
argument is NaN and none that is left out finds its trim out of range. -/
theorem servos_unpoisoned_iff (b : Board) (t : ℕ) (d : RearmDraws) (events : List TrimEvent) :
    Along (step b) (Safe b) (Sketch.setup b t d) events ↔
      Along (step b) Sound (Sketch.setup b t d) events := by
  have hfree : Along (step b) (fun _ _ => True) (Sketch.setup b t d) events :=
    along_of_forall_mem (fun _ _ => trivial) _
  have hkeep : ∀ (h : Head) (e : TrimEvent), Numbers h.motion.gaze → True → Safe b h e →
      Numbers (step b h e).motion.gaze := fun _ _ hnumbers _ hsafe => numbers_step hnumbers hsafe
  exact along_congr_of_kept hkeep (fun _ e hnumbers _ => safe_iff_sound b hnumbers e)
    (numbers_setup b t d) hfree

/-- A NaN trim stays through every tick, and every tick hands NaN to the servo. -/
theorem nan_handed_on {b : Board} {h : Head} (hnan : h.motion.sPanTrim = .nan) (now : UInt32)
    (gp : GamepadState) (busyLow : Bool) (d : EyeDraws) :
    (step b h (tick now gp busyLow d)).motion.sPanTrim = .nan ∧
      (step b h (tick now gp busyLow d)).motion.gaze.panAngle = .nan := by
  have htrim : (step b h (tick now gp busyLow d)).motion.gaze.panTrim = .nan :=
    (EyeMotion.trims_update b now gp busyLow d h.toRig).1.trans hnan
  refine ⟨htrim, ?_⟩
  rw [Gaze.panAngle, htrim, add_nan]
  rfl

/-- `pan=nan` leaves a trim that is not in range, and the next tick is not safe either. -/
theorem nan_request_poisons :
    let b := esp32DevKitC fun _ => 0
    let h := step b (Sketch.setup b 0 lowestRearm) (request (some .nan) none)
    ¬ Along (step b) (Safe b) (Sketch.setup b 0 lowestRearm) [request (some .nan) none] ∧
      ¬ Safe b h (tick (millis 30) {} false lowestDraws) := by
  intro b h
  refine ⟨?_, ?_⟩
  · rintro ⟨⟨hpan, -⟩, -⟩
    exact hpan.ne_nan rfl
  · rintro ⟨hpan, -⟩
    exact hpan.ne_nan (nan_handed_on rfl _ _ _ _).2

end TrimEvent

end K2soHead
