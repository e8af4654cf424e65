import K2soHead.Library.Envelope
import K2soHead.Properties.EyeTicks

/-!
# Where the eyes look, and what reaches the servos

`Gaze` is the part of the eyes that moves the servos.  `gaze_update` says in one equation what
a tick does to it: choose the targets, then ease toward them.  `written_update` says what the
two servos are handed afterwards.
-/

namespace K2soHead

/-- Position, target and trim of both axes. -/
structure Gaze where
  pan : ExtRat
  tilt : ExtRat
  targetPan : ExtRat
  targetTilt : ExtRat
  panTrim : ExtRat
  tiltTrim : ExtRat

def EyeMotion.gaze (m : EyeMotion) : Gaze where
  pan := m.sPan
  tilt := m.sTilt
  targetPan := m.sTargetPan
  targetTilt := m.sTargetTilt
  panTrim := m.sPanTrim
  tiltTrim := m.sTiltTrim

namespace Gaze

/-- Both axes moved by the fraction `k` of what is left to their targets. -/
def ease (k : ExtRat) (g : Gaze) : Gaze :=
  { g with
    pan := g.pan + (g.targetPan - g.pan) * k
    tilt := g.tilt + (g.targetTilt - g.tilt) * k }

/-- What the pan servo is handed. -/
def panAngle (g : Gaze) : ExtRat := EyeMotion.clampf (g.pan + g.panTrim) (.fin 0) (.fin 180)

/-- What the tilt servo is handed. -/
def tiltAngle (g : Gaze) : ExtRat := EyeMotion.clampf (g.tilt + g.tiltTrim) (.fin 0) (.fin 180)

end Gaze

namespace EyeMotion

/-! ## The targets of a tick -/

/-- Does this tick call `pickIdleTarget`? -/
def saccades (now : UInt32) (gp : GamepadState) (m : EyeMotion) : Bool :=
  !driven now gp m && m.sIdleEnabled && deadlinePassed now m.sNextSaccadeMs

/-- The fraction of the way a tick covers. -/
def activeEase (now : UInt32) (gp : GamepadState) (m : EyeMotion) : ExtRat :=
  if driven now gp m then kGamepadEase else kIdleEase

/-- The gaze with the targets of this tick. -/
def aim (now : UInt32) (gp : GamepadState) (d : EyeDraws) (m : EyeMotion) : Gaze :=
  if driven now gp m then
    { m.gaze with
      targetPan := .fin (Arduino.map gp.axisRX (-511) 512 0 180)
      targetTilt := .fin (Arduino.map gp.axisRY (-511) 512 180 0) }
  else if saccades now gp m then
    { m.gaze with
      targetPan := idleTarget kCenterPan m.sTargetPan d.panHop
      targetTilt := idleTarget kCenterTilt m.sTargetTilt d.tiltHop }
  else
    m.gaze

/-- Choosing targets moves neither the eyes nor their trims. -/
theorem aim_kept (now : UInt32) (gp : GamepadState) (d : EyeDraws) (m : EyeMotion) :
    (aim now gp d m).pan = m.sPan ∧ (aim now gp d m).tilt = m.sTilt ∧
      (aim now gp d m).panTrim = m.sPanTrim ∧ (aim now gp d m).tiltTrim = m.sTiltTrim := by
  unfold aim
  split
  · exact ⟨rfl, rfl, rfl, rfl⟩
  · split <;> exact ⟨rfl, rfl, rfl, rfl⟩

/-! ## Timers and levels do not move the eyes -/

@[simp] theorem gaze_scheduleSaccade (now : UInt32) (d : SaccadeDraws) (m : EyeMotion) :
    (scheduleSaccade now d m).gaze = m.gaze := by
  unfold scheduleSaccade
  split <;> rfl

@[simp] theorem gaze_scheduleBlink (now : UInt32) (d : BlinkDraw) (m : EyeMotion) :
    (scheduleBlink now d m).gaze = m.gaze := rfl

@[simp] theorem gaze_rearm (now : UInt32) (d : RearmDraws) (m : EyeMotion) :
    (rearm now d m).gaze = m.gaze := by
  simp [rearm]

@[simp] theorem gaze_setIdleEnabled (now : UInt32) (d : RearmDraws) (enabled : Bool) (r : Rig) :
    (setIdleEnabled now d enabled r).motion.gaze = r.motion.gaze := by
  unfold setIdleEnabled
  split
  · rfl
  · split
    · exact gaze_rearm now d _
    · rfl

/-- Suspending idle moves neither the eyes nor the servos. -/
theorem gaze_suspendIdle (now : UInt32) (d : RearmDraws) (r : Rig) :
    (suspendIdle now d r).motion.gaze = r.motion.gaze ∧ (suspendIdle now d r).servo = r.servo := by
  unfold suspendIdle
  split
  · exact ⟨gaze_rearm now d _, rfl⟩
  · exact ⟨gaze_rearm now d _, rfl⟩

theorem gaze_takeOver (now : UInt32) (gp : GamepadState) (d : EyeDraws) (r : Rig) :
    (takeOver now gp d r).motion.gaze = r.motion.gaze ∧ (takeOver now gp d r).servo = r.servo := by
  unfold takeOver
  split
  · generalize now + UInt32.ofNat kIdleResumeMs = resumeAt
    exact gaze_suspendIdle now d.suspend
      { r with motion := { r.motion with sIdleResumeAtMs := resumeAt } }
  · exact ⟨rfl, rfl⟩

theorem gaze_updateEyeLevel (b : Board) (now : UInt32) (busyLow : Bool) (d : EyeDraws) (r : Rig) :
    (updateEyeLevel b now busyLow d r).motion.gaze = r.motion.gaze ∧
      (updateEyeLevel b now busyLow d r).servo = r.servo := by
  unfold updateEyeLevel
  split
  · exact ⟨rfl, rfl⟩
  · unfold updateBlink
    split
    · dsimp only
      split
      · exact ⟨rfl, rfl⟩
      · split <;> exact ⟨rfl, rfl⟩
    · split <;> exact ⟨rfl, rfl⟩

/-! ## One tick -/

/-- Where the eyes are headed and what the servos hold just before a tick eases. -/
theorem easeAndWrite_spec (k : ExtRat) {g : Gaze} {servo : ServoController} {r : Rig}
    (hgaze : r.motion.gaze = g) (hservo : r.servo = servo) :
    (easeAndWrite k r).motion.gaze = g.ease k ∧
      (easeAndWrite k r).servo =
        (servo.setAngle kPanChannel (g.ease k).panAngle).setAngle kTiltChannel
          (g.ease k).tiltAngle := by
  rw [← hgaze, ← hservo]
  exact ⟨rfl, rfl⟩

/-- A tick chooses the targets, eases toward them, and hands both servos the trimmed position. -/
theorem gaze_update (b : Board) (now : UInt32) (gp : GamepadState) (busyLow : Bool) (d : EyeDraws)
    (r : Rig) :
    let g := (aim now gp d r.motion).ease (activeEase now gp r.motion)
    (update b now gp busyLow d r).motion.gaze = g ∧
      (update b now gp busyLow d r).servo =
        (r.servo.setAngle kPanChannel g.panAngle).setAngle kTiltChannel g.tiltAngle := by
  obtain ⟨htake, hservo⟩ := gaze_takeOver now gp d r
  simp only [update, idle_takeOver]
  cases hdriven : driven now gp r.motion with
  | true =>
    rw [aim, activeEase, hdriven]
    refine easeAndWrite_spec kGamepadEase ?_ hservo
    rw [← htake]
    rfl
  | false =>
    rw [aim, activeEase, hdriven]
    have hsame : takeOver now gp d r = r := by
      rw [takeOver, stickActive_of_idle hdriven]
      rfl
    rw [hsame, saccades, hdriven]
    cases henabled : r.motion.sIdleEnabled with
    | false => exact easeAndWrite_spec kIdleEase rfl rfl
    | true =>
      simp only [Bool.not_false, if_true, runIdle, Bool.true_and]
      split
      · obtain ⟨hgaze, hservo'⟩ := gaze_updateEyeLevel b now busyLow d
          { r with motion := pickIdleTarget now d r.motion }
        refine easeAndWrite_spec kIdleEase ?_ hservo'
        rw [hgaze, pickIdleTarget, gaze_scheduleSaccade]
        rfl
      · obtain ⟨hgaze, hservo'⟩ := gaze_updateEyeLevel b now busyLow d r
        exact easeAndWrite_spec kIdleEase hgaze hservo'

/-- No tick moves a trim. -/
theorem trims_update (b : Board) (now : UInt32) (gp : GamepadState) (busyLow : Bool) (d : EyeDraws)
    (r : Rig) :
    (update b now gp busyLow d r).motion.gaze.panTrim = r.motion.sPanTrim ∧
      (update b now gp busyLow d r).motion.gaze.tiltTrim = r.motion.sTiltTrim := by
  obtain ⟨-, -, hpan, htilt⟩ := aim_kept now gp d r.motion
  rw [(gaze_update b now gp busyLow d r).1]
  exact ⟨hpan, htilt⟩

end EyeMotion

end K2soHead
