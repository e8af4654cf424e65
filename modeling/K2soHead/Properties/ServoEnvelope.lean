import K2soHead.Properties.AnalogMaps
import K2soHead.Properties.EyeGaze
import K2soHead.Properties.EyeRuns

/-!
# The servos stay in their envelope

Nothing checks the position of the eyes.  It stays in range because the targets do, and easing
never leaves an interval that holds both ends; the targets come from two mappings of the stick
and from a random walk that is clamped.  Last, the pulse range of a channel holds every pulse
`setAngle` writes to it.
-/

namespace K2soHead

open Runs WrappingClock ExtRat

namespace ServoController

/-! ## Pulses -/

/-- The lower end of a channel's range, as `setAngle` reads it. -/
def minUs (s : ServoController) (channel : ℕ) : UInt16 :=
  if channel < kMaxChannels then s.sMinPulseUs channel else kDefaultMinUs

/-- The upper end. -/
def maxUs (s : ServoController) (channel : ℕ) : UInt16 :=
  if channel < kMaxChannels then s.sMaxPulseUs channel else kDefaultMaxUs

/-- The pulse an angle comes out as on a channel. -/
def pulseOf (s : ServoController) (channel : ℕ) (angle : ExtRat) : Option UInt16 :=
  pulse (s.minUs channel) (s.maxUs channel) (clampAngle angle)

theorem written_setAngle (channel : ℕ) (angle : ExtRat) (s : ServoController) :
    (s.setAngle channel angle).written =
      s.written ++ [⟨channel, clampAngle angle, s.pulseOf channel angle⟩] := rfl

theorem clampAngle_eq (angle : ExtRat) : clampAngle angle = clamp 0 180 angle := rfl

/-- An angle in 0..180 takes the floor of its share of the range. -/
theorem toNat_pulse {lo hi : UInt16} (h : lo ≤ hi) {q : ℚ} (hq : 0 ≤ q) (hq' : q ≤ 180) :
    ∃ p, pulse lo hi (.fin q) = some p ∧
      p.toNat = lo.toNat + ⌊((hi.toNat : ℚ) - lo.toNat) * (q * (1 / 180))⌋₊ ∧
      p.toNat ≤ hi.toNat := by
  have hle : (lo.toNat : ℚ) ≤ hi.toNat := by exact_mod_cast UInt16.le_iff_toNat_le.mp h
  have hmax := hi.toNat_lt
  have hspan : 0 ≤ (hi.toNat : ℚ) - lo.toNat := sub_nonneg.mpr hle
  have hshare : 0 ≤ q * (1 / 180) := by positivity
  have hshare' : q * (1 / 180) ≤ 1 := by linarith
  have hpart := mul_nonneg hspan hshare
  have hpart' : ((hi.toNat : ℚ) - lo.toNat) * (q * (1 / 180)) ≤ (hi.toNat : ℚ) - lo.toNat :=
    mul_le_of_le_one_right hspan hshare'
  have hfloor : ⌊((hi.toNat : ℚ) - lo.toNat) * (q * (1 / 180))⌋₊ ≤ hi.toNat - lo.toNat := by
    have hcast : ((hi.toNat - lo.toNat : ℕ) : ℚ) = (hi.toNat : ℚ) - lo.toNat :=
      Nat.cast_sub (UInt16.le_iff_toNat_le.mp h)
    rw [← Nat.floor_natCast (R := ℚ) (hi.toNat - lo.toNat), hcast]
    exact Nat.floor_le_floor hpart'
  have hconvert := toUInt16?_fin hpart (by
    have hfits : (hi.toNat : ℚ) < 65536 := by exact_mod_cast hmax
    have hlo : (0 : ℚ) ≤ lo.toNat := Nat.cast_nonneg _
    linarith)
  have hlo := UInt16.le_iff_toNat_le.mp h
  generalize ⌊((hi.toNat : ℚ) - lo.toNat) * (q * (1 / 180))⌋₊ = part at hfloor hconvert ⊢
  have hsum : (lo + UInt16.ofNat part).toNat = lo.toNat + part := by
    rw [UInt16.toNat_add, UInt16.toNat_ofNat']
    omega
  refine ⟨lo + UInt16.ofNat part, ?_, hsum, by omega⟩
  have hmul : ExtRat.fin ((hi.toNat : ℚ) - lo.toNat) * (.fin q * .fin (1 / 180)) =
      .fin (((hi.toNat : ℚ) - lo.toNat) * (q * (1 / 180))) := rfl
  rw [pulse, hmul, hconvert]
  rfl

/-- Every angle that is not NaN comes out inside the range. -/
theorem pulse_mem {lo hi : UInt16} (h : lo ≤ hi) {angle : ExtRat} (hangle : angle ≠ .nan) :
    ∃ p, pulse lo hi (clampAngle angle) = some p ∧ lo ≤ p ∧ p ≤ hi := by
  obtain ⟨q, hq, hlo, hhi⟩ := (within_clamp_iff (by norm_num : (0 : ℚ) ≤ 180)).mpr hangle
  obtain ⟨p, hp, hpart, hle⟩ := toNat_pulse h hlo hhi
  rw [clampAngle_eq, hq]
  refine ⟨p, hp, UInt16.le_iff_toNat_le.mpr ?_, UInt16.le_iff_toNat_le.mpr hle⟩
  rw [hpart]
  exact Nat.le_add_right _ _

/-- A larger angle never comes out as a shorter pulse. -/
theorem pulse_mono {lo hi : UInt16} (h : lo ≤ hi) {x y : ExtRat} (hx : x ≠ .nan) (hy : y ≠ .nan)
    (hxy : y.lt x = false) :
    ∃ p p', pulse lo hi (clampAngle x) = some p ∧ pulse lo hi (clampAngle y) = some p' ∧
      p ≤ p' := by
  have h180 : (0 : ℚ) ≤ 180 := by norm_num
  obtain ⟨q, q', hq, hq', hle⟩ := clamp_mono h180 hx hy hxy
  have hin := (within_clamp_iff h180).mpr hx
  have hin' := (within_clamp_iff h180).mpr hy
  rw [hq, within_fin] at hin
  rw [hq', within_fin] at hin'
  obtain ⟨p, hp, hpart, -⟩ := toNat_pulse h hin.1 hin.2
  obtain ⟨p', hp', hpart', -⟩ := toNat_pulse h hin'.1 hin'.2
  rw [clampAngle_eq, clampAngle_eq, hq, hq']
  refine ⟨p, p', hp, hp', UInt16.le_iff_toNat_le.mpr ?_⟩
  have hspan : (0 : ℚ) ≤ (hi.toNat : ℚ) - lo.toNat :=
    sub_nonneg.mpr (by exact_mod_cast UInt16.le_iff_toNat_le.mp h)
  rw [hpart, hpart']
  refine Nat.add_le_add_left (Nat.floor_le_floor ?_) _
  exact mul_le_mul_of_nonneg_left (by linarith) hspan

/-- The ends of the range are reached at 0 and at 180. -/
theorem pulse_ends {lo hi : UInt16} (h : lo ≤ hi) :
    pulse lo hi (clampAngle (.fin 0)) = some lo ∧
      pulse lo hi (clampAngle (.fin 180)) = some hi := by
  have h180 : (0 : ℚ) ≤ 180 := by norm_num
  have hspan : (hi.toNat : ℚ) - lo.toNat = ((hi.toNat - lo.toNat : ℕ) : ℚ) :=
    (Nat.cast_sub (UInt16.le_iff_toNat_le.mp h)).symm
  have hlo := UInt16.le_iff_toNat_le.mp h
  constructor
  · obtain ⟨p, hp, hpart, -⟩ := toNat_pulse h (le_refl 0) h180
    rw [clampAngle_eq, clamp_of_within (within_fin.mpr ⟨le_refl 0, h180⟩), hp]
    rw [zero_mul, mul_zero, Nat.floor_zero, Nat.add_zero] at hpart
    exact congrArg some (UInt16.toNat_inj.mp hpart)
  · obtain ⟨p, hp, hpart, -⟩ := toNat_pulse h h180 (le_refl 180)
    rw [clampAngle_eq, clamp_of_within (within_fin.mpr ⟨h180, le_refl 180⟩), hp]
    rw [hspan, show (180 : ℚ) * (1 / 180) = 1 by norm_num, mul_one, Nat.floor_natCast] at hpart
    exact congrArg some (UInt16.toNat_inj.mp (by omega))

/-- What a channel whose range is in order does with the angles it is handed. -/
structure PulseLaw (s : ServoController) (channel : ℕ) : Prop where
  written : ∀ angle, (s.setAngle channel angle).written =
    s.written ++ [⟨channel, clampAngle angle, s.pulseOf channel angle⟩]
  range : ∀ angle, angle ≠ .nan → ∃ p, s.pulseOf channel angle = some p ∧
    s.minUs channel ≤ p ∧ p ≤ s.maxUs channel
  mono : ∀ x y, x ≠ .nan → y ≠ .nan → y.lt x = false → ∃ p p', s.pulseOf channel x = some p ∧
    s.pulseOf channel y = some p' ∧ p ≤ p'
  first : s.pulseOf channel (.fin 0) = some (s.minUs channel)
  last : s.pulseOf channel (.fin 180) = some (s.maxUs channel)

theorem pulseLaw {s : ServoController} {channel : ℕ} (h : s.minUs channel ≤ s.maxUs channel) :
    s.PulseLaw channel := by
  obtain ⟨hfirst, hlast⟩ := pulse_ends h
  exact ⟨fun angle => written_setAngle channel angle s, fun _ hangle => pulse_mem h hangle,
    fun _ _ hx hy hxy => pulse_mono h hx hy hxy, hfirst, hlast⟩

end ServoController

namespace EyeMotion

/-! ## Targets -/

/-- No hop is longer than the longest. -/
theorem within_hopMagnitude (d : HopDraws) : Within (-55) 55 (hopMagnitude d) := by
  have hroll : (d.roll.val : ℚ) ≤ 1000 := by exact_mod_cast Nat.le_of_lt_succ d.roll.isLt
  have hpos : (0 : ℚ) ≤ d.roll.val := Nat.cast_nonneg _
  have hhop : ∀ sign : ℚ, ExtRat.fin sign * kIdleMaxHop * .fin (d.roll.val / 1000) *
      .fin (d.roll.val / 1000) = .fin (sign * 55 * (d.roll.val / 1000) * (d.roll.val / 1000)) :=
    fun _ => rfl
  have hsquare : (d.roll.val / 1000 : ℚ) * (d.roll.val / 1000) ≤ 1 := by
    have : (d.roll.val / 1000 : ℚ) ≤ 1 := by linarith
    exact mul_le_one₀ this (by positivity) this
  have hsquare' : (0 : ℚ) ≤ (d.roll.val / 1000 : ℚ) * (d.roll.val / 1000) := by positivity
  unfold hopMagnitude
  dsimp only
  split
  · rw [hhop, within_fin]
    constructor <;> linarith
  · rw [hhop, within_fin]
    constructor <;> linarith

/-- Wherever the target was, a hop ends well inside the mechanical limits. -/
theorem within_idleTarget {lo hi : ℚ} {target : ExtRat} (h : Within lo hi target) (center : ℚ)
    (d : HopDraws) : Within 40 140 (idleTarget (.fin center) target d) := by
  obtain ⟨v, hv, -, -⟩ := h.add (within_hopMagnitude d)
  have hclamp : idleTarget (.fin center) target d =
      clamp 40 140 (target + hopMagnitude d +
        (.fin center - (target + hopMagnitude d)) * kIdleCenterPull) := rfl
  rw [hclamp, within_clamp_iff (by norm_num), hv, kIdleCenterPull, fin_ease]
  rintro ⟨⟩

/-- The stick maps into 0..180 on both axes, also from the one value below its range. -/
theorem within_driveTargets {x : ℤ} (hlo : -512 ≤ x) (hhi : x ≤ 512) :
    Within 0 180 (.fin (Arduino.map x (-511) 512 0 180)) ∧
      Within 0 180 (.fin (Arduino.map x (-511) 512 180 0)) := by
  have hfirst : Arduino.map (-512) (-511) 512 0 180 = 0 := by decide
  have hlast : Arduino.map 512 (-511) 512 0 180 = 180 := by decide
  have hfirst' : Arduino.map (-512) (-511) 512 180 0 = 180 := by decide
  have hlast' : Arduino.map 512 (-511) 512 180 0 = 0 := by decide
  have hrise : 0 ≤ Arduino.map x (-511) 512 0 180 ∧ Arduino.map x (-511) 512 0 180 ≤ 180 :=
    ⟨hfirst ▸ Arduino.map_mono (by decide) (by decide) hlo,
      (Arduino.map_mono (by decide) (by decide) hhi).trans_eq hlast⟩
  have hfall : 0 ≤ Arduino.map x (-511) 512 180 0 ∧ Arduino.map x (-511) 512 180 0 ≤ 180 :=
    ⟨hlast' ▸ Arduino.map_anti (by decide) (by decide) hhi,
      (Arduino.map_anti (by decide) (by decide) hlo).trans_eq hfirst'⟩
  rw [within_fin, within_fin]
  exact ⟨by exact_mod_cast hrise, by exact_mod_cast hfall⟩

end EyeMotion

/-! ## One tick -/

/-- Positions and targets lie between the mechanical ends. -/
structure Gaze.InEnvelope (g : Gaze) : Prop where
  pan : Within 0 180 g.pan
  tilt : Within 0 180 g.tilt
  targetPan : Within 0 180 g.targetPan
  targetTilt : Within 0 180 g.targetTilt

/-- Both targets are where a saccade may leave them. -/
def Gaze.IdleTargets (g : Gaze) : Prop := Within 40 140 g.targetPan ∧ Within 40 140 g.targetTilt

/-- The right stick is where a pad can put it. -/
structure StickInRange (gp : GamepadState) : Prop where
  le_rx : -512 ≤ gp.axisRX
  rx_le : gp.axisRX ≤ 512
  le_ry : -512 ≤ gp.axisRY
  ry_le : gp.axisRY ≤ 512

/-- One axis moved by exactly the fraction `k` of what was left, and not past its target. -/
def Eased (k : ℚ) (before target after : ExtRat) : Prop :=
  ∃ p q p' : ℚ, before = .fin p ∧ target = .fin q ∧ after = .fin p' ∧ p' - p = k * (q - p) ∧
    min p q ≤ p' ∧ p' ≤ max p q

theorem eased_ease {k : ℚ} (hk : 0 ≤ k) (hk' : k ≤ 1) {x y : ExtRat} {lo hi lo' hi' : ℚ}
    (hx : Within lo hi x) (hy : Within lo' hi' y) : Eased k x y (x + (y - x) * .fin k) := by
  obtain ⟨p, rfl, -, -⟩ := hx
  obtain ⟨q, rfl, -, -⟩ := hy
  obtain ⟨hmin, hmax⟩ := ease_between p q hk hk'
  exact ⟨p, q, _, rfl, rfl, fin_ease p q k, by ring, hmin, hmax⟩

namespace EyeMotion

/-- The active fraction as a rational. -/
def easeShare (now : UInt32) (gp : GamepadState) (m : EyeMotion) : ℚ :=
  if driven now gp m then 35 / 100 else 22 / 100

theorem activeEase_eq (now : UInt32) (gp : GamepadState) (m : EyeMotion) :
    activeEase now gp m = .fin (easeShare now gp m) := by
  unfold activeEase easeShare
  split <;> rfl

theorem easeShare_mem (now : UInt32) (gp : GamepadState) (m : EyeMotion) :
    0 ≤ easeShare now gp m ∧ easeShare now gp m ≤ 1 := by
  unfold easeShare
  split <;> norm_num

/-- A saccade leaves both targets well inside. -/
theorem idleTargets_aim {now : UInt32} {gp : GamepadState} {m : EyeMotion}
    (h : m.gaze.InEnvelope) (hsaccade : saccades now gp m = true) (d : EyeDraws) :
    (aim now gp d m).IdleTargets := by
  have hidle : driven now gp m = false := by
    simp only [saccades, Bool.and_eq_true, Bool.not_eq_true'] at hsaccade
    exact hsaccade.1.1
  rw [aim, hidle, if_neg Bool.false_ne_true, if_pos hsaccade]
  exact ⟨within_idleTarget h.targetPan 90 d.panHop, within_idleTarget h.targetTilt 90 d.tiltHop⟩

/-- The targets of a tick stay in the envelope, and so do the eyes on their way. -/
theorem inEnvelope_aim {gp : GamepadState} {m : EyeMotion} (h : m.gaze.InEnvelope)
    (hstick : StickInRange gp) (now : UInt32) (d : EyeDraws) : (aim now gp d m).InEnvelope := by
  have h0 : (0 : ℚ) ≤ 40 := by norm_num
  have h180 : (140 : ℚ) ≤ 180 := by norm_num
  by_cases hsaccade : saccades now gp m = true
  · obtain ⟨hpan, htilt⟩ := idleTargets_aim h hsaccade d
    obtain ⟨hkeptPan, hkeptTilt, -, -⟩ := aim_kept now gp d m
    exact ⟨hkeptPan ▸ h.pan, hkeptTilt ▸ h.tilt, hpan.mono h0 h180, htilt.mono h0 h180⟩
  · rw [aim, if_neg hsaccade]
    split
    · exact ⟨h.pan, h.tilt, (within_driveTargets hstick.le_rx hstick.rx_le).1,
        (within_driveTargets hstick.le_ry hstick.ry_le).2⟩
    · exact h

theorem inEnvelope_ease {g : Gaze} (h : g.InEnvelope) {k : ℚ} (hk : 0 ≤ k) (hk' : k ≤ 1) :
    (g.ease (.fin k)).InEnvelope :=
  ⟨h.pan.ease h.targetPan hk hk', h.tilt.ease h.targetTilt hk hk', h.targetPan, h.targetTilt⟩

/-- Between saccades idle leaves well-inside targets where they are. -/
theorem idleTargets_aim_of_idle {now : UInt32} {gp : GamepadState} {m : EyeMotion}
    (hidle : driven now gp m = false) (h : m.gaze.InEnvelope)
    (hroaming : saccades now gp m = false → m.gaze.IdleTargets) (d : EyeDraws) :
    (aim now gp d m).IdleTargets := by
  cases hsaccade : saccades now gp m with
  | true => exact idleTargets_aim h hsaccade d
  | false =>
    rw [aim, hidle, hsaccade]
    exact hroaming hsaccade

/-- A tick eases both axes by the active fraction, toward the targets it leaves. -/
theorem eased_update (b : Board) (now : UInt32) {gp : GamepadState} (busyLow : Bool) (d : EyeDraws)
    {r : Rig} (h : r.motion.gaze.InEnvelope) (hstick : StickInRange gp) :
    let g := (update b now gp busyLow d r).motion.gaze
    g.InEnvelope ∧ Eased (easeShare now gp r.motion) r.motion.sPan g.targetPan g.pan ∧
      Eased (easeShare now gp r.motion) r.motion.sTilt g.targetTilt g.tilt := by
  obtain ⟨hgaze, -⟩ := gaze_update b now gp busyLow d r
  obtain ⟨hpan, htilt, -, -⟩ := aim_kept now gp d r.motion
  obtain ⟨hk, hk'⟩ := easeShare_mem now gp r.motion
  have haim := inEnvelope_aim h hstick now d
  rw [hgaze, activeEase_eq, ← hpan, ← htilt]
  exact ⟨inEnvelope_ease haim hk hk', eased_ease hk hk' haim.pan haim.targetPan,
    eased_ease hk hk' haim.tilt haim.targetTilt⟩

end EyeMotion

/-! ## Runs -/

/-- The eyes, and whether they made a saccade since the stick last drove them. -/
structure RoamRun where
  eyes : EyeRun
  roaming : Bool := false

namespace RoamRun

def start (b : Board) (t : ℕ) (d : RearmDraws) : RoamRun where
  eyes := EyeRun.start b t d

def step (b : Board) (s : RoamRun) (e : EyeEvent) : RoamRun where
  eyes := s.eyes.step b e
  roaming := match e.action with
    | .update gp _ _ =>
        let now := millis (s.eyes.clock + e.wait)
        !EyeMotion.driven now gp s.eyes.rig.motion &&
          (s.roaming || EyeMotion.saccades now gp s.eyes.rig.motion)
    | _ => s.roaming

/-- The inputs of a tick are in range: the right stick, and the trims it finds. -/
def TickInRange (s : RoamRun) (e : EyeEvent) : Prop :=
  match e.action with
  | .update gp _ _ =>
      StickInRange gp ∧ Within (-45) 45 s.eyes.rig.motion.sPanTrim ∧
        Within (-45) 45 s.eyes.rig.motion.sTiltTrim
  | _ => True

/-- What a tick does to the axes: each is eased by the active fraction toward the target the
tick left, and the targets of a saccade are well inside. -/
def TickEases (b : Board) (s : RoamRun) (e : EyeEvent) : Prop :=
  match e.action with
  | .update gp _ _ =>
      let now := millis (s.eyes.clock + e.wait)
      let before := s.eyes.rig.motion.gaze
      let after := (s.step b e).eyes.rig.motion.gaze
      let k := EyeMotion.easeShare now gp s.eyes.rig.motion
      Eased k before.pan after.targetPan after.pan ∧
        Eased k before.tilt after.targetTilt after.tilt ∧
        (EyeMotion.saccades now gp s.eyes.rig.motion = true → after.IdleTargets)
  | _ => True

/-- What is written to a channel lies in the channel's range. -/
def WritesInRange (servo : ServoController) : Prop :=
  ∀ w ∈ servo.written, Within 0 180 w.angle ∧
    (servo.minUs w.channel ≤ servo.maxUs w.channel →
      ∃ pulse, w.pulseUs = some pulse ∧ servo.minUs w.channel ≤ pulse ∧
        pulse ≤ servo.maxUs w.channel)

/-- What holds of the eyes in every run. -/
structure InEnvelope (s : RoamRun) : Prop where
  gaze : s.eyes.rig.motion.gaze.InEnvelope
  roaming : s.roaming = true → s.eyes.rig.motion.gaze.IdleTargets
  writes : WritesInRange s.eyes.rig.servo

theorem writesInRange_setAngle {servo : ServoController} (h : WritesInRange servo) (channel : ℕ)
    {angle : ExtRat} (hangle : angle ≠ .nan) : WritesInRange (servo.setAngle channel angle) := by
  intro w hw
  rw [ServoController.written_setAngle] at hw
  rcases List.mem_append.mp hw with hold | hnew
  · exact h w hold
  · obtain rfl := List.mem_singleton.mp hnew
    exact ⟨(within_clamp_iff (by norm_num)).mpr hangle,
      fun hrange => ServoController.pulse_mem hrange hangle⟩

/-- A trimmed position is a number again once it is clamped. -/
theorem clampf_add_ne_nan {lo hi lo' hi' : ℚ} {position trim : ExtRat}
    (h : Within lo hi position) (htrim : Within lo' hi' trim) :
    EyeMotion.clampf (position + trim) (.fin 0) (.fin 180) ≠ .nan := by
  have hclamp : EyeMotion.clampf (position + trim) (.fin 0) (.fin 180) =
      clamp 0 180 (position + trim) := rfl
  rw [hclamp]
  exact ((within_clamp_iff (by norm_num)).mpr (h.add htrim).ne_nan).ne_nan

/-- Every tick in range keeps the envelope and eases by the law. -/
theorem InEnvelope.tick {s : RoamRun} (h : s.InEnvelope) (b : Board) (n : ℕ) {gp : GamepadState}
    {busyLow : Bool} {d : EyeDraws} (hrange : s.TickInRange ⟨n, .update gp busyLow d⟩) :
    (s.step b ⟨n, .update gp busyLow d⟩).InEnvelope ∧
      s.TickEases b ⟨n, .update gp busyLow d⟩ := by
  obtain ⟨hstick, hpanTrim, htiltTrim⟩ := hrange
  let now := millis (s.eyes.clock + n)
  obtain ⟨hgaze, hservo⟩ := EyeMotion.gaze_update b now gp busyLow d s.eyes.rig
  obtain ⟨hin, hpan, htilt⟩ := EyeMotion.eased_update b now busyLow d h.gaze hstick
  -- easing moves no target, so the targets after the tick are those it chose
  have htargets : (EyeMotion.aim now gp d s.eyes.rig.motion).IdleTargets →
      (EyeMotion.update b now gp busyLow d s.eyes.rig).motion.gaze.IdleTargets := by
    rw [hgaze]
    exact id
  obtain ⟨hkeptPan, hkeptTilt⟩ := EyeMotion.trims_update b now gp busyLow d s.eyes.rig
  refine ⟨⟨hin, fun hroaming => ?_, ?_⟩, hpan, htilt, fun hsaccade => ?_⟩
  · simp only [step, Bool.and_eq_true, Bool.not_eq_true', Bool.or_eq_true] at hroaming
    obtain ⟨hidle, hroaming⟩ := hroaming
    refine htargets (EyeMotion.idleTargets_aim_of_idle hidle h.gaze (fun hnot => ?_) d)
    rcases hroaming with hroaming | hsaccade
    · exact h.roaming hroaming
    · exact absurd hsaccade (by rw [hnot]; exact Bool.false_ne_true)
  · have hwrites : (s.step b ⟨n, .update gp busyLow d⟩).eyes.rig.servo = _ := hservo
    rw [hwrites, ← hgaze]
    refine writesInRange_setAngle (writesInRange_setAngle h.writes _ ?_) _ ?_
    · exact clampf_add_ne_nan hin.pan (hkeptPan.symm ▸ hpanTrim)
    · exact clampf_add_ne_nan hin.tilt (hkeptTilt.symm ▸ htiltTrim)
  · exact htargets (EyeMotion.idleTargets_aim h.gaze hsaccade d)

/-- Positions and targets are the same. -/
structure SameAim (g g' : Gaze) : Prop where
  pan : g'.pan = g.pan
  tilt : g'.tilt = g.tilt
  targetPan : g'.targetPan = g.targetPan
  targetTilt : g'.targetTilt = g.targetTilt

/-- What moves neither the eyes nor the servos keeps the envelope. -/
theorem InEnvelope.still {s s' : RoamRun} (h : s.InEnvelope)
    (hsame : SameAim s.eyes.rig.motion.gaze s'.eyes.rig.motion.gaze)
    (hservo : s'.eyes.rig.servo = s.eyes.rig.servo) (hroaming : s'.roaming = s.roaming) :
    s'.InEnvelope := by
  refine ⟨⟨?_, ?_, ?_, ?_⟩, fun hroams => ⟨?_, ?_⟩, hservo ▸ h.writes⟩
  · exact hsame.pan ▸ h.gaze.pan
  · exact hsame.tilt ▸ h.gaze.tilt
  · exact hsame.targetPan ▸ h.gaze.targetPan
  · exact hsame.targetTilt ▸ h.gaze.targetTilt
  · exact hsame.targetPan ▸ (h.roaming (hroaming ▸ hroams)).1
  · exact hsame.targetTilt ▸ (h.roaming (hroaming ▸ hroams)).2

theorem servo_setIdleEnabled (now : UInt32) (d : RearmDraws) (enabled : Bool) (r : Rig) :
    (EyeMotion.setIdleEnabled now d enabled r).servo = r.servo := by
  unfold EyeMotion.setIdleEnabled
  split
  · rfl
  · split <;> rfl

theorem InEnvelope.step {s : RoamRun} (h : s.InEnvelope) (b : Board) (e : EyeEvent)
    (hrange : s.TickInRange e) : (s.step b e).InEnvelope ∧ s.TickEases b e := by
  obtain ⟨n, action⟩ := e
  have hsame : SameAim s.eyes.rig.motion.gaze s.eyes.rig.motion.gaze := ⟨rfl, rfl, rfl, rfl⟩
  cases action with
  | update gp busyLow d => exact h.tick b n hrange
  | play track => exact ⟨h.still hsame rfl rfl, trivial⟩
  | setVolume volume => exact ⟨h.still hsame rfl rfl, trivial⟩
  | setIdleEnabled d enabled =>
    have hrig : (s.step b ⟨n, .setIdleEnabled d enabled⟩).eyes.rig =
        EyeMotion.setIdleEnabled (millis (s.eyes.clock + n)) d enabled s.eyes.rig := rfl
    refine ⟨h.still ?_ ?_ rfl, trivial⟩
    · rw [hrig, EyeMotion.gaze_setIdleEnabled]
      exact hsame
    · rw [hrig, servo_setIdleEnabled]
  | setTrims pan tilt => exact ⟨h.still ⟨rfl, rfl, rfl, rfl⟩ rfl rfl, trivial⟩
  | flashAdminAck apNowRunning =>
    refine ⟨h.still ?_ ?_ ?_, trivial⟩ <;>
      simp only [RoamRun.step, EyeRun.step, EyeRun.act, EyeRun.wait]
    exact hsame
  | strips f keeps => exact ⟨h.still hsame rfl rfl, trivial⟩

/-! ## Every run -/

/-- `setup()` centres the eyes and writes no servo. -/
theorem inEnvelope_start (b : Board) (t : ℕ) (d : RearmDraws) : (start b t d).InEnvelope := by
  have hgaze : (start b t d).eyes.rig.motion.gaze =
      { (EyeMotion.initial b).gaze with
        pan := .fin 90, tilt := .fin 90, targetPan := .fin 90, targetTilt := .fin 90 } := by
    simp only [start, EyeRun.start, EyeMotion.begin, EyeMotion.gaze_rearm]
    rfl
  have hwritten : (start b t d).eyes.rig.servo.written = [] := by
    simp only [start, EyeRun.start, Sketch.setup]
    split <;> rfl
  have hcentre : Within 0 180 (.fin 90) := within_fin.mpr (by norm_num)
  refine ⟨?_, ?_, ?_⟩
  · rw [hgaze]
    exact ⟨hcentre, hcentre, hcentre, hcentre⟩
  · rintro ⟨⟩
  · intro w hw
    rw [hwritten] at hw
    cases hw

/-- Over every run with the stick and the trims in range the eyes stay in their envelope, every
tick eases by the law, and a channel whose range is in order keeps its pulses inside it. -/
theorem eyes_stay_in_envelope (b : Board) (t : ℕ) (d : RearmDraws) (events : List EyeEvent)
    (h : Along (step b) TickInRange (start b t d) events) :
    (run (step b) (start b t d) events).InEnvelope ∧
      Along (step b) (TickEases b) (start b t d) events ∧
      ∀ (servo : ServoController) (channel : ℕ), servo.minUs channel ≤ servo.maxUs channel →
        servo.PulseLaw channel := by
  have hstart := inEnvelope_start b t d
  have hkeep : ∀ s e, InEnvelope s → TickInRange s e → (s.step b e).InEnvelope :=
    fun _ e hin hrange => (hin.step b e hrange).1
  refine ⟨inv_run_of_along hkeep hstart h, ?_, fun _ _ => ServoController.pulseLaw⟩
  exact along_of_inv hkeep (fun _ e hin hrange => (hin.step b e hrange).2) hstart h

/-- A tick driven from the ends of the stick, after both trims were asked to go too far. -/
theorem envelope_of_driven_tick :
    let b := esp32DevKitC fun _ => 0
    let gp : GamepadState := { connected := true, axisRX := -512, axisRY := 512 }
    let events : List EyeEvent :=
      [⟨100, .setTrims (.fin 200) (.inf true)⟩, ⟨30, .update gp false lowestDraws⟩]
    Along (step b) TickInRange (start b 0 lowestRearm) events ∧
      (run (step b) (start b 0 lowestRearm) events).InEnvelope := by
  intro b gp events
  have hhigh : Within (-45) 45 (EyeMotion.clampf (.fin 200) (.fin (-45)) (.fin 45)) :=
    (within_clamp_iff (by norm_num)).mpr (by rintro ⟨⟩)
  have hlow : Within (-45) 45 (EyeMotion.clampf (.inf true) (.fin (-45)) (.fin 45)) :=
    (within_clamp_iff (by norm_num)).mpr (by rintro ⟨⟩)
  have hrange : Along (step b) TickInRange (start b 0 lowestRearm) events :=
    ⟨trivial, ⟨⟨by decide, by decide, by decide, by decide⟩, hhigh, hlow⟩, trivial⟩
  exact ⟨hrange, (eyes_stay_in_envelope b 0 lowestRearm events hrange).1⟩

end RoamRun

end K2soHead
