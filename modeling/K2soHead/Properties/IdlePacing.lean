import K2soHead.Library.Timers
import K2soHead.Properties.EyeGaze
import K2soHead.Properties.EyeRuns

/-!
# Idle never acts early

The two idle timers are single readings that six paths set anew.  `SaccadeTimer` and
`BlinkTimer` list what a tick can do to each of them, and `Timers` turns that into distances in
real time: whatever a saccade or a blink must keep away from sets its timer by at least the gap.
-/

namespace K2soHead

open Runs WrappingClock Timers

namespace EyeMotion

/-! ## Delays -/

/-- How far ahead a saccade is scheduled. -/
def saccadeDelay (d : SaccadeDraws) : ℕ :=
  if d.chance.val < kIdleStareChancePct then kIdleStareMinMs + d.stare else kIdleHoldMinMs + d.hold

/-- How far ahead a blink is scheduled. -/
def blinkDelay (d : BlinkDraw) : ℕ := kBlinkGapMinMs + d

theorem saccadeDelay_mem (d : SaccadeDraws) :
    kIdleHoldMinMs ≤ saccadeDelay d ∧ saccadeDelay d ≤ 2 ^ 31 := by
  have hstare := d.stare.isLt
  have hhold := d.hold.isLt
  unfold saccadeDelay
  unfold kIdleHoldMinMs kIdleHoldMaxMs kIdleStareMinMs kIdleStareMaxMs at *
  split <;> omega

theorem blinkDelay_mem (d : BlinkDraw) : kBlinkGapMinMs ≤ blinkDelay d ∧ blinkDelay d ≤ 2 ^ 31 := by
  have hlt := d.isLt
  unfold blinkDelay
  unfold kBlinkGapMinMs kBlinkGapMaxMs at *
  omega

theorem scheduleSaccade_eq (now : UInt32) (d : SaccadeDraws) (m : EyeMotion) :
    scheduleSaccade now d m = { m with sNextSaccadeMs := now + UInt32.ofNat (saccadeDelay d) } := by
  unfold scheduleSaccade saccadeDelay
  split <;> rfl

theorem scheduleBlink_eq (now : UInt32) (d : BlinkDraw) (m : EyeMotion) :
    scheduleBlink now d m = { m with sNextBlinkMs := now + UInt32.ofNat (blinkDelay d) } := rfl

/-! ## What a tick does to the timers -/

/-- Speech owns the eyes on this tick. -/
def speaks (b : Board) (now : UInt32) (gp : GamepadState) (busyLow : Bool) (r : Rig) : Bool :=
  !driven now gp r.motion && r.motion.sIdleEnabled && b.audio.isSome &&
    (speechLevel now busyLow r.audio).isSome

/-- The saccade timer after a tick. -/
inductive SaccadeTimer (now : UInt32) (gp : GamepadState) (m : EyeMotion) : UInt32 → Prop where
  /-- set anew by an active stick or by a saccade -/
  | set (d : SaccadeDraws) : SaccadeTimer now gp m (now + UInt32.ofNat (saccadeDelay d))
  | kept (hinactive : stickActive gp = false) (hstill : saccades now gp m = false) :
      SaccadeTimer now gp m m.sNextSaccadeMs

/-- The blink timer after a tick, and whether a blink is in flight. -/
inductive BlinkTimer (b : Board) (now : UInt32) (gp : GamepadState) (busyLow : Bool) (r : Rig) :
    UInt32 → Bool → Prop where
  /-- set anew by an active stick, by speech, or by a blink that is over -/
  | set (d : BlinkDraw) :
      BlinkTimer b now gp busyLow r (now + UInt32.ofNat (blinkDelay d)) false
  | begins (hinactive : stickActive gp = false) (hsilent : speaks b now gp busyLow r = false)
      (hquiet : b.audio.isSome = true → speechLevel now busyLow r.audio = none)
      (hdue : deadlinePassed now r.motion.sNextBlinkMs = true) :
      BlinkTimer b now gp busyLow r r.motion.sNextBlinkMs true
  | kept (hinactive : stickActive gp = false) (hsilent : speaks b now gp busyLow r = false) :
      BlinkTimer b now gp busyLow r r.motion.sNextBlinkMs r.motion.sBlinking

/-- Suspending idle sets both timers anew, and leaves no blink in flight. -/
theorem timers_suspendIdle (now : UInt32) (d : RearmDraws) (r : Rig) :
    (suspendIdle now d r).motion.sNextSaccadeMs = now + UInt32.ofNat (saccadeDelay d.saccade) ∧
      (suspendIdle now d r).motion.sNextBlinkMs = now + UInt32.ofNat (blinkDelay d.blink) ∧
      (suspendIdle now d r).motion.sBlinking = false := by
  have hblink : (suspendIdle now d r).motion.sBlinking = (suspendIdle now d r).view.blinking := rfl
  rw [hblink, view_suspendIdle]
  unfold suspendIdle
  simp only [rearm, scheduleSaccade_eq, scheduleBlink_eq, and_self]

/-- A tick with an active stick does the same. -/
theorem timers_takeOver {gp : GamepadState} (hactive : stickActive gp = true) (now : UInt32)
    (d : EyeDraws) (r : Rig) :
    (takeOver now gp d r).motion.sNextSaccadeMs =
        now + UInt32.ofNat (saccadeDelay d.suspend.saccade) ∧
      (takeOver now gp d r).motion.sNextBlinkMs =
        now + UInt32.ofNat (blinkDelay d.suspend.blink) ∧
      (takeOver now gp d r).motion.sBlinking = false := by
  unfold takeOver
  rw [if_pos hactive]
  generalize now + UInt32.ofNat kIdleResumeMs = resumeAt
  exact timers_suspendIdle now d.suspend
    { r with motion := { r.motion with sIdleResumeAtMs := resumeAt } }

/-- The eye level has nothing to do with saccades. -/
theorem sNextSaccadeMs_updateEyeLevel (b : Board) (now : UInt32) (busyLow : Bool) (d : EyeDraws)
    (r : Rig) :
    (updateEyeLevel b now busyLow d r).motion.sNextSaccadeMs = r.motion.sNextSaccadeMs := by
  unfold updateEyeLevel
  split
  · rfl
  · unfold updateBlink
    split
    · dsimp only
      split
      · rfl
      · split <;> rfl
    · split <;> rfl

/-- The blink timer after `updateEyeLevel`, on eyes with the timers of `r`. -/
theorem blinkTimer_updateEyeLevel {b : Board} {now : UInt32} {gp : GamepadState} {busyLow : Bool}
    (d : EyeDraws) {r r' : Rig} (hnext : r'.motion.sNextBlinkMs = r.motion.sNextBlinkMs)
    (hblinking : r'.motion.sBlinking = r.motion.sBlinking) (haudio : r'.audio = r.audio)
    (hidle : driven now gp r.motion = false) (henabled : r.motion.sIdleEnabled = true) :
    BlinkTimer b now gp busyLow r (updateEyeLevel b now busyLow d r').motion.sNextBlinkMs
      (updateEyeLevel b now busyLow d r').motion.sBlinking := by
  have hinactive := stickActive_of_idle hidle
  unfold updateEyeLevel
  rw [haudio]
  split
  · exact .set d.blink
  · rename_i hlevel
    have hquiet : b.audio.isSome = true → speechLevel now busyLow r.audio = none := by
      intro hfitted
      rwa [if_pos hfitted] at hlevel
    -- neither a driven tick nor a sounding clip, so only the blink can set the timer
    have hsilent : speaks b now gp busyLow r = false := by
      rw [speaks, hidle, henabled]
      cases hfitted : b.audio.isSome with
      | false => rfl
      | true => rw [hquiet hfitted]; rfl
    have hkept := BlinkTimer.kept hinactive hsilent
    rw [← hnext, ← hblinking] at hkept
    unfold updateBlink
    split
    · dsimp only
      split
      · exact hkept
      · split
        · exact hkept
        · exact .set d.blink
    · split
      · rename_i hdue
        rw [hnext] at hdue
        have hbegins := BlinkTimer.begins hinactive hsilent hquiet hdue
        rwa [← hnext] at hbegins
      · exact hkept

/-- Everything a tick can do to the two timers. -/
theorem timers_update (b : Board) (now : UInt32) (gp : GamepadState) (busyLow : Bool)
    (d : EyeDraws) (r : Rig) :
    let m := (update b now gp busyLow d r).motion
    SaccadeTimer now gp r.motion m.sNextSaccadeMs ∧
      BlinkTimer b now gp busyLow r m.sNextBlinkMs m.sBlinking := by
  have hease : ∀ k r, (easeAndWrite k r).motion.sNextSaccadeMs = r.motion.sNextSaccadeMs ∧
      (easeAndWrite k r).motion.sNextBlinkMs = r.motion.sNextBlinkMs ∧
      (easeAndWrite k r).motion.sBlinking = r.motion.sBlinking := fun _ _ => ⟨rfl, rfl, rfl⟩
  simp only [update, idle_takeOver]
  cases hdriven : driven now gp r.motion with
  | true =>
    have hdrive : ∀ m, (driveTargets gp m).sNextSaccadeMs = m.sNextSaccadeMs ∧
        (driveTargets gp m).sNextBlinkMs = m.sNextBlinkMs ∧
        (driveTargets gp m).sBlinking = m.sBlinking := fun _ => ⟨rfl, rfl, rfl⟩
    simp only [Bool.not_true, Bool.false_eq_true, if_false, hease, hdrive]
    -- a moved stick sets both timers, one that is back at rest leaves them
    cases hactive : stickActive gp with
    | true =>
      obtain ⟨hsaccade, hblink, hrested⟩ := timers_takeOver hactive now d r
      rw [hsaccade, hblink, hrested]
      exact ⟨.set _, .set _⟩
    | false =>
      have hsame : takeOver now gp d r = r := if_neg (by rw [hactive]; exact Bool.false_ne_true)
      rw [hsame]
      exact ⟨.kept hactive (by rw [saccades, hdriven]; rfl),
        .kept hactive (by rw [speaks, hdriven]; rfl)⟩
  | false =>
    have hactive := stickActive_of_idle hdriven
    have hsame : takeOver now gp d r = r := if_neg (by rw [hactive]; exact Bool.false_ne_true)
    simp only [Bool.not_false, if_true, hease, hsame]
    -- idle looks at its timers only while it is enabled
    cases henabled : r.motion.sIdleEnabled with
    | false =>
      exact ⟨.kept hactive (by rw [saccades, hdriven, henabled]; rfl),
        .kept hactive (by rw [speaks, hdriven, henabled]; rfl)⟩
    | true =>
      simp only [if_true, runIdle, sNextSaccadeMs_updateEyeLevel]
      split
      · rw [pickIdleTarget, scheduleSaccade_eq]
        exact ⟨.set d.saccade, blinkTimer_updateEyeLevel d rfl rfl rfl hdriven henabled⟩
      · rename_i hnotdue
        exact ⟨.kept hactive (by rw [saccades, hdriven, henabled]; simpa using hnotdue),
          blinkTimer_updateEyeLevel d rfl rfl rfl hdriven henabled⟩

/-- Waking idle sets both timers, and nothing else about parking touches them. -/
theorem timers_setIdleEnabled (now : UInt32) (d : RearmDraws) (enabled : Bool) (r : Rig) :
    let m := (setIdleEnabled now d enabled r).motion
    m.sNextSaccadeMs = now + UInt32.ofNat (saccadeDelay d.saccade) ∧
        m.sNextBlinkMs = now + UInt32.ofNat (blinkDelay d.blink) ∨
      (!r.motion.sIdleEnabled && m.sIdleEnabled) = false ∧
        m.sNextSaccadeMs = r.motion.sNextSaccadeMs ∧ m.sNextBlinkMs = r.motion.sNextBlinkMs := by
  unfold setIdleEnabled
  split
  · exact .inr ⟨Bool.not_and_self _, rfl, rfl⟩
  · split
    · refine .inl ?_
      simp only [rearm, scheduleSaccade_eq, scheduleBlink_eq, and_self]
    · exact .inr ⟨Bool.and_false _, rfl, rfl⟩

end EyeMotion

/-! ## Runs with their history -/

/-- The eyes, and the real times the two timers have to keep away from. -/
structure PacedRun where
  eyes : EyeRun
  saccadeAt : Option ℕ := none
  enabledAt : Option ℕ := none
  speechAt : Option ℕ := none
  /-- when a tick last found a blink over, or gave it up to speech or to the stick -/
  endedAt : Option ℕ := none

namespace PacedRun

def start (b : Board) (t : ℕ) (d : RearmDraws) : PacedRun where
  eyes := EyeRun.start b t d

def step (b : Board) (s : PacedRun) (e : EyeEvent) : PacedRun :=
  let t := s.eyes.clock + e.wait
  let r := s.eyes.rig
  let eyes := s.eyes.step b e
  match e.action with
  | .update gp busyLow _ =>
      { s with
        eyes := eyes
        saccadeAt := if EyeMotion.saccades (millis t) gp r.motion then some t else s.saccadeAt
        speechAt := if EyeMotion.speaks b (millis t) gp busyLow r then some t else s.speechAt
        endedAt := if r.view.blinking && !eyes.rig.view.blinking then some t else s.endedAt }
  | .setIdleEnabled _ _ =>
      { s with
        eyes := eyes
        enabledAt := if !r.view.enabled && eyes.rig.view.enabled then some t else s.enabledAt }
  | _ => { s with eyes := eyes }

/-- What a saccade keeps its distance from, the saccade before it apart. -/
def saccadeTimes (s : PacedRun) : List (Option ℕ) := [s.eyes.activeAt, s.enabledAt]

/-- What a blink keeps its distance from. -/
def blinkTimes (s : PacedRun) : List (Option ℕ) :=
  [s.eyes.activeAt, s.enabledAt, s.speechAt, s.endedAt]

/-- Idle does not act early on this event: a saccade keeps 1400 ms from the saccade before it,
from a tick with an active stick and from idle being enabled again; a blink that starts keeps
4500 ms from the end of the blink before it, from speech, from the stick and from idle being
enabled again, and starts only while BUSY is high.  The times are those after the event, so
that what happens on this very tick counts too. -/
def InTime (b : Board) (s : PacedRun) (e : EyeEvent) : Prop :=
  match e.action with
  | .update gp busyLow _ =>
      let t := s.eyes.clock + e.wait
      let s' := s.step b e
      (EyeMotion.saccades (millis t) gp s.eyes.rig.motion = true →
        Spaced kIdleHoldMinMs t (s.saccadeAt :: s'.saccadeTimes)) ∧
      (s.eyes.rig.view.blinking = false → s'.eyes.rig.view.blinking = true →
        Spaced kBlinkGapMinMs t s'.blinkTimes ∧ (b.BusyWired → busyLow = false))
  | _ => True

/-! ## The timers are armed -/

/-- What holds in every run: both timers are armed, and no time lies in the future. -/
structure Paced (b : Board) (s : PacedRun) : Prop where
  saccade : Armed kIdleHoldMinMs s.eyes.clock (s.saccadeAt :: s.saccadeTimes)
    s.eyes.rig.motion.sNextSaccadeMs
  blink : Armed kBlinkGapMinMs s.eyes.clock s.blinkTimes s.eyes.rig.motion.sNextBlinkMs
  past : ∀ u, some u ∈ s.saccadeAt :: s.blinkTimes → u ≤ s.eyes.clock
  busy : b.BusyWired → s.eyes.rig.audio.sBusyGpio.isSome = true

/-- A time that is taken now or was there before is not in the future. -/
theorem past_ite {p : Bool} {old : Option ℕ} {t : ℕ} (h : ∀ u, old = some u → u ≤ t) :
    ∀ u, (if p then some t else old) = some u → u ≤ t := by
  intro u hu
  cases p with
  | true => exact (Option.some.inj hu).symm.le
  | false => exact h u hu

/-- A tick with no active stick adds nothing to what a saccade keeps away from, but a saccade. -/
theorem saccadeTimes_tick (b : Board) (s : PacedRun) (n : ℕ) {gp : GamepadState} (busyLow : Bool)
    (d : EyeDraws) (hinactive : EyeMotion.stickActive gp = false) :
    (s.step b ⟨n, .update gp busyLow d⟩).saccadeTimes = s.saccadeTimes := by
  simp only [step, saccadeTimes, EyeRun.step, EyeRun.act, EyeRun.wait, hinactive,
    Bool.false_eq_true, if_false]

/-- Nor, unless speech owns the eyes or a blink ends, to what a blink keeps away from. -/
theorem blinkTimes_tick {b : Board} {s : PacedRun} {n : ℕ} {gp : GamepadState} {busyLow : Bool}
    {d : EyeDraws} (hinactive : EyeMotion.stickActive gp = false)
    (hsilent : EyeMotion.speaks b (millis (s.eyes.clock + n)) gp busyLow s.eyes.rig = false)
    (hgoes : (s.eyes.rig.view.blinking &&
      !(s.step b ⟨n, .update gp busyLow d⟩).eyes.rig.view.blinking) = false) :
    (s.step b ⟨n, .update gp busyLow d⟩).blinkTimes = s.blinkTimes := by
  simp only [step, EyeRun.step, EyeRun.act, EyeRun.wait] at hgoes
  simp only [step, blinkTimes, EyeRun.step, EyeRun.act, EyeRun.wait, hinactive, hsilent, hgoes,
    Bool.false_eq_true, if_false]

/-- The saccade timer after a tick. -/
theorem Paced.saccade_tick {b : Board} {s : PacedRun} (h : s.Paced b) (n : ℕ) (gp : GamepadState)
    (busyLow : Bool) (d : EyeDraws)
    (hpast : ∀ u, some u ∈ (s.step b ⟨n, .update gp busyLow d⟩).saccadeAt ::
      (s.step b ⟨n, .update gp busyLow d⟩).saccadeTimes → u ≤ s.eyes.clock + n) :
    let s' := s.step b ⟨n, .update gp busyLow d⟩
    Armed kIdleHoldMinMs (s.eyes.clock + n) (s'.saccadeAt :: s'.saccadeTimes)
      s'.eyes.rig.motion.sNextSaccadeMs := by
  intro s'
  obtain ⟨hout, -⟩ := EyeMotion.timers_update b (millis (s.eyes.clock + n)) gp busyLow d s.eyes.rig
  have hdeadline : s'.eyes.rig.motion.sNextSaccadeMs = (EyeMotion.update b
    (millis (s.eyes.clock + n)) gp busyLow d s.eyes.rig).motion.sNextSaccadeMs := rfl
  rw [hdeadline]
  generalize (EyeMotion.update b (millis (s.eyes.clock + n)) gp busyLow d
    s.eyes.rig).motion.sNextSaccadeMs = deadline at hout
  cases hout with
  | set d' =>
    obtain ⟨hgap, hdelay⟩ := EyeMotion.saccadeDelay_mem d'
    exact armed_set hgap hdelay hpast
  | kept hinactive hstill =>
    have hsaccadeAt : s'.saccadeAt = s.saccadeAt := by
      simp only [s', step, hstill, Bool.false_eq_true, if_false]
    rw [hsaccadeAt, saccadeTimes_tick b s n busyLow d hinactive]
    exact h.saccade.later n (List.Subset.refl _)

/-- The blink timer after a tick. -/
theorem Paced.blink_tick {b : Board} {s : PacedRun} (h : s.Paced b) (n : ℕ) (gp : GamepadState)
    (busyLow : Bool) (d : EyeDraws)
    (hpast : ∀ u, some u ∈ (s.step b ⟨n, .update gp busyLow d⟩).blinkTimes →
      u ≤ s.eyes.clock + n) :
    let s' := s.step b ⟨n, .update gp busyLow d⟩
    Armed kBlinkGapMinMs (s.eyes.clock + n) s'.blinkTimes s'.eyes.rig.motion.sNextBlinkMs := by
  intro s'
  obtain ⟨-, hout⟩ := EyeMotion.timers_update b (millis (s.eyes.clock + n)) gp busyLow d s.eyes.rig
  have hdeadline : s'.eyes.rig.motion.sNextBlinkMs = (EyeMotion.update b
    (millis (s.eyes.clock + n)) gp busyLow d s.eyes.rig).motion.sNextBlinkMs := rfl
  have hblinking : s'.eyes.rig.view.blinking = (EyeMotion.update b
    (millis (s.eyes.clock + n)) gp busyLow d s.eyes.rig).motion.sBlinking := rfl
  -- unless the timer was set, nothing a blink keeps away from happened
  have htimes : EyeMotion.stickActive gp = false →
      EyeMotion.speaks b (millis (s.eyes.clock + n)) gp busyLow s.eyes.rig = false →
      (s.eyes.rig.view.blinking && !s'.eyes.rig.view.blinking) = false →
      s'.blinkTimes = s.blinkTimes := blinkTimes_tick
  rw [hdeadline]
  rw [hblinking] at htimes
  generalize (EyeMotion.update b (millis (s.eyes.clock + n)) gp busyLow d
    s.eyes.rig).motion.sBlinking = blinking at hout htimes
  generalize (EyeMotion.update b (millis (s.eyes.clock + n)) gp busyLow d
    s.eyes.rig).motion.sNextBlinkMs = deadline at hout
  cases hout with
  | set d' =>
    obtain ⟨hgap, hdelay⟩ := EyeMotion.blinkDelay_mem d'
    exact armed_set hgap hdelay hpast
  | begins hinactive hsilent =>
    exact h.blink.later n (htimes hinactive hsilent (Bool.and_false _) ▸ List.Subset.refl _)
  | kept hinactive hsilent =>
    have hsame : (s.eyes.rig.view.blinking && !s.eyes.rig.motion.sBlinking) = false :=
      Bool.and_not_self _
    exact h.blink.later n (htimes hinactive hsilent hsame ▸ List.Subset.refl _)

/-- The times of the history, one by one. -/
theorem Paced.past_each {b : Board} {s : PacedRun} (h : s.Paced b) (n : ℕ) :
    (∀ u, s.saccadeAt = some u → u ≤ s.eyes.clock + n) ∧
      (∀ u, s.eyes.activeAt = some u → u ≤ s.eyes.clock + n) ∧
      (∀ u, s.enabledAt = some u → u ≤ s.eyes.clock + n) ∧
      (∀ u, s.speechAt = some u → u ≤ s.eyes.clock + n) ∧
      (∀ u, s.endedAt = some u → u ≤ s.eyes.clock + n) := by
  have hold : ∀ time ∈ s.saccadeAt :: s.blinkTimes, ∀ u, time = some u → u ≤ s.eyes.clock + n := by
    rintro time htime u rfl
    exact Nat.le_add_right_of_le (h.past u htime)
  simpa only [blinkTimes, List.mem_cons, List.not_mem_nil, or_false, forall_eq_or_imp,
    forall_eq] using hold

/-- No time of the history after a tick lies in the future. -/
theorem Paced.past_tick {b : Board} {s : PacedRun} (h : s.Paced b) (n : ℕ) (gp : GamepadState)
    (busyLow : Bool) (d : EyeDraws) :
    ∀ u, some u ∈ (s.step b ⟨n, .update gp busyLow d⟩).saccadeAt ::
      (s.step b ⟨n, .update gp busyLow d⟩).blinkTimes → u ≤ s.eyes.clock + n := by
  obtain ⟨hsaccade, hactive, henabled, hspeech, hended⟩ := h.past_each n
  intro u hu
  simp only [step, blinkTimes, EyeRun.step, EyeRun.act, EyeRun.wait, List.mem_cons,
    List.not_mem_nil, or_false] at hu
  rcases hu with hu | hu | hu | hu | hu
  · exact past_ite hsaccade u hu.symm
  · exact past_ite hactive u hu.symm
  · exact henabled u hu.symm
  · exact past_ite hspeech u hu.symm
  · exact past_ite hended u hu.symm

/-- A saccade keeps its distance. -/
theorem Paced.saccade_inTime {b : Board} {s : PacedRun} (h : s.Paced b) (n : ℕ)
    {gp : GamepadState} (busyLow : Bool) (d : EyeDraws)
    (hsaccade : EyeMotion.saccades (millis (s.eyes.clock + n)) gp s.eyes.rig.motion = true) :
    Spaced kIdleHoldMinMs (s.eyes.clock + n)
      (s.saccadeAt :: (s.step b ⟨n, .update gp busyLow d⟩).saccadeTimes) := by
  simp only [EyeMotion.saccades, Bool.and_eq_true, Bool.not_eq_true'] at hsaccade
  obtain ⟨⟨hidle, -⟩, hdue⟩ := hsaccade
  have hfires := (h.saccade.later n (List.Subset.refl _)).fires hdue
  -- on a tick that idle has, the stick is not active
  have hinactive := EyeMotion.stickActive_of_idle hidle
  rwa [saccadeTimes_tick b s n busyLow d hinactive]

/-- A blink that starts keeps its distance, and starts only while the player is silent. -/
theorem Paced.blink_inTime {b : Board} {s : PacedRun} (h : s.Paced b) (n : ℕ)
    {gp : GamepadState} {busyLow : Bool} (d : EyeDraws)
    (hrested : s.eyes.rig.view.blinking = false)
    (hblinks : (s.step b ⟨n, .update gp busyLow d⟩).eyes.rig.view.blinking = true) :
    Spaced kBlinkGapMinMs (s.eyes.clock + n)
        (s.step b ⟨n, .update gp busyLow d⟩).blinkTimes ∧ (b.BusyWired → busyLow = false) := by
  obtain ⟨-, hout⟩ := EyeMotion.timers_update b (millis (s.eyes.clock + n)) gp busyLow d s.eyes.rig
  have hbefore : s.eyes.rig.motion.sBlinking = false := hrested
  have hafter : (EyeMotion.update b (millis (s.eyes.clock + n)) gp busyLow d
    s.eyes.rig).motion.sBlinking = true := hblinks
  generalize (EyeMotion.update b (millis (s.eyes.clock + n)) gp busyLow d
    s.eyes.rig).motion.sBlinking = blinking at hout hafter
  generalize (EyeMotion.update b (millis (s.eyes.clock + n)) gp busyLow d
    s.eyes.rig).motion.sNextBlinkMs = deadline at hout
  cases hout with
  | set => cases hafter
  | begins hinactive hsilent hquiet hdue =>
    refine ⟨?_, fun hwired => ?_⟩
    · -- the deadline was reached, and it was set the whole gap after what the history has
      have hfires := (h.blink.later n (List.Subset.refl _)).fires hdue
      have hgoes : (s.eyes.rig.view.blinking &&
          !(s.step b ⟨n, .update gp busyLow d⟩).eyes.rig.view.blinking) = false := by
        rw [hrested, Bool.false_and]
      rwa [blinkTimes_tick hinactive hsilent hgoes]
    · have hnone := hquiet hwired.audio_isSome
      cases busyLow with
      | false => rfl
      | true =>
        rw [EyeMotion.speechLevel_of_busy (h.busy hwired)] at hnone
        cases hnone
  | kept =>
    rw [hbefore] at hafter
    cases hafter

theorem saccadeTimes_subset (s : PacedRun) (u : ℕ) (hu : some u ∈ s.saccadeAt :: s.saccadeTimes) :
    some u ∈ s.saccadeAt :: s.blinkTimes := by
  simp only [saccadeTimes, blinkTimes, List.mem_cons, List.not_mem_nil, or_false] at hu ⊢
  tauto

/-- Every tick keeps the timers armed and acts in time. -/
theorem Paced.tick {b : Board} {s : PacedRun} (h : s.Paced b) (n : ℕ) (gp : GamepadState)
    (busyLow : Bool) (d : EyeDraws) :
    (s.step b ⟨n, .update gp busyLow d⟩).Paced b ∧ s.InTime b ⟨n, .update gp busyLow d⟩ := by
  have hpast := h.past_tick n gp busyLow d
  refine ⟨⟨?_, ?_, hpast, fun hwired => ?_⟩, fun hsaccade => ?_, fun hrested hblinks => ?_⟩
  · exact h.saccade_tick n gp busyLow d fun u hu => hpast u (saccadeTimes_subset _ u hu)
  · exact h.blink_tick n gp busyLow d fun u hu => hpast u (List.mem_cons_of_mem _ hu)
  · rw [← h.busy hwired]
    exact congrArg Option.isSome (EyeRun.sBusyGpio_step b s.eyes ⟨n, .update gp busyLow d⟩)
  · exact h.saccade_inTime n busyLow d hsaccade
  · exact h.blink_inTime n d hrested hblinks

/-! ## Everything else -/

/-- What leaves the timers and the history alone keeps the timers armed. -/
theorem Paced.of_same {b : Board} {s s' : PacedRun} (h : s.Paced b) {n : ℕ}
    (hclock : s'.eyes.clock = s.eyes.clock + n)
    (hsaccade : s'.eyes.rig.motion.sNextSaccadeMs = s.eyes.rig.motion.sNextSaccadeMs)
    (hblink : s'.eyes.rig.motion.sNextBlinkMs = s.eyes.rig.motion.sNextBlinkMs)
    (hsaccadeAt : s'.saccadeAt = s.saccadeAt) (hsaccadeTimes : s'.saccadeTimes = s.saccadeTimes)
    (hblinkTimes : s'.blinkTimes = s.blinkTimes)
    (hbusy : s'.eyes.rig.audio.sBusyGpio = s.eyes.rig.audio.sBusyGpio) : s'.Paced b where
  saccade := by
    rw [hclock, hsaccade, hsaccadeAt, hsaccadeTimes]
    exact h.saccade.later n (List.Subset.refl _)
  blink := by
    rw [hclock, hblink, hblinkTimes]
    exact h.blink.later n (List.Subset.refl _)
  past := by
    rw [hclock, hsaccadeAt, hblinkTimes]
    exact fun u hu => Nat.le_add_right_of_le (h.past u hu)
  busy hwired := hbusy ▸ h.busy hwired

/-- Waking idle sets both timers, and parking it leaves them. -/
theorem Paced.setIdleEnabled {b : Board} {s : PacedRun} (h : s.Paced b) (n : ℕ) (d : RearmDraws)
    (enabled : Bool) : (s.step b ⟨n, .setIdleEnabled d enabled⟩).Paced b := by
  have hbusy := EyeRun.sBusyGpio_step b s.eyes ⟨n, .setIdleEnabled d enabled⟩
  have hpast : ∀ u, some u ∈ (s.step b ⟨n, .setIdleEnabled d enabled⟩).saccadeAt ::
      (s.step b ⟨n, .setIdleEnabled d enabled⟩).blinkTimes → u ≤ s.eyes.clock + n := by
    obtain ⟨hsaccade, hactive, henabled, hspeech, hended⟩ := h.past_each n
    intro u hu
    simp only [PacedRun.step, blinkTimes, EyeRun.step, EyeRun.act, EyeRun.wait, List.mem_cons,
      List.not_mem_nil, or_false] at hu
    rcases hu with hu | hu | hu | hu | hu
    · exact hsaccade u hu.symm
    · exact hactive u hu.symm
    · exact past_ite henabled u hu.symm
    · exact hspeech u hu.symm
    · exact hended u hu.symm
  have hmotion : (s.step b ⟨n, .setIdleEnabled d enabled⟩).eyes.rig.motion =
      (EyeMotion.setIdleEnabled (millis (s.eyes.clock + n)) d enabled s.eyes.rig).motion := rfl
  rcases EyeMotion.timers_setIdleEnabled (millis (s.eyes.clock + n)) d enabled s.eyes.rig with
    ⟨hsaccade, hblink⟩ | ⟨hsame, hsaccade, hblink⟩
  · -- both deadlines are drawn anew, counted from now
    obtain ⟨hgap, hdelay⟩ := EyeMotion.saccadeDelay_mem d.saccade
    obtain ⟨hgap', hdelay'⟩ := EyeMotion.blinkDelay_mem d.blink
    refine ⟨?_, ?_, hpast, fun hwired => ?_⟩
    · rw [hmotion, hsaccade]
      exact armed_set hgap hdelay fun u hu => hpast u (saccadeTimes_subset _ u hu)
    · rw [hmotion, hblink]
      exact armed_set hgap' hdelay' fun u hu => hpast u (List.mem_cons_of_mem _ hu)
    · exact hbusy ▸ h.busy hwired
  · -- idle was not woken, so the history is the same
    have henabled : (s.step b ⟨n, .setIdleEnabled d enabled⟩).enabledAt = s.enabledAt :=
      if_neg (Bool.eq_false_iff.mp hsame)
    have hactive : (s.step b ⟨n, .setIdleEnabled d enabled⟩).eyes.activeAt = s.eyes.activeAt := rfl
    refine h.of_same (n := n) rfl hsaccade hblink rfl ?_ ?_ hbusy
    · rw [saccadeTimes, henabled, hactive, saccadeTimes]
    · rw [blinkTimes, henabled, hactive, blinkTimes]
      rfl

theorem Paced.step {b : Board} {s : PacedRun} (h : s.Paced b) (e : EyeEvent) :
    (s.step b e).Paced b ∧ s.InTime b e := by
  obtain ⟨n, action⟩ := e
  have hbusy := EyeRun.sBusyGpio_step b s.eyes ⟨n, action⟩
  cases action with
  | update gp busyLow d => exact h.tick n gp busyLow d
  | play track => exact ⟨h.of_same (n := n) rfl rfl rfl rfl rfl rfl hbusy, trivial⟩
  | setVolume volume => exact ⟨h.of_same (n := n) rfl rfl rfl rfl rfl rfl hbusy, trivial⟩
  | setIdleEnabled d enabled => exact ⟨h.setIdleEnabled n d enabled, trivial⟩
  | setTrims pan tilt => exact ⟨h.of_same (n := n) rfl rfl rfl rfl rfl rfl hbusy, trivial⟩
  | flashAdminAck apNowRunning =>
    refine ⟨h.of_same (n := n) ?_ ?_ ?_ ?_ ?_ ?_ hbusy, trivial⟩ <;>
      simp only [PacedRun.step, EyeRun.step, EyeRun.act, EyeRun.wait, saccadeTimes, blinkTimes]
  | strips f keeps => exact ⟨h.of_same (n := n) rfl rfl rfl rfl rfl rfl hbusy, trivial⟩

/-! ## Every run -/

/-- `begin` arms both timers, with nothing to keep away from yet. -/
theorem paced_start (b : Board) (t : ℕ) (d : RearmDraws) : (start b t d).Paced b := by
  obtain ⟨hgap, hdelay⟩ := EyeMotion.saccadeDelay_mem d.saccade
  obtain ⟨hgap', hdelay'⟩ := EyeMotion.blinkDelay_mem d.blink
  have hmotion : (start b t d).eyes.rig.motion =
      EyeMotion.begin (millis t) d (EyeMotion.initial b) := rfl
  have hpast : ∀ u, some u ∈ (start b t d).saccadeAt :: (start b t d).blinkTimes → u ≤ t := by
    intro u hu
    simp [start, blinkTimes, EyeRun.start] at hu
  refine ⟨?_, ?_, hpast, fun hwired => EyeRun.busy_run hwired t d []⟩
  · rw [hmotion, EyeMotion.begin, EyeMotion.rearm, EyeMotion.scheduleSaccade_eq]
    exact armed_set hgap hdelay fun u hu => hpast u (saccadeTimes_subset _ u hu)
  · rw [hmotion]
    exact armed_set hgap' hdelay' fun u hu => hpast u (List.mem_cons_of_mem _ hu)

/-- Over every run, with any gaps and across any number of wraps, idle never acts early. -/
theorem idle_never_early (b : Board) (t : ℕ) (d : RearmDraws) (events : List EyeEvent) :
    Along (step b) (InTime b) (start b t d) events := by
  have hfree : Along (step b) (fun _ _ => True) (start b t d) events :=
    along_of_forall_mem (fun _ _ => trivial) _
  exact along_of_inv (fun _ e h _ => (h.step e).1) (fun _ e h _ => (h.step e).2)
    (paced_start b t d) hfree

end PacedRun

end K2soHead
