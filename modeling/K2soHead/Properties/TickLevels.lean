import K2soHead.Properties.EyeRuns

/-!
# The level each tick sets

A tick passes at most one level to `setBlinkLevel`.  `levelSet` reads it off the state before
the tick, in the order in which `update` decides, and `led_update` says that this one call is all
a tick does to the strips.  The level in force afterwards would not do: a tick that begins a
blink sets none and leaves whatever stood before it.
-/

namespace K2soHead

open Runs WrappingClock

namespace EyeMotion

/-- The level `updateBlink` sets. -/
def blinkLevelSet (now : UInt32) (m : EyeMotion) : Option UInt8 :=
  if m.sBlinking then
    if age now m.sBlinkStartMs < kBlinkClosedMs + kBlinkOpenMs then
      some (blinkLevel (age now m.sBlinkStartMs))
    else
      some kEyeRestLevel
  else if deadlinePassed now m.sNextBlinkMs then none
  else some kEyeRestLevel

/-- The level `updateEyeLevel` sets: speech first, then blinking. -/
def eyeLevelSet (b : Board) (now : UInt32) (busyLow : Bool) (r : Rig) : Option UInt8 :=
  (if b.audio.isSome then speechLevel now busyLow r.audio else none).or
    (blinkLevelSet now r.motion)

/-- The level `update` sets. -/
def levelSet (b : Board) (now : UInt32) (gp : GamepadState) (busyLow : Bool) (r : Rig) :
    Option UInt8 :=
  if stickActive gp then
    if r.motion.sBlinking then some kEyeRestLevel else none
  else if driven now gp r.motion then none
  else if r.motion.sIdleEnabled then eyeLevelSet b now busyLow r
  else none

/-! ## It is what a tick does to the strips -/

theorem led_updateBlink (now : UInt32) (d : EyeDraws) (r : Rig) :
    (updateBlink now d r).led =
      (blinkLevelSet now r.motion).elim r.led fun level => r.led.setBlinkLevel level := by
  unfold updateBlink blinkLevelSet
  split
  · dsimp only
    split
    · rename_i hclosed
      have hflight : age now r.motion.sBlinkStartMs < kBlinkClosedMs + kBlinkOpenMs := by omega
      rw [if_pos hflight, blinkLevel, if_pos hclosed]
      rfl
    · rename_i hopening
      split
      · rw [blinkLevel, if_neg hopening]
        rfl
      · rfl
  · split <;> rfl

theorem led_updateEyeLevel (b : Board) (now : UInt32) (busyLow : Bool) (d : EyeDraws) (r : Rig) :
    (updateEyeLevel b now busyLow d r).led =
      (eyeLevelSet b now busyLow r).elim r.led fun level => r.led.setBlinkLevel level := by
  unfold updateEyeLevel eyeLevelSet
  split
  · rename_i level hlevel
    rw [hlevel]
    rfl
  · rename_i hlevel
    rw [hlevel, Option.none_or]
    exact led_updateBlink now d r

@[simp] theorem blinkLevelSet_pickIdleTarget (now now' : UInt32) (d : EyeDraws) (m : EyeMotion) :
    blinkLevelSet now (pickIdleTarget now' d m) = blinkLevelSet now m := by
  unfold pickIdleTarget scheduleSaccade
  split <;> rfl

theorem led_runIdle (b : Board) (now : UInt32) (busyLow : Bool) (d : EyeDraws) (r : Rig) :
    (runIdle b now busyLow d r).led =
      (eyeLevelSet b now busyLow r).elim r.led fun level => r.led.setBlinkLevel level := by
  unfold runIdle
  rw [led_updateEyeLevel]
  split
  · simp only [eyeLevelSet, blinkLevelSet_pickIdleTarget]
  · rfl

theorem led_takeOver (now : UInt32) (gp : GamepadState) (d : EyeDraws) (r : Rig) :
    (takeOver now gp d r).led =
      if stickActive gp && r.motion.sBlinking then r.led.setBlinkLevel kEyeRestLevel
      else r.led := by
  unfold takeOver
  cases stickActive gp with
  | true =>
    rw [if_pos rfl, Bool.true_and]
    generalize now + UInt32.ofNat kIdleResumeMs = resumeAt
    unfold suspendIdle
    cases r.motion.sBlinking <;> rfl
  | false => rfl

theorem led_update (b : Board) (now : UInt32) (gp : GamepadState) (busyLow : Bool) (d : EyeDraws)
    (r : Rig) :
    (update b now gp busyLow d r).led =
      (levelSet b now gp busyLow r).elim r.led fun level => r.led.setBlinkLevel level := by
  have hease : ∀ ease r, (easeAndWrite ease r).led = r.led := fun _ _ => rfl
  have htake := led_takeOver now gp d r
  simp only [update, idle_takeOver]
  unfold levelSet
  cases hdriven : driven now gp r.motion with
  | true =>
    rw [Bool.not_true, if_neg Bool.false_ne_true, hease]
    -- driving sets targets only, so what counts is the take-over
    change (takeOver now gp d r).led = _
    rw [htake]
    cases stickActive gp with
    | true => cases r.motion.sBlinking <;> rfl
    | false => rfl
  | false =>
    have hinactive : ¬ stickActive gp = true := by
      rw [stickActive_of_idle hdriven]
      exact Bool.false_ne_true
    have hsame : takeOver now gp d r = r := if_neg hinactive
    rw [Bool.not_false, if_pos rfl, hease, hsame, if_neg hinactive, if_neg Bool.false_ne_true]
    cases henabled : r.motion.sIdleEnabled with
    | true => exact led_runIdle b now busyLow d r
    | false => rfl

end EyeMotion

/-! ## Runs of ticks -/

/-- An `update`, some time after the action before. -/
structure Tick where
  wait : ℕ
  gp : GamepadState
  busyLow : Bool
  d : EyeDraws

namespace EyeRun

def tick (b : Board) (s : EyeRun) (e : Tick) : EyeRun :=
  step b s ⟨e.wait, .update e.gp e.busyLow e.d⟩

/-- When a tick happens. -/
def timeOf (s : EyeRun) (e : Tick) : ℕ := s.clock + e.wait

/-- The level it sets. -/
def tickLevel (b : Board) (s : EyeRun) (e : Tick) : Option UInt8 :=
  EyeMotion.levelSet b (millis (s.timeOf e)) e.gp e.busyLow s.rig

/-- Idle is enabled and has the eyes. -/
structure IdleInControl (s : EyeRun) (e : Tick) : Prop where
  idle : EyeMotion.driven (millis (s.timeOf e)) e.gp s.rig.motion = false
  enabled : s.rig.view.enabled = true

/-- The tick tells `setBlinkLevel` that level and does nothing else to the strips. -/
def Told (b : Board) (s : EyeRun) (e : Tick) : Prop :=
  (tick b s e).rig.led =
    (s.tickLevel b e).elim s.rig.led fun level => s.rig.led.setBlinkLevel level

theorem led_tick (b : Board) (s : EyeRun) (e : Tick) : s.Told b e :=
  EyeMotion.led_update b (millis (s.timeOf e)) e.gp e.busyLow e.d s.rig

/-- No tick parks or wakes idle. -/
theorem enabled_tick (b : Board) (s : EyeRun) (e : Tick) :
    (tick b s e).rig.view.enabled = s.rig.view.enabled :=
  (EyeMotion.update_outcome b (millis (s.timeOf e)) e.gp e.busyLow e.d s.rig).enabled

/-- With idle enabled and no pad connected, idle stays in control. -/
theorem idleInControl_of_disconnected (b : Board) {s : EyeRun}
    (henabled : s.rig.view.enabled = true) {ticks : List Tick}
    (hpad : ∀ e ∈ ticks, e.gp.connected = false) : Along (tick b) IdleInControl s ticks := by
  induction ticks generalizing s with
  | nil => trivial
  | cons e es ih =>
    have hidle : EyeMotion.driven (millis (s.timeOf e)) e.gp s.rig.motion = false := by
      simp [EyeMotion.driven, EyeMotion.stickActive, hpad e List.mem_cons_self]
    refine ⟨⟨hidle, henabled⟩, ih ?_ fun e he => hpad e (List.mem_cons_of_mem _ he)⟩
    rw [enabled_tick, henabled]

/-- While idle is in control the level is the one of `updateEyeLevel`. -/
theorem IdleInControl.tickLevel_eq {s : EyeRun} {e : Tick} (h : s.IdleInControl e) (b : Board) :
    s.tickLevel b e = EyeMotion.eyeLevelSet b (millis (s.timeOf e)) e.busyLow s.rig := by
  have hinactive := EyeMotion.stickActive_of_idle h.idle
  have henabled : s.rig.motion.sIdleEnabled = true := h.enabled
  rw [tickLevel, EyeMotion.levelSet, hinactive, h.idle, henabled]
  rfl

end EyeRun

end K2soHead
