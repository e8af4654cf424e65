import K2soHead.Firmware.EyeMotion
import K2soHead.Properties.LedStrips

/-!
# What one `EyeMotion::update` does to the eye level

`EyeView` is the part of the eyes that decides how bright they are and who has them.
`TickOutcome` lists, once, everything a tick can do to it, and `SetsLevels` everything it
can do to the strips and the player.  Proofs about the eye level go by these two and not
into `update`.
-/

namespace K2soHead

/-- Who has the eyes, and how bright they are. -/
structure EyeView where
  enabled : Bool
  blinking : Bool
  blinkStart : UInt32
  resumeAt : UInt32
  level : UInt8
  deriving DecidableEq

def Rig.view (r : Rig) : EyeView where
  enabled := r.motion.sIdleEnabled
  blinking := r.motion.sBlinking
  blinkStart := r.motion.sBlinkStartMs
  resumeAt := r.motion.sIdleResumeAtMs
  level := r.led.sBlinkLevel

namespace EyeMotion

/-! ## The parts of a tick -/

/-- The stick has the eyes: active now, or parked for less than the hand-back time. -/
def driven (now : UInt32) (gp : GamepadState) (m : EyeMotion) : Bool :=
  stickActive gp || (gp.connected && !deadlinePassed now m.sIdleResumeAtMs)

/-- The blink level `elapsed` ms into a blink. -/
def blinkLevel (elapsed : ℕ) : UInt8 :=
  if elapsed < kBlinkClosedMs then 0 else blinkRamp elapsed

/-- The same in numbers, while the blink is in flight. -/
theorem blinkLevel_toNat {elapsed : ℕ} (h : elapsed < kBlinkClosedMs + kBlinkOpenMs) :
    (blinkLevel elapsed).toNat = 255 * (elapsed - 120) / 90 := by
  unfold kBlinkClosedMs kBlinkOpenMs at h
  rw [blinkLevel]
  unfold kBlinkClosedMs
  split
  · have hshut : elapsed - 120 = 0 := by omega
    rw [hshut]
    rfl
  · rw [blinkRamp, kBlinkClosedMs, kBlinkOpenMs, UInt8.toNat_ofNat']
    omega

@[simp] theorem view_rearm (now : UInt32) (d : RearmDraws) (r : Rig) :
    Rig.view { r with motion := rearm now d r.motion } = r.view := by
  unfold rearm scheduleSaccade
  split <;> rfl

@[simp] theorem view_pickIdleTarget (now : UInt32) (d : EyeDraws) (r : Rig) :
    Rig.view { r with motion := pickIdleTarget now d r.motion } = r.view := by
  unfold pickIdleTarget scheduleSaccade
  split <;> rfl

@[simp] theorem view_easeAndWrite (ease : ExtRat) (r : Rig) : (easeAndWrite ease r).view = r.view :=
  rfl

/-- `suspendIdle` relights the eyes only where a blink was in flight. -/
theorem view_suspendIdle (now : UInt32) (d : RearmDraws) (r : Rig) :
    (suspendIdle now d r).view =
      { r.view with
        blinking := false
        level := if r.view.blinking then kEyeRestLevel else r.view.level } := by
  unfold suspendIdle
  rw [view_rearm]
  cases hblink : r.motion.sBlinking with
  | true => simp [Rig.view, hblink]
  | false => simp [Rig.view, hblink]

/-- An active stick re-arms the hand-back and suspends idle. -/
theorem view_takeOver (now : UInt32) (gp : GamepadState) (d : EyeDraws) (r : Rig) :
    (takeOver now gp d r).view =
      if stickActive gp then
        { r.view with
          resumeAt := now + UInt32.ofNat kIdleResumeMs
          blinking := false
          level := if r.view.blinking then kEyeRestLevel else r.view.level }
      else r.view := by
  unfold takeOver
  split
  · rw [view_suspendIdle]
    generalize now + UInt32.ofNat kIdleResumeMs = resumeAt
    rfl
  · rfl

/-- The branch a tick takes, in terms of the state before it. -/
theorem idle_takeOver (now : UInt32) (gp : GamepadState) (d : EyeDraws) (r : Rig) :
    idle now gp (takeOver now gp d r).motion = !driven now gp r.motion := by
  have hresume : (takeOver now gp d r).motion.sIdleResumeAtMs =
      (takeOver now gp d r).view.resumeAt := rfl
  rw [idle, driven, hresume, view_takeOver]
  cases hactive : stickActive gp with
  | true =>
    have hconnected : gp.connected = true := by
      rw [stickActive, Bool.and_eq_true] at hactive
      exact hactive.1
    -- the deadline just set cannot have passed on the same reading
    have hahead := WrappingClock.not_reached_add now (by decide : 0 < kIdleResumeMs) (by decide)
    simp [hconnected, deadlinePassed, hahead]
  | false =>
    have hsame : r.view.resumeAt = r.motion.sIdleResumeAtMs := rfl
    simp [hsame]

/-! ## Everything a tick can do -/

/-- The outcomes of one `update`, by the branch taken and the phase the eyes are in. -/
inductive TickOutcome (b : Board) (now : UInt32) (gp : GamepadState) (busyLow : Bool) (r : Rig) :
    EyeView → Prop where
  /-- the stick takes over on this tick -/
  | takenOver (hactive : stickActive gp = true) :
      TickOutcome b now gp busyLow r
        { r.view with
          resumeAt := now + UInt32.ofNat kIdleResumeMs
          blinking := false
          level := if r.view.blinking then kEyeRestLevel else r.view.level }
  /-- the stick is centred but still has the eyes -/
  | held (hcentred : stickActive gp = false) (hdriven : driven now gp r.motion = true) :
      TickOutcome b now gp busyLow r r.view
  /-- idle is parked -/
  | parked (hidle : driven now gp r.motion = false) (hparked : r.view.enabled = false) :
      TickOutcome b now gp busyLow r r.view
  /-- speech has the eyes, and sets their level -/
  | speech (hidle : driven now gp r.motion = false) (henabled : r.view.enabled = true)
      (haudio : b.audio.isSome = true) {level : UInt8}
      (hlevel : speechLevel now busyLow r.audio = some level) :
      TickOutcome b now gp busyLow r { r.view with blinking := false, level := level }
  /-- a blink goes on -/
  | blinks (hidle : driven now gp r.motion = false) (henabled : r.view.enabled = true)
      (hquiet : b.audio.isSome = true → speechLevel now busyLow r.audio = none)
      (hblinking : r.view.blinking = true)
      (helapsed : WrappingClock.age now r.view.blinkStart < kBlinkClosedMs + kBlinkOpenMs) :
      TickOutcome b now gp busyLow r
        { r.view with level := blinkLevel (WrappingClock.age now r.view.blinkStart) }
  /-- a blink is over -/
  | reopened (hidle : driven now gp r.motion = false) (henabled : r.view.enabled = true)
      (hquiet : b.audio.isSome = true → speechLevel now busyLow r.audio = none)
      (hblinking : r.view.blinking = true)
      (helapsed : kBlinkClosedMs + kBlinkOpenMs ≤ WrappingClock.age now r.view.blinkStart) :
      TickOutcome b now gp busyLow r { r.view with blinking := false, level := kEyeRestLevel }
  /-- a blink begins; the level follows on the next tick -/
  | begins (hidle : driven now gp r.motion = false) (henabled : r.view.enabled = true)
      (hquiet : b.audio.isSome = true → speechLevel now busyLow r.audio = none)
      (hrested : r.view.blinking = false) :
      TickOutcome b now gp busyLow r { r.view with blinking := true, blinkStart := now }
  /-- nothing is going on -/
  | rests (hidle : driven now gp r.motion = false) (henabled : r.view.enabled = true)
      (hquiet : b.audio.isSome = true → speechLevel now busyLow r.audio = none)
      (hrested : r.view.blinking = false) :
      TickOutcome b now gp busyLow r { r.view with level := kEyeRestLevel }

theorem stickActive_of_idle {now : UInt32} {gp : GamepadState} {m : EyeMotion}
    (h : driven now gp m = false) : stickActive gp = false := by
  rw [driven, Bool.or_eq_false_iff] at h
  exact h.1

/-- Speech only ever asks for two levels. -/
theorem speechLevel_eq {now : UInt32} {busyLow : Bool} {a : AudioPlayer} {level : UInt8}
    (h : speechLevel now busyLow a = some level) :
    level = kSpeechActiveLevel ∨ level = kSpeechDipLevel := by
  unfold speechLevel at h
  split at h
  · exact .inl (Option.some.inj h).symm
  · split at h
    · exact .inr (Option.some.inj h).symm
    · cases h

/-- With BUSY wired and low it asks for full brightness. -/
theorem speechLevel_of_busy {a : AudioPlayer} (hbusy : a.sBusyGpio.isSome = true) (now : UInt32) :
    speechLevel now true a = some kSpeechActiveLevel := by
  have hplaying : a.isPlaying true = true := by
    rw [AudioPlayer.isPlaying, hbusy]
    rfl
  rw [speechLevel, if_pos hplaying]

/-- The blink half of `updateEyeLevel`, on eyes with the view of `r`. -/
theorem updateBlink_outcome {b : Board} {now : UInt32} {gp : GamepadState} {busyLow : Bool}
    (d : EyeDraws) {r r' : Rig} (hview : r'.view = r.view)
    (hidle : driven now gp r.motion = false) (henabled : r.view.enabled = true)
    (hquiet : b.audio.isSome = true → speechLevel now busyLow r.audio = none) :
    TickOutcome b now gp busyLow r (updateBlink now d r').view := by
  have hblinking : r'.motion.sBlinking = r.view.blinking := congrArg EyeView.blinking hview
  have hstart : r'.motion.sBlinkStartMs = r.view.blinkStart := congrArg EyeView.blinkStart hview
  have hlevel : ∀ level, Rig.view { r' with led := r'.led.setBlinkLevel level } =
      { r.view with level := level } := by
    intro level
    rw [← hview]
    simp [Rig.view]
  unfold updateBlink
  rw [hblinking, hstart]
  dsimp only
  -- in a blink by its age: shut, reopening, over; out of one by the next deadline
  split
  · rename_i hblink
    split
    · rename_i hclosed
      rw [hlevel]
      have hramp : blinkLevel (WrappingClock.age now r.view.blinkStart) = 0 := if_pos hclosed
      exact hramp ▸ .blinks hidle henabled hquiet hblink (by omega)
    · rename_i hclosed
      split
      · rename_i hopening
        rw [hlevel]
        have hramp : blinkLevel (WrappingClock.age now r.view.blinkStart) =
            blinkRamp (WrappingClock.age now r.view.blinkStart) := if_neg hclosed
        exact hramp ▸ .blinks hidle henabled hquiet hblink hopening
      · rename_i hopen
        have hover := TickOutcome.reopened hidle henabled hquiet hblink (Nat.le_of_not_lt hopen)
        rw [← hview] at hover
        simpa [Rig.view, scheduleBlink] using hover
  · rename_i hrested
    have hrested : r.view.blinking = false := Bool.eq_false_of_not_eq_true hrested
    split
    · have hbegins := TickOutcome.begins (b := b) (r := r) hidle henabled hquiet hrested
      rw [← hview] at hbegins
      exact hbegins
    · rw [hlevel]
      exact .rests hidle henabled hquiet hrested

/-- The same for the whole of `updateEyeLevel`. -/
theorem updateEyeLevel_outcome {b : Board} {now : UInt32} {gp : GamepadState} {busyLow : Bool}
    (d : EyeDraws) {r r' : Rig} (hview : r'.view = r.view) (haudio : r'.audio = r.audio)
    (hidle : driven now gp r.motion = false) (henabled : r.view.enabled = true) :
    TickOutcome b now gp busyLow r (updateEyeLevel b now busyLow d r').view := by
  unfold updateEyeLevel
  rw [haudio]
  split
  · rename_i level hlevel
    split at hlevel
    · rename_i hfitted
      have hspeech := TickOutcome.speech hidle henabled hfitted hlevel
      rw [← hview] at hspeech
      simpa [Rig.view, scheduleBlink] using hspeech
    · cases hlevel
  · rename_i hquiet
    refine updateBlink_outcome d hview hidle henabled fun hfitted => ?_
    rwa [if_pos hfitted] at hquiet

/-- Every tick has one of the outcomes. -/
theorem update_outcome (b : Board) (now : UInt32) (gp : GamepadState) (busyLow : Bool)
    (d : EyeDraws) (r : Rig) :
    TickOutcome b now gp busyLow r (update b now gp busyLow d r).view := by
  simp only [update, idle_takeOver]
  cases hdriven : driven now gp r.motion with
  | true =>
    have htake : (takeOver now gp d r).view = _ := view_takeOver now gp d r
    have hdrive : Rig.view { takeOver now gp d r with
        motion := driveTargets gp (takeOver now gp d r).motion } = (takeOver now gp d r).view := rfl
    -- driving sets targets, so all the view sees is the take-over
    rw [Bool.not_true, if_neg Bool.false_ne_true, view_easeAndWrite, hdrive, htake]
    cases hactive : stickActive gp with
    | true => exact .takenOver hactive
    | false => exact .held hactive hdriven
  | false =>
    have hactive : ¬ stickActive gp = true := by
      rw [stickActive_of_idle hdriven]
      exact Bool.false_ne_true
    -- a tick idle has is one no active stick took over
    have htake : takeOver now gp d r = r := if_neg hactive
    rw [Bool.not_false, if_pos rfl, view_easeAndWrite, htake]
    cases henabled : r.motion.sIdleEnabled with
    | false => exact .parked hdriven henabled
    | true =>
      rw [if_pos rfl, runIdle]
      split
      · exact updateEyeLevel_outcome d (view_pickIdleTarget now d r) rfl hdriven henabled
      · exact updateEyeLevel_outcome d rfl rfl hdriven henabled

/-- Only an active stick moves the hand-back time. -/
theorem TickOutcome.resumeAt {b : Board} {now : UInt32} {gp : GamepadState} {busyLow : Bool}
    {r : Rig} {v : EyeView} (h : TickOutcome b now gp busyLow r v) :
    v.resumeAt = if stickActive gp then now + UInt32.ofNat kIdleResumeMs else r.view.resumeAt := by
  cases h with
  | takenOver hactive => rw [if_pos hactive]
  | held hcentred => rw [hcentred, if_neg Bool.false_ne_true]
  | parked hidle => rw [stickActive_of_idle hidle, if_neg Bool.false_ne_true]
  | speech hidle => rw [stickActive_of_idle hidle, if_neg Bool.false_ne_true]
  | blinks hidle => rw [stickActive_of_idle hidle, if_neg Bool.false_ne_true]
  | reopened hidle => rw [stickActive_of_idle hidle, if_neg Bool.false_ne_true]
  | begins hidle => rw [stickActive_of_idle hidle, if_neg Bool.false_ne_true]
  | rests hidle => rw [stickActive_of_idle hidle, if_neg Bool.false_ne_true]

/-- No tick parks or wakes idle. -/
theorem TickOutcome.enabled {b : Board} {now : UInt32} {gp : GamepadState} {busyLow : Bool}
    {r : Rig} {v : EyeView} (h : TickOutcome b now gp busyLow r v) :
    v.enabled = r.view.enabled := by
  cases h <;> rfl

/-- A blink in flight after a tick was in flight before it or begins now. -/
theorem TickOutcome.blinking {b : Board} {now : UInt32} {gp : GamepadState} {busyLow : Bool}
    {r : Rig} {v : EyeView} (h : TickOutcome b now gp busyLow r v) (hblink : v.blinking = true) :
    v.blinkStart = if r.view.blinking then r.view.blinkStart else now := by
  cases h with
  | takenOver => cases hblink
  | held => rw [if_pos hblink]
  | parked => rw [if_pos hblink]
  | speech => cases hblink
  | blinks => rw [if_pos hblink]
  | reopened => cases hblink
  -- the only outcome that starts a blink
  | begins _ _ _ hrested => rw [hrested, if_neg Bool.false_ne_true]
  | rests _ _ _ hrested =>
    rw [hrested] at hblink
    cases hblink

/-- While idle is parked, eyes with no blink in flight are left as they are. -/
theorem TickOutcome.kept_of_parked {b : Board} {now : UInt32} {gp : GamepadState}
    {busyLow : Bool} {r : Rig} {v : EyeView} (h : TickOutcome b now gp busyLow r v)
    (hparked : r.view.enabled = false) (hrested : r.view.blinking = false) :
    v.blinking = false ∧ v.level = r.view.level := by
  have hnot : ¬ r.view.enabled = true := by
    rw [hparked]
    exact Bool.false_ne_true
  cases h with
  | takenOver => exact ⟨rfl, if_neg (by rw [hrested]; exact Bool.false_ne_true)⟩
  | held => exact ⟨hrested, rfl⟩
  | parked => exact ⟨hrested, rfl⟩
  | speech _ henabled => exact absurd henabled hnot
  | blinks _ henabled => exact absurd henabled hnot
  | reopened _ henabled => exact absurd henabled hnot
  | begins _ henabled => exact absurd henabled hnot
  | rests _ henabled => exact absurd henabled hnot

/-- Eyes with no blink in flight are in a dip, at rest or brighter, whatever the tick did. -/
theorem TickOutcome.settled {b : Board} {now : UInt32} {gp : GamepadState} {busyLow : Bool}
    {r : Rig} {v : EyeView} (h : TickOutcome b now gp busyLow r v)
    (hbefore : r.view.blinking = false →
      r.view.level = kSpeechDipLevel ∨ kEyeRestLevel ≤ r.view.level)
    (hblink : v.blinking = false) : v.level = kSpeechDipLevel ∨ kEyeRestLevel ≤ v.level := by
  cases h with
  | takenOver =>
    dsimp only
    split
    · exact .inr (UInt8.le_refl _)
    · rename_i hrested
      exact hbefore (Bool.eq_false_of_not_eq_true hrested)
  | held => exact hbefore hblink
  | parked => exact hbefore hblink
  | speech _ _ _ hlevel =>
    have hlit : kEyeRestLevel ≤ kSpeechActiveLevel := by decide
    -- the dip is the one level below rest that does not come from a blink
    rcases speechLevel_eq hlevel with rfl | rfl
    · exact .inr hlit
    · exact .inl rfl
  | blinks _ _ _ hblinking =>
    rw [hblinking] at hblink
    cases hblink
  | reopened => exact .inr (UInt8.le_refl _)
  | begins => cases hblink
  | rests => exact .inr (UInt8.le_refl _)

/-! ## What the eyes do to the strips and the player -/

/-- From `r` to `r'` the strips had levels set and nothing else, and the player was left
alone. -/
structure SetsLevels (r r' : Rig) : Prop where
  led : ∃ levels : List UInt8, r'.led = levels.foldl (fun l level => l.setBlinkLevel level) r.led
  audio : r'.audio = r.audio

theorem SetsLevels.none {r r' : Rig} (hled : r'.led = r.led) (haudio : r'.audio = r.audio) :
    SetsLevels r r' :=
  ⟨⟨[], hled⟩, haudio⟩

theorem SetsLevels.one {r r' : Rig} {level : UInt8} (hled : r'.led = r.led.setBlinkLevel level)
    (haudio : r'.audio = r.audio) : SetsLevels r r' :=
  ⟨⟨[level], hled⟩, haudio⟩

theorem SetsLevels.trans {r r' r'' : Rig} (h₁ : SetsLevels r r') (h₂ : SetsLevels r' r'') :
    SetsLevels r r'' := by
  obtain ⟨levels₁, hled₁⟩ := h₁.led
  obtain ⟨levels₂, hled₂⟩ := h₂.led
  exact ⟨⟨levels₁ ++ levels₂, by rw [hled₂, hled₁, List.foldl_append]⟩, h₂.audio.trans h₁.audio⟩

/-- What the eyes did to their own statics first does not count. -/
theorem SetsLevels.after_motion {r r' : Rig} {m : EyeMotion}
    (h : SetsLevels { r with motion := m } r') : SetsLevels r r' :=
  ⟨h.led, h.audio⟩

/-- Setting levels keeps whatever `setBlinkLevel` keeps. -/
theorem SetsLevels.keeps {α : Type*} {r r' : Rig} (h : SetsLevels r r')
    {proj : LedController → α} (hproj : ∀ l level, proj (l.setBlinkLevel level) = proj l) :
    proj r'.led = proj r.led := by
  obtain ⟨levels, hled⟩ := h.led
  rw [hled]
  exact Loops.foldl_proj_eq hproj levels r.led

theorem setsLevels_suspendIdle (now : UInt32) (d : RearmDraws) (r : Rig) :
    SetsLevels r (suspendIdle now d r) := by
  unfold suspendIdle
  split
  · exact .one rfl rfl
  · exact .none rfl rfl

theorem setsLevels_takeOver (now : UInt32) (gp : GamepadState) (d : EyeDraws) (r : Rig) :
    SetsLevels r (takeOver now gp d r) := by
  unfold takeOver
  split
  · exact SetsLevels.after_motion (setsLevels_suspendIdle now d.suspend _)
  · exact .none rfl rfl

theorem setsLevels_updateBlink (now : UInt32) (d : EyeDraws) (r : Rig) :
    SetsLevels r (updateBlink now d r) := by
  unfold updateBlink
  split
  · dsimp only
    split
    · exact .one rfl rfl
    · split <;> exact .one rfl rfl
  · split
    -- a blink that begins leaves its level to the next tick
    · exact .none rfl rfl
    · exact .one rfl rfl

theorem setsLevels_updateEyeLevel (b : Board) (now : UInt32) (busyLow : Bool) (d : EyeDraws)
    (r : Rig) : SetsLevels r (updateEyeLevel b now busyLow d r) := by
  unfold updateEyeLevel
  split
  · exact .one rfl rfl
  · exact setsLevels_updateBlink now d r

theorem setsLevels_runIdle (b : Board) (now : UInt32) (busyLow : Bool) (d : EyeDraws) (r : Rig) :
    SetsLevels r (runIdle b now busyLow d r) := by
  unfold runIdle
  split
  · exact SetsLevels.after_motion (setsLevels_updateEyeLevel b now busyLow d _)
  · exact setsLevels_updateEyeLevel b now busyLow d r

theorem setsLevels_update (b : Board) (now : UInt32) (gp : GamepadState) (busyLow : Bool)
    (d : EyeDraws) (r : Rig) : SetsLevels r (update b now gp busyLow d r) := by
  have htake := setsLevels_takeOver now gp d r
  have hease : ∀ ease r, SetsLevels r (easeAndWrite ease r) := fun _ _ => .none rfl rfl
  simp only [update]
  split
  · split
    · exact (htake.trans (setsLevels_runIdle b now busyLow d _)).trans (hease kIdleEase _)
    · exact htake.trans (hease kIdleEase _)
  · exact htake.trans (.none rfl rfl)

theorem setsLevels_setIdleEnabled (now : UInt32) (d : RearmDraws) (enabled : Bool) (r : Rig) :
    SetsLevels r (setIdleEnabled now d enabled r) := by
  unfold setIdleEnabled
  split
  · exact .none rfl rfl
  · split
    · exact .none rfl rfl
    · exact .one rfl rfl

/-! ## `setIdleEnabled` -/

/-- Parking idle relights the eyes; waking it only re-arms the timers. -/
theorem view_setIdleEnabled (now : UInt32) (d : RearmDraws) (enabled : Bool) (r : Rig) :
    (setIdleEnabled now d enabled r).view =
      if enabled = r.view.enabled then r.view
      else if enabled then { r.view with enabled := true }
      else { r.view with enabled := false, blinking := false, level := kEyeRestLevel } := by
  have hsame : r.view.enabled = r.motion.sIdleEnabled := rfl
  unfold setIdleEnabled
  rw [hsame]
  split
  · rfl
  · split
    · exact view_rearm now d { r with motion := { r.motion with sIdleEnabled := true } }
    · simp [Rig.view]

end EyeMotion

end K2soHead
