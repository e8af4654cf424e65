import K2soHead.Properties.EyeRuns

/-!
# Eyes left dark, and speech that does not win

Only the idle branch refreshes the eye level, and `suspendIdle` relights the eyes only out
of a blink.  A stick that takes over in the middle of a dip therefore keeps the dip, and a
line spoken while the stick has the eyes does not brighten them.
-/

namespace K2soHead

namespace EyeRun

open Runs WrappingClock EyeMotion

/-! ## Times since a play command and since a blink -/

/-- The last play command went out less than the dip window ago, in real time. -/
def PlayFresh (s : EyeRun) : Prop :=
  ∃ t, s.playedAt = some t ∧ s.clock - t < kSpeechDipWindowMs

/-- It looks like that to the code. -/
def ReadsFresh (s : EyeRun) : Prop :=
  (s.rig.audio.sinceLastPlayCommand (millis s.clock)).toNat < kSpeechDipWindowMs

/-- The blink that began last is not over, in real time. -/
def BlinkFresh (s : EyeRun) : Prop :=
  s.clock - s.blinkAt < kBlinkClosedMs + kBlinkOpenMs

/-- The blink has not reopened to the resting level yet, as the code sees it. -/
def ReadsShut (s : EyeRun) : Prop :=
  -- the ramp passes the resting level 204 ms after the blink began
  age (millis s.clock) s.rig.view.blinkStart < 204

/-- A fresh play command always looks fresh. -/
theorem Consistent.readsFresh {s : EyeRun} (h : s.Consistent) (hfresh : s.PlayFresh) :
    s.ReadsFresh := by
  obtain ⟨t, hplayed, hage⟩ := hfresh
  -- a 32-bit age is never more than the real one
  have hmod := Nat.mod_le (s.clock - t) (2 ^ 32)
  rw [ReadsFresh, h.sinceLastPlayCommand hplayed (Nat.le_refl _)]
  omega

/-- While a blink reopens, its level is below rest for the first 204 ms. -/
theorem blinkLevel_lt_rest_iff {elapsed : ℕ} (h : elapsed < kBlinkClosedMs + kBlinkOpenMs) :
    blinkLevel elapsed < kEyeRestLevel ↔ elapsed < 204 := by
  have hrest : kEyeRestLevel.toNat = 236 := rfl
  rw [UInt8.lt_iff_toNat_lt, blinkLevel_toNat h, hrest]
  unfold kBlinkClosedMs kBlinkOpenMs at h
  omega

/-! ## The law and the condition -/

/-- What a tick must leave: eyes below rest only in a blink of idle, or in the dip of a play
command just sent. -/
def LeavesLit (b : Board) (s : EyeRun) (gp : GamepadState) (busyLow : Bool) (d : EyeDraws) :
    Prop :=
  let s' := act b s (.update gp busyLow d)
  s'.rig.view.level < kEyeRestLevel →
    (s'.rig.view.blinking = true ∧ s'.BlinkFresh ∧ s'.rig.view.enabled = true ∧
      idle (millis s.clock) gp (takeOver (millis s.clock) gp d s.rig).motion = true) ∨
    s'.PlayFresh

/-- A tick that cannot strand the eyes.  Driven, it finds no dip still standing, unless the
play command is fresh, and a blink only where the stick is active or the blink is bright
again.  Idle and without speech, it does not take a wrapped age for a young one. -/
structure StrandsNothing (s : EyeRun) (gp : GamepadState) (busyLow : Bool) : Prop where
  driven : driven (millis s.clock) gp s.rig.motion = true → s.PlayFresh ∨
    (s.rig.view.blinking = false ∧ s.rig.view.level ≠ kSpeechDipLevel) ∨
    (s.rig.view.blinking = true ∧ (stickActive gp = true ∨ kEyeRestLevel ≤ s.rig.view.level))
  dip : EyeMotion.driven (millis s.clock) gp s.rig.motion = false → s.rig.view.enabled = true →
    s.rig.audio.isPlaying busyLow = false → s.ReadsFresh → s.PlayFresh
  blink : EyeMotion.driven (millis s.clock) gp s.rig.motion = false → s.rig.view.enabled = true →
    s.rig.audio.isPlaying busyLow = false → ¬ s.ReadsFresh → s.rig.view.blinking = true →
    s.ReadsShut → s.BlinkFresh

/-! ## One tick -/

theorem level_lt_rest_of_dip : kSpeechDipLevel < kEyeRestLevel := by decide

theorem not_lt_of_rest_le {level : UInt8} (h : kEyeRestLevel ≤ level) : ¬ level < kEyeRestLevel :=
  UInt8.not_lt.mpr h

/-- With no blink in flight, eyes below rest are in a dip. -/
theorem Consistent.lt_rest_iff {s : EyeRun} (h : s.Consistent)
    (hrested : s.rig.view.blinking = false) :
    s.rig.view.level < kEyeRestLevel ↔ s.rig.view.level = kSpeechDipLevel := by
  rcases h.settled hrested with hdip | hlit
  · exact iff_of_true (hdip ▸ level_lt_rest_of_dip) hdip
  · refine iff_of_false (not_lt_of_rest_le hlit) fun hdip => ?_
    exact not_lt_of_rest_le (hdip ▸ hlit) level_lt_rest_of_dip

/-- On a driven tick that finds no blink, or leaves it as it is, the level stays. -/
theorem Consistent.driven_iff {s : EyeRun} (h : s.Consistent) {gp : GamepadState}
    (hstays : s.rig.view.blinking = true → stickActive gp = false) :
    (s.rig.view.level < kEyeRestLevel → s.PlayFresh) ↔
      s.PlayFresh ∨ (s.rig.view.blinking = false ∧ s.rig.view.level ≠ kSpeechDipLevel) ∨
        (s.rig.view.blinking = true ∧
          (stickActive gp = true ∨ kEyeRestLevel ≤ s.rig.view.level)) := by
  cases hblink : s.rig.view.blinking with
  -- no blink in flight: below rest is the dip
  | false =>
    rw [h.lt_rest_iff hblink]
    constructor
    · intro hdip
      by_cases hlevel : s.rig.view.level = kSpeechDipLevel
      · exact .inl (hdip hlevel)
      · exact .inr (.inl ⟨rfl, hlevel⟩)
    · rintro (hfresh | ⟨-, hlevel⟩ | ⟨hno, -⟩) hdip
      · exact hfresh
      · exact absurd hdip hlevel
      · cases hno
  | true =>
    have hcentred := hstays hblink
    constructor
    · intro hdim
      by_cases hlevel : s.rig.view.level < kEyeRestLevel
      · exact .inl (hdim hlevel)
      · exact .inr (.inr ⟨rfl, .inr (UInt8.not_lt.mp hlevel)⟩)
    · rintro (hfresh | ⟨hno, -⟩ | ⟨-, hactive | hlit⟩) hdim
      · exact hfresh
      · cases hno
      · rw [hcentred] at hactive
        cases hactive
      · exact absurd hdim (not_lt_of_rest_le hlit)

theorem strandsNothing_of_driven {s : EyeRun} {gp : GamepadState} {busyLow : Bool}
    (hdriven : EyeMotion.driven (millis s.clock) gp s.rig.motion = true) :
    s.StrandsNothing gp busyLow ↔ s.PlayFresh ∨
      (s.rig.view.blinking = false ∧ s.rig.view.level ≠ kSpeechDipLevel) ∨
      (s.rig.view.blinking = true ∧
        (stickActive gp = true ∨ kEyeRestLevel ≤ s.rig.view.level)) := by
  -- the two clauses about idle ticks are vacuous here
  refine ⟨fun h => h.driven hdriven, fun h => ⟨fun _ => h, ?_, ?_⟩⟩
  · intro hidle
    rw [hdriven] at hidle
    cases hidle
  · intro hidle
    rw [hdriven] at hidle
    cases hidle

/-- An idle tick strands nothing if it is parked, spoken over, or reads every age right. -/
theorem strandsNothing_of_idle {s : EyeRun} {gp : GamepadState} {busyLow : Bool}
    (hidle : EyeMotion.driven (millis s.clock) gp s.rig.motion = false) :
    s.StrandsNothing gp busyLow ↔
      (s.rig.view.enabled = true → s.rig.audio.isPlaying busyLow = false →
        (s.ReadsFresh → s.PlayFresh) ∧
        (¬ s.ReadsFresh → s.rig.view.blinking = true → s.ReadsShut → s.BlinkFresh)) := by
  constructor
  · intro h henabled hquiet
    exact ⟨h.dip hidle henabled hquiet, h.blink hidle henabled hquiet⟩
  · intro h
    refine ⟨?_, fun _ henabled hquiet => (h henabled hquiet).1,
      fun _ henabled hquiet => (h henabled hquiet).2⟩
    intro hdriven
    rw [hidle] at hdriven
    cases hdriven

/-- An idle tick with no fresh command in sight strands nothing unless it finds a blink shut. -/
theorem strandsNothing_of_stale {s : EyeRun} {gp : GamepadState} {busyLow : Bool}
    (hidle : EyeMotion.driven (millis s.clock) gp s.rig.motion = false) (hstale : ¬ s.ReadsFresh)
    (hopen : s.rig.view.blinking = true → ¬ s.ReadsShut) : s.StrandsNothing gp busyLow := by
  refine (strandsNothing_of_idle hidle).mpr fun _ _ => ⟨fun hreads => ?_, fun _ hblink hshut => ?_⟩
  · exact absurd hreads hstale
  · exact absurd hshut (hopen hblink)

/-- What speech leaves to blinking: no sound, and no play command that reads as fresh. -/
theorem quiet_of_speechLevel_none {s : EyeRun} {busyLow : Bool}
    (h : speechLevel (millis s.clock) busyLow s.rig.audio = none) :
    s.rig.audio.isPlaying busyLow = false ∧ ¬ s.ReadsFresh := by
  unfold speechLevel at h
  split at h
  · cases h
  · rename_i hquiet
    split at h
    · cases h
    · rename_i hstale
      exact ⟨Bool.eq_false_of_not_eq_true hquiet, hstale⟩

/-- What speech does when it has the eyes: full brightness, or the dip. -/
theorem speech_of_speechLevel_some {s : EyeRun} {busyLow : Bool} {level : UInt8}
    (h : speechLevel (millis s.clock) busyLow s.rig.audio = some level) :
    (s.rig.audio.isPlaying busyLow = true ∧ level = kSpeechActiveLevel) ∨
      (s.rig.audio.isPlaying busyLow = false ∧ s.ReadsFresh ∧ level = kSpeechDipLevel) := by
  unfold speechLevel at h
  split at h
  · rename_i hplaying
    exact .inl ⟨hplaying, (Option.some.inj h).symm⟩
  · rename_i hquiet
    split at h
    · rename_i hreads
      exact .inr ⟨Bool.eq_false_of_not_eq_true hquiet, hreads, (Option.some.inj h).symm⟩
    · cases h

/-- A tick leaves the eyes lit exactly when it strands nothing. -/
theorem Consistent.leavesLit_iff {s : EyeRun} (h : s.Consistent) {b : Board}
    (haudio : b.audio.isSome = true) (gp : GamepadState) (busyLow : Bool) (d : EyeDraws) :
    s.LeavesLit b gp busyLow d ↔ s.StrandsNothing gp busyLow := by
  have hout := update_outcome b (millis s.clock) gp busyLow d s.rig
  have hrest : kEyeRestLevel ≤ kSpeechActiveLevel := by decide
  unfold LeavesLit
  simp only [act, BlinkFresh, PlayFresh, idle_takeOver]
  generalize EyeMotion.update b (millis s.clock) gp busyLow d s.rig = rig at hout ⊢
  generalize rig.view = v at hout ⊢
  cases hout with
  | takenOver hactive =>
    have hdriven : EyeMotion.driven (millis s.clock) gp s.rig.motion = true := by
      rw [EyeMotion.driven, hactive, Bool.true_or]
    rw [strandsNothing_of_driven hdriven]
    cases hblink : s.rig.view.blinking with
    | true =>
      -- the one case `suspendIdle` handles
      refine iff_of_true (fun hdim => ?_) (.inr (.inr ⟨rfl, .inl hactive⟩))
      exact absurd hdim (not_lt_of_rest_le (UInt8.le_refl _))
    | false =>
      have hstays : s.rig.view.blinking = true → stickActive gp = false := by
        rw [hblink]
        exact fun hno => absurd hno Bool.false_ne_true
      -- out of a blink the take-over leaves the level standing
      have hstands := h.driven_iff hstays
      rw [hblink] at hstands
      rw [← hstands]
      simp [PlayFresh]
  | held hcentred hdriven =>
    rw [strandsNothing_of_driven hdriven, ← h.driven_iff fun _ => hcentred, hdriven]
    simp [PlayFresh]
  | parked hidle hparked =>
    refine iff_of_true (fun hdim => ?_) ((strandsNothing_of_idle hidle).mpr fun henabled => ?_)
    · exact absurd hdim (not_lt_of_rest_le (h.parked hparked).2)
    · rw [hparked] at henabled
      cases henabled
  | speech hidle henabled _ hlevel =>
    rw [strandsNothing_of_idle hidle]
    rcases speech_of_speechLevel_some hlevel with ⟨hplaying, rfl⟩ | ⟨hquiet, hreads, rfl⟩
    · refine iff_of_true (fun hdim => absurd hdim (not_lt_of_rest_le hrest)) fun _ hquiet => ?_
      rw [hplaying] at hquiet
      cases hquiet
    · -- the dip: right exactly when the command is as fresh as it looks
      constructor
      · intro hlit _ _
        rcases hlit level_lt_rest_of_dip with ⟨hno, -⟩ | hfresh
        · cases hno
        · exact ⟨fun _ => hfresh, fun hstale => absurd hreads hstale⟩
      · intro hreadings _
        exact .inr ((hreadings henabled hquiet).1 hreads)
  | blinks hidle henabled hspeech hblinking helapsed =>
    obtain ⟨hquiet, hstale⟩ := quiet_of_speechLevel_none (hspeech haudio)
    rw [strandsNothing_of_idle hidle]
    -- speech has stood down, so only the blink itself can excuse a dim eye
    have hnotfresh : ¬ s.PlayFresh := fun hfresh => hstale (h.readsFresh hfresh)
    have hshut : blinkLevel (age (millis s.clock) s.rig.view.blinkStart) < kEyeRestLevel ↔
        s.ReadsShut := blinkLevel_lt_rest_iff helapsed
    simp only [hshut, hblinking, Bool.not_true, Bool.and_false, Bool.false_eq_true, if_false,
      henabled, hidle, Bool.not_false, and_true, true_and, forall_true_left, hquiet, hstale,
      false_implies, not_false_eq_true]
    constructor
    · intro hlit hshut
      exact (hlit hshut).resolve_right hnotfresh
    · intro hfresh hshut
      exact .inl (hfresh hshut)
  | reopened hidle _ hspeech _ helapsed =>
    obtain ⟨-, hstale⟩ := quiet_of_speechLevel_none (hspeech haudio)
    refine iff_of_true (fun hdim => absurd hdim (not_lt_of_rest_le (UInt8.le_refl _)))
      (strandsNothing_of_stale hidle hstale fun _ hshut => ?_)
    unfold ReadsShut at hshut
    unfold kBlinkClosedMs kBlinkOpenMs at helapsed
    omega
  | begins hidle henabled hspeech hrested =>
    obtain ⟨-, hstale⟩ := quiet_of_speechLevel_none (hspeech haudio)
    refine iff_of_true (fun _ => .inl ⟨rfl, ?_, henabled, ?_⟩)
      (strandsNothing_of_stale hidle hstale fun hblink => ?_)
    · simp [hrested, kBlinkClosedMs]
    · rw [hidle, Bool.not_false]
    · rw [hrested] at hblink
      cases hblink
  | rests hidle _ hspeech hrested =>
    obtain ⟨-, hstale⟩ := quiet_of_speechLevel_none (hspeech haudio)
    refine iff_of_true (fun hdim => absurd hdim (not_lt_of_rest_le (UInt8.le_refl _)))
      (strandsNothing_of_stale hidle hstale fun hblink => ?_)
    rw [hrested] at hblink
    cases hblink

/-! ## Every run -/

/-- The law on the ticks of a run. -/
def LeavesLitOn (b : Board) (s : EyeRun) (e : EyeEvent) : Prop :=
  match e.action with
  | .update gp busyLow d => (s.wait e.wait).LeavesLit b gp busyLow d
  | _ => True

/-- The condition on the ticks of a run. -/
def StrandsNothingOn (s : EyeRun) (e : EyeEvent) : Prop :=
  match e.action with
  | .update gp busyLow _ => (s.wait e.wait).StrandsNothing gp busyLow
  | _ => True

/-- In every run from `begin`, each tick leaves the eyes lit if and only if each tick strands
nothing. -/
theorem eyes_lit_iff_strands_nothing (b : Board) (haudio : b.audio.isSome = true) (t : ℕ)
    (d : RearmDraws) (events : List EyeEvent) :
    Along (step b) (LeavesLitOn b) (start b t d) events ↔
      Along (step b) StrandsNothingOn (start b t d) events := by
  have hstep : ∀ s e, Consistent s → (s.LeavesLitOn b e ↔ s.StrandsNothingOn e) := by
    intro s e h
    unfold LeavesLitOn StrandsNothingOn
    cases e.action with
    | update gp busyLow d => exact (h.wait e.wait).leavesLit_iff haudio gp busyLow d
    | _ => exact Iff.rfl
  exact along_congr (fun _ e h => h.step b e) hstep (consistent_start b t d) events

/-- A pad with the right stick pushed all the way. -/
def pushedStick : GamepadState := { connected := true, axisRX := 512 }

/-- A clip is asked for, the eyes dip, and the stick takes over before the module sounds:
half a second after the command the eyes are still in the dip. -/
theorem dip_stranded_by_stick :
    let b := esp32DevKitC fun _ => 0
    let events : List EyeEvent :=
      [⟨1000, .play 1⟩, ⟨10, .update {} false lowestDraws⟩,
        ⟨500, .update pushedStick false lowestDraws⟩]
    ¬ Along (step b) (LeavesLitOn b) (start b 0 lowestRearm) events := by
  intro b events
  rintro ⟨-, -, hlit, -⟩
  let s := step b (step b (start b 0 lowestRearm) ⟨1000, .play 1⟩)
    ⟨10, .update {} false lowestDraws⟩
  have hdim : (act b (s.wait 500) (.update pushedStick false lowestDraws)).rig.view.level <
      kEyeRestLevel := by decide
  rcases hlit hdim with ⟨hblinking, -⟩ | ⟨t, hplayed, hage⟩
  · exact absurd hblinking (by decide)
  · obtain rfl := Option.some.inj hplayed
    exact absurd hage (by decide)

/-- The same clip with the stick left alone: the dip is over in time. -/
theorem dip_over_without_stick :
    let b := esp32DevKitC fun _ => 0
    let events : List EyeEvent :=
      [⟨1000, .play 1⟩, ⟨10, .update {} false lowestDraws⟩, ⟨500, .update {} false lowestDraws⟩]
    Along (step b) (LeavesLitOn b) (start b 0 lowestRearm) events := by
  intro b events
  refine (eyes_lit_iff_strands_nothing b rfl 0 lowestRearm events).mpr ⟨trivial, ?_, ?_, trivial⟩
  · -- ten milliseconds after the command it is as fresh as it reads
    refine (strandsNothing_of_idle (by decide)).mpr fun _ _ => ⟨fun _ => ⟨1000, rfl, by decide⟩, ?_⟩
    intro _ hblinking
    exact absurd hblinking (by decide)
  · refine (strandsNothing_of_idle (by decide)).mpr fun _ _ => ⟨fun hreads => ?_, ?_⟩
    · exact absurd hreads (by unfold ReadsFresh; decide)
    · intro _ hblinking
      exact absurd hblinking (by decide)

/-! ## Speech -/

/-- With BUSY low, idle gives the eyes to speech, and a stick that has them leaves speech only
what it already had. -/
theorem speech_wins_on_tick {b : Board} {s : EyeRun} (haudio : b.audio.isSome = true)
    (hbusy : s.rig.audio.sBusyGpio.isSome = true) (henabled : s.rig.view.enabled = true)
    (gp : GamepadState) (d : EyeDraws) :
    let v := (act b s (.update gp true d)).rig.view
    (v.level = kSpeechActiveLevel ∧ v.blinking = false) ↔
      driven (millis s.clock) gp s.rig.motion = false ∨
        (s.rig.view.level = kSpeechActiveLevel ∧ s.rig.view.blinking = false) := by
  have hout := update_outcome b (millis s.clock) gp true d s.rig
  have hspeech := speechLevel_of_busy hbusy (millis s.clock)
  have hrest : kEyeRestLevel ≠ kSpeechActiveLevel := by decide
  simp only [act]
  generalize EyeMotion.update b (millis s.clock) gp true d s.rig = rig at hout ⊢
  generalize rig.view = v at hout ⊢
  -- with BUSY low the four outcomes that need silence are impossible
  have hnotquiet : ¬ (b.audio.isSome = true →
      speechLevel (millis s.clock) true s.rig.audio = none) := by
    intro hquiet
    rw [hspeech] at hquiet
    cases hquiet haudio
  cases hout with
  | takenOver hactive =>
    have hdriven : driven (millis s.clock) gp s.rig.motion = true := by
      rw [driven, hactive, Bool.true_or]
    rw [hdriven]
    cases hblink : s.rig.view.blinking <;> simp [hrest]
  -- nothing on this branch looks at BUSY
  | held hcentred hdriven =>
    rw [hdriven]
    simp
  | parked hidle hparked =>
    rw [hparked] at henabled
    cases henabled
  | speech hidle _ _ hlevel =>
    rw [hspeech] at hlevel
    exact iff_of_true ⟨(Option.some.inj hlevel).symm, rfl⟩ (.inl hidle)
  | blinks _ _ hquiet => exact absurd hquiet hnotquiet
  | reopened _ _ hquiet => exact absurd hquiet hnotquiet
  | begins _ _ hquiet => exact absurd hquiet hnotquiet
  | rests _ _ hquiet => exact absurd hquiet hnotquiet

/-- In every reachable state with idle enabled, a tick with BUSY low leaves full brightness
and no blink if and only if idle has the eyes on that tick or they already were so. -/
theorem speech_wins_iff (b : Board) (hwired : b.BusyWired) (t : ℕ) (d : RearmDraws)
    (events : List EyeEvent) (n : ℕ) (gp : GamepadState) (draws : EyeDraws)
    (henabled : (run (step b) (start b t d) events).rig.view.enabled = true) :
    let s := (run (step b) (start b t d) events).wait n
    let v := (act b s (.update gp true draws)).rig.view
    (v.level = kSpeechActiveLevel ∧ v.blinking = false) ↔
      driven (millis s.clock) gp s.rig.motion = false ∨
        (s.rig.view.level = kSpeechActiveLevel ∧ s.rig.view.blinking = false) := by
  intro s
  have hbusy : s.rig.audio.sBusyGpio.isSome = true := busy_run hwired t d events
  have henabled' : s.rig.view.enabled = true := henabled
  exact speech_wins_on_tick hwired.audio_isSome hbusy henabled' gp draws

/-- A clip plays while the stick drives the eyes: they stay at rest. -/
theorem speech_ignored_while_driven :
    let b := esp32DevKitC fun _ => 0
    let s := (step b (start b 0 lowestRearm) ⟨30, .update {} false lowestDraws⟩).wait 30
    let v := (act b s (.update pushedStick true lowestDraws)).rig.view
    s.rig.view.enabled = true ∧ ¬ (v.level = kSpeechActiveLevel ∧ v.blinking = false) := by
  intro b s v
  have hdim : v.level ≠ kSpeechActiveLevel := by decide
  exact ⟨by decide, fun hwins => hdim hwins.1⟩

/-- The same clip with no pad connected brightens them. -/
theorem speech_wins_without_pad :
    let b := esp32DevKitC fun _ => 0
    let s := (step b (start b 0 lowestRearm) ⟨30, .update {} false lowestDraws⟩).wait 30
    let v := (act b s (.update {} true lowestDraws)).rig.view
    v.level = kSpeechActiveLevel ∧ v.blinking = false := by
  intro b
  have hwired : b.BusyWired := ⟨16, rfl⟩
  exact (speech_wins_iff b hwired 0 lowestRearm [⟨30, .update {} false lowestDraws⟩] 30 {}
    lowestDraws (by decide)).mpr (.inl (by decide))

end EyeRun

end K2soHead
