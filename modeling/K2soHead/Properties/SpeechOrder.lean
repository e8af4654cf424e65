import K2soHead.Properties.EyeLevel
import K2soHead.Properties.TickLevels

/-!
# The dip and the clip

The dip is decided from the time since the play command alone, the surge from the BUSY line
alone, and nothing remembers that the clip has sounded.  A clip shorter than the rest of the
dip window therefore ends in a second dip.
-/

namespace K2soHead

namespace EyeRun

open Runs WrappingClock EyeMotion

/-! ## Levels around a clip -/

/-- BUSY is low exactly during `[t₁, t₂)`. -/
def BusyDuring (t₁ t₂ : ℕ) (s : EyeRun) (e : Tick) : Prop :=
  e.busyLow = decide (t₁ ≤ s.timeOf e ∧ s.timeOf e < t₂)

instance (t₁ t₂ : ℕ) (s : EyeRun) (e : Tick) : Decidable (s.BusyDuring t₁ t₂ e) :=
  inferInstanceAs (Decidable (_ = _))

/-- On a tick `setBlinkLevel` is told the dip level only before the clip, and full brightness all
through it. -/
structure DipThenSurge (b : Board) (t₁ t₂ : ℕ) (s : EyeRun) (e : Tick) : Prop where
  told : s.Told b e
  dip : s.tickLevel b e = some kSpeechDipLevel → s.timeOf e < t₁
  surge : t₁ ≤ s.timeOf e → s.timeOf e < t₂ → s.tickLevel b e = some kSpeechActiveLevel

/-- After the clip, a tick finds the dip window over as the clock reads it, and no blink at the
one age at which its ramp passes the dip level. -/
structure DipIsOver (t₀ t₂ : ℕ) (s : EyeRun) (e : Tick) : Prop where
  window : t₂ ≤ s.timeOf e → kSpeechDipWindowMs ≤ (s.timeOf e - t₀) % 2 ^ 32
  ramp : t₂ ≤ s.timeOf e → s.rig.view.blinking = true →
    age (millis (s.timeOf e)) s.rig.view.blinkStart ≠ 145

theorem dipIsOver_of_lt {t₀ t₂ : ℕ} {s : EyeRun} {e : Tick} (h : s.timeOf e < t₂) :
    s.DipIsOver t₀ t₂ e :=
  ⟨fun hafter => absurd h (Nat.not_lt.mpr hafter), fun hafter => absurd h (Nat.not_lt.mpr hafter)⟩

/-- While a blink is in flight its level is that of the dip at one age. -/
theorem blinkLevel_eq_dip_iff {elapsed : ℕ} (h : elapsed < kBlinkClosedMs + kBlinkOpenMs) :
    blinkLevel elapsed = kSpeechDipLevel ↔ elapsed = 145 := by
  have hdip : kSpeechDipLevel.toNat = 70 := rfl
  rw [← UInt8.toNat_inj, blinkLevel_toNat h, hdip]
  unfold kBlinkClosedMs kBlinkOpenMs at h
  omega

/-- Blinking sets the dip level at that age and never else. -/
theorem blinkLevelSet_eq_dip_iff {now : UInt32} {m : EyeMotion} :
    blinkLevelSet now m = some kSpeechDipLevel ↔
      m.sBlinking = true ∧ age now m.sBlinkStartMs = 145 := by
  have hrest : kEyeRestLevel ≠ kSpeechDipLevel := by decide
  unfold blinkLevelSet
  split
  · rename_i hblink
    split
    · rename_i hflight
      rw [Option.some_inj, blinkLevel_eq_dip_iff hflight, hblink, eq_self_iff_true, true_and]
    · rename_i hover
      unfold kBlinkClosedMs kBlinkOpenMs at hover
      refine iff_of_false (fun h => hrest (Option.some.inj h)) ?_
      rintro ⟨-, hage⟩
      omega
  · rename_i hrested
    split
    · exact iff_of_false (fun h => by cases h) fun h => hrested h.1
    · exact iff_of_false (fun h => hrest (Option.some.inj h)) fun h => hrested h.1

/-! ## One tick -/

/-- What holds through the stretch: the eyes agree with their history, BUSY is wired, and the
last play command went out at `t₀`. -/
structure PlayedAt (t₀ : ℕ) (s : EyeRun) : Prop where
  consistent : s.Consistent
  busy : s.rig.audio.sBusyGpio.isSome = true
  played : s.playedAt = some t₀

theorem PlayedAt.tick {t₀ : ℕ} {s : EyeRun} (h : s.PlayedAt t₀) (b : Board) (e : Tick) :
    (tick b s e).PlayedAt t₀ where
  consistent := h.consistent.step b _
  busy := (congrArg Option.isSome (sBusyGpio_step b s _)).trans h.busy
  played := h.played

/-- With BUSY high speech asks for the dip while the command reads as fresh, and for nothing
else. -/
theorem PlayedAt.speech_of_quiet {t₀ : ℕ} {s : EyeRun} (h : s.PlayedAt t₀) {t : ℕ}
    (ht : s.clock ≤ t) :
    speechLevel (millis t) false s.rig.audio =
      if (t - t₀) % 2 ^ 32 < kSpeechDipWindowMs then some kSpeechDipLevel else none := by
  have hquiet : s.rig.audio.isPlaying false = false := by
    rw [AudioPlayer.isPlaying, Bool.and_false]
  rw [speechLevel, hquiet, if_neg Bool.false_ne_true,
    h.consistent.sinceLastPlayCommand h.played ht]

/-- On a tick after the clip the dip level is set in the two ways `DipIsOver` rules out. -/
theorem PlayedAt.dip_iff {b : Board} (hfitted : b.audio.isSome = true) {t₀ : ℕ} {s : EyeRun}
    (h : s.PlayedAt t₀) {e : Tick} (hcontrol : s.IdleInControl e) (hquiet : e.busyLow = false) :
    s.tickLevel b e = some kSpeechDipLevel ↔
      (s.timeOf e - t₀) % 2 ^ 32 < kSpeechDipWindowMs ∨
        (s.rig.view.blinking = true ∧
          age (millis (s.timeOf e)) s.rig.view.blinkStart = 145) := by
  have hle : s.clock ≤ s.timeOf e := Nat.le_add_right _ _
  rw [hcontrol.tickLevel_eq, eyeLevelSet, if_pos hfitted, hquiet, h.speech_of_quiet hle]
  split
  · rename_i hfresh
    exact iff_of_true rfl (.inl hfresh)
  · rename_i hstale
    rw [Option.none_or, blinkLevelSet_eq_dip_iff, or_iff_right hstale]
    rfl

/-- A tick is in order if and only if the dip is over by then. -/
theorem PlayedAt.dipThenSurge_iff {b : Board} (hfitted : b.audio.isSome = true)
    {t₀ t₁ t₂ : ℕ} (hclip : t₁ < t₂) {s : EyeRun} (h : s.PlayedAt t₀) {e : Tick}
    (hcontrol : s.IdleInControl e) (hbusy : s.BusyDuring t₁ t₂ e) :
    s.DipThenSurge b t₁ t₂ e ↔ s.DipIsOver t₀ t₂ e := by
  have hsurge : t₁ ≤ s.timeOf e → s.timeOf e < t₂ →
      s.tickLevel b e = some kSpeechActiveLevel := by
    intro hstarted hsounding
    have hlow : e.busyLow = true := hbusy.trans (decide_eq_true ⟨hstarted, hsounding⟩)
    rw [hcontrol.tickLevel_eq, eyeLevelSet, if_pos hfitted, hlow, speechLevel_of_busy h.busy,
      Option.some_or]
  have hbright : some kSpeechActiveLevel ≠ some kSpeechDipLevel := by decide
  -- before the clip there is nothing to show, during it the surge settles both
  by_cases hafter : t₂ ≤ s.timeOf e
  · have hquiet : e.busyLow = false :=
      hbusy.trans (decide_eq_false fun hnow => Nat.not_lt.mpr hafter hnow.2)
    have hdip := h.dip_iff hfitted hcontrol hquiet
    constructor
    · intro horder
      have hnever : ¬ s.tickLevel b e = some kSpeechDipLevel := fun hset => by
        have hbefore := horder.dip hset
        omega
      rw [hdip, not_or, not_lt] at hnever
      exact ⟨fun _ => hnever.1, fun _ hblink hage => hnever.2 ⟨hblink, hage⟩⟩
    · intro hover
      refine ⟨led_tick b s e, fun hset => ?_, hsurge⟩
      rcases hdip.mp hset with hfresh | ⟨hblink, hage⟩
      · exact absurd hfresh (Nat.not_lt.mpr (hover.window hafter))
      · exact absurd hage (hover.ramp hafter hblink)
  · refine iff_of_true ⟨led_tick b s e, fun hset => ?_, hsurge⟩
      (dipIsOver_of_lt (Nat.lt_of_not_le hafter))
    by_contra hstarted
    rw [hsurge (Nat.le_of_not_lt hstarted) (Nat.lt_of_not_le hafter)] at hset
    exact hbright hset

/-! ## Every run -/

/-- A play command after any run from `begin`. -/
def afterPlay (b : Board) (t : ℕ) (d : RearmDraws) (before : List EyeEvent) (n : ℕ)
    (track : UInt16) : EyeRun :=
  step b (run (step b) (start b t d) before) ⟨n, .play track⟩

theorem playedAt_afterPlay {b : Board} (hwired : b.BusyWired) (t : ℕ) (d : RearmDraws)
    (before : List EyeEvent) (n : ℕ) (track : UInt16) :
    (afterPlay b t d before n track).PlayedAt (afterPlay b t d before n track).clock where
  consistent := (consistent_run b t d before).step b _
  busy := (congrArg Option.isSome (sBusyGpio_step b _ _)).trans (busy_run hwired t d before)
  played := rfl

/-- However the run got there: with idle in control from a play command on, and BUSY low exactly
during `[t₁, t₂)`, dip and clip come in order if and only if no tick after the clip falls into
the dip window or onto the one age at which a blink passes the dip level. -/
theorem dip_before_clip_iff (b : Board) (hwired : b.BusyWired) (t : ℕ) (d : RearmDraws)
    (before : List EyeEvent) (n : ℕ) (track : UInt16) (t₁ t₂ : ℕ) (hclip : t₁ < t₂)
    (ticks : List Tick)
    (hcontrol : Along (tick b) IdleInControl (afterPlay b t d before n track) ticks)
    (hbusy : Along (tick b) (BusyDuring t₁ t₂) (afterPlay b t d before n track) ticks) :
    Along (tick b) (DipThenSurge b t₁ t₂) (afterPlay b t d before n track) ticks ↔
      Along (tick b) (DipIsOver (afterPlay b t d before n track).clock t₂)
        (afterPlay b t d before n track) ticks := by
  have hboth := along_and.mpr ⟨hcontrol, hbusy⟩
  refine along_congr_of_kept (fun s e h _ _ => h.tick b e) (fun s e h hnow => ?_)
    (playedAt_afterPlay hwired t d before n track) hboth
  exact h.dipThenSurge_iff hwired.audio_isSome hclip hnow.1 hnow.2

/-- An update with no pad connected. -/
def restingTick (wait : ℕ) (busyLow : Bool) : Tick := ⟨wait, {}, busyLow, lowestDraws⟩

/-- A clip that sounds from 100 to 200 ms after the command: the tick after it dips again. -/
theorem dip_again_after_short_clip :
    let b := esp32DevKitC fun _ => 0
    let s := afterPlay b 0 lowestRearm [] 1000 1
    let ticks := [restingTick 30 false, restingTick 80 true, restingTick 100 false]
    s.clock = 1000 ∧ Along (tick b) IdleInControl s ticks ∧
      Along (tick b) (BusyDuring 1100 1200) s ticks ∧
      ¬ Along (tick b) (DipThenSurge b 1100 1200) s ticks := by
  intro b s ticks
  refine ⟨rfl, idleInControl_of_disconnected b rfl (by decide), by decide, ?_⟩
  rintro ⟨-, -, ⟨-, hdip, -⟩, -⟩
  -- the last tick comes 210 ms after the command and 10 ms after the clip
  exact absurd (hdip (by decide)) (by decide)

/-- A clip that outlasts the window: no dip after it. -/
theorem no_dip_after_long_clip :
    let b := esp32DevKitC fun _ => 0
    let ticks := [restingTick 30 false, restingTick 80 true, restingTick 400 false]
    Along (tick b) (DipThenSurge b 1100 1500) (afterPlay b 0 lowestRearm [] 1000 1) ticks := by
  intro b ticks
  have hwired : b.BusyWired := ⟨_, rfl⟩
  refine (dip_before_clip_iff b hwired 0 lowestRearm [] 1000 1 1100 1500 (by decide) ticks
    (idleInControl_of_disconnected b rfl (by decide)) (by decide)).mpr ?_
  refine ⟨dipIsOver_of_lt (by decide), dipIsOver_of_lt (by decide),
    ⟨fun _ => by decide, fun _ hblink => ?_⟩, trivial⟩
  exact absurd hblink (by decide)

end EyeRun

end K2soHead
