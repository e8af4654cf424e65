import K2soHead.Properties.IdlePacing
import K2soHead.Properties.SpeechOrder
import Mathlib.Data.List.Chain
import Mathlib.Data.List.TakeWhile

/-!
# How a blink reopens

The ramp of a blink runs up to full brightness, the eyes rest below it, and the end of the blink
sets the resting level outright.  A tick in the last six milliseconds of the ramp therefore shows
the eyes brighter than at rest, and the next one steps back down.
-/

namespace K2soHead

namespace EyeMotion

/-- How long a blink is in flight. -/
def blinkMs : ℕ := kBlinkClosedMs + kBlinkOpenMs

theorem blinkLevel_le_rest_iff {elapsed : ℕ} (h : elapsed < blinkMs) :
    blinkLevel elapsed ≤ kEyeRestLevel ↔ elapsed < 204 := by
  have hrest : kEyeRestLevel.toNat = 236 := rfl
  rw [UInt8.le_iff_toNat_le, blinkLevel_toNat h, hrest]
  unfold blinkMs kBlinkClosedMs kBlinkOpenMs at h
  omega

/-- Past the shut phase every millisecond counts, so only an earlier age is darker. -/
theorem blinkLevel_le_iff {earlier later : ℕ} (h : earlier < blinkMs) (h' : later < blinkMs) :
    blinkLevel earlier ≤ blinkLevel later ↔ earlier ≤ kBlinkClosedMs ∨ earlier ≤ later := by
  rw [UInt8.le_iff_toNat_le, blinkLevel_toNat h, blinkLevel_toNat h']
  unfold blinkMs kBlinkOpenMs at h h'
  unfold kBlinkClosedMs at *
  omega

end EyeMotion

namespace EyeRun

open Runs WrappingClock EyeMotion

/-! ## The levels of a run, and the ages it samples -/

/-- The levels the ticks of a run tell `setBlinkLevel`, oldest first. -/
def levels (b : Board) : EyeRun → List Tick → List UInt8
  | _, [] => []
  | s, e :: es => (s.tickLevel b e).toList ++ levels b (tick b s e) es

/-- The ages at which the ticks after `t` find a blink that began at `t₀`, as a 32-bit clock
reads them. -/
def ages (t₀ : ℕ) : ℕ → List Tick → List ℕ
  | _, [] => []
  | t, e :: es => (t + e.wait - t₀) % 2 ^ 32 :: ages t₀ (t + e.wait) es

/-- Those of them that find it in flight. -/
def inFlight (t₀ t : ℕ) (ticks : List Tick) : List ℕ :=
  (ages t₀ t ticks).takeWhile (· < blinkMs)

theorem inFlight_cons (t₀ t : ℕ) (e : Tick) (es : List Tick) :
    inFlight t₀ t (e :: es) =
      if (t + e.wait - t₀) % 2 ^ 32 < blinkMs then
        (t + e.wait - t₀) % 2 ^ 32 :: inFlight t₀ (t + e.wait) es
      else [] := by
  rw [inFlight, ages, List.takeWhile_cons]
  split
  · rename_i hflight
    rw [if_pos (of_decide_eq_true hflight), inFlight]
  · rename_i hover
    rw [if_neg (by simpa using hover)]

theorem lt_of_mem_inFlight {t₀ t : ℕ} {ticks : List Tick} :
    ∀ elapsed ∈ inFlight t₀ t ticks, elapsed < blinkMs := by
  intro elapsed hmem
  simpa using List.mem_takeWhile_imp hmem

/-- Idle is in control, speech is silent, and no other blink begins. -/
structure Undisturbed (b : Board) (s : EyeRun) (e : Tick) : Prop where
  control : s.IdleInControl e
  quiet : b.audio.isSome = true → speechLevel (millis (s.timeOf e)) e.busyLow s.rig.audio = none
  notDue : s.rig.view.blinking = false →
    deadlinePassed (millis (s.timeOf e)) s.rig.motion.sNextBlinkMs = false

/-- What a blink must look like: never darker again, never above rest, and at rest in the end. -/
structure ReopensSmoothly (levels : List UInt8) : Prop where
  rising : levels.IsChain (· ≤ ·)
  below : ∀ level ∈ levels, level ≤ kEyeRestLevel
  rested : levels.getLast? = some kEyeRestLevel

/-- No tick falls into the part of the ramp above rest, and none finds the blink younger than the
tick before it did, unless the lids were still shut then. -/
structure SampledOnTheWayUp (ages : List ℕ) : Prop where
  early : ∀ age ∈ ages, age < 204
  forward : ages.IsChain fun earlier later => earlier ≤ kBlinkClosedMs ∨ earlier ≤ later

/-! ## One tick -/

/-- With nothing else going on, the level is the one of blinking. -/
theorem Undisturbed.tickLevel_eq {b : Board} {s : EyeRun} {e : Tick} (h : s.Undisturbed b e) :
    s.tickLevel b e = blinkLevelSet (millis (s.timeOf e)) s.rig.motion := by
  have hsilent : (if b.audio.isSome then
      speechLevel (millis (s.timeOf e)) e.busyLow s.rig.audio else none) = none := by
    split
    · rename_i hfitted
      exact h.quiet hfitted
    · rfl
  rw [h.control.tickLevel_eq, eyeLevelSet, hsilent, Option.none_or]

theorem Undisturbed.tickLevel_of_rested {b : Board} {s : EyeRun} {e : Tick}
    (h : s.Undisturbed b e) (hrested : s.rig.view.blinking = false) :
    s.tickLevel b e = some kEyeRestLevel := by
  have hblinking : s.rig.motion.sBlinking = false := hrested
  rw [h.tickLevel_eq, blinkLevelSet, hblinking, h.notDue hrested]
  rfl

theorem Undisturbed.tickLevel_of_blinking {b : Board} {s : EyeRun} {e : Tick}
    (h : s.Undisturbed b e) (hblink : s.rig.view.blinking = true) :
    s.tickLevel b e =
      if age (millis (s.timeOf e)) s.rig.view.blinkStart < blinkMs then
        some (blinkLevel (age (millis (s.timeOf e)) s.rig.view.blinkStart))
      else some kEyeRestLevel := by
  have hblinking : s.rig.motion.sBlinking = true := hblink
  rw [h.tickLevel_eq, blinkLevelSet, hblinking, if_pos rfl]
  rfl

/-- Eyes that rest go on resting. -/
theorem Undisturbed.rested_tick {b : Board} {s : EyeRun} {e : Tick} (h : s.Undisturbed b e)
    (hrested : s.rig.view.blinking = false) : (tick b s e).rig.view.blinking = false := by
  have htimer := (EyeMotion.timers_update b (millis (s.timeOf e)) e.gp e.busyLow e.d s.rig).2
  have hafter : (tick b s e).rig.view.blinking =
      (EyeMotion.update b (millis (s.timeOf e)) e.gp e.busyLow e.d s.rig).motion.sBlinking := rfl
  rw [hafter]
  generalize EyeMotion.update b (millis (s.timeOf e)) e.gp e.busyLow e.d s.rig = rig at htimer ⊢
  generalize rig.motion.sNextBlinkMs = next, rig.motion.sBlinking = blinking at htimer ⊢
  cases htimer with
  | set => rfl
  | begins _ _ _ hdue =>
    rw [h.notDue hrested] at hdue
    cases hdue
  | kept => exact hrested

/-- A blink goes on, with its start unmoved, for as long as it reads as young enough. -/
theorem Undisturbed.blinking_tick {b : Board} {s : EyeRun} {e : Tick} (h : s.Undisturbed b e)
    (hblink : s.rig.view.blinking = true) :
    (tick b s e).rig.view.blinkStart = s.rig.view.blinkStart ∧
      ((tick b s e).rig.view.blinking = true ↔
        age (millis (s.timeOf e)) s.rig.view.blinkStart < blinkMs) := by
  have hout := update_outcome b (millis (s.timeOf e)) e.gp e.busyLow e.d s.rig
  have hafter : (tick b s e).rig.view =
      (EyeMotion.update b (millis (s.timeOf e)) e.gp e.busyLow e.d s.rig).view := rfl
  have hactive := stickActive_of_idle h.control.idle
  rw [hafter]
  generalize EyeMotion.update b (millis (s.timeOf e)) e.gp e.busyLow e.d s.rig = rig at hout ⊢
  generalize rig.view = v at hout ⊢
  -- an undisturbed tick is neither driven nor parked nor speech
  cases hout with
  | takenOver hdriven =>
    rw [hactive] at hdriven
    cases hdriven
  | held _ hdriven =>
    rw [h.control.idle] at hdriven
    cases hdriven
  | parked _ hparked =>
    rw [h.control.enabled] at hparked
    cases hparked
  | speech _ _ hfitted hlevel =>
    rw [h.quiet hfitted] at hlevel
    cases hlevel
  | blinks _ _ _ _ helapsed => exact ⟨rfl, iff_of_true hblink helapsed⟩
  | reopened _ _ _ _ helapsed =>
    exact ⟨rfl, iff_of_false Bool.false_ne_true (Nat.not_lt.mpr helapsed)⟩
  | begins _ _ _ hrested =>
    rw [hblink] at hrested
    cases hrested
  | rests _ _ _ hrested =>
    rw [hblink] at hrested
    cases hrested

/-! ## The levels of a blink -/

/-- Eyes that rest are set to rest over and over. -/
theorem levels_of_rested {b : Board} {s : EyeRun} (hrested : s.rig.view.blinking = false)
    {ticks : List Tick} (h : Along (tick b) (Undisturbed b) s ticks) :
    levels b s ticks = List.replicate ticks.length kEyeRestLevel := by
  induction ticks generalizing s with
  | nil => rfl
  | cons e es ih =>
    rw [levels, h.1.tickLevel_of_rested hrested, ih (h.1.rested_tick hrested) h.2]
    rfl

/-- A blink sets the levels of its ages, and from its end on the resting level. -/
theorem levels_of_blinking {b : Board} {t₀ : ℕ} {s : EyeRun} (hblink : s.rig.view.blinking = true)
    (hstart : s.rig.view.blinkStart = millis t₀) (hle : t₀ ≤ s.clock) {ticks : List Tick}
    (h : Along (tick b) (Undisturbed b) s ticks) :
    ∃ n, levels b s ticks =
        (inFlight t₀ s.clock ticks).map blinkLevel ++ List.replicate n kEyeRestLevel ∧
      ((run (tick b) s ticks).rig.view.blinking = false → 0 < n) := by
  induction ticks generalizing s with
  | nil =>
    refine ⟨0, rfl, fun hover => ?_⟩
    rw [run_nil, hblink] at hover
    cases hover
  | cons e es ih =>
    obtain ⟨hsame, hgoes⟩ := h.1.blinking_tick hblink
    have hnow : t₀ ≤ s.timeOf e := Nat.le_add_right_of_le hle
    have hage : age (millis (s.timeOf e)) s.rig.view.blinkStart = (s.timeOf e - t₀) % 2 ^ 32 := by
      rw [hstart]
      exact age_reading hnow
    have hlevel := h.1.tickLevel_of_blinking hblink
    rw [hage] at hgoes hlevel
    have hages := inFlight_cons t₀ s.clock e es
    change _ = if (s.timeOf e - t₀) % 2 ^ 32 < blinkMs then _ else _ at hages
    rw [levels, hages]
    by_cases hflight : (s.timeOf e - t₀) % 2 ^ 32 < blinkMs
    · obtain ⟨n, hlevels, hover⟩ := ih (hgoes.mpr hflight) (hsame.trans hstart) hnow h.2
      rw [hlevel, if_pos hflight, if_pos hflight, hlevels]
      exact ⟨n, rfl, hover⟩
    · -- over: from the next tick on the eyes rest
      have hrested := Bool.eq_false_of_not_eq_true (mt hgoes.mp hflight)
      rw [hlevel, if_neg hflight, if_neg hflight, levels_of_rested hrested h.2]
      exact ⟨es.length + 1, rfl, fun _ => Nat.succ_pos _⟩

/-- Levels in flight and then at rest are smooth exactly when sampled on the way up. -/
theorem reopensSmoothly_iff {ages : List ℕ} (hflight : ∀ age ∈ ages, age < blinkMs) {n : ℕ}
    (hpos : 0 < n) :
    ReopensSmoothly (ages.map blinkLevel ++ List.replicate n kEyeRestLevel) ↔
      SampledOnTheWayUp ages := by
  have hrising : (ages.map blinkLevel).IsChain (· ≤ ·) ↔
      ages.IsChain fun earlier later => earlier ≤ kBlinkClosedMs ∨ earlier ≤ later := by
    rw [List.isChain_map]
    exact List.IsChain.iff_of_mem_imp fun _ _ hmem hmem' =>
      blinkLevel_le_iff (hflight _ hmem) (hflight _ hmem')
  have hbelow : (∀ level ∈ ages.map blinkLevel, level ≤ kEyeRestLevel) ↔
      ∀ age ∈ ages, age < 204 := by
    rw [List.forall_mem_map]
    exact forall₂_congr fun age hmem => blinkLevel_le_rest_iff (hflight age hmem)
  -- the ramp is rising on the way up, and below rest up to 204 ms
  constructor
  · intro h
    refine ⟨hbelow.mp fun level hmem => ?_, hrising.mp ?_⟩
    · exact h.below level (List.mem_append_left _ hmem)
    · exact (List.isChain_append.mp h.rising).1
  · intro h
    refine ⟨List.isChain_append.mpr ⟨hrising.mpr h.forward, ?_, ?_⟩, ?_, ?_⟩
    · exact List.isChain_replicate_of_rel n (UInt8.le_refl _)
    · -- the step up to rest at the end of the blink
      intro level hlast _ hhead
      have hmem := List.mem_of_getLast? hlast
      rw [List.eq_of_mem_replicate (List.mem_of_head? hhead)]
      exact hbelow.mpr h.early level hmem
    · intro level hmem
      rcases List.mem_append.mp hmem with hmem | hmem
      · exact hbelow.mpr h.early level hmem
      · exact UInt8.le_of_eq (List.eq_of_mem_replicate hmem)
    · rw [List.getLast?_append, List.getLast?_replicate, if_neg hpos.ne']
      rfl

/-! ## Every blink -/

/-- An update after any run from `begin`. -/
def afterTick (b : Board) (t : ℕ) (d : RearmDraws) (before : List EyeEvent) (e : Tick) : EyeRun :=
  tick b (run (step b) (start b t d) before) e

/-- A blink that begins on a tick starts its clock there. -/
theorem blinkStart_afterTick {b : Board} {t : ℕ} {d : RearmDraws} {before : List EyeEvent}
    {began : Tick} (hrested : (run (step b) (start b t d) before).rig.view.blinking = false)
    (hbegan : (afterTick b t d before began).rig.view.blinking = true) :
    (afterTick b t d before began).rig.view.blinkStart =
      millis (afterTick b t d before began).clock := by
  have hout := update_outcome b (millis ((run (step b) (start b t d) before).timeOf began))
    began.gp began.busyLow began.d (run (step b) (start b t d) before).rig
  have hstart := hout.blinking hbegan
  rw [hrested, if_neg Bool.false_ne_true] at hstart
  exact hstart

/-- Whatever came before a blink, and whenever its ticks come until it is over: the levels are
what its ticks tell the strips, one call a tick at most, and it reopens smoothly to the resting
level if and only if it is sampled on the way up. -/
theorem blink_reopens_iff (b : Board) (t : ℕ) (d : RearmDraws) (before : List EyeEvent)
    (began : Tick) (ticks : List Tick)
    (hrested : (run (step b) (start b t d) before).rig.view.blinking = false)
    (hbegan : (afterTick b t d before began).rig.view.blinking = true)
    (hundisturbed : Along (tick b) (Undisturbed b) (afterTick b t d before began) ticks)
    (hover : (run (tick b) (afterTick b t d before began) ticks).rig.view.blinking = false) :
    Along (tick b) (Told b) (afterTick b t d before began) ticks ∧
      (ReopensSmoothly (levels b (afterTick b t d before began) ticks) ↔
        SampledOnTheWayUp (inFlight (afterTick b t d before began).clock
          (afterTick b t d before began).clock ticks)) := by
  refine ⟨along_of_forall (led_tick b) _ ticks, ?_⟩
  obtain ⟨n, hlevels, hpos⟩ := levels_of_blinking hbegan
    (blinkStart_afterTick hrested hbegan) (Nat.le_refl _) hundisturbed
  rw [hlevels]
  exact reopensSmoothly_iff lt_of_mem_inFlight (hpos hover)

/-- The last tick of the ramp comes 205 ms into the blink: brighter than at rest, and the next
one steps down. -/
theorem blink_overshoots_rest :
    let b := esp32DevKitC fun _ => 0
    let s := afterTick b 0 lowestRearm [] (restingTick 4500 false)
    let ticks := [restingTick 30 false, restingTick 175 false, restingTick 30 false]
    s.rig.view.blinking = true ∧ Along (tick b) (Undisturbed b) s ticks ∧
      (run (tick b) s ticks).rig.view.blinking = false ∧
      levels b s ticks = [0, 240, 236] ∧ ¬ ReopensSmoothly (levels b s ticks) := by
  intro b s ticks
  have hlevels : levels b s ticks = [0, 240, 236] := by decide
  refine ⟨by decide, ?_, by decide, hlevels, fun h => ?_⟩
  · exact ⟨⟨⟨rfl, by decide⟩, by decide, by decide⟩, ⟨⟨rfl, by decide⟩, by decide, by decide⟩,
      ⟨⟨rfl, by decide⟩, by decide, by decide⟩, trivial⟩
  · rw [hlevels] at h
    exact absurd (h.below 240 (by simp)) (by decide)

/-- Five milliseconds earlier the same blink reopens as it should. -/
theorem blink_reopens_smoothly :
    let b := esp32DevKitC fun _ => 0
    let ticks := [restingTick 30 false, restingTick 170 false, restingTick 30 false]
    ReopensSmoothly (levels b (afterTick b 0 lowestRearm [] (restingTick 4500 false)) ticks) := by
  intro b ticks
  have hages : inFlight 4500 4500 ticks = [30, 200] := by decide
  refine (blink_reopens_iff b 0 lowestRearm [] (restingTick 4500 false) ticks rfl (by decide)
    ⟨⟨⟨rfl, by decide⟩, by decide, by decide⟩, ⟨⟨rfl, by decide⟩, by decide, by decide⟩,
      ⟨⟨rfl, by decide⟩, by decide, by decide⟩, trivial⟩ (by decide)).2.mpr ?_
  change SampledOnTheWayUp (inFlight 4500 4500 ticks)
  rw [hages]
  exact ⟨by decide, by simp [kBlinkClosedMs]⟩

end EyeRun

end K2soHead
