import K2soHead.Library.Presses
import K2soHead.Properties.ButtonCalls
import K2soHead.Properties.TickColours

/-!
# Single and double clicks of Y

A single click steps the palette, the second of a double click pins the colour the stick is
steering.  What the pin takes is the accent as the frames since the first click have left it,
so a connected stretch is followed with the clicks of Y in it, latest first.
-/

namespace K2soHead.Sketch

open Runs Presses

/-! ## One tick -/

/-- The edge flag and the time stamp of Y after a tick. -/
theorem y_loop (b : Board) (h : Head) (i : LoopInput) :
    (loop b h i).sketch.sYWasPressed = ((padSeen h i).connected && (padSeen h i).y) ∧
      (loop b h i).sketch.sLastYPressMs =
        if (padSeen h i).connected then
          if yEdge (padSeen h i) h.sketch then
            if secondClick (millis i.clock.controls) h.sketch then 0 else millis i.clock.controls
          else h.sketch.sLastYPressMs
        else 0 := by
  rw [sketch_loop_of_admin b h i Sketch.sYWasPressed fun _ _ _ => rfl,
    sketch_loop_of_admin b h i Sketch.sLastYPressMs fun _ _ _ => rfl]
  cases hconnected : (padSeen h i).connected with
  | true =>
    rw [controlled_of_connected b h i hconnected]
    simp only [connectedControls, sketch_rampBrightness, sketch_audioControls]
    split <;> simp [yEdge, secondClick, sketch_poll]
  | false =>
    rw [controlled_of_disconnected b h i hconnected, releaseControls, sketch_poll]
    simp

/-! ## Clicks -/

/-- Y was down on the tick before, on a gamepad that was connected. -/
def yDown (h : Head) : Bool := h.gamepad.sState.connected && h.gamepad.sState.y

/-- Y goes down on this connected tick. -/
def PressesY (h : Head) (i : LoopInput) : Prop := (padSeen h i).y = true ∧ yDown h = false

instance (h : Head) (i : LoopInput) : Decidable (PressesY h i) :=
  inferInstanceAs (Decidable (_ ∧ _))

/-- Does the tick pin the colour? -/
def pins (b : Board) (h : Head) (i : LoopInput) : Bool :=
  decide (.setDefaultAccentToCurrent ∈ newCalls b h i)

/-- A tick, with the clicks so far. -/
def clickStep (b : Board) (s : Head × List Click) (i : LoopInput) : Head × List Click :=
  (loop b s.1 i, if PressesY s.1 i then ⟨i.clock.controls, pins b s.1 i⟩ :: s.2 else s.2)

/-- A tick of a connected stretch.  When Y goes down the clock does not show 0, and has not gone
all the way round since Y last went down. -/
def InStretch (s : Head × List Click) (i : LoopInput) : Prop :=
  (padSeen s.1 i).connected = true ∧
    (PressesY s.1 i → millis i.clock.controls ≠ 0 ∧
      ∀ c ∈ s.2.head?, c.time ≤ i.clock.controls ∧ i.clock.controls < c.time + 2 ^ 32)

instance (s : Head × List Click) (i : LoopInput) : Decidable (InStretch s i) :=
  inferInstanceAs (Decidable (_ ∧ (_ → _ ∧ ∀ c ∈ s.2.head?, _)))

/-- Y pins on the second of two clicks, steps the palette on any other, and does nothing
without one. -/
def Classified (b : Board) (s : Head × List Click) (i : LoopInput) : Prop :=
  callsOf .y (newCalls b s.1 i) =
    if PressesY s.1 i then
      [if Pairs kDoubleClickWindowMs.toNat i.clock.controls s.2 then .setDefaultAccentToCurrent
        else .cycleDefaultAccentColor]
    else []

/-- The clicks that step the palette. -/
def steps (clicks : List Click) : ℕ := clicks.countP fun c => !c.second

/-! ## Invariants -/

/-- What holds of every state reached by ticks: the flag of Y follows the gamepad, only a
connected stretch keeps a time stamp, and a pushed stick has just steered the accent. -/
structure YFollows (h : Head) : Prop where
  edge : h.sketch.sYWasPressed = yDown h
  idle : h.gamepad.sState.connected = false → h.sketch.sLastYPressMs = 0
  accent : h.gamepad.sState.connected = true →
    LightEffects.stickCentered h.gamepad.sState = false →
      h.lights.sAccent = steered h.gamepad.sState

theorem YFollows.loop {b : Board} {h : Head} (i : LoopInput) : YFollows (loop b h i) := by
  obtain ⟨hflag, hstamp⟩ := y_loop b h i
  have hpad : (Sketch.loop b h i).gamepad.sState = padSeen h i :=
    congrArg (fun g => g.sState) (gamepad_loop b h i)
  refine ⟨?_, fun hoff => ?_, fun hconnected hpushed => ?_⟩
  · rw [hflag, yDown, hpad]
  · rw [hpad] at hoff
    rw [hstamp, hoff]
    rfl
  · rw [hpad] at hconnected hpushed ⊢
    have haccent := congrArg (fun c => c.2.1) (colours_loop b hconnected)
    simp only [hpushed, Bool.false_eq_true, if_false] at haccent
    exact haccent

theorem yFollows_setup (b : Board) (t : ℕ) (d : RearmDraws) : YFollows (setup b t d) where
  edge := rfl
  idle _ := rfl
  accent := nofun

/-- What holds along a connected stretch that began at `h₀`. -/
structure Tracks (h₀ : Head) (s : Head × List Click) : Prop where
  follows : YFollows s.1
  stored : s.1.sketch.sLastYPressMs = stamp s.2
  shown : ∀ c ∈ s.2.head?, millis c.time ≠ 0
  alternating : Alternating s.2
  palette : s.1.lights.sPaletteIndex.val =
    (h₀.lights.sPaletteIndex.val + steps s.2) % kPaletteSize

section Stretch

variable {b : Board} {h₀ : Head} {s : Head × List Click} {i : LoopInput}

theorem yEdge_iff (hs : YFollows s.1) : yEdge (padSeen s.1 i) s.1.sketch = true ↔
    PressesY s.1 i := by
  rw [yEdge, hs.edge, PressesY]
  simp

theorem secondClick_iff (hs : Tracks h₀ s) (hin : InStretch s i) (hpress : PressesY s.1 i) :
    secondClick (millis i.clock.controls) s.1.sketch = true ↔
      Pairs kDoubleClickWindowMs.toNat i.clock.controls s.2 := by
  have hreach : InReach i.clock.controls s.2 := fun c hc => ⟨hs.shown c hc, (hin.2 hpress).2 c hc⟩
  rw [← pairs_stamp_iff hreach, secondClick, hs.stored, Bool.and_eq_true, bne_iff_ne,
    decide_eq_true_iff, UInt32.le_iff_toNat_le]
  rfl

/-- The handler's one time stamp classifies as the clicks themselves do. -/
theorem classified_of_tracks (hs : Tracks h₀ s) (hin : InStretch s i) : Classified b s i := by
  rw [Classified, yCalls_newCalls hin.1, yCalls]
  by_cases hpress : PressesY s.1 i
  · rw [if_pos ((yEdge_iff hs.follows).mpr hpress), if_pos hpress]
    simp only [secondClick_iff hs hin hpress]
  · rw [if_neg (mt (yEdge_iff hs.follows).mp hpress), if_neg hpress]

theorem pins_iff (hs : Tracks h₀ s) (hin : InStretch s i) : pins b s.1 i = true ↔
    PressesY s.1 i ∧ Pairs kDoubleClickWindowMs.toNat i.clock.controls s.2 := by
  have hmem : .setDefaultAccentToCurrent ∈ newCalls b s.1 i ↔
      .setDefaultAccentToCurrent ∈ callsOf .y (newCalls b s.1 i) := by
    simp [callsOf, LoopCall.block]
  have hclassified : Classified b s i := classified_of_tracks hs hin
  rw [pins, decide_eq_true_iff, hmem, hclassified]
  by_cases hpress : PressesY s.1 i
  · by_cases hpairs : Pairs kDoubleClickWindowMs.toNat i.clock.controls s.2
    · simp [hpress, hpairs]
    · simp [hpress, hpairs]
  · simp [hpress]

/-- What Y does to the lights, in terms of the clicks. -/
theorem clicked_eq (hs : Tracks h₀ s) (hin : InStretch s i) (le : LightEffects) :
    clicked (millis i.clock.controls) (padSeen s.1 i) s.1.sketch le =
      if PressesY s.1 i then
        if pins b s.1 i then le.setDefaultAccentToCurrent else le.cycleDefaultAccentColor
      else le := by
  rw [clicked]
  by_cases hpress : PressesY s.1 i
  · have hsecond : secondClick (millis i.clock.controls) s.1.sketch = pins b s.1 i := by
      rw [Bool.eq_iff_iff, secondClick_iff hs hin hpress, pins_iff hs hin, and_iff_right hpress]
    rw [if_pos ((yEdge_iff hs.follows).mpr hpress), if_pos hpress, hsecond]
  · rw [if_neg (mt (yEdge_iff hs.follows).mp hpress), if_neg hpress]

theorem palette_step (hs : Tracks h₀ s) (hin : InStretch s i) :
    (clickStep b s i).1.lights.sPaletteIndex.val =
      (h₀.lights.sPaletteIndex.val + steps (clickStep b s i).2) % kPaletteSize := by
  have hcells := congrArg Prod.fst (colours_loop b hin.1)
  have hpoll := (keepsColours_poll b s.1 i).palette
  have hold := hs.palette
  rw [clicked_eq (b := b) hs hin] at hcells
  have hindex : (clickStep b s i).1.lights.sPaletteIndex = (loop b s.1 i).lights.colours.1 := rfl
  rw [hindex, hcells, clickStep]
  by_cases hpress : PressesY s.1 i
  · cases hpins : pins b s.1 i with
    | true =>
      simp only [hpress, if_true, LightEffects.setDefaultAccentToCurrent, hpoll, steps,
        List.countP_cons, Bool.not_true, Bool.false_eq_true, if_false]
      exact hold
    | false =>
      simp only [hpress, if_true, Bool.false_eq_true, if_false,
        LightEffects.cycleDefaultAccentColor, hpoll, steps, List.countP_cons, Bool.not_false]
      rw [Fin.val_add, hold, ← Nat.add_assoc, steps]
      exact Nat.mod_add_mod _ _ _
  · simp only [hpress, if_false, hpoll]
    exact hold

theorem Tracks.step (hs : Tracks h₀ s) (hin : InStretch s i) : Tracks h₀ (clickStep b s i) := by
  have hpins := pins_iff (b := b) hs hin
  refine ⟨YFollows.loop i, ?_, fun c hc => ?_, ?_, palette_step hs hin⟩
  · have hstamp := (y_loop b s.1 i).2
    rw [if_pos hin.1] at hstamp
    rw [clickStep, hstamp]
    by_cases hpress : PressesY s.1 i
    · have hsecond : secondClick (millis i.clock.controls) s.1.sketch = pins b s.1 i := by
        rw [Bool.eq_iff_iff, secondClick_iff hs hin hpress, hpins, and_iff_right hpress]
      rw [if_pos ((yEdge_iff hs.follows).mpr hpress), if_pos hpress, hsecond, stamp]
      rfl
    · rw [if_neg (mt (yEdge_iff hs.follows).mp hpress), if_neg hpress]
      exact hs.stored
  · rw [clickStep] at hc
    by_cases hpress : PressesY s.1 i
    · rw [if_pos hpress, List.head?_cons, Option.mem_some_iff] at hc
      rw [← hc]
      exact (hin.2 hpress).1
    · rw [if_neg hpress] at hc
      exact hs.shown c hc
  · rw [clickStep]
    split
    · exact hs.alternating.click fun hsecond => (hpins.mp hsecond).2
    · exact hs.alternating

/-! ## The pinned colour -/

/-- A pin comes with a gamepad that was connected on the tick before. -/
theorem connected_of_pins (hs : Tracks h₀ s) (hin : InStretch s i) (hpins : pins b s.1 i = true) :
    s.1.gamepad.sState.connected = true := by
  obtain ⟨-, c, hc, hfirst, -⟩ := (pins_iff hs hin).mp hpins
  -- otherwise there would be no time stamp to pair with
  by_contra hoff
  have hidle := hs.follows.idle (Bool.eq_false_of_not_eq_true hoff)
  rw [hs.stored] at hidle
  cases hclicks : s.2 with
  | nil =>
    rw [hclicks] at hc
    cases hc
  | cons c' clicks =>
    obtain rfl : c' = c := by
      rw [hclicks] at hc
      exact Option.some.inj hc
    rw [hclicks, stamp, hfirst] at hidle
    exact hs.shown c' hc hidle

/-- What is pinned is the colour of the stick on the tick before. -/
theorem home_of_pins (hs : Tracks h₀ s) (hin : InStretch s i) (hpins : pins b s.1 i = true)
    (hquiet : servesColour s.1 i = false)
    (hpushed : LightEffects.stickCentered s.1.gamepad.sState = false) :
    (loop b s.1 i).lights.sDefaultAccent = steered s.1.gamepad.sState := by
  have hcells := congrArg (fun c => c.2.2) (colours_loop b hin.1)
  rw [clicked_eq (b := b) hs hin, if_pos ((pins_iff hs hin).mp hpins).1, hpins] at hcells
  have haccent := (keepsColours_poll b s.1 i).accent (by rw [hquiet]; rfl)
  calc (loop b s.1 i).lights.sDefaultAccent
      = (poll b i s.1).lights.sAccent := hcells
    _ = s.1.lights.sAccent := haccent
    _ = steered s.1.gamepad.sState := hs.follows.accent (connected_of_pins hs hin hpins) hpushed

end Stretch

/-- A connected tick on which Y does not go down. -/
def Unclicked (h : Head) (i : LoopInput) : Prop :=
  (padSeen h i).connected = true ∧ ¬ PressesY h i

instance (h : Head) (i : LoopInput) : Decidable (Unclicked h i) :=
  inferInstanceAs (Decidable (_ ∧ ¬ _))

/-- Without a click home stays where it is, and a centred stick takes the accent there. -/
theorem home_step {b : Board} {h : Head} {i : LoopInput} (hs : YFollows h) (hin : Unclicked h i) :
    (loop b h i).lights.sDefaultAccent = h.lights.sDefaultAccent ∧
      (LightEffects.stickCentered (padSeen h i) = true →
        (loop b h i).lights.sAccent = h.lights.sDefaultAccent) := by
  have hedge : yEdge (padSeen h i) h.sketch ≠ true :=
    mt (yEdge_iff (s := (h, [])) hs).mp hin.2
  have hcells := colours_loop b hin.1
  have hpoll := (keepsColours_poll b h i).home
  simp only [clicked, if_neg hedge, hpoll, LightEffects.colours, Prod.mk.injEq] at hcells
  refine ⟨hcells.2.2, fun hcentered => ?_⟩
  rw [hcells.2.1, if_pos hcentered]

/-- Whatever came before, through every stretch of ticks that begins with the gamepad away: Y
pins exactly when the click before was a step at most 400 ms ago and steps the palette
otherwise, no two clicks in a row pin, and the palette has moved one on for every step.  A pin
takes the colour the stick steered to on the tick before, unless the web has picked another on
this tick, and from then on, until Y is clicked again, a centred stick brings that colour
back. -/
theorem y_clicks (b : Board) (t : ℕ) (d : RearmDraws) (before stretch : List LoopInput) :
    let h := run (loop b) (setup b t d) before
    let s := run (clickStep b) (h, []) stretch
    h.gamepad.sState.connected = false → Along (clickStep b) InStretch (h, []) stretch →
      Along (clickStep b) (Classified b) (h, []) stretch ∧ Alternating s.2 ∧
        s.1.lights.sPaletteIndex.val =
          (h.lights.sPaletteIndex.val + steps s.2) % kPaletteSize ∧
        ∀ i, InStretch s i → pins b s.1 i = true → servesColour s.1 i = false →
          LightEffects.stickCentered s.1.gamepad.sState = false →
            (loop b s.1 i).lights.sDefaultAccent = steered s.1.gamepad.sState ∧
              ∀ later j, Along (loop b) Unclicked (loop b s.1 i) (later ++ [j]) →
                let h' := run (loop b) (loop b s.1 i) later
                LightEffects.stickCentered (padSeen h' j) = true →
                  (loop b h' j).lights.sAccent = steered s.1.gamepad.sState := by
  intro h s hoff hstretch
  have hfollows : YFollows h :=
    inv_run (fun _ i _ => YFollows.loop i) (yFollows_setup b t d) before
  have hstart : Tracks h (h, []) :=
    { follows := hfollows
      stored := hfollows.idle hoff
      shown := nofun
      alternating := List.isChain_nil
      palette := (Nat.mod_eq_of_lt h.lights.sPaletteIndex.isLt).symm }
  have hkeep : ∀ s i, Tracks h s → InStretch s i → Tracks h (clickStep b s i) :=
    fun _ _ hs hin => hs.step hin
  have hs : Tracks h s := inv_run_of_along hkeep hstart hstretch
  refine ⟨?_, hs.alternating, hs.palette, fun i hin hpins hquiet hpushed => ?_⟩
  · exact along_of_inv hkeep (fun _ _ hs hin => classified_of_tracks hs hin) hstart hstretch
  · have hhome := home_of_pins hs hin hpins hquiet hpushed
    refine ⟨hhome, ?_⟩
    intro later j hlater h' hcentered
    rw [along_append] at hlater
    obtain ⟨hbetween, hlast, -⟩ := hlater
    -- home is kept up to the tick before, and the tick itself takes the accent there
    have hquiet : ∀ g k, YFollows g ∧ g.lights.sDefaultAccent = steered s.1.gamepad.sState →
        Unclicked g k → YFollows (loop b g k) ∧
          (loop b g k).lights.sDefaultAccent = steered s.1.gamepad.sState :=
      fun _ k hg hin => ⟨YFollows.loop k, (home_step hg.1 hin).1.trans hg.2⟩
    have hkept : YFollows h' ∧ h'.lights.sDefaultAccent = steered s.1.gamepad.sState :=
      inv_run_of_along hquiet ⟨YFollows.loop i, hhome⟩ hbetween
    exact ((home_step hkept.1 hlast).2 hcentered).trans hkept.2

/-- Y is clicked twice with the stick pushed to the right in between, and let go: the colour of
the stick stays. -/
theorem steered_colour_pinned :
    let b := esp32DevKitC fun _ => 0
    let stretch := [padTick 1000 [.connected 0] (some { buttons := 0x8 }),
      padTick 1030 [] (some { axisX := 512 })]
    let s := run (clickStep b) (setup b 0 lowestRearm, []) stretch
    let pinned := loop b s.1 (padTick 1060 [] (some { buttons := 0x8 }))
    s.1.lights.sDefaultAccent = kRainbowPalette 5 ∧ pinned.lights.sDefaultAccent = ⟨255, 0, 5⟩ ∧
      (loop b pinned (padTick 1090 [] (some {}))).lights.sAccent = ⟨255, 0, 5⟩ := by
  obtain ⟨-, -, -, hpin⟩ := y_clicks (esp32DevKitC fun _ => 0) 0 lowestRearm []
    [padTick 1000 [.connected 0] (some { buttons := 0x8 }), padTick 1030 [] (some { axisX := 512 })]
    rfl (by decide)
  obtain ⟨hhome, hlater⟩ := hpin (padTick 1060 [] (some { buttons := 0x8 }))
    (by decide) (by decide) (by decide) (by decide)
  have hlast := hlater [] (padTick 1090 [] (some {})) (by decide) (by decide)
  simp only [run_nil] at hhome hlast
  refine ⟨by decide, hhome.trans ?_, hlast.trans ?_⟩
  · decide
  · decide

end K2soHead.Sketch
