import K2soHead.Library.Runs
import K2soHead.Properties.LoopFrames

/-!
# What a session's button calls are caused by

A session is a stretch of ticks with a gamepad connected.  Every call on an edge has its
button pressed on the very tick that makes it.  The one deferred call, the replay when the
D-pad is let go, hangs on a latch that the disconnect branch does not clear.
-/

namespace K2soHead

open Runs

/-- Is the button behind the call pressed? -/
def LoopCall.causedBy (gp : GamepadState) : LoopCall → Bool
  | .previous => gp.l1
  | .next => gp.r1
  | .toggleX => gp.x
  | .cycleDefaultAccentColor => gp.y
  | .setDefaultAccentToCurrent => gp.y
  | .setVolume _ => gp.dpadUp || gp.dpadDown
  | .volumeReplay => gp.dpadUp || gp.dpadDown
  | .playNext => gp.dpadRight
  | .playPrevious => gp.dpadLeft
  | .menuReplay => gp.start

namespace Sketch

/-- The gamepad a tick looks at. -/
def padSeen (h : Head) (i : LoopInput) : GamepadState :=
  (GamepadInput.update i.pads h.gamepad).1.sState

/-! ## The calls of the connected branch -/

/-- From `h` to `h'` only calls with property `P` are made, and the volume latch stays. -/
structure Makes (P : LoopCall → Prop) (h h' : Head) : Prop where
  calls : ∃ new, h'.calls = h.calls ++ new ∧ ∀ c ∈ new, P c
  latch : h'.sketch.sVolumeAdjusted = h.sketch.sVolumeAdjusted

theorem Makes.none {P : LoopCall → Prop} {h h' : Head} (hcalls : h'.calls = h.calls)
    (hlatch : h'.sketch.sVolumeAdjusted = h.sketch.sVolumeAdjusted) : Makes P h h' :=
  ⟨⟨[], by rw [hcalls, List.append_nil], fun _ hc => absurd hc List.not_mem_nil⟩, hlatch⟩

theorem Makes.trans {P : LoopCall → Prop} {h h' h'' : Head} (h₁ : Makes P h h')
    (h₂ : Makes P h' h'') : Makes P h h'' := by
  obtain ⟨new₁, hcalls₁, hP₁⟩ := h₁.calls
  obtain ⟨new₂, hcalls₂, hP₂⟩ := h₂.calls
  refine ⟨⟨new₁ ++ new₂, by rw [hcalls₂, hcalls₁, List.append_assoc], fun c hc => ?_⟩,
    h₂.latch.trans h₁.latch⟩
  -- an earlier call or a later one
  rcases List.mem_append.mp hc with hc | hc
  · exact hP₁ c hc
  · exact hP₂ c hc

/-- A call on the edge of a button. -/
theorem Makes.edge {P : LoopCall → Prop} {h h' : Head} {c : LoopCall} {pressed was : Bool}
    (hc : pressed = true → P c) (hcalls : h'.calls = h.calls ++ [c])
    (hlatch : h'.sketch.sVolumeAdjusted = h.sketch.sVolumeAdjusted) :
    Makes P h (if pressed && !was then h' else h) := by
  split
  · rename_i hedge
    rw [Bool.and_eq_true] at hedge
    refine ⟨⟨[c], hcalls, fun c' hc' => ?_⟩, hlatch⟩
    rw [List.mem_singleton.mp hc']
    exact hc hedge.1
  · exact Makes.none rfl rfl

section Controls

variable (b : Board) (now : UInt32) (d : RearmDraws) (gp : GamepadState) (h : Head)

/-- Every call has its button pressed now. -/
abbrev MakesCaused (h h' : Head) : Prop := Makes (fun c => c.causedBy gp = true) h h'

theorem makes_stepPatterns : MakesCaused gp h (stepPatterns now gp h) := by
  have hl1 : ∀ h : Head, MakesCaused gp h
      (if gp.l1 && !h.sketch.sL1WasPressed then
        { h.call .previous with lights := h.lights.previous now } else h) :=
    fun h => Makes.edge id rfl rfl
  have hr1 : ∀ h : Head, MakesCaused gp h
      (if gp.r1 && !h.sketch.sR1WasPressed then
        { h.call .next with lights := h.lights.next now } else h) :=
    fun h => Makes.edge id rfl rfl
  -- storing the edge flags afterwards makes no call
  exact ((hl1 h).trans (hr1 _)).trans (Makes.none rfl rfl)

theorem makes_toggleX : MakesCaused gp h (toggleX b now d gp h) := by
  have hswitch : ∀ h : Head, (switchLights b now d h).calls = h.calls ∧
      (switchLights b now d h).sketch.sVolumeAdjusted = h.sketch.sVolumeAdjusted := by
    intro h
    simp only [switchLights]
    split <;> split <;> exact ⟨rfl, rfl⟩
  have hx : MakesCaused gp h
      (if gp.x && !h.sketch.sXWasPressed then switchLights b now d (h.call .toggleX) else h) :=
    Makes.edge id (hswitch (h.call .toggleX)).1 (hswitch (h.call .toggleX)).2
  exact hx.trans (Makes.none rfl rfl)

theorem makes_clickY : MakesCaused gp h (clickY now gp h) := by
  have hpress : MakesCaused gp h
      (if gp.y && !h.sketch.sYWasPressed then
        if h.sketch.sLastYPressMs != 0 &&
            decide (now - h.sketch.sLastYPressMs ≤ kDoubleClickWindowMs) then
          { h.call .setDefaultAccentToCurrent with
            lights := h.lights.setDefaultAccentToCurrent
            sketch := { h.sketch with sLastYPressMs := 0 } }
        else
          { h.call .cycleDefaultAccentColor with
            lights := h.lights.cycleDefaultAccentColor
            sketch := { h.sketch with sLastYPressMs := now } }
      else h) := by
    cases h.sketch.sLastYPressMs != 0 &&
        decide (now - h.sketch.sLastYPressMs ≤ kDoubleClickWindowMs) with
    | true => exact Makes.edge (c := .setDefaultAccentToCurrent) id rfl rfl
    | false => exact Makes.edge (c := .cycleDefaultAccentColor) id rfl rfl
  exact hpress.trans (Makes.none rfl rfl)

theorem makes_stepTracks : MakesCaused gp h (stepTracks b now gp h) := by
  have hright : ∀ h : Head, MakesCaused gp h
      (if gp.dpadRight && !h.sketch.sDpadRightWasPressed then
        { h.call .playNext with audio := h.audio.playNext b now } else h) :=
    fun h => Makes.edge id rfl rfl
  have hleft : ∀ h : Head, MakesCaused gp h
      (if gp.dpadLeft && !h.sketch.sDpadLeftWasPressed then
        { h.call .playPrevious with audio := h.audio.playPrevious b now } else h) :=
    fun h => Makes.edge id rfl rfl
  exact ((hright h).trans (hleft _)).trans (Makes.none rfl rfl)

theorem makes_replayMenu : MakesCaused gp h (replayMenu b now gp h) := by
  have hstart : MakesCaused gp h
      (if gp.start && !h.sketch.sStartWasPressed then
        { h.call .menuReplay with audio := h.audio.replay b now } else h) :=
    Makes.edge id rfl rfl
  exact hstart.trans (Makes.none rfl rfl)

theorem makes_rampBrightness : MakesCaused gp h (rampBrightness gp h) :=
  Makes.none (proj_rampBrightness gp Head.calls (fun _ _ => rfl) h)
    (proj_rampBrightness gp (fun h => h.sketch.sVolumeAdjusted) (fun _ _ => rfl) h)

/-- Up or Down held. -/
def volumeHeld : Bool := gp.dpadUp || gp.dpadDown

/-- While Up or Down is held the volume is ramped, and nothing replays. -/
theorem rampVolume_held (hheld : volumeHeld gp = true) :
    ∃ new, (rampVolume b now gp h).calls = h.calls ++ new ∧ ∀ c ∈ new, c.causedBy gp = true := by
  have hbranch : (gp.dpadUp || gp.dpadDown) = true := hheld
  simp only [rampVolume, hbranch, if_true]
  split
  · refine ⟨[.setVolume _], rfl, fun c hc => ?_⟩
    rw [List.mem_singleton.mp hc]
    exact hheld
  · exact ⟨[], (List.append_nil _).symm, fun _ hc => absurd hc List.not_mem_nil⟩

/-- Let go, the latch decides whether there is a replay, and is cleared. -/
theorem rampVolume_released (hreleased : volumeHeld gp = false) :
    (rampVolume b now gp h).calls =
        h.calls ++ (if h.sketch.sVolumeAdjusted then [.volumeReplay] else []) ∧
      (rampVolume b now gp h).sketch.sVolumeAdjusted = false := by
  have hbranch : (gp.dpadUp || gp.dpadDown) = false := hreleased
  simp only [rampVolume, hbranch, Bool.false_eq_true, if_false]
  cases hlatch : h.sketch.sVolumeAdjusted with
  | true => exact ⟨rfl, rfl⟩
  | false => exact ⟨(List.append_nil _).symm, hlatch⟩

/-- Does the replay on release fire on this tick? -/
def firesReplay : Bool := b.audio.isSome && h.sketch.sVolumeAdjusted && !volumeHeld gp

theorem calls_audioControls :
    ∃ before after,
      (audioControls b now gp h).calls =
        h.calls ++ (before ++ ((if firesReplay b gp h then [.volumeReplay] else []) ++ after)) ∧
      ∀ c ∈ before ++ after, c.causedBy gp = true := by
  unfold audioControls firesReplay
  cases b.audio.isSome with
  | false => exact ⟨[], [], by simp, fun c hc => absurd hc List.not_mem_nil⟩
  | true =>
    obtain ⟨after, hafter, hcaused⟩ :=
      ((makes_stepTracks b now gp (rampVolume b now gp h)).trans
        (makes_replayMenu b now gp (stepTracks b now gp (rampVolume b now gp h)))).calls
    cases hheld : volumeHeld gp with
    | true =>
      obtain ⟨before, hbefore, hramp⟩ := rampVolume_held b now gp h hheld
      refine ⟨before, after, by simp [hafter, hbefore], fun c hc => ?_⟩
      rcases List.mem_append.mp hc with hc | hc
      · exact hramp c hc
      · exact hcaused c hc
    | false =>
      refine ⟨[], after, ?_, hcaused⟩
      simp [hafter, (rampVolume_released b now gp h hheld).1]

/-- The calls of the connected branch: all caused now, but for the replay on release. -/
theorem calls_connectedControls :
    ∃ before after,
      (connectedControls b now d gp h).calls =
        h.calls ++ (before ++ ((if firesReplay b gp h then [.volumeReplay] else []) ++ after)) ∧
      ∀ c ∈ before ++ after, c.causedBy gp = true := by
  let h₁ := clickY now gp (toggleX b now d gp (stepPatterns now gp (dimStrips gp h)))
  have hfirst : MakesCaused gp h h₁ :=
    (((Makes.none rfl rfl : MakesCaused gp h (dimStrips gp h)).trans
      (makes_stepPatterns now gp _)).trans (makes_toggleX b now d gp _)).trans
      (makes_clickY now gp _)
  obtain ⟨first, hcalls₁, hcaused₁⟩ := hfirst.calls
  obtain ⟨before, after, hcalls₂, hcaused₂⟩ := calls_audioControls b now gp h₁
  obtain ⟨last, hcalls₃, hcaused₃⟩ := (makes_rampBrightness gp (audioControls b now gp h₁)).calls
  have hfires : firesReplay b gp h₁ = firesReplay b gp h := by
    rw [firesReplay, hfirst.latch, firesReplay]
  -- everything before the volume block, and everything after it
  refine ⟨first ++ before, after ++ last, ?_, fun c hc => ?_⟩
  · have hlast : (connectedControls b now d gp h).calls =
        (audioControls b now gp h₁).calls ++ last := hcalls₃
    rw [hlast, hcalls₂, hcalls₁, hfires]
    simp
  · have hwhere : c ∈ first ∨ c ∈ before ++ after ∨ c ∈ last := by
      simp only [List.mem_append] at hc ⊢
      tauto
    rcases hwhere with hc | hc | hc
    · exact hcaused₁ c hc
    · exact hcaused₂ c hc
    · exact hcaused₃ c hc

/-- After a connected tick the latch is only set while Up or Down is held. -/
theorem latch_connectedControls (haudio : b.audio.isSome = true)
    (hlatch : (connectedControls b now d gp h).sketch.sVolumeAdjusted = true) :
    volumeHeld gp = true := by
  -- let go, the volume block clears the latch, and no later block sets it
  by_contra hheld
  rw [Bool.not_eq_true] at hheld
  let h₁ := clickY now gp (toggleX b now d gp (stepPatterns now gp (dimStrips gp h)))
  have hafter := (makes_stepTracks b now gp (rampVolume b now gp h₁)).trans
    (makes_replayMenu b now gp (stepTracks b now gp (rampVolume b now gp h₁)))
  have haudio₁ : audioControls b now gp h₁ =
      replayMenu b now gp (stepTracks b now gp (rampVolume b now gp h₁)) := by
    rw [audioControls, if_pos haudio]
  have hlast := (makes_rampBrightness gp (audioControls b now gp h₁)).latch
  have hend : (connectedControls b now d gp h).sketch.sVolumeAdjusted = false := by
    calc (connectedControls b now d gp h).sketch.sVolumeAdjusted
        = (audioControls b now gp h₁).sketch.sVolumeAdjusted := hlast
      _ = (rampVolume b now gp h₁).sketch.sVolumeAdjusted := by rw [haudio₁]; exact hafter.latch
      _ = false := (rampVolume_released b now gp h₁ hheld).2
  rw [hend] at hlatch
  cases hlatch

end Controls

/-! ## The calls of a tick -/

theorem buttons_loop (b : Board) (h : Head) (i : LoopInput) :
    (loop b h i).calls =
        (controls b (millis i.clock.controls) i.idleDraws (poll b i h)).calls ∧
      (loop b h i).sketch.sVolumeAdjusted =
        (controls b (millis i.clock.controls) i.idleDraws (poll b i h)).sketch.sVolumeAdjusted := by
  -- the rendering writes neither the log nor the sketch's statics
  have hact := proj_act (fun h => (h.calls, h.sketch.sVolumeAdjusted)) (fun _ _ _ _ _ => rfl) b i
    (poll b i h)
  exact ⟨congrArg Prod.fst hact, congrArg Prod.snd hact⟩

/-- The calls one tick adds to the log. -/
def newCalls (b : Board) (h : Head) (i : LoopInput) : List LoopCall :=
  (loop b h i).calls.drop h.calls.length

section Tick

variable {b : Board} {h : Head} {i : LoopInput} (hconnected : (padSeen h i).connected = true)
include hconnected

theorem connected_tick :
    (loop b h i).calls =
        (connectedControls b (millis i.clock.controls) i.idleDraws (padSeen h i)
          (poll b i h)).calls ∧
      (loop b h i).sketch.sVolumeAdjusted =
        (connectedControls b (millis i.clock.controls) i.idleDraws (padSeen h i)
          (poll b i h)).sketch.sVolumeAdjusted := by
  have hpad : (poll b i h).gamepad.sState = padSeen h i :=
    congrArg (fun c => c.1.sState) (console_poll b i h)
  have hbranch : controls b (millis i.clock.controls) i.idleDraws (poll b i h) =
      connectedControls b (millis i.clock.controls) i.idleDraws (padSeen h i) (poll b i h) := by
    simp only [controls, hpad, hconnected, if_true]
  rw [← hbranch]
  exact buttons_loop b h i

theorem newCalls_eq :
    ∃ before after,
      newCalls b h i =
        before ++ ((if firesReplay b (padSeen h i) h then [.volumeReplay] else []) ++ after) ∧
      ∀ c ∈ before ++ after, c.causedBy (padSeen h i) = true := by
  have hpoll := console_poll b i h
  have hcalls : (poll b i h).calls = h.calls := congrArg (fun c => c.2.2.2) hpoll
  have hsketch : (poll b i h).sketch = h.sketch := congrArg (fun c => c.2.2.1) hpoll
  obtain ⟨before, after, heq, hcaused⟩ :=
    calls_connectedControls b (millis i.clock.controls) i.idleDraws (padSeen h i) (poll b i h)
  have hfires : firesReplay b (padSeen h i) (poll b i h) = firesReplay b (padSeen h i) h := by
    rw [firesReplay, hsketch, firesReplay]
  refine ⟨before, after, ?_, hcaused⟩
  rw [newCalls, (connected_tick hconnected).1, heq, hcalls, hfires, List.drop_left]

end Tick

/-! ## Sessions

A session is followed with the gamepad states it has shown so far, latest first. -/

def sessionStep (b : Board) (s : Head × List GamepadState) (i : LoopInput) :
    Head × List GamepadState :=
  (loop b s.1 i, padSeen s.1 i :: s.2)

def InSession (s : Head × List GamepadState) (i : LoopInput) : Prop :=
  (padSeen s.1 i).connected = true

instance (s : Head × List GamepadState) (i : LoopInput) : Decidable (InSession s i) :=
  inferInstanceAs (Decidable (_ = true))

/-- Every call of the tick has had its button pressed during the session. -/
def CallsCaused (b : Board) (s : Head × List GamepadState) (i : LoopInput) : Prop :=
  ∀ c ∈ newCalls b s.1 i, ∃ gp ∈ padSeen s.1 i :: s.2, c.causedBy gp = true

instance (b : Board) (s : Head × List GamepadState) (i : LoopInput) :
    Decidable (CallsCaused b s i) :=
  inferInstanceAs (Decidable (∀ c ∈ _, _))

/-- A latch that is set was set, or held on to, by Up or Down during the session. -/
def LatchAccounted (b : Board) (s : Head × List GamepadState) : Prop :=
  b.audio.isSome = true → s.1.sketch.sVolumeAdjusted = true → ∃ gp ∈ s.2, volumeHeld gp = true

/-- Only the replay on release can lack its button, and only if the whole session so far has
not shown Up or Down. -/
theorem callsCaused_iff {b : Board} {s : Head × List GamepadState} {i : LoopInput}
    (hin : InSession s i) :
    CallsCaused b s i ↔
      (firesReplay b (padSeen s.1 i) s.1 = true → ∃ gp ∈ s.2, volumeHeld gp = true) := by
  obtain ⟨before, after, hnew, hcaused⟩ := newCalls_eq (b := b) hin
  -- all calls but the replay are caused by the state of this very tick
  have hnow : ∀ c ∈ before ++ after, ∃ gp ∈ padSeen s.1 i :: s.2, c.causedBy gp = true :=
    fun c hc => ⟨_, List.mem_cons_self, hcaused c hc⟩
  unfold CallsCaused
  rw [hnew]
  cases hfires : firesReplay b (padSeen s.1 i) s.1 with
  | false =>
    refine iff_of_true (fun c hc => hnow c ?_) fun h => absurd h Bool.false_ne_true
    simpa using hc
  | true =>
    have hreleased : volumeHeld (padSeen s.1 i) = false := by
      simp only [firesReplay, Bool.and_eq_true, Bool.not_eq_true'] at hfires
      exact hfires.2
    constructor
    · intro h _
      obtain ⟨gp, hgp, hheld⟩ := h .volumeReplay (by simp)
      rcases List.mem_cons.mp hgp with rfl | hgp
      · -- let go on this very tick, so it is not this tick that held it
        have hheld : volumeHeld (padSeen s.1 i) = true := hheld
        rw [hreleased] at hheld
        cases hheld
      · exact ⟨gp, hgp, hheld⟩
    · intro h c hc
      obtain ⟨gp, hgp, hheld⟩ := h rfl
      simp only [if_true, List.mem_append, List.mem_singleton] at hc
      rcases hc with hc | rfl | hc
      · exact hnow c (List.mem_append_left after hc)
      · exact ⟨gp, List.mem_cons_of_mem _ hgp, hheld⟩
      · exact hnow c (List.mem_append_right before hc)

/-- One connected tick accounts for the latch, whatever the latch was before. -/
theorem latchAccounted_step {b : Board} {s : Head × List GamepadState} {i : LoopInput}
    (hin : InSession s i) : LatchAccounted b (sessionStep b s i) := by
  intro haudio hlatch
  refine ⟨padSeen s.1 i, List.mem_cons_self, ?_⟩
  have hlatch : (loop b s.1 i).sketch.sVolumeAdjusted = true := hlatch
  rw [(connected_tick hin).2] at hlatch
  exact latch_connectedControls b _ _ _ _ haudio hlatch

theorem callsCaused_of_latchAccounted {b : Board} {s : Head × List GamepadState} {i : LoopInput}
    (hlatch : LatchAccounted b s) (hin : InSession s i) : CallsCaused b s i := by
  rw [callsCaused_iff hin]
  intro hfires
  simp only [firesReplay, Bool.and_eq_true] at hfires
  exact hlatch hfires.1.1 hfires.1.2

/-- Whatever came before, every call of a session is caused by a button seen pressed in it if
and only if the session does not begin with the volume latch set and Up and Down let go. -/
theorem session_calls_caused_iff (b : Board) (t : ℕ) (d : RearmDraws)
    (before session : List LoopInput) :
    let h := run (loop b) (setup b t d) before
    Along (sessionStep b) InSession (h, []) session →
      (Along (sessionStep b) (CallsCaused b) (h, []) session ↔
        ∀ i ∈ session.head?, b.audio.isSome = true → h.sketch.sVolumeAdjusted = true →
          volumeHeld (padSeen h i) = true) := by
  intro h hsession
  cases session with
  | nil => exact iff_of_true trivial fun i hi => absurd hi (Option.not_mem_none i)
  | cons i session =>
    obtain ⟨hin, hrest⟩ := hsession
    -- from the second tick on the latch is accounted for, so only the first one can fail
    have hlater : Along (sessionStep b) (CallsCaused b) (sessionStep b (h, []) i) session :=
      along_of_inv (fun _ _ _ hin => latchAccounted_step hin)
        (fun _ _ hlatch hin => callsCaused_of_latchAccounted hlatch hin)
        (latchAccounted_step hin) hrest
    have hfirst : CallsCaused b (h, []) i ↔
        (b.audio.isSome = true → h.sketch.sVolumeAdjusted = true →
          volumeHeld (padSeen h i) = true) := by
      rw [callsCaused_iff hin]
      simp only [firesReplay, Bool.and_eq_true, Bool.not_eq_true', List.not_mem_nil, false_and,
        exists_false, imp_false]
      rw [not_and, and_imp, Bool.not_eq_false]
    rw [along_cons, List.head?_cons]
    simp only [Option.mem_some_iff, forall_eq']
    rw [← hfirst]
    exact and_iff_left hlater

/-- Volume up is held when the gamepad goes away.  It comes back with nothing pressed, and
the clip is replayed. -/
theorem replay_after_reconnect :
    let b := esp32DevKitC fun _ => 0
    let before := [padTick 1000 [.connected 0] (some { dpad := 0x1 }),
      padTick 1030 [.disconnected 0] none]
    let h := run (loop b) (setup b 0 lowestRearm) before
    let session := [padTick 1060 [.connected 0] (some {})]
    h.gamepad.sState.connected = false ∧
      Along (sessionStep b) InSession (h, []) session ∧
      ¬ Along (sessionStep b) (CallsCaused b) (h, []) session := by
  decide

/-- Let go before the gamepad goes away, the latch is clear and the next session is clean. -/
theorem released_before_disconnect :
    let b := esp32DevKitC fun _ => 0
    let before := [padTick 1000 [.connected 0] (some { dpad := 0x1 }),
      padTick 1030 [] (some {}), padTick 1060 [.disconnected 0] none]
    let h := run (loop b) (setup b 0 lowestRearm) before
    let session := [padTick 1090 [.connected 0] (some {}),
      padTick 1120 [] (some { buttons := 0x10 })]
    Along (sessionStep b) (CallsCaused b) (h, []) session := by
  intro b before h session
  refine (session_calls_caused_iff b 0 lowestRearm before session (by decide)).mpr ?_
  intro i _ _ hlatch
  exact absurd hlatch (by decide)

end Sketch

end K2soHead
