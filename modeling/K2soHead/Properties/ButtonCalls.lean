import K2soHead.Properties.ButtonStates

/-!
# Which calls a connected tick makes

The log mixes the calls of all the buttons.  `callsOf` picks out those of one block, which no
other block adds to; what Y and the D-pad add in one tick is said exactly.
-/

namespace K2soHead

/-- The block of the controls a call is made from. -/
inductive ControlBlock where
  | patterns
  | x
  | y
  | volume
  | tracks
  | menu
  deriving DecidableEq

def LoopCall.block : LoopCall → ControlBlock
  | .previous => .patterns
  | .next => .patterns
  | .toggleX => .x
  | .cycleDefaultAccentColor => .y
  | .setDefaultAccentToCurrent => .y
  | .setVolume _ => .volume
  | .volumeReplay => .volume
  | .playNext => .tracks
  | .playPrevious => .tracks
  | .menuReplay => .menu

namespace Sketch

/-- The calls of one block. -/
def callsOf (k : ControlBlock) (calls : List LoopCall) : List LoopCall :=
  calls.filter fun c => c.block = k

@[simp] theorem callsOf_append (k : ControlBlock) (calls calls' : List LoopCall) :
    callsOf k (calls ++ calls') = callsOf k calls ++ callsOf k calls' :=
  List.filter_append calls calls'

/-! ## What Y and the D-pad call -/

/-- The call of the Y block on a press: a step of the palette, or the pin. -/
def yCalls (now : UInt32) (gp : GamepadState) (s : K2soHead.Sketch) : List LoopCall :=
  if yEdge gp s then
    [if secondClick now s then .setDefaultAccentToCurrent else .cycleDefaultAccentColor]
  else []

/-- The volume one step up or down. -/
def steppedVolume (gp : GamepadState) (volume : UInt8) : UInt8 :=
  let next := (volume.toNat : ℤ) + if gp.dpadUp then kVolumeStep else -kVolumeStep
  UInt8.ofInt (if next < 0 then 0 else if next > 30 then 30 else next)

/-- The call of the volume block: a step while Up or Down is held, the replay when it is not. -/
def volumeCalls (now : UInt32) (gp : GamepadState) (s : K2soHead.Sketch) (volume : UInt8) :
    List LoopCall :=
  if volumeHeld gp then if volumeDue now s then [.setVolume (steppedVolume gp volume)] else []
  else if s.sVolumeAdjusted then [.volumeReplay] else []

/-! ## The blocks -/

section Blocks

variable (b : Board) (now : UInt32) (d : RearmDraws) (gp : GamepadState) (h : Head)
  {k : ControlBlock}

theorem callsOf_stepPatterns (hk : .patterns ≠ k) :
    callsOf k (stepPatterns now gp h).calls = callsOf k h.calls := by
  simp only [stepPatterns]
  split <;> split <;> simp [callsOf, Head.call, LoopCall.block, hk]

theorem callsOf_toggleX (hk : .x ≠ k) :
    callsOf k (toggleX b now d gp h).calls = callsOf k h.calls := by
  have hswitch : ∀ h : Head, (switchLights b now d h).calls = h.calls := by
    intro h
    simp only [switchLights]
    split <;> split <;> rfl
  simp only [toggleX]
  split
  · simp [hswitch, callsOf, Head.call, LoopCall.block, hk]
  · rfl

theorem calls_clickY : (clickY now gp h).calls = h.calls ++ yCalls now gp h.sketch := by
  simp only [clickY, yCalls, yEdge, secondClick]
  split
  · split
    · rename_i hedge hsecond
      simp [hedge, hsecond, Head.call]
    · rename_i hedge hfirst
      simp [hedge, hfirst, Head.call]
  · rename_i hedge
    simp [hedge]

theorem calls_rampVolume : (rampVolume b now gp h).calls =
    h.calls ++ volumeCalls now gp h.sketch h.audio.volume := by
  simp only [rampVolume, volumeCalls, volumeHeld, volumeDue]
  split
  · split
    · rename_i hheld hdue
      simp [hheld, hdue, Head.call, steppedVolume]
    · rename_i hheld hearly
      simp [hheld, hearly]
  · split
    · simp [Head.call]
    · simp

theorem callsOf_yCalls (s : K2soHead.Sketch) :
    callsOf k (yCalls now gp s) = if k = .y then yCalls now gp s else [] := by
  unfold yCalls
  split
  · split <;> cases k <;> rfl
  · cases k <;> rfl

theorem callsOf_volumeCalls (s : K2soHead.Sketch) (volume : UInt8) :
    callsOf k (volumeCalls now gp s volume) =
      if k = .volume then volumeCalls now gp s volume else [] := by
  unfold volumeCalls
  split <;> split <;> cases k <;> rfl

theorem callsOf_stepTracks (hk : .tracks ≠ k) :
    callsOf k (stepTracks b now gp h).calls = callsOf k h.calls := by
  simp only [stepTracks]
  split <;> split <;> simp [callsOf, Head.call, LoopCall.block, hk]

theorem callsOf_replayMenu (hk : .menu ≠ k) :
    callsOf k (replayMenu b now gp h).calls = callsOf k h.calls := by
  simp only [replayMenu]
  split <;> simp [callsOf, Head.call, LoopCall.block, hk]

theorem calls_rampBrightness : (rampBrightness gp h).calls = h.calls :=
  proj_rampBrightness gp Head.calls (fun _ _ => rfl) h

/-- Of the audio controls only the volume block reaches the volume calls. -/
theorem callsOf_audioControls (htracks : .tracks ≠ k) (hmenu : .menu ≠ k) :
    callsOf k (audioControls b now gp h).calls = callsOf k h.calls ++
      if b.audio.isSome = true ∧ k = .volume then
        volumeCalls now gp h.sketch h.audio.volume
      else [] := by
  unfold audioControls
  split
  · rename_i haudio
    rw [callsOf_replayMenu _ _ _ _ hmenu, callsOf_stepTracks _ _ _ _ htracks, calls_rampVolume,
      callsOf_append, callsOf_volumeCalls]
    simp only [haudio, true_and]
  · rename_i haudio
    simp [haudio]

/-- Nothing before the audio controls reaches the player. -/
theorem audio_clickY : (clickY now gp (toggleX b now d gp (stepPatterns now gp h))).audio =
    h.audio := by
  have hidle : ∀ (enabled : Bool) (r : Rig),
      (EyeMotion.setIdleEnabled now d enabled r).audio = r.audio := by
    intro enabled r
    unfold EyeMotion.setIdleEnabled
    split
    · rfl
    · split <;> rfl
  have hswitch : ∀ h : Head, (switchLights b now d h).audio = h.audio := by
    intro h
    simp only [switchLights]
    split <;> split
    · exact hidle _ _
    · exact hidle _ _
    · rfl
    · rfl
  have htoggle : ∀ h : Head, (toggleX b now d gp h).audio = h.audio := by
    intro h
    simp only [toggleX]
    split
    · exact hswitch _
    · rfl
  rw [proj_clickY now gp (fun h => h.audio) fun _ _ _ _ => rfl, htoggle]
  exact proj_stepPatterns now gp (fun h => h.audio) (fun _ _ _ _ _ => rfl) h

/-- Of the calls of the connected branch, Y and the volume. -/
theorem callsOf_connectedControls (hpatterns : .patterns ≠ k) (hx : .x ≠ k)
    (htracks : .tracks ≠ k) (hmenu : .menu ≠ k) :
    callsOf k (connectedControls b now d gp h).calls = callsOf k h.calls ++
      ((if k = .y then yCalls now gp h.sketch else []) ++
        if b.audio.isSome = true ∧ k = .volume then volumeCalls now gp h.sketch h.audio.volume
        else []) := by
  have hpad : (dimStrips gp h).audio = h.audio := rfl
  simp only [connectedControls, calls_rampBrightness]
  rw [callsOf_audioControls _ _ _ _ htracks hmenu, audio_clickY, hpad, calls_clickY,
    callsOf_append, callsOf_yCalls, callsOf_toggleX _ _ _ _ _ hx,
    callsOf_stepPatterns _ _ _ hpatterns, List.append_assoc]
  simp [yCalls, yEdge, secondClick, volumeCalls, volumeDue, dimStrips]

end Blocks

/-! ## One tick -/

section Tick

variable {b : Board} {h : Head} {i : LoopInput} (hconnected : (padSeen h i).connected = true)
include hconnected

theorem calls_loop : (loop b h i).calls = h.calls ++ newCalls b h i := by
  have hcalls : (poll b i h).calls = h.calls := congrArg (fun c => c.2.2.2) (console_poll b i h)
  obtain ⟨before, after, heq, -⟩ :=
    calls_connectedControls b (millis i.clock.controls) i.idleDraws (padSeen h i) (poll b i h)
  rw [newCalls, (connected_tick hconnected).1, heq, hcalls, List.drop_left]

theorem callsOf_newCalls {k : ControlBlock} (hpatterns : .patterns ≠ k) (hx : .x ≠ k)
    (htracks : .tracks ≠ k) (hmenu : .menu ≠ k) :
    callsOf k (newCalls b h i) =
      (if k = .y then yCalls (millis i.clock.controls) (padSeen h i) h.sketch else []) ++
        if b.audio.isSome = true ∧ k = .volume then
          volumeCalls (millis i.clock.controls) (padSeen h i) h.sketch (poll b i h).audio.volume
        else [] := by
  have hcalls : (poll b i h).calls = h.calls := congrArg (fun c => c.2.2.2) (console_poll b i h)
  have hall := callsOf_connectedControls b (millis i.clock.controls) i.idleDraws (padSeen h i)
    (poll b i h) hpatterns hx htracks hmenu
  rw [← (connected_tick hconnected).1, calls_loop hconnected, callsOf_append, hcalls,
    sketch_poll] at hall
  exact List.append_cancel_left hall

/-- The Y calls of a connected tick. -/
theorem yCalls_newCalls : callsOf .y (newCalls b h i) =
    yCalls (millis i.clock.controls) (padSeen h i) h.sketch := by
  rw [callsOf_newCalls (k := .y) hconnected nofun nofun nofun nofun]
  simp

/-- The volume calls of a connected tick, with the volume found after the requests. -/
theorem volumeCalls_newCalls : callsOf .volume (newCalls b h i) =
    if b.audio.isSome then
      volumeCalls (millis i.clock.controls) (padSeen h i) h.sketch (poll b i h).audio.volume
    else [] := by
  rw [callsOf_newCalls (k := .volume) hconnected nofun nofun nofun nofun]
  simp

end Tick

end Sketch

end K2soHead
