import K2soHead.Library.Presses
import K2soHead.Properties.ButtonStates

/-!
# One hold, one toggle

A hold of the admin button is a maximal run of low samples.  Ticks are followed with the sample
times of the hold that is going on, oldest first; whatever else a tick does, a gamepad
included, is left open.
-/

namespace K2soHead.Sketch

open Runs Presses

/-! ## One tick -/

/-- A toggle always leaves a trace on the radio. -/
theorem toggleAP_ne (softAP : Bool) (s : Services) : toggleAP softAP s ≠ s := by
  intro h
  have hradio : (toggleAP softAP s).radio.length = s.radio.length := by rw [h]
  revert hradio
  simp only [toggleAP]
  cases hweb : s.webRunning with
  | true =>
    cases hota : s.otaRunning <;>
      simp [OtaService.stop, WebUI.stop, GamepadInput.setDiscoverable, Services.emit, hweb, hota]
  | false =>
    cases softAP <;> cases hota : s.otaRunning <;>
      simp [WebUI.start, OtaService.begin, GamepadInput.setDiscoverable, Services.emit, hweb,
        hota]

/-- The controls leave the statics of the admin button alone. -/
theorem admin_controlled (b : Board) (h : Head) (i : LoopInput) :
    (controlled b h i).sketch.sAdminPressedAtMs = h.sketch.sAdminPressedAtMs ∧
      (controlled b h i).sketch.sAdminHoldFired = h.sketch.sAdminHoldFired := by
  cases hconnected : (padSeen h i).connected with
  | true =>
    rw [controlled_of_connected b h i hconnected]
    simp only [connectedControls, sketch_rampBrightness, sketch_audioControls]
    split <;> simp [sketch_poll]
  | false =>
    rw [controlled_of_disconnected b h i hconnected, releaseControls, sketch_poll]
    exact ⟨rfl, rfl⟩

/-- What the admin button finds and leaves on a tick, gamepad or not. -/
theorem admin_loop (b : Board) (hbutton : b.adminButton = true) (h : Head) (i : LoopInput) :
    let now := millis i.clock.admin
    let s := h.sketch
    (loop b h i).sketch.sAdminPressedAtMs =
        (if i.adminLow then if s.sAdminPressedAtMs = 0 then now else s.sAdminPressedAtMs else 0) ∧
      (loop b h i).sketch.sAdminHoldFired =
        (i.adminLow && (s.sAdminHoldFired || holdComplete now s)) ∧
      (loop b h i).services =
        if i.adminLow && holdComplete now s then toggleAP i.softAP h.services else h.services := by
  intro now s
  obtain ⟨hpressed, hfired⟩ := admin_controlled b h i
  have hcomplete : holdComplete now (controlled b h i).sketch = holdComplete now s := by
    rw [holdComplete, hpressed, hfired, holdComplete]
  rw [sketch_loop, if_pos hbutton, services_loop_eq, if_pos hbutton, sketch_adminButton,
    services_adminButton_eq, hcomplete, hpressed, hfired, services_controlled]
  exact ⟨rfl, rfl, rfl⟩

/-! ## Holds -/

/-- A tick, with the samples of the hold that is going on. -/
def holdStep (b : Board) (s : Head × List ℕ) (i : LoopInput) : Head × List ℕ :=
  (loop b s.1 i, if i.adminLow then s.2 ++ [i.clock.admin] else [])

/-- A low sample finds a hold that the clock can measure. -/
def HoldMeasured (s : Head × List ℕ) (i : LoopInput) : Prop :=
  i.adminLow = true → Measured i.clock.admin s.2

instance (s : Head × List ℕ) (i : LoopInput) : Decidable (HoldMeasured s i) :=
  inferInstanceAs (Decidable (_ → _))

/-- The tick toggles the access point. -/
def Toggles (b : Board) (s : Head × List ℕ) (i : LoopInput) : Prop :=
  (loop b s.1 i).services = toggleAP i.softAP s.1.services

instance (b : Board) (s : Head × List ℕ) (i : LoopInput) : Decidable (Toggles b s i) :=
  inferInstanceAs (Decidable (_ = _))

/-- The two statics of the admin button are those of the hold. -/
def HoldFollows (s : Head × List ℕ) : Prop :=
  Keeps kAdminHoldMs.toNat s.2 s.1.sketch.sAdminPressedAtMs s.1.sketch.sAdminHoldFired

section Hold

variable {b : Board} {s : Head × List ℕ} {i : LoopInput}

theorem holdComplete_iff (hs : HoldFollows s) (hmeasured : Measured i.clock.admin s.2) :
    holdComplete (millis i.clock.admin) s.1.sketch = true ↔
      Completes kAdminHoldMs.toNat i.clock.admin s.2 := by
  rw [← hs.completes_iff hmeasured, holdComplete, Bool.and_eq_true, Bool.and_eq_true,
    decide_eq_true_iff, decide_eq_true_iff, Bool.not_eq_true', ge_iff_le, UInt32.le_iff_toNat_le,
    and_assoc]
  rfl

/-- The access point is toggled on the sample that completes the hold, and left alone on every
other. -/
theorem toggles_iff (hbutton : b.adminButton = true) (hs : HoldFollows s)
    (hin : HoldMeasured s i) :
    Toggles b s i ↔ i.adminLow = true ∧ Completes kAdminHoldMs.toNat i.clock.admin s.2 := by
  have hfires : Toggles b s i ↔
      (i.adminLow && holdComplete (millis i.clock.admin) s.1.sketch) = true := by
    obtain ⟨-, -, hservices⟩ := admin_loop b hbutton s.1 i
    rw [Toggles, hservices]
    split
    · rename_i hfires
      exact iff_of_true rfl hfires
    · rename_i hquiet
      exact iff_of_false (toggleAP_ne i.softAP s.1.services).symm hquiet
  rw [hfires, Bool.and_eq_true]
  exact and_congr_right fun hlow => holdComplete_iff hs (hin hlow)

theorem HoldFollows.step (hbutton : b.adminButton = true) (hs : HoldFollows s)
    (hin : HoldMeasured s i) : HoldFollows (holdStep b s i) := by
  obtain ⟨hpressed, hfired, -⟩ := admin_loop b hbutton s.1 i
  rw [HoldFollows, holdStep, hpressed, hfired]
  cases hlow : i.adminLow with
  | true =>
    refine hs.sample (by decide) (hin hlow) ?_
    rw [Bool.true_and, Bool.or_eq_true, holdComplete_iff hs (hin hlow)]
  | false => exact keeps_nil _

/-- In the rest of a hold that began at `first` the toggle is on the first sample late enough,
if there was no such sample yet. -/
theorem hits_hold (hbutton : b.adminButton = true) (first : ℕ) {hold : List LoopInput}
    (hs : HoldFollows s) (hfirst : first ∈ s.2.head?) (hlow : ∀ i ∈ hold, i.adminLow = true)
    (hin : Along (holdStep b) HoldMeasured s hold) :
    (Completed kAdminHoldMs.toNat s.2 → hits (holdStep b) (Toggles b) s hold = []) ∧
      (¬ Completed kAdminHoldMs.toNat s.2 → hits (holdStep b) (Toggles b) s hold =
        (hold.find? fun i => decide (first + kAdminHoldMs.toNat ≤ i.clock.admin)).toList) := by
  induction hold generalizing s with
  | nil => exact ⟨fun _ => rfl, fun _ => rfl⟩
  | cons i hold ih =>
    obtain ⟨hsample, hrest⟩ := hin
    have hlow_i := hlow i List.mem_cons_self
    have hheld : (holdStep b s i).2 = s.2 ++ [i.clock.admin] := if_pos hlow_i
    have hhead : s.2.head? = some first := hfirst
    have hfirst' : first ∈ (holdStep b s i).2.head? := by
      rw [hheld, List.head?_append, hhead]
      rfl
    -- a sample completes the hold if it is the first one late enough
    have hcompletes : Completes kAdminHoldMs.toNat i.clock.admin s.2 ↔
        ¬ Completed kAdminHoldMs.toNat s.2 ∧ first + kAdminHoldMs.toNat ≤ i.clock.admin := by
      rw [Completes, hhead]
      simp
    have htoggles := (toggles_iff hbutton hs hsample).trans (and_iff_right hlow_i)
    obtain ⟨hover, hopen⟩ := ih (HoldFollows.step hbutton hs hsample) hfirst'
      (fun j hj => hlow j (List.mem_cons_of_mem i hj)) hrest
    rw [hheld, completed_append (by decide), ← htoggles] at hover hopen
    rw [hits]
    refine ⟨fun hdone => ?_, fun hnot => ?_⟩
    · -- the hold has fired already
      rw [if_neg fun h => (hcompletes.mp (htoggles.mp h)).1 hdone]
      exact hover (.inl hdone)
    · by_cases hlate : first + kAdminHoldMs.toNat ≤ i.clock.admin
      · have htoggle : Toggles b s i := htoggles.mpr (hcompletes.mpr ⟨hnot, hlate⟩)
        rw [if_pos htoggle, hover (.inr htoggle), List.find?_cons_of_pos (by simpa using hlate)]
        rfl
      · have hquiet : ¬ Toggles b s i := fun h => hlate (hcompletes.mp (htoggles.mp h)).2
        rw [if_neg hquiet, hopen (not_or.mpr ⟨hnot, hquiet⟩),
          List.find?_cons_of_neg (by simpa using hlate)]

/-- Only a tick that toggles touches the radio. -/
theorem services_of_not_toggles (hquiet : ¬ Toggles b s i) :
    (loop b s.1 i).services = s.1.services :=
  (services_loop b s.1 i).resolve_right hquiet

theorem not_toggles_of_high (hbutton : b.adminButton = true) (hhigh : i.adminLow = false) :
    ¬ Toggles b s i := by
  obtain ⟨-, -, hservices⟩ := admin_loop b hbutton s.1 i
  rw [hhigh, Bool.false_and, if_neg Bool.false_ne_true] at hservices
  rw [Toggles, hservices]
  exact (toggleAP_ne i.softAP s.1.services).symm

end Hold

/-- Whatever came before and whatever else the ticks do: of the low samples of one hold the only
one that toggles the access point is the first that comes 1000 ms or more after the hold began,
if there is one.  A high sample never does, and a tick that does not leaves the radio alone. -/
theorem one_hold_one_toggle (b : Board) (hbutton : b.adminButton = true) (t : ℕ)
    (d : RearmDraws) (before : List LoopInput) (first : LoopInput) (hold : List LoopInput) :
    let s := run (holdStep b) (setup b t d, []) before
    Along (holdStep b) HoldMeasured (setup b t d, []) (before ++ first :: hold) → s.2 = [] →
      (∀ i ∈ first :: hold, i.adminLow = true) →
        hits (holdStep b) (Toggles b) s (first :: hold) =
            ((first :: hold).find? fun i =>
              decide (first.clock.admin + kAdminHoldMs.toNat ≤ i.clock.admin)).toList ∧
          (∀ s i, i.adminLow = false → ¬ Toggles b s i) ∧
          ∀ s i, ¬ Toggles b s i → (loop b s.1 i).services = s.1.services := by
  intro s hin hfresh hlow
  rw [along_append] at hin
  obtain ⟨hbefore, hfirst, hrest⟩ := hin
  have hs : HoldFollows s :=
    inv_run_of_along (fun _ _ hs hin => HoldFollows.step hbutton hs hin)
      (show HoldFollows (setup b t d, []) from keeps_nil _) hbefore
  have hheld : (holdStep b s first).2 = [first.clock.admin] := by
    rw [holdStep, if_pos (hlow first List.mem_cons_self), hfresh]
    rfl
  refine ⟨?_, fun _ _ => not_toggles_of_high hbutton, fun _ _ => services_of_not_toggles⟩
  -- the first sample only starts the hold
  have hnot : ¬ Completed kAdminHoldMs.toNat (holdStep b s first).2 := by
    rw [hheld]
    simp [Completed, kAdminHoldMs]
  have hquiet : ¬ Toggles b s first := by
    rw [toggles_iff hbutton hs hfirst, hfresh]
    simp [Completes]
  have hhits := (hits_hold hbutton first.clock.admin (HoldFollows.step hbutton hs hfirst)
    (by rw [hheld]; rfl) (fun i hi => hlow i (List.mem_cons_of_mem first hi)) hrest).2 hnot
  rw [hits, if_neg hquiet, hhits, List.find?_cons_of_neg (by simp [kAdminHoldMs])]

/-- `padTick` with the admin button held. -/
def lowTick (t : ℕ) (callbacks : List Callback) (pad : Option Report) : LoopInput :=
  { padTick t callbacks pad with adminLow := true }

/-- Held from 1000 to 3500 ms with a gamepad connecting on the way: the sample at 2100 ms
toggles. -/
theorem held_past_toggle :
    let b := esp32DevKitC fun _ => 0
    (hits (holdStep b) (Toggles b) (setup b 0 lowestRearm, [])
      [lowTick 1000 [] none, lowTick 1500 [.connected 0] (some {}), lowTick 2100 [] (some {}),
        lowTick 3500 [] (some {})]).map (fun i => i.clock.admin) = [2100] := by
  have hhits := (one_hold_one_toggle (esp32DevKitC fun _ => 0) rfl 0 lowestRearm []
    (lowTick 1000 [] none) [lowTick 1500 [.connected 0] (some {}), lowTick 2100 [] (some {}),
      lowTick 3500 [] (some {})] (by decide) rfl (by simp [lowTick])).1
  refine (congrArg (List.map fun i => i.clock.admin) hhits).trans ?_
  decide

end K2soHead.Sketch
