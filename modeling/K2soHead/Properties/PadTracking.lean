import K2soHead.Library.Runs
import K2soHead.Firmware.GamepadInput
import Mathlib.Data.Finset.Insert
import Mathlib.Data.Finset.Lattice.Basic

/-!
# Which connected pad is tracked

The callbacks of Bluepad32 move `sController`; the set of pads that are really connected
is kept beside it.  Tracking is right as long as the tracked pad is never the first to go:
`onDisconnected` empties the slot and leaves the pads that stayed to their fate.
-/

namespace K2soHead

open Runs

/-- `GamepadInput` together with the pads connected right now. -/
structure PadTracking where
  input : GamepadInput := {}
  pads : Finset ControllerPtr := ∅

namespace PadTracking

def step (s : PadTracking) (cb : Callback) : PadTracking where
  input := s.input.callback cb
  pads := match cb with
    | .connected ctl => insert ctl s.pads
    | .disconnected ctl => s.pads.erase ctl

/-- Each controller connects and disconnects in turn. -/
def Alternates (s : PadTracking) : Callback → Prop
  | .connected ctl => ctl ∉ s.pads
  | .disconnected ctl => ctl ∈ s.pads

/-- Nothing is tracked exactly when nothing is connected, and what is tracked is connected. -/
structure Tracks (s : PadTracking) : Prop where
  none_iff : s.input.sController = none ↔ s.pads = ∅
  mem : ∀ ctl, s.input.sController = some ctl → ctl ∈ s.pads

/-- The tracked pad disconnects while another one stays. -/
def Abandons (s : PadTracking) (cb : Callback) : Prop :=
  ∃ ctl, cb = .disconnected ctl ∧ s.input.sController = some ctl ∧ (s.pads.erase ctl).Nonempty

/-! ## One callback -/

theorem sController_onConnected (ctl : ControllerPtr) (g : GamepadInput) :
    (g.onConnected ctl).sController = some (g.sController.getD ctl) := by
  unfold GamepadInput.onConnected
  cases h : g.sController with
  | none => rw [if_pos rfl, Option.getD_none]
  | some tracked => rw [if_neg (Option.some_ne_none tracked), Option.getD_some, h]

theorem sController_onDisconnected (ctl : ControllerPtr) (g : GamepadInput) :
    (g.onDisconnected ctl).sController =
      if g.sController = some ctl then none else g.sController := by
  unfold GamepadInput.onDisconnected
  split <;> rfl

/-- A pad that connects never breaks the tracking. -/
theorem Tracks.connected {s : PadTracking} (h : s.Tracks) (ctl : ControllerPtr) :
    (s.step (.connected ctl)).Tracks := by
  have hafter : (s.step (.connected ctl)).input.sController =
      some (s.input.sController.getD ctl) := sController_onConnected ctl s.input
  refine ⟨?_, ?_⟩
  · rw [hafter]
    exact iff_of_false (Option.some_ne_none _) (Finset.insert_ne_empty ctl s.pads)
  · intro tracked htracked
    rw [hafter, Option.some.injEq] at htracked
    -- an empty slot takes the new pad, a full one keeps the old
    cases hold : s.input.sController with
    | none =>
      rw [hold, Option.getD_none] at htracked
      exact htracked ▸ Finset.mem_insert_self ctl s.pads
    | some old =>
      rw [hold, Option.getD_some] at htracked
      exact Finset.mem_insert_of_mem (htracked ▸ h.mem old hold)

/-- A pad that disconnects breaks the tracking exactly when it was the tracked one and
others stay. -/
theorem Tracks.disconnected_iff {s : PadTracking} (h : s.Tracks) {ctl : ControllerPtr}
    (hctl : ctl ∈ s.pads) :
    (s.step (.disconnected ctl)).Tracks ↔ ¬ s.Abandons (.disconnected ctl) := by
  have hafter : (s.step (.disconnected ctl)).input.sController =
      if s.input.sController = some ctl then none else s.input.sController :=
    sController_onDisconnected ctl s.input
  have hpads : (s.step (.disconnected ctl)).pads = s.pads.erase ctl := rfl
  by_cases htracked : s.input.sController = some ctl
  · -- the slot is emptied, so tracking is right only if nobody stays
    rw [if_pos htracked] at hafter
    constructor
    · rintro hnext ⟨_, heq, _, hstay⟩
      obtain rfl := Callback.disconnected.inj heq
      exact hstay.ne_empty (hpads ▸ hnext.none_iff.mp hafter)
    · intro hkept
      have hnobody : s.pads.erase ctl = ∅ := by
        by_contra hstay
        exact hkept ⟨ctl, rfl, htracked, Finset.nonempty_iff_ne_empty.mpr hstay⟩
      exact ⟨iff_of_true hafter (hpads.trans hnobody), fun c hc => by rw [hafter] at hc; cases hc⟩
  · -- another pad is tracked, and it stays
    rw [if_neg htracked] at hafter
    have hsome : ∃ tracked, s.input.sController = some tracked := by
      rw [← Option.ne_none_iff_exists']
      exact fun hnone => Finset.ne_empty_of_mem hctl (h.none_iff.mp hnone)
    obtain ⟨tracked, hold⟩ := hsome
    have hne : tracked ≠ ctl := fun heq => htracked (heq ▸ hold)
    have hstays : tracked ∈ s.pads.erase ctl := Finset.mem_erase.mpr ⟨hne, h.mem tracked hold⟩
    refine iff_of_true ⟨?_, ?_⟩ ?_
    · rw [hafter, hold, hpads]
      exact iff_of_false (Option.some_ne_none tracked) (Finset.ne_empty_of_mem hstays)
    · intro c hc
      rw [hafter, hold] at hc
      exact Option.some.inj hc ▸ hstays
    · rintro ⟨_, heq, hthis, _⟩
      obtain rfl := Callback.disconnected.inj heq
      exact htracked hthis

theorem Tracks.step_iff {s : PadTracking} (h : s.Tracks) {cb : Callback} (hcb : s.Alternates cb) :
    (s.step cb).Tracks ↔ ¬ s.Abandons cb := by
  cases cb with
  | connected ctl =>
    refine iff_of_true (h.connected ctl) ?_
    rintro ⟨_, heq, _⟩
    cases heq
  | disconnected ctl => exact h.disconnected_iff hcb

/-! ## Every order of callbacks -/

/-- Over every alternating order of callbacks, the tracking is right after each of them if
and only if the tracked pad never disconnects while another one stays. -/
theorem tracks_iff_never_abandons (cbs : List Callback) (h : Along step Alternates {} cbs) :
    Along step (fun s cb => (s.step cb).Tracks) {} cbs ↔
      Along step (fun s cb => ¬ s.Abandons cb) {} cbs := by
  have hstart : ({} : PadTracking).Tracks := ⟨iff_of_true rfl rfl, fun _ hc => by cases hc⟩
  -- the invariant is the property itself, so the run follows from one callback
  have hkeep : ∀ s cb, Tracks s → Alternates s cb → (s.step cb).Tracks → (s.step cb).Tracks :=
    fun _ _ _ _ hnext => hnext
  exact along_congr_of_kept hkeep (fun _ _ htracks hcb => htracks.step_iff hcb) hstart h

/-- Two pads connect and the first one leaves: nothing is tracked although a pad is there. -/
theorem second_pad_abandoned :
    let cbs := [.connected 0, .connected 1, .disconnected 0]
    Along step Alternates {} cbs ∧ ¬ Along step (fun s cb => (s.step cb).Tracks) {} cbs := by
  refine ⟨?_, ?_⟩
  · simp [Alternates, step]
  · rintro ⟨-, -, htracks, -⟩
    -- pad 1 is connected, and the slot is empty
    have hempty := htracks.none_iff.mp rfl
    exact absurd hempty (by decide)

/-- Two pads connect and the second one leaves: the first stays tracked throughout. -/
theorem first_pad_kept :
    let cbs := [.connected 0, .connected 1, .disconnected 1]
    Along step Alternates {} cbs ∧ Along step (fun s cb => (s.step cb).Tracks) {} cbs := by
  have halternates : Along step Alternates {} [.connected 0, .connected 1, .disconnected 1] := by
    simp [Alternates, step]
  refine ⟨halternates, (tracks_iff_never_abandons _ halternates).mpr ⟨?_, ?_, ?_, trivial⟩⟩
  · rintro ⟨_, heq, _⟩
    cases heq
  · rintro ⟨_, heq, _⟩
    cases heq
  · rintro ⟨_, heq, htracked, _⟩
    obtain rfl := Callback.disconnected.inj heq
    exact absurd htracked (by decide)

end PadTracking

end K2soHead
