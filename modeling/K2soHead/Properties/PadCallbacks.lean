import K2soHead.Firmware.Bluepad32
import K2soHead.Properties.PadFreshness
import Mathlib.Data.Nat.Bitwise

/-!
# The callbacks of `BP32.update()`

The sketch trusts Bluepad32 to report every change of `isConnected()` through a callback, in
turn for each controller.  Here the library keeps that promise against the platform: whatever
the Bluetooth thread does between two reads of an update, the updates that return are ones
`PadSessions` accepts.
-/

namespace K2soHead

open Runs

namespace Bluepad32

/-! ## The masks -/

theorem testBit_mark (connected : ℕ) (i j : SeatIdx) :
    (connected ||| 1 <<< i.val).testBit j.val = (connected.testBit j.val || decide (i = j)) := by
  rw [Nat.testBit_or, Nat.one_shiftLeft, Nat.testBit_two_pow]
  simp only [Fin.ext_iff]

theorem sameBit_iff (i : SeatIdx) (connected prev : ℕ) :
    sameBit i connected prev = true ↔ connected.testBit i.val = prev.testBit i.val := by
  rw [sameBit, decide_eq_true_iff, Nat.one_shiftLeft, Nat.and_two_pow, Nat.and_two_pow]
  rw [Nat.mul_left_inj (Nat.two_pow_pos i.val).ne']
  cases connected.testBit i.val <;> cases prev.testBit i.val <;> simp

/-! ## What has been told -/

/-- The sessions as the callbacks made so far leave them. -/
def sessions (b : Bluepad32) : PadSessions :=
  b.calls.foldl PadSessions.callback (run PadSessions.update {} b.updates)

/-- `_connected` is set and the callback still to come. -/
def unannounced (b : Bluepad32) (i : SeatIdx) : Bool :=
  match b.pc with
  | .fetch j _ _ _ => j = i
  | _ => false

/-- What the sketch must believe of a controller. -/
def opened (b : Bluepad32) (ctl : ControllerPtr) : Bool :=
  if h : ctl < MAX_DEVICES then
    (b.controllers ⟨ctl, h⟩).connected && !b.unannounced ⟨ctl, h⟩
  else false

/-- The flags follow the old mask, and during the second loop the new one behind the loop. -/
def flag (b : Bluepad32) (i : SeatIdx) : Bool :=
  match b.pc with
  | .diff rest connected _ | .fetch _ rest connected _ =>
      if i ∈ rest then b.prevConnectedControllers.testBit i.val else connected.testBit i.val
  | _ => b.prevConnectedControllers.testBit i.val

/-- What holds at each place of the update. -/
def Phase (b : Bluepad32) : Prop :=
  match b.pc with
  | .diff rest _ _ => rest.Nodup
  | .fetch i rest connected _ => i ∉ rest ∧ rest.Nodup ∧ connected.testBit i.val = true
  | _ => b.calls = []

/-- The callbacks keep the promise, and the sketch believes what the flags say. -/
structure Tells (b : Bluepad32) : Prop where
  reports : Along PadSessions.update PadSessions.Reports {} b.updates
  alternates : Along PadSessions.callback PadSessions.Alternates
    (run PadSessions.update {} b.updates) b.calls
  opened : ∀ ctl, (b.sessions.slot ctl).connected = b.opened ctl
  flags : ∀ i, (b.controllers i).connected = b.flag i
  phase : b.Phase

section

variable {b b' : Bluepad32}

/-- A stretch without a callback. -/
theorem Tells.quiet (h : b.Tells) (hcalls : b'.calls = b.calls) (hupdates : b'.updates = b.updates)
    (hopened : ∀ ctl, b'.opened ctl = b.opened ctl)
    (hflags : ∀ i, (b'.controllers i).connected = b'.flag i) (hphase : b'.Phase) : b'.Tells where
  reports := hupdates ▸ h.reports
  alternates := by
    rw [hcalls, hupdates]
    exact h.alternates
  opened ctl := by
    rw [hopened, ← h.opened, sessions, hcalls, hupdates, sessions]
  flags := hflags
  phase := hphase

/-- A callback that comes in turn. -/
theorem Tells.called (h : b.Tells) {cb : Callback} (hcalls : b'.calls = b.calls ++ [cb])
    (hupdates : b'.updates = b.updates) (hturn : b.sessions.Alternates cb)
    (hopened : ∀ ctl, ((b.sessions.callback cb).slot ctl).connected = b'.opened ctl)
    (hflags : ∀ i, (b'.controllers i).connected = b'.flag i) (hphase : b'.Phase) : b'.Tells where
  reports := hupdates ▸ h.reports
  alternates := by
    rw [hcalls, hupdates, along_append]
    exact ⟨h.alternates, hturn, trivial⟩
  opened ctl := by
    rw [← hopened, sessions, hcalls, hupdates, List.foldl_append]
    rfl
  flags := hflags
  phase := hphase

/-- The update returns; no callback is owed any more. -/
theorem Tells.finish (h : b.Tells) {dataUpdated : Bool} (hnone : ∀ i, b.unannounced i = false)
    (hflags : ∀ i, (b.controllers i).connected = b.prevConnectedControllers.testBit i.val) :
    (b.finish dataUpdated).Tells := by
  have hopened : ∀ ctl, (b.controllerAt ctl).isConnected = b.opened ctl := by
    intro ctl
    unfold controllerAt Bluepad32.opened
    split
    · rw [hnone, Bool.not_false, Bool.and_true]
      rfl
    · rfl
  refine ⟨?_, trivial, fun ctl => ?_, hflags, rfl⟩
  · rw [Bluepad32.finish, along_append]
    exact ⟨h.reports, ⟨h.alternates, fun ctl => (hopened ctl).trans (h.opened ctl).symm⟩, trivial⟩
  · have hsessions : (b.finish dataUpdated).sessions =
        (run PadSessions.update {} b.updates).update
          ⟨b.calls, b.controllerAt, dataUpdated⟩ := by
      rw [sessions, Bluepad32.finish, List.foldl_nil, run_concat]
    rw [hsessions]
    change (b.sessions.slot ctl).connected = _
    rw [h.opened]
    unfold Bluepad32.opened
    split
    · rw [hnone]
      rfl
    · rfl

/-! ## Each stretch of the update -/

theorem opened_val (b : Bluepad32) (i : SeatIdx) :
    b.opened i.val = ((b.controllers i).connected && !b.unannounced i) := by
  rw [opened, dif_pos i.isLt]

/-- A controller that was not touched is believed to be what it was. -/
theorem opened_congr {ctl : ControllerPtr}
    (hsame : ∀ i : SeatIdx, i.val = ctl → (b'.controllers i).connected =
      (b.controllers i).connected ∧ b'.unannounced i = b.unannounced i) :
    b'.opened ctl = b.opened ctl := by
  unfold opened
  split
  · rename_i hctl
    obtain ⟨hconnected, htold⟩ := hsame ⟨ctl, hctl⟩ rfl
    rw [hconnected, htold]
  · rfl

section Diff

variable {i : SeatIdx} {rest : List SeatIdx} {connected : ℕ} {dataUpdated : Bool}

theorem flags_diff (h : b.Tells) (hpc : b.pc = .diff rest connected dataUpdated) (j : SeatIdx) :
    (b.controllers j).connected =
      if j ∈ rest then b.prevConnectedControllers.testBit j.val else connected.testBit j.val := by
  rw [h.flags j, flag, hpc]

/-- The flags behind the loop follow the new mask, whether seat `i` was written or not. -/
theorem flags_diff_cons (h : b.Tells) (hpc : b.pc = .diff (i :: rest) connected dataUpdated)
    (hothers : ∀ j, j ≠ i → (b'.controllers j).connected = (b.controllers j).connected)
    (hi : (b'.controllers i).connected = connected.testBit i.val) (hfresh : i ∉ rest)
    (j : SeatIdx) :
    (b'.controllers j).connected =
      if j ∈ rest then b.prevConnectedControllers.testBit j.val else connected.testBit j.val := by
  by_cases hji : j = i
  · subst hji
    rw [hi, if_neg hfresh]
  · rw [hothers j hji, flags_diff h hpc j]
    simp [hji]

theorem nodup_of_diff (h : b.Tells) (hpc : b.pc = .diff (i :: rest) connected dataUpdated) :
    i ∉ rest ∧ rest.Nodup := by
  have hphase := h.phase
  rw [Phase, hpc] at hphase
  exact List.nodup_cons.mp hphase

theorem unannounced_diff (hpc : b.pc = .diff rest connected dataUpdated) (j : SeatIdx) :
    b.unannounced j = false := by
  rw [unannounced, hpc]

/-- A seat whose bit did not change is passed over. -/
theorem Tells.pass (h : b.Tells) (hpc : b.pc = .diff (i :: rest) connected dataUpdated)
    (hsame : connected.testBit i.val = b.prevConnectedControllers.testBit i.val) :
    (b.goto (.diff rest connected dataUpdated)).Tells := by
  obtain ⟨hfresh, hrest⟩ := nodup_of_diff h hpc
  have hi : (b.controllers i).connected = connected.testBit i.val := by
    rw [flags_diff h hpc i, if_pos List.mem_cons_self, hsame]
  have hflags : ∀ j, (b.controllers j).connected =
      if j ∈ rest then b.prevConnectedControllers.testBit j.val else connected.testBit j.val :=
    flags_diff_cons h hpc (fun _ _ => rfl) hi hfresh
  refine h.quiet rfl rfl (fun ctl => opened_congr fun j _ => ⟨rfl, ?_⟩) hflags hrest
  rw [unannounced_diff hpc]
  rfl

/-- A seat whose bit changed is written and told, in one go. -/
theorem Tells.tell (h : b.Tells) (hpc : b.pc = .diff (i :: rest) connected dataUpdated)
    (hdiffer : connected.testBit i.val ≠ b.prevConnectedControllers.testBit i.val) {cb : Callback}
    (hcb : cb = if connected.testBit i.val then .connected i.val else .disconnected i.val)
    (hcontrollers : b'.controllers = Function.update b.controllers i
      { b.controllers i with connected := connected.testBit i.val })
    (hpc' : b'.pc = .diff rest connected dataUpdated) (hcalls : b'.calls = b.calls ++ [cb])
    (hupdates : b'.updates = b.updates)
    (hprev : b'.prevConnectedControllers = b.prevConnectedControllers) : b'.Tells := by
  obtain ⟨hfresh, hrest⟩ := nodup_of_diff h hpc
  -- so far the flag, and what the sketch believes, are the opposite of the new bit
  have hold : (b.controllers i).connected = !connected.testBit i.val := by
    rw [flags_diff h hpc i, if_pos List.mem_cons_self, Bool.eq_not]
    exact hdiffer.symm
  have hbelieved : (b.sessions.slot i.val).connected = !connected.testBit i.val := by
    rw [h.opened, opened_val, hold, unannounced_diff hpc, Bool.not_false, Bool.and_true]
  -- only seat `i` is written, and its flag turns into the new bit
  have hothers : ∀ j, j ≠ i → (b'.controllers j).connected = (b.controllers j).connected := by
    intro j hji
    rw [hcontrollers, Function.update_of_ne hji]
  have hi : (b'.controllers i).connected = connected.testBit i.val := by
    rw [hcontrollers, Function.update_self]
  have hopened : b'.opened i.val = connected.testBit i.val := by
    rw [opened_val, hi, unannounced_diff hpc', Bool.not_false, Bool.and_true]
  have helse : ∀ ctl, ctl ≠ i.val → b'.opened ctl = (b.sessions.slot ctl).connected := by
    intro ctl hctl
    rw [h.opened]
    refine opened_congr fun j hj => ⟨hothers j ?_, ?_⟩
    · rintro rfl
      exact hctl hj.symm
    · rw [unannounced_diff hpc, unannounced_diff hpc']
  refine h.called hcalls hupdates ?_ ?_ ?_ ?_
  -- the callback comes in turn: it says the opposite of what is believed
  · cases hbit : connected.testBit i.val <;>
      simp only [hbit, if_true, Bool.false_eq_true, if_false] at hcb hbelieved <;>
      subst hcb <;> exact hbelieved
  -- from then on the flag is what is believed of seat `i`, and no other belief has changed
  · intro ctl
    by_cases hctl : ctl = i.val
    · subst hctl
      rw [hopened]
      cases hbit : connected.testBit i.val <;>
        simp only [hbit, if_true, Bool.false_eq_true, if_false] at hcb <;>
        subst hcb <;> simp [PadSessions.callback]
    · rw [helse ctl hctl]
      cases hbit : connected.testBit i.val <;>
        simp only [hbit, if_true, Bool.false_eq_true, if_false] at hcb <;>
        subst hcb <;> simp [PadSessions.callback, hctl]
  -- seat `i` is behind the loop now
  · intro j
    rw [flags_diff_cons h hpc hothers hi hfresh j, flag, hpc', hprev]
  · rw [Phase, hpc']
    exact hrest

/-- `_connected` is set, and the callback waits for the properties. -/
theorem Tells.greet (h : b.Tells) (hpc : b.pc = .diff (i :: rest) connected dataUpdated)
    (hon : connected.testBit i.val = true)
    (hdiffer : connected.testBit i.val ≠ b.prevConnectedControllers.testBit i.val) :
    ((b.setController i fun c => { c with connected := true }).goto
      (.fetch i rest connected dataUpdated)).Tells := by
  obtain ⟨hfresh, hrest⟩ := nodup_of_diff h hpc
  have hold : (b.controllers i).connected = false := by
    rw [flags_diff h hpc i, if_pos List.mem_cons_self]
    rw [hon] at hdiffer
    exact Bool.eq_false_iff.mpr fun hprev => hdiffer hprev.symm
  have hothers : ∀ j, j ≠ i →
      ((b.setController i fun c => { c with connected := true }).controllers j).connected =
        (b.controllers j).connected := by
    intro j hji
    rw [controllers_setController, Function.update_of_ne hji]
  have hi : ((b.setController i fun c => { c with connected := true }).controllers i).connected =
      connected.testBit i.val := by
    rw [controllers_setController, Function.update_self, hon]
  refine h.quiet rfl rfl (fun ctl => ?_) ?_ ⟨hfresh, hrest, hon⟩
  · by_cases hctl : ctl = i.val
    · subst hctl
      rw [opened_val, opened_val, hold]
      simp [unannounced, goto]
    · refine opened_congr fun j hj => ?_
      have hji : j ≠ i := by
        rintro rfl
        exact hctl hj.symm
      refine ⟨hothers j hji, ?_⟩
      rw [unannounced_diff hpc]
      simpa [unannounced, goto] using hji.symm
  · exact fun j => flags_diff_cons h hpc hothers hi hfresh j

theorem Tells.compare (h : b.Tells) (seatTaken : SeatIdx → Bool)
    (hpc : b.pc = .diff (i :: rest) connected dataUpdated) :
    (b.compare seatTaken i rest connected dataUpdated).Tells := by
  unfold Bluepad32.compare
  split
  · rename_i hsame
    exact h.pass hpc ((sameBit_iff i connected _).mp hsame)
  · rename_i hdiffer
    rw [sameBit_iff] at hdiffer
    cases hbit : connected.testBit i.val with
    | true =>
      simp only [if_true]
      split
      · exact h.greet hpc hbit hdiffer
      · refine h.tell hpc hdiffer rfl ?_ rfl ?_ rfl rfl
        · rw [hbit]
          rfl
        · rw [hbit]
          rfl
    | false =>
      simp only [Bool.false_eq_true, if_false]
      refine h.tell hpc hdiffer rfl ?_ rfl ?_ rfl rfl
      · rw [hbit]
        rfl
      · rw [hbit]
        rfl

/-- The properties are copied, and the callback is made. -/
theorem Tells.announce (h : b.Tells) (hpc : b.pc = .fetch i rest connected dataUpdated)
    (properties : SeatIdx → ControllerProperties) :
    ((b.announce properties i).goto (.diff rest connected dataUpdated)).Tells := by
  have hphase := h.phase
  rw [Phase, hpc] at hphase
  have hconnected : ∀ j, ((b.announce properties i).controllers j).connected =
      (b.controllers j).connected := by
    intro j
    by_cases hji : j = i
    · subst hji
      simp [Bluepad32.announce, setController, callBack]
    · simp [Bluepad32.announce, setController, callBack, hji]
  have hflag : (b.controllers i).connected = true := by
    rw [h.flags i, flag, hpc]
    simp only [hphase.1, if_false, hphase.2.2]
  -- this is the one controller that is connected and not yet announced
  have hwaits : b.unannounced i = true := by
    rw [unannounced, hpc]
    simp
  refine h.called rfl rfl ?_ ?_ ?_ hphase.2.1
  · change (b.sessions.slot i.val).connected = false
    rw [h.opened, opened_val, hwaits, Bool.not_true, Bool.and_false]
  · intro ctl
    by_cases hctl : ctl = i.val
    · subst hctl
      rw [opened_val]
      change _ = (((b.announce properties i).controllers i).connected && !false)
      rw [hconnected, hflag]
      simp [PadSessions.callback]
    · simp only [PadSessions.callback, Function.update_of_ne hctl]
      rw [h.opened]
      refine Eq.symm (opened_congr fun j hj => ⟨hconnected j, ?_⟩)
      have hij : i ≠ j := by
        rintro rfl
        exact hctl hj.symm
      rw [unannounced, unannounced, hpc]
      simp [goto, hij]
  · intro j
    change ((b.announce properties i).controllers j).connected = _
    rw [hconnected, h.flags j, flag, hpc]
    rfl

end Diff

/-- A stretch before the second loop: no callback has been made, and none is owed. -/
theorem Tells.before (h : b.Tells) (hcalls : b.calls = []) (hb' : b'.calls = b.calls)
    (hupdates : b'.updates = b.updates)
    (hflag : ∀ i, b.flag i = b.prevConnectedControllers.testBit i.val)
    (hflag' : ∀ i, b'.flag i = b.prevConnectedControllers.testBit i.val)
    (hconnected : ∀ i, (b'.controllers i).connected = (b.controllers i).connected)
    (hnone : ∀ i, b.unannounced i = false) (hnone' : ∀ i, b'.unannounced i = false)
    (hphase : b.calls = [] → b'.Phase) : b'.Tells :=
  h.quiet hb' hupdates
    (fun _ => opened_congr fun i _ => ⟨hconnected i, (hnone' i).trans (hnone i).symm⟩)
    (fun i => by rw [hconnected, h.flags, hflag, hflag']) (hphase hcalls)

end

end Bluepad32

namespace PadSystem

open Bluepad32

/-- Each step of the update keeps the promise. -/
theorem tells_advance (s : PadSystem) (h : s.bp32.Tells) : s.advance.bp32.Tells := by
  have hphase := h.phase
  unfold advance
  split
  · rename_i hpc
    rw [Phase, hpc] at hphase
    refine h.before hphase rfl rfl ?_ (fun _ => rfl) (fun _ => rfl) ?_ (fun _ => rfl) id <;>
      intro i
    · rw [flag, hpc]
    · rw [unannounced, hpc]
  · rename_i i rest connected dataUpdated hpc
    rw [Phase, hpc] at hphase
    have hflag : ∀ i, s.bp32.flag i = s.bp32.prevConnectedControllers.testBit i.val := by
      intro i
      rw [flag, hpc]
    have hnone : ∀ i, s.bp32.unannounced i = false := by
      intro i
      rw [unannounced, hpc]
    split <;>
      exact h.before hphase rfl rfl hflag (fun _ => rfl) (fun _ => rfl) hnone (fun _ => rfl) id
  · rename_i i rest connected dataUpdated hpc
    rw [Phase, hpc] at hphase
    refine h.before hphase rfl rfl ?_ (fun _ => rfl) ?_ ?_ (fun _ => rfl) id <;> intro j
    · rw [flag, hpc]
    · by_cases hji : j = i
      · subst hji
        simp [collected, goto]
      · simp [collected, goto, hji]
    · rw [unannounced, hpc]
  · rename_i connected dataUpdated hpc
    rw [Phase, hpc] at hphase
    have hflag : ∀ i, s.bp32.flag i = s.bp32.prevConnectedControllers.testBit i.val := by
      intro i
      rw [flag, hpc]
    have hnone : ∀ i, s.bp32.unannounced i = false := by
      intro i
      rw [unannounced, hpc]
    split
    · exact h.finish hnone fun i => (h.flags i).trans (hflag i)
    · refine h.before hphase rfl rfl hflag (fun i => ?_) (fun _ => rfl) hnone (fun _ => rfl)
        (fun _ => List.nodup_finRange MAX_DEVICES)
      -- the second loop has everything before it
      rw [flag, goto]
      exact if_pos (List.mem_finRange i)
  · rename_i i rest connected dataUpdated hpc
    exact h.compare s.platform.seatTaken hpc
  · rename_i i rest connected dataUpdated hpc
    exact h.announce hpc _
  · rename_i connected dataUpdated hpc
    have hflags : ∀ i, (s.bp32.controllers i).connected = connected.testBit i.val := by
      intro i
      rw [flags_diff h hpc i, if_neg List.not_mem_nil]
    have hdone : ({ s.bp32 with prevConnectedControllers := connected } : Bluepad32).Tells := by
      refine h.quiet rfl rfl (fun _ => rfl) (fun i => ?_) ?_
      · rw [flag, hpc]
        exact hflags i
      · rw [Phase, hpc]
        exact List.nodup_nil
    exact hdone.finish (unannounced_diff hpc) hflags

theorem tells_step (s : PadSystem) (e : Event) (h : s.bp32.Tells) : (s.step e).bp32.Tells := by
  cases e with
  | cpu0 e => exact h
  | advance => exact s.tells_advance h
  | request i cmd =>
    simp only [step, request]
    split <;> exact h

theorem tells_start : ({} : PadSystem).bp32.Tells where
  reports := trivial
  alternates := trivial
  opened ctl := by
    unfold Bluepad32.opened
    split <;> rfl
  flags _ := (Nat.zero_testBit _).symm
  phase := rfl

/-- Over every interleaving with the Bluetooth thread, the updates that have returned report
every change of `isConnected()` through callbacks that alternate for each controller; a pad that
is replaced on its seat between two updates is no such change. -/
theorem updates_report (es : List Event) :
    Along PadSessions.update PadSessions.Reports {} (run step {} es).bp32.updates :=
  (inv_run tells_step tells_start es).reports

end PadSystem

end K2soHead
