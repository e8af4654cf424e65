import K2soHead.Properties.PadCallbacks

/-!
# One `BP32.update()`

An update has a bounded number of steps to go wherever it stands; one that CPU 0 leaves alone
tells the sketch exactly what has changed since the last; and so a pad that is gone is noticed
once CPU 0 is quiet.
-/

namespace K2soHead

open Runs

namespace UpdatePc

/-- How many steps the update may still take. -/
def todo : UpdatePc → ℕ
  | .idle => 0
  | .check rest _ _ => 2 * rest.length + (2 * MAX_DEVICES + 2)
  | .read _ rest _ _ => 2 * rest.length + (2 * MAX_DEVICES + 3)
  | .diff rest _ _ => 2 * rest.length + 1
  | .fetch _ rest _ _ => 2 * rest.length + 2

theorem todo_pos {pc : UpdatePc} (hbusy : pc ≠ .idle) : 0 < pc.todo := by
  cases pc with
  | idle => contradiction
  | _ =>
    simp only [todo]
    omega

end UpdatePc

namespace PadSystem

open Bluepad32

/-! ## It returns -/

/-- A step of an update returns from it, or brings it nearer its end. -/
theorem advance_progress (s : PadSystem) (hbusy : s.bp32.pc ≠ .idle) :
    s.advance.bp32.pc = .idle ∨
      (s.advance.bp32.pc ≠ .idle ∧ s.advance.bp32.pc.todo < s.bp32.pc.todo) := by
  unfold advance
  split
  · contradiction
  · -- the first loop leaves a seat behind or turns to its copy
    rename_i i rest connected dataUpdated hpc
    rw [hpc]
    split
    · exact .inr ⟨by simp [goto], by simp only [goto, UpdatePc.todo, List.length_cons]; omega⟩
    · exact .inr ⟨by simp [goto], by simp only [goto, UpdatePc.todo, List.length_cons]; omega⟩
  · rename_i i rest connected dataUpdated hpc
    rw [hpc]
    exact .inr ⟨by simp [goto], by simp only [goto, UpdatePc.todo]; omega⟩
  · rename_i connected dataUpdated hpc
    rw [hpc]
    split
    · exact .inl rfl
    · exact .inr ⟨by simp [goto],
        by simp only [goto, UpdatePc.todo, List.length_finRange, List.length_nil]; omega⟩
  · rename_i i rest connected dataUpdated hpc
    rw [hpc]
    refine .inr ?_
    simp only [Bluepad32.compare]
    split
    · exact ⟨by simp [goto], by simp only [goto, UpdatePc.todo, List.length_cons]; omega⟩
    · split
      · split
        · exact ⟨by simp [goto], by simp only [goto, UpdatePc.todo, List.length_cons]; omega⟩
        · exact ⟨by simp [goto], by simp only [goto, UpdatePc.todo, List.length_cons]; omega⟩
      · exact ⟨by simp [goto], by simp only [goto, UpdatePc.todo, List.length_cons]; omega⟩
  · rename_i i rest connected dataUpdated hpc
    rw [hpc]
    exact .inr ⟨by simp [goto], by simp only [goto, UpdatePc.todo]; omega⟩
  · exact .inl rfl

/-- The steps of a whole update, at most. -/
def stepsPerUpdate : ℕ := 4 * MAX_DEVICES + 3

/-- An update under way is within the bound. -/
def InBound (s : PadSystem) : Prop := s.bp32.pc.todo < stepsPerUpdate

theorem advance_from_idle (s : PadSystem) (hidle : s.bp32.pc = .idle) :
    s.advance = { s with
      bp32 := s.bp32.goto (.check (List.finRange MAX_DEVICES) 0 false) } := by
  unfold advance
  rw [hidle]

theorem inBound_advance (s : PadSystem) (h : s.InBound) : s.advance.InBound := by
  by_cases hidle : s.bp32.pc = .idle
  · rw [InBound, s.advance_from_idle hidle]
    simp only [goto, UpdatePc.todo, List.length_finRange, stepsPerUpdate]
    omega
  · have hpos := UpdatePc.todo_pos hidle
    rw [InBound] at h ⊢
    rcases s.advance_progress hidle with hdone | ⟨-, htodo⟩
    · rw [hdone]
      exact hpos.trans h
    · exact htodo.trans h

theorem inBound_step (s : PadSystem) (e : Event) (h : s.InBound) : (s.step e).InBound := by
  cases e with
  | cpu0 e => exact h
  | advance => exact s.inBound_advance h
  | request i cmd =>
    simp only [step, request]
    split <;> exact h

theorem inBound_run (es : List Event) : (run step {} es).InBound := by
  refine inv_run inBound_step ?_ es
  rw [InBound]
  decide

/-! ## It tells what changed -/

/-- `n` steps of CPU 1 and nothing else. -/
def advances (n : ℕ) (s : PadSystem) : PadSystem := run step s (List.replicate n .advance)

@[simp] theorem advances_zero (s : PadSystem) : s.advances 0 = s := rfl

theorem advances_succ (n : ℕ) (s : PadSystem) : s.advances (n + 1) = s.advance.advances n := rfl

theorem advances_add (m n : ℕ) (s : PadSystem) :
    s.advances (m + n) = (s.advances m).advances n := by
  rw [advances, List.replicate_add, run_append]
  rfl

/-- What the first loop leaves when CPU 0 is quiet. -/
structure Polled (rest : List SeatIdx) (connected : ℕ) (dataUpdated : Bool)
    (s s' : PadSystem) : Prop where
  pc : ∃ mask, s'.bp32.pc = .check [] mask
      (dataUpdated ||
        rest.any fun i => s.platform.seatTaken i && (s.platform.controllers i).dataUpdated) ∧
    ∀ i : SeatIdx, mask.testBit i.val =
      (connected.testBit i.val || (decide (i ∈ rest) && s.platform.seatTaken i))
  taken : s'.platform.seatTaken = s.platform.seatTaken
  prev : s'.bp32.prevConnectedControllers = s.bp32.prevConnectedControllers
  calls : s'.bp32.calls = s.bp32.calls
  updates : s'.bp32.updates = s.bp32.updates
  flags : ∀ i, (s'.bp32.controllers i).connected = (s.bp32.controllers i).connected
  passed : ∀ i, i ∉ rest → s'.bp32.controllers i = s.bp32.controllers i
  polled : ∀ i, i ∈ rest → s.platform.seatTaken i = true →
    (s'.bp32.controllers i).hasData = (s.platform.controllers i).dataUpdated ∧
      ((s.platform.controllers i).dataUpdated = true →
        (s'.bp32.controllers i).data = (s.platform.controllers i).data)

theorem seatTaken_collect (i : SeatIdx) (p : Platform) :
    (p.collect i).1.seatTaken = p.seatTaken := by
  funext j
  by_cases hji : j = i
  · subst hji
    simp [Platform.seatTaken, Platform.collect, Platform.recordMail]
  · simp [Platform.seatTaken, Platform.collect, Platform.recordMail, hji]

theorem controllers_collect_of_ne {i j : SeatIdx} (hji : j ≠ i) (p : Platform) :
    (p.collect i).1.controllers j = p.controllers j := by
  simp [Platform.collect, Platform.recordMail, hji]

/-- An empty seat is passed over. -/
theorem Polled.skip {i : SeatIdx} {rest : List SeatIdx} {connected : ℕ} {dataUpdated : Bool}
    {s t s' : PadSystem} (hfree : s.platform.seatTaken i = false)
    (hplatform : t.platform = s.platform)
    (hbp32 : t.bp32 = s.bp32.goto (.check rest connected dataUpdated))
    (h : Polled rest connected dataUpdated t s') :
    Polled (i :: rest) connected dataUpdated s s' := by
  obtain ⟨⟨mask, hpc, hmask⟩, htaken, hprev, hcalls, hupdates, hflags, hpassed, hpolled⟩ := h
  rw [hplatform] at hpc hmask htaken hpolled
  rw [hbp32] at hprev hcalls hupdates hflags hpassed
  refine ⟨⟨mask, ?_, fun j => ?_⟩, htaken, hprev, hcalls, hupdates, hflags, fun j hj => ?_,
    fun j hj hjtaken => ?_⟩
  · rw [hpc, List.any_cons, hfree, Bool.false_and, Bool.false_or]
  · rw [hmask]
    by_cases hji : j = i
    · subst hji
      simp [hfree]
    · simp [hji]
  · exact hpassed j fun hmem => hj (List.mem_cons_of_mem i hmem)
  · rcases List.mem_cons.mp hj with rfl | hj
    · rw [hfree] at hjtaken
      cases hjtaken
    · exact hpolled j hj hjtaken

/-- A taken seat is collected from. -/
theorem Polled.take {i : SeatIdx} {rest : List SeatIdx} {connected : ℕ} {dataUpdated : Bool}
    {s t s' : PadSystem} (hi : i ∉ rest) (htaken : s.platform.seatTaken i = true)
    (hplatform : t.platform = (s.platform.collect i).1)
    (hbp32 : t.bp32 = (s.bp32.collected i (s.platform.collect i).2).goto
      (.check rest (connected ||| 1 <<< i.val)
        (dataUpdated || (s.platform.controllers i).dataUpdated)))
    (h : Polled rest (connected ||| 1 <<< i.val)
      (dataUpdated || (s.platform.controllers i).dataUpdated) t s') :
    Polled (i :: rest) connected dataUpdated s s' := by
  obtain ⟨⟨mask, hpc, hmask⟩, htakens, hprev, hcalls, hupdates, hflags, hpassed, hpolled⟩ := h
  -- collecting clears `dataUpdated` of seat `i` and touches no other seat
  have hseats : t.platform.seatTaken = s.platform.seatTaken := by
    rw [hplatform, seatTaken_collect]
  have hothers : ∀ j, j ≠ i → t.platform.controllers j = s.platform.controllers j := by
    intro j hji
    rw [hplatform, controllers_collect_of_ne hji]
  have hcontroller : ∀ j, j ≠ i → t.bp32.controllers j = s.bp32.controllers j := by
    intro j hji
    simp [hbp32, collected, goto, hji]
  have hmine : t.bp32.controllers i =
      { s.bp32.controllers i with
        data := (s.platform.collect i).2.getD (s.bp32.controllers i).data
        hasData := (s.platform.collect i).2.isSome
        idx := ((i : ℕ) : ℤ) } := by
    simp [hbp32, collected, goto]
  -- `i` is not visited again, so the rest of the loop finds what was there before
  have hany : (rest.any fun j =>
        t.platform.seatTaken j && (t.platform.controllers j).dataUpdated) =
      rest.any fun j => s.platform.seatTaken j && (s.platform.controllers j).dataUpdated := by
    rw [Bool.eq_iff_iff, List.any_eq_true, List.any_eq_true]
    refine exists_congr fun j => and_congr_right fun hj => ?_
    have hji : j ≠ i := by
      rintro rfl
      exact hi hj
    rw [hseats, hothers j hji]
  refine ⟨⟨mask, ?_, fun j => ?_⟩, htakens.trans hseats, ?_, ?_, ?_, fun j => ?_, fun j hj => ?_,
    fun j hj hjtaken => ?_⟩
  · rw [hpc, hany, List.any_cons, htaken, Bool.true_and, Bool.or_assoc]
  · rw [hmask, testBit_mark, hseats]
    by_cases hji : j = i
    · subst hji
      simp [htaken]
    · simp [hji, Ne.symm hji]
  · rw [hprev, hbp32]
    rfl
  · rw [hcalls, hbp32]
    rfl
  · rw [hupdates, hbp32]
    rfl
  · rw [hflags]
    by_cases hji : j = i
    · subst hji
      rw [hmine]
    · rw [hcontroller j hji]
  · obtain ⟨hji, hj⟩ := not_or.mp (List.mem_cons.not.mp hj)
    rw [hpassed j hj, hcontroller j hji]
  · by_cases hji : j = i
    · subst hji
      rw [hpassed j hi, hmine]
      simp only [Platform.collect]
      cases (s.platform.controllers j).dataUpdated <;> simp
    · obtain ⟨hdata, hfresh⟩ := hpolled j (List.mem_of_ne_of_mem hji hj) (hseats ▸ hjtaken)
      rw [hothers j hji] at hdata hfresh
      exact ⟨hdata, hfresh⟩

/-- The first loop, with CPU 0 quiet. -/
theorem exists_polled {rest : List SeatIdx} (hrest : rest.Nodup) {s : PadSystem} {connected : ℕ}
    {dataUpdated : Bool} (hpc : s.bp32.pc = .check rest connected dataUpdated) :
    ∃ n ≤ 2 * rest.length, Polled rest connected dataUpdated s (s.advances n) := by
  induction rest generalizing s connected dataUpdated with
  | nil =>
    refine ⟨0, Nat.zero_le _, ⟨⟨connected, ?_, fun i => ?_⟩, rfl, rfl, rfl, rfl, fun _ => rfl,
      fun _ _ => rfl, fun i hi => absurd hi List.not_mem_nil⟩⟩
    · rw [advances_zero, hpc, List.any_nil, Bool.or_false]
    · simp
  | cons i rest ih =>
    obtain ⟨hi, hrest⟩ := List.nodup_cons.mp hrest
    cases htaken : s.platform.seatTaken i with
    | false =>
      have hstep : s.advance =
          { s with bp32 := s.bp32.goto (.check rest connected dataUpdated) } := by
        unfold advance
        simp only [hpc, htaken, Bool.false_eq_true, if_false]
      -- a free seat is passed over in one step
      obtain ⟨n, hn, hpolled⟩ := ih hrest (s := s.advance) (by rw [hstep]; rfl)
      refine ⟨n + 1, by rw [List.length_cons]; omega, ?_⟩
      rw [advances_succ]
      exact hpolled.skip htaken (by rw [hstep]) (by rw [hstep])
    | true =>
      have hstep : s.advance = { s with bp32 := s.bp32.goto (.read i rest connected dataUpdated) } := by
        unfold advance
        simp only [hpc, htaken, if_true]
      -- a taken seat takes two: the test, and the copy
      have hread : s.advance.advance =
          { platform := (s.platform.collect i).1
            bp32 := (s.bp32.collected i (s.platform.collect i).2).goto
              (.check rest (connected ||| 1 <<< i.val)
                (dataUpdated || (s.platform.controllers i).dataUpdated)) } := by
        rw [hstep]
        simp only [advance, goto, Platform.collect]
        cases (s.platform.controllers i).dataUpdated <;> rfl
      obtain ⟨n, hn, hpolled⟩ := ih hrest (s := s.advance.advance) (by rw [hread]; rfl)
      refine ⟨n + 2, by rw [List.length_cons]; omega, ?_⟩
      rw [advances_succ, advances_succ]
      exact hpolled.take hi htaken (by rw [hread]) (by rw [hread])

/-- The callback a changed seat is worth. -/
def change (now before : SeatIdx → Bool) (i : SeatIdx) : Option Callback :=
  if now i = before i then none
  else some (if now i then .connected i.val else .disconnected i.val)

/-- What the second loop leaves when CPU 0 is quiet. -/
structure Compared (rest : List SeatIdx) (connected : ℕ) (dataUpdated : Bool)
    (s s' : PadSystem) : Prop where
  pc : s'.bp32.pc = .diff [] connected dataUpdated
  platform : s'.platform = s.platform
  calls : s'.bp32.calls = s.bp32.calls ++ rest.filterMap
    (change (fun i => connected.testBit i.val)
      fun i => s.bp32.prevConnectedControllers.testBit i.val)
  updates : s'.bp32.updates = s.bp32.updates
  prev : s'.bp32.prevConnectedControllers = s.bp32.prevConnectedControllers
  answers : ∀ i, (s'.bp32.controllers i).hasData = (s.bp32.controllers i).hasData ∧
    (s'.bp32.controllers i).data = (s.bp32.controllers i).data

/-- The second loop is past seat `i`, told or not. -/
structure Told (i : SeatIdx) (rest : List SeatIdx) (connected : ℕ) (dataUpdated : Bool)
    (s t : PadSystem) : Prop where
  pc : t.bp32.pc = .diff rest connected dataUpdated
  platform : t.platform = s.platform
  calls : t.bp32.calls = s.bp32.calls ++
    (change (fun i => connected.testBit i.val)
      (fun i => s.bp32.prevConnectedControllers.testBit i.val) i).toList
  updates : t.bp32.updates = s.bp32.updates
  prev : t.bp32.prevConnectedControllers = s.bp32.prevConnectedControllers
  answers : ∀ j, (t.bp32.controllers j).hasData = (s.bp32.controllers j).hasData ∧
    (t.bp32.controllers j).data = (s.bp32.controllers j).data

theorem Told.compared {i : SeatIdx} {rest : List SeatIdx} {connected : ℕ} {dataUpdated : Bool}
    {s t s' : PadSystem} (h : Told i rest connected dataUpdated s t)
    (h' : Compared rest connected dataUpdated t s') :
    Compared (i :: rest) connected dataUpdated s s' where
  pc := h'.pc
  platform := h'.platform.trans h.platform
  calls := by
    rw [h'.calls, h.calls, h.prev, List.append_assoc, List.filterMap_cons]
    cases change (fun i => connected.testBit i.val)
      (fun i => s.bp32.prevConnectedControllers.testBit i.val) i <;> rfl
  updates := h'.updates.trans h.updates
  prev := h'.prev.trans h.prev
  answers j := ⟨(h'.answers j).1.trans (h.answers j).1, (h'.answers j).2.trans (h.answers j).2⟩

theorem change_of_ne {connected prev : ℕ} {i : SeatIdx}
    (hdiffer : connected.testBit i.val ≠ prev.testBit i.val) :
    (change (fun i => connected.testBit i.val) (fun i => prev.testBit i.val) i).toList =
      [if connected.testBit i.val then .connected i.val else .disconnected i.val] := by
  rw [change, if_neg hdiffer]
  rfl

/-- Writing the flag, or the properties, of a controller leaves its answers alone. -/
theorem answers_setController {b : Bluepad32} {i : SeatIdx}
    {f : ControllerObject → ControllerObject}
    (hf : ∀ c, (f c).hasData = c.hasData ∧ (f c).data = c.data) (j : SeatIdx) :
    ((b.setController i f).controllers j).hasData = (b.controllers j).hasData ∧
      ((b.setController i f).controllers j).data = (b.controllers j).data := by
  rw [controllers_setController]
  by_cases hji : j = i
  · subst hji
    rw [Function.update_self]
    exact hf _
  · rw [Function.update_of_ne hji]
    exact ⟨rfl, rfl⟩

/-- A seat takes one step, or two if it is new and its properties are fetched. -/
theorem exists_told {i : SeatIdx} {rest : List SeatIdx} {s : PadSystem} {connected : ℕ}
    {dataUpdated : Bool} (hpc : s.bp32.pc = .diff (i :: rest) connected dataUpdated) :
    ∃ m ≤ 2, Told i rest connected dataUpdated s (s.advances m) := by
  have hstep : s.advance =
      { s with bp32 := s.bp32.compare s.platform.seatTaken i rest connected dataUpdated } := by
    unfold advance
    rw [hpc]
  rw [Bluepad32.compare] at hstep
  by_cases hsame : connected.testBit i.val = s.bp32.prevConnectedControllers.testBit i.val
  · -- the seat did not change
    rw [if_pos ((sameBit_iff _ _ _).mpr hsame)] at hstep
    refine ⟨1, by omega, ?_⟩
    rw [advances_succ, advances_zero, hstep]
    refine ⟨rfl, rfl, ?_, rfl, rfl, fun _ => ⟨rfl, rfl⟩⟩
    rw [change, if_pos hsame]
    exact (List.append_nil _).symm
  · rw [if_neg ((sameBit_iff _ _ _).not.mpr hsame)] at hstep
    have hcall := change_of_ne hsame
    cases hbit : connected.testBit i.val with
    | false =>
      simp only [hbit, Bool.false_eq_true, if_false] at hstep hcall
      -- `onDisconnected`
      refine ⟨1, by omega, ?_⟩
      rw [advances_succ, advances_zero, hstep]
      refine ⟨rfl, rfl, ?_, rfl, rfl, ?_⟩
      · rw [hcall]
        rfl
      · exact answers_setController (b := s.bp32) (f := fun c => { c with connected := false })
          fun _ => ⟨rfl, rfl⟩
    | true =>
      simp only [hbit, if_true] at hstep hcall
      -- `onConnected`; a controller that is new has its properties fetched first
      split at hstep
      · refine ⟨2, by omega, ?_⟩
        rw [advances_succ, advances_succ, advances_zero, hstep]
        refine ⟨rfl, rfl, ?_, rfl, rfl, fun j => ?_⟩
        · rw [hcall]
          rfl
        · have hset := answers_setController (b := s.bp32) (i := i)
            (f := fun c => { c with connected := true }) (fun _ => ⟨rfl, rfl⟩) j
          have hget := answers_setController
            (b := s.bp32.setController i fun c => { c with connected := true }) (i := i)
            (f := fun c => { c with
              properties := ((Platform.seatIdx c.idx).map
                fun j => (s.platform.controllers j).properties).getD c.properties })
            (fun _ => ⟨rfl, rfl⟩) j
          exact ⟨hget.1.trans hset.1, hget.2.trans hset.2⟩
      · refine ⟨1, by omega, ?_⟩
        rw [advances_succ, advances_zero, hstep]
        refine ⟨rfl, rfl, ?_, rfl, rfl, ?_⟩
        · rw [hcall]
          rfl
        · exact answers_setController (b := s.bp32) (f := fun c => { c with connected := true })
            fun _ => ⟨rfl, rfl⟩

/-- The second loop, with CPU 0 quiet. -/
theorem exists_compared {rest : List SeatIdx} {s : PadSystem} {connected : ℕ} {dataUpdated : Bool}
    (hpc : s.bp32.pc = .diff rest connected dataUpdated) :
    ∃ n ≤ 2 * rest.length, Compared rest connected dataUpdated s (s.advances n) := by
  induction rest generalizing s with
  | nil =>
    refine ⟨0, Nat.zero_le _, ⟨hpc, rfl, ?_, rfl, rfl, fun _ => ⟨rfl, rfl⟩⟩⟩
    rw [advances_zero, List.filterMap_nil, List.append_nil]
  | cons i rest ih =>
    obtain ⟨m, hm, htold⟩ := exists_told hpc
    obtain ⟨n, hn, hcompared⟩ := ih htold.pc
    refine ⟨m + n, by rw [List.length_cons]; omega, ?_⟩
    rw [advances_add]
    exact htold.compared hcompared

/-- What an update that CPU 0 leaves alone tells the sketch. -/
structure TellsTruth (s : PadSystem) (u : Bp32Update) : Prop where
  /-- the callbacks are the changes since the last update, in the order of the seats -/
  callbacks : u.callbacks = (List.finRange MAX_DEVICES).filterMap
    (change s.platform.seatTaken fun i => (s.bp32.controllers i).connected)
  /-- a controller is connected if its seat is taken -/
  connected : ∀ i : SeatIdx, (u.controller i.val).isConnected = s.platform.seatTaken i
  /-- a taken seat has data if there is a new report, and then it is that report -/
  data : ∀ i : SeatIdx, s.platform.seatTaken i = true →
    (u.controller i.val).hasData = (s.platform.controllers i).dataUpdated ∧
      ((s.platform.controllers i).dataUpdated = true →
        (u.controller i.val).report = (s.platform.controllers i).data.report ∧
          (u.controller i.val).isGamepad =
            decide ((s.platform.controllers i).data.klass = .gamepad))
  dataUpdated : u.dataUpdated = (List.finRange MAX_DEVICES).any
    fun i => s.platform.seatTaken i && (s.platform.controllers i).dataUpdated
  /-- there is no controller past the seats -/
  beyond : ∀ ctl, MAX_DEVICES ≤ ctl → (u.controller ctl).isConnected = false

theorem controllerAt_val (b : Bluepad32) (i : SeatIdx) :
    b.controllerAt i.val = (b.controllers i).answer := by
  rw [controllerAt, dif_pos i.isLt]

/-- An update that is about to return, read off its controllers and its callbacks. -/
theorem tellsTruth_of {s t : PadSystem} {mask : ℕ} {dataUpdated : Bool}
    (hmask : ∀ i : SeatIdx, mask.testBit i.val = s.platform.seatTaken i)
    (hflags : ∀ i, (t.bp32.controllers i).connected = mask.testBit i.val)
    (hcalls : t.bp32.calls = (List.finRange MAX_DEVICES).filterMap
      (change s.platform.seatTaken fun i => (s.bp32.controllers i).connected))
    (hdata : ∀ i, s.platform.seatTaken i = true →
      (t.bp32.controllers i).hasData = (s.platform.controllers i).dataUpdated ∧
        ((s.platform.controllers i).dataUpdated = true →
          (t.bp32.controllers i).data = (s.platform.controllers i).data))
    (hupdated : dataUpdated = (List.finRange MAX_DEVICES).any
      fun i => s.platform.seatTaken i && (s.platform.controllers i).dataUpdated) :
    TellsTruth s ⟨t.bp32.calls, t.bp32.controllerAt, dataUpdated⟩ where
  callbacks := hcalls
  connected i := by
    simp only [controllerAt_val, ← hmask]
    exact hflags i
  data i hi := by
    obtain ⟨hhas, hfresh⟩ := hdata i hi
    simp only [controllerAt_val, ControllerObject.answer]
    exact ⟨hhas, fun hnew => by rw [hfresh hnew]; exact ⟨rfl, rfl⟩⟩
  dataUpdated := hupdated
  beyond ctl hctl := by
    simp only [controllerAt]
    rw [dif_neg (Nat.not_lt.mpr hctl)]

/-- The three ways from the end of a loop. -/
theorem advance_unchanged {t : PadSystem} {mask : ℕ} {dataUpdated : Bool}
    (hpc : t.bp32.pc = .check [] mask dataUpdated)
    (hsame : mask = t.bp32.prevConnectedControllers) :
    t.advance = { t with bp32 := t.bp32.finish dataUpdated } := by
  unfold advance
  rw [hpc]
  exact if_pos hsame

theorem advance_changed {t : PadSystem} {mask : ℕ} {dataUpdated : Bool}
    (hpc : t.bp32.pc = .check [] mask dataUpdated)
    (hdiffer : mask ≠ t.bp32.prevConnectedControllers) :
    t.advance =
      { t with bp32 := t.bp32.goto (.diff (List.finRange MAX_DEVICES) mask dataUpdated) } := by
  unfold advance
  rw [hpc]
  exact if_neg hdiffer

theorem advance_done {t : PadSystem} {mask : ℕ} {dataUpdated : Bool}
    (hpc : t.bp32.pc = .diff [] mask dataUpdated) :
    t.advance = { t with
      bp32 := { t.bp32 with prevConnectedControllers := mask }.finish dataUpdated } := by
  unfold advance
  rw [hpc]

/-- Both loops, with CPU 0 quiet. -/
theorem exists_quiet_update {s : PadSystem} (htells : s.bp32.Tells) (hidle : s.bp32.pc = .idle) :
    ∃ n ≤ stepsPerUpdate, ∃ u, TellsTruth s u ∧ (s.advances n).bp32.pc = .idle ∧
      (s.advances n).bp32.updates = s.bp32.updates ++ [u] := by
  have hflags : ∀ i, (s.bp32.controllers i).connected =
      s.bp32.prevConnectedControllers.testBit i.val := by
    intro i
    rw [htells.flags, flag, hidle]
  have hcalls : s.bp32.calls = [] := by
    have hphase := htells.phase
    rwa [Phase, hidle] at hphase
  have hstart := s.advance_from_idle hidle
  -- the first loop visits every seat
  have hhead : s.advance.bp32.pc = .check (List.finRange MAX_DEVICES) 0 false := by
    rw [hstart]
    rfl
  obtain ⟨m, hm, hpolled⟩ := exists_polled (List.nodup_finRange MAX_DEVICES) hhead
  have htold : (s.advance.advances m).bp32.Tells :=
    inv_run tells_step (s.tells_advance htells) (List.replicate m .advance)
  have hreached : ∀ n, s.advances (1 + m + n) = (s.advance.advances m).advances n := by
    intro n
    rw [advances_add, Nat.add_comm 1 m, advances_succ]
  generalize s.advance.advances m = t at hpolled htold hreached
  rw [hstart] at hpolled
  rw [List.length_finRange] at hm
  obtain ⟨⟨mask, hpc, hmask⟩, -, hprev, hkept, hupdates, -, -, hdata⟩ := hpolled
  rw [Bool.false_or] at hpc
  -- so the mask it built is the set of taken seats
  have htaken : ∀ i : SeatIdx, mask.testBit i.val = s.platform.seatTaken i := by
    intro i
    rw [hmask i, Nat.zero_testBit, decide_eq_true (List.mem_finRange i)]
    rfl
  -- the XOR of the two masks is the change since the last update, since `prevConnected` is
  -- what every controller has been told
  have hchange : (List.finRange MAX_DEVICES).filterMap
        (change (fun i => mask.testBit i.val)
          fun i => t.bp32.prevConnectedControllers.testBit i.val) =
      (List.finRange MAX_DEVICES).filterMap
        (change s.platform.seatTaken fun i => (s.bp32.controllers i).connected) := by
    rw [hprev]
    simp only [change, htaken, hflags]
    rfl
  by_cases hunchanged : mask = t.bp32.prevConnectedControllers
  · -- the masks agree, and it returns without a callback
    have hnone : (List.finRange MAX_DEVICES).filterMap
        (change s.platform.seatTaken fun i => (s.bp32.controllers i).connected) = [] := by
      rw [← hchange, hunchanged]
      simp [change]
    refine ⟨1 + m + 1, by rw [stepsPerUpdate]; omega, _,
      tellsTruth_of htaken (t := t) ?_ ?_ (fun i => hdata i (List.mem_finRange i)) rfl, ?_, ?_⟩
    · intro i
      rw [htold.flags, flag, hpc, hunchanged]
    · rw [hkept, hnone]
      exact hcalls
    · rw [hreached, advances_succ, advances_zero, advance_unchanged hpc hunchanged]
      rfl
    · rw [hreached, advances_succ, advances_zero, advance_unchanged hpc hunchanged]
      exact congrArg (· ++ [_]) hupdates
  · -- the second loop makes the callbacks
    have hloop := advance_changed hpc hunchanged
    obtain ⟨k, hk, hcompared⟩ := exists_compared (s := t.advance) (by rw [hloop]; rfl)
    have hend : (t.advance.advances k).bp32.Tells :=
      inv_run tells_step (t.tells_advance htold) (List.replicate k .advance)
    have hreached' : s.advances (1 + m + (k + 1 + 1)) = (t.advance.advances k).advance := by
      rw [hreached, advances_succ, advances_add]
      rfl
    generalize t.advance.advances k = v at hcompared hend hreached'
    rw [hloop] at hcompared
    rw [List.length_finRange] at hk
    refine ⟨1 + m + (k + 1 + 1), by rw [stepsPerUpdate]; omega, _,
      tellsTruth_of htaken (t := v) ?_ ?_ (fun i hi => ?_) rfl, ?_, ?_⟩
    · intro i
      rw [hend.flags, flag, hcompared.pc]
      exact if_neg List.not_mem_nil
    · rw [hcompared.calls, ← hchange]
      have hbefore : t.bp32.calls = [] := hkept.trans hcalls
      exact congrArg (· ++ _) hbefore
    · rw [(hcompared.answers i).1, (hcompared.answers i).2]
      exact hdata i (List.mem_finRange i) hi
    · rw [hreached', advance_done hcompared.pc]
      rfl
    · rw [hreached', advance_done hcompared.pc]
      exact congrArg (· ++ [_]) (hcompared.updates.trans hupdates)

/-- In every reachable state between two updates, an update that CPU 0 leaves alone returns,
and tells the sketch the truth about the seats. -/
theorem quiet_update (es : List Event) (hidle : (run step {} es).bp32.pc = .idle) :
    ∃ n ≤ stepsPerUpdate, ∃ u, TellsTruth (run step {} es) u ∧
      ((run step {} es).advances n).bp32.pc = .idle ∧
      ((run step {} es).advances n).bp32.updates = (run step {} es).bp32.updates ++ [u] :=
  exists_quiet_update (inv_run tells_step tells_start es) hidle

/-- A pad gets ready before the first update, and the update announces it. -/
theorem first_update_announces :
    let s := run step {} [.cpu0 (.create 1), .cpu0 (.connect 0), .cpu0 (.setReady 0)]
    ∃ n ≤ stepsPerUpdate, ∃ u : Bp32Update, u.callbacks = [.connected 0] ∧
      (s.advances n).bp32.updates = [u] := by
  intro s
  obtain ⟨n, hn, u, htruth, -, hupdates⟩ :=
    quiet_update [.cpu0 (.create 1), .cpu0 (.connect 0), .cpu0 (.setReady 0)] rfl
  exact ⟨n, hn, u, htruth.callbacks.trans (by decide), hupdates⟩

/-! ## A pad that is gone -/

/-- With CPU 0 quiet, the update under way comes to its end. -/
theorem exists_idle (s : PadSystem) : ∃ n ≤ s.bp32.pc.todo, (s.advances n).bp32.pc = .idle := by
  generalize htodo : s.bp32.pc.todo = k
  induction k using Nat.strongRecOn generalizing s with
  | _ k ih =>
    by_cases hidle : s.bp32.pc = .idle
    · exact ⟨0, Nat.zero_le _, hidle⟩
    · rcases s.advance_progress hidle with hdone | ⟨-, hless⟩
      · have hpos := UpdatePc.todo_pos hidle
        exact ⟨1, by omega, by rwa [advances_succ, advances_zero]⟩
      · obtain ⟨n, hn, hend⟩ := ih _ (htodo ▸ hless) s.advance rfl
        exact ⟨n + 1, by omega, by rwa [advances_succ]⟩

theorem seatTaken_advances (n : ℕ) (s : PadSystem) :
    (s.advances n).platform.seatTaken = s.platform.seatTaken := by
  induction n generalizing s with
  | zero => rfl
  | succ n ih =>
    rw [advances_succ, ih]
    unfold advance
    split
    · rfl
    · split <;> rfl
    · exact seatTaken_collect _ s.platform
    · split <;> rfl
    · rfl
    · rfl
    · rfl

/-- From every reachable state, once CPU 0 is quiet, CPU 1 has at most two updates to go until
a state the head reads as connected comes from a pad that is still there. -/
theorem lost_pad_noticed (es : List Event) :
    ∃ n ≤ 2 * stepsPerUpdate,
      let s := (run step {} es).advances n
      let head := (run PadSessions.update {} s.bp32.updates).input
      s.bp32.pc = .idle ∧ (head.sState.connected = true →
        ∃ i : SeatIdx, head.sController = some i.val ∧ s.platform.seatTaken i = true) := by
  have htells := inv_run tells_step tells_start es
  have hbound := inBound_run es
  generalize run step {} es = s at htells hbound ⊢
  -- the update under way may have seen the pad, the one after it sees it gone
  obtain ⟨m, hm, hidle⟩ := s.exists_idle
  have hmid : (s.advances m).bp32.Tells := inv_run tells_step htells _
  obtain ⟨k, hk, u, htruth, hend, hupdates⟩ := exists_quiet_update hmid hidle
  rw [InBound] at hbound
  refine ⟨m + k, by omega, ?_⟩
  rw [advances_add]
  refine ⟨hend, fun hconnected => ?_⟩
  have hlast : ((s.advances m).advances k).bp32.Tells := inv_run tells_step hmid _
  have hreports := hlast.reports
  have hfresh : (run PadSessions.update {} ((s.advances m).advances k).bp32.updates).Fresh :=
    inv_run_of_along (fun _ _ hin hu => hin.update hu) PadSessions.fresh_start hreports
  obtain ⟨ctl, report, hctl, hopen, -⟩ := hfresh hconnected
  rw [hupdates, along_append] at hreports
  rw [hupdates, run_concat] at hopen
  -- after that one `isConnected()` is whether the seat is taken
  have hanswer := (hreports.2.1.connected ctl).trans hopen
  by_cases hlt : ctl < MAX_DEVICES
  · refine ⟨⟨ctl, hlt⟩, hctl, ?_⟩
    rw [seatTaken_advances, ← htruth.connected ⟨ctl, hlt⟩]
    exact hanswer
  · rw [htruth.beyond ctl (Nat.not_lt.mp hlt)] at hanswer
    cases hanswer

end PadSystem

end K2soHead
