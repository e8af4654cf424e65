import K2soHead.Firmware.Bluepad32
import K2soHead.Library.Runs

/-!
# Requests on their way to the pads

CPU 1 queues commands, and CPU 0 drains the queue before it stores a report.  The drain is
cut into single turns in the system, so that requests can arrive in between; here a whole
call of `process_pending_requests` is also read as one, and tied to the turns.  What a request
comes to on a pad is said by `ReportParser.provides` and `PendingCmd.padCall`.
-/

namespace K2soHead

open Runs

/-! ## What a request comes to -/

/-- The call that carries a command out. -/
def PendingCmd.padCall : PendingCmd → PadCall
  | .lightbarColor r g b => .setLightbarColor r g b
  | .playerLeds leds => .setPlayerLeds leds
  | .rumble delayedStart duration weak strong =>
      .playDualRumble delayedStart duration weak strong
  | .disconnect => .disconnectDeviceSafe

/-- Can a pad with this parser carry the command out? -/
def ReportParser.provides (parser : ReportParser) : PendingCmd → Bool
  | .lightbarColor .. => parser.setLightbarColor
  | .playerLeds .. => parser.setPlayerLeds
  | .rumble .. => parser.playDualRumble
  -- the Bluetooth thread sees to it, whatever the parser
  | .disconnect => true

namespace Platform

/-- The calls a request comes to: one on the ready device of its seat, if its parser can. -/
def callsOf (p : Platform) (r : PendingRequest) : List (DeviceIdx × PadCall) :=
  ((p.deviceAt r.controllerIdx).filter fun d =>
      (p.gDevices d).reportParser.provides r.cmd).toList.map fun d => (d, r.cmd.padCall)

/-! ## A whole drain -/

/-- The pad behind the request is there. -/
def findsPad (p : Platform) (r : PendingRequest) : Bool := (p.deviceAt r.controllerIdx).isSome

section Drain

variable (p : Platform)

theorem deviceAt_receiveRequest (i : SeatIdx) : p.receiveRequest.1.deviceAt i = p.deviceAt i := by
  rw [deviceAt, gDevices_receiveRequest, deviceAt]

theorem findsPad_receiveRequest : p.receiveRequest.1.findsPad = p.findsPad := by
  funext r
  rw [findsPad, deviceAt_receiveRequest, findsPad]

theorem receiveRequest_none {r : PendingRequest} {rest : List PendingRequest}
    (hqueue : p.pendingQueue = r :: rest) (hpad : p.deviceAt r.controllerIdx = none) :
    p.receiveRequest = (recordTaken r none { p with pendingQueue := rest }, false) := by
  unfold receiveRequest
  simp only [deviceAt] at hpad
  simp only [hqueue, deviceAt, hpad]

theorem receiveRequest_some {r : PendingRequest} {rest : List PendingRequest} {d : DeviceIdx}
    (hqueue : p.pendingQueue = r :: rest) (hpad : p.deviceAt r.controllerIdx = some d) :
    p.receiveRequest =
      ((recordTaken r (some d) { p with pendingQueue := rest }).perform d r.cmd, true) := by
  unfold receiveRequest
  simp only [deviceAt] at hpad
  simp only [hqueue, deviceAt, hpad]

theorem callsOf_receiveRequest : p.receiveRequest.1.callsOf = p.callsOf := by
  funext r
  rw [callsOf, callsOf, deviceAt_receiveRequest, gDevices_receiveRequest]

theorem taken_perform (d : DeviceIdx) (cmd : PendingCmd) :
    (p.perform d cmd).history.taken = p.history.taken := by
  obtain ⟨cs, hcs⟩ := p.perform_eq d cmd
  rw [hcs]
  rfl

theorem perform_of_provides {d : DeviceIdx} {cmd : PendingCmd}
    (h : (p.gDevices d).reportParser.provides cmd = true) :
    p.perform d cmd = p.call d cmd.padCall := by
  cases cmd with
  | disconnect => rfl
  | _ => exact if_pos h

theorem perform_of_not_provides {d : DeviceIdx} {cmd : PendingCmd}
    (h : (p.gDevices d).reportParser.provides cmd = false) : p.perform d cmd = p := by
  cases cmd with
  | disconnect => cases h
  | _ => exact if_neg (Bool.eq_false_iff.mp h)

/-- A turn that finds its pad makes the calls of its request. -/
theorem calls_receiveRequest_some {r : PendingRequest} {rest : List PendingRequest} {d : DeviceIdx}
    (hqueue : p.pendingQueue = r :: rest) (hpad : p.deviceAt r.controllerIdx = some d) :
    p.receiveRequest.1.history.calls = p.history.calls ++ p.callsOf r := by
  have hparser : (recordTaken r (some d) { p with pendingQueue := rest }).gDevices = p.gDevices :=
    rfl
  rw [p.receiveRequest_some hqueue hpad, callsOf, hpad]
  cases hprovides : (p.gDevices d).reportParser.provides r.cmd with
  | true =>
    rw [perform_of_provides _ (by rwa [hparser])]
    simp [call, recordTaken, Option.filter, hprovides]
  | false =>
    rw [perform_of_not_provides _ (by rwa [hparser])]
    simp [recordTaken, Option.filter, hprovides]

/-- What a whole drain does. -/
structure Drained (p q : Platform) : Prop where
  /-- each request whose pad is there comes to its calls, in the order of the queue -/
  calls : q.history.calls =
    p.history.calls ++ (p.pendingQueue.takeWhile p.findsPad).flatMap p.callsOf
  /-- requests are carried out up to the first whose pad is gone, and that one is lost -/
  taken : q.history.taken = p.history.taken ++
    ((p.pendingQueue.takeWhile p.findsPad).map (fun r => (r, p.deviceAt r.controllerIdx)) ++
      (p.pendingQueue.dropWhile p.findsPad).head?.toList.map fun r => (r, none))
  /-- the ones behind it wait for the next report -/
  queue : q.pendingQueue = (p.pendingQueue.dropWhile p.findsPad).tail
  gDevices : q.gDevices = p.gDevices
  controllers : q.controllers = p.controllers

end Drain

theorem drain_drained (n : ℕ) (p : Platform) (hn : p.pendingQueue.length ≤ n) :
    Drained p (drain n p) := by
  induction n generalizing p with
  | zero =>
    have hempty : p.pendingQueue = [] := List.length_eq_zero_iff.mp (Nat.le_zero.mp hn)
    refine ⟨?_, ?_, ?_, rfl, rfl⟩ <;> simp [drain, hempty]
  | succ n ih =>
    simp only [drain]
    cases hqueue : p.pendingQueue with
    | nil =>
      have hsame : p.receiveRequest = (p, false) := by
        unfold receiveRequest
        rw [hqueue]
      rw [hsame]
      refine ⟨?_, ?_, ?_, rfl, rfl⟩ <;> simp [hqueue]
    | cons r rest =>
      have htail : p.receiveRequest.1.pendingQueue = rest := by
        rw [pendingQueue_receiveRequest, hqueue, List.tail_cons]
      cases hpad : p.deviceAt r.controllerIdx with
      | none =>
        -- nobody has the seat: the request is lost and the loop breaks
        have hlost : p.findsPad r = false := by rw [findsPad, hpad, Option.isSome_none]
        rw [p.receiveRequest_none hqueue hpad]
        refine ⟨?_, ?_, ?_, rfl, rfl⟩
        · simp [hqueue, hlost, recordTaken]
        · simp [hqueue, hlost, recordTaken]
        · simp [hqueue, hlost, recordTaken]
      | some d =>
        -- the pad is there, and the drain goes on with a queue that is shorter by one
        have hgo : p.receiveRequest.2 = true := by rw [p.receiveRequest_some hqueue hpad]
        have htaken : p.receiveRequest.1.history.taken = p.history.taken ++ [(r, some d)] := by
          rw [p.receiveRequest_some hqueue hpad, taken_perform]
          rfl
        have hserved : p.findsPad r = true := by rw [findsPad, hpad, Option.isSome_some]
        have hlength : p.receiveRequest.1.pendingQueue.length ≤ n := by
          rw [htail]
          rw [hqueue, List.length_cons] at hn
          omega
        have hrest := ih p.receiveRequest.1 hlength
        rw [hgo]
        refine ⟨?_, ?_, ?_, hrest.gDevices.trans p.gDevices_receiveRequest,
          hrest.controllers.trans p.controllers_receiveRequest⟩
        · have hlater := hrest.calls
          simp only [htail, p.calls_receiveRequest_some hqueue hpad, findsPad_receiveRequest,
            callsOf_receiveRequest] at hlater
          simp only [if_true, hlater, hqueue, List.takeWhile_cons, hserved, List.flatMap_cons,
            List.append_assoc]
        · have hlater := hrest.taken
          simp only [htail, htaken, findsPad_receiveRequest, deviceAt_receiveRequest] at hlater
          simp only [if_true, hlater, hqueue, List.takeWhile_cons, hserved, List.map_cons, hpad,
            List.dropWhile_cons, List.append_assoc, List.cons_append, List.nil_append]
        · have hlater := hrest.queue
          simp only [htail, findsPad_receiveRequest] at hlater
          simp only [if_true, hlater, hqueue, List.dropWhile_cons, hserved]

/-- One call of `process_pending_requests` makes the calls of every request up to the first whose
pad is gone; it loses that one, and leaves the ones behind it where they are. -/
theorem processPendingRequests_drained (p : Platform) : Drained p p.processPendingRequests :=
  drain_drained _ p le_rfl

/-! ## A drain is a run of turns -/

theorem drain_eq_run (n : ℕ) (p : Platform) :
    ∃ m ≤ n, drain n p = run btStep p (List.replicate m .receive) := by
  induction n generalizing p with
  | zero => exact ⟨0, le_rfl, rfl⟩
  | succ n ih =>
    simp only [drain]
    split
    · obtain ⟨m, hm, hrun⟩ := ih p.receiveRequest.1
      exact ⟨m + 1, Nat.succ_le_succ hm, hrun⟩
    · exact ⟨1, by omega, rfl⟩

section Commute

variable (p : Platform) (d : DeviceIdx) {f : Device → Device}

theorem perform_setDevice (hparser : ∀ dev, (f dev).reportParser = dev.reportParser)
    (e : DeviceIdx) (cmd : PendingCmd) :
    (p.setDevice d f).perform e cmd = (p.perform e cmd).setDevice d f := by
  have hsame : ((p.setDevice d f).gDevices e).reportParser = (p.gDevices e).reportParser := by
    rw [gDevices_setDevice]
    by_cases hed : e = d
    · subst hed
      rw [Function.update_self, hparser]
    · rw [Function.update_of_ne hed]
  cases cmd with
  | disconnect => rfl
  | _ =>
    simp only [perform, hsame]
    rw [apply_ite (setDevice d f)]
    rfl

/-- Writing the device's copy of the report does not disturb a turn of the drain. -/
theorem receiveRequest_setDevice (hstate : ∀ dev, (f dev).state = dev.state)
    (hidx : ∀ dev, (f dev).controllerIdx = dev.controllerIdx)
    (hparser : ∀ dev, (f dev).reportParser = dev.reportParser) :
    (p.setDevice d f).receiveRequest =
      (p.receiveRequest.1.setDevice d f, p.receiveRequest.2) := by
  have hfields : ∀ e, ((p.setDevice d f).gDevices e).state = (p.gDevices e).state ∧
      ((p.setDevice d f).gDevices e).controllerIdx = (p.gDevices e).controllerIdx := by
    intro e
    rw [gDevices_setDevice]
    by_cases hed : e = d
    · subst hed
      rw [Function.update_self]
      exact ⟨hstate _, hidx _⟩
    · rw [Function.update_of_ne hed]
      exact ⟨rfl, rfl⟩
  -- so the search by seat finds the same device
  have hpad : ∀ i, (p.setDevice d f).deviceAt i = p.deviceAt i := by
    intro i
    simp only [deviceAt, hfields]
  cases hqueue : p.pendingQueue with
  | nil =>
    unfold receiveRequest
    rw [pendingQueue_setDevice, hqueue]
  | cons r rest =>
    cases hfound : p.deviceAt r.controllerIdx with
    | none =>
      rw [p.receiveRequest_none hqueue hfound,
        receiveRequest_none (p.setDevice d f) hqueue ((hpad _).trans hfound)]
      rfl
    | some e =>
      rw [p.receiveRequest_some hqueue hfound,
        receiveRequest_some (p.setDevice d f) hqueue ((hpad _).trans hfound), Prod.mk.injEq]
      exact ⟨perform_setDevice (recordTaken r (some e) { p with pendingQueue := rest }) d hparser e
        r.cmd, rfl⟩

theorem remapping_receiveRequest : p.receiveRequest.1.remapping = p.remapping := by
  obtain ⟨ts, cs, -, h⟩ := p.receiveRequest_eq
  rw [h]
  rfl

theorem run_receive_setDevice (hstate : ∀ dev, (f dev).state = dev.state)
    (hidx : ∀ dev, (f dev).controllerIdx = dev.controllerIdx)
    (hparser : ∀ dev, (f dev).reportParser = dev.reportParser) (m : ℕ) :
    run btStep (p.setDevice d f) (List.replicate m .receive) =
      (run btStep p (List.replicate m .receive)).setDevice d f := by
  induction m generalizing p with
  | zero => rfl
  | succ m ih =>
    rw [List.replicate_succ, run_cons, run_cons, ← ih]
    simp only [btStep]
    rw [p.receiveRequest_setDevice d hstate hidx hparser]

theorem run_receive (m : ℕ) :
    (run btStep p (List.replicate m .receive)).gDevices = p.gDevices ∧
      (run btStep p (List.replicate m .receive)).remapping = p.remapping := by
  induction m generalizing p with
  | zero => exact ⟨rfl, rfl⟩
  | succ m ih =>
    obtain ⟨hdevices, hremapping⟩ := ih p.receiveRequest.1
    exact ⟨hdevices.trans p.gDevices_receiveRequest,
      hremapping.trans p.remapping_receiveRequest⟩

end Commute

/-- One call of `uni_hid_device_process_controller` is a run of the system's steps: turns of
the drain, no more than there are requests, and then the report. -/
theorem processController_eq_run (p : Platform) (d : DeviceIdx) (ctl : ControllerData) :
    ∃ m ≤ p.pendingQueue.length,
      p.processController d ctl = run btStep p (List.replicate m .receive ++ [.report d ctl]) := by
  by_cases hready : (p.gDevices d).state = .deviceReady
  · obtain ⟨m, hm, hrun⟩ := drain_eq_run p.pendingQueue.length
      (p.setDevice d fun dev => { dev with controller := remapped p.remapping ctl })
    refine ⟨m, hm, ?_⟩
    obtain ⟨hdevices, hremapping⟩ := p.run_receive m
    have hcommute := p.run_receive_setDevice d
      (f := fun dev => { dev with controller := remapped p.remapping ctl })
      (fun _ => rfl) (fun _ => rfl) (fun _ => rfl) m
    rw [run_append, run_cons, run_nil, btStep, reported, processController, hdevices, if_pos hready,
      if_pos hready, hremapping]
    simp only [← hcommute, ← hrun]
    rfl
  · refine ⟨0, Nat.zero_le _, ?_⟩
    rw [processController, if_neg hready, List.replicate_zero, List.nil_append, run_cons, run_nil,
      btStep, reported, if_neg hready]

end Platform

end K2soHead
