import K2soHead.Properties.PadMail
import K2soHead.Properties.PadUpdates

/-!
# From the seats to the head

A report goes from its seat to a `Controller` in the first loop of an update, and from there to
the head when the update returns.  During the first loop a controller can therefore hold a newer
report than the head has been told of, but only once its seat has been read: `unread` lists the
seats that have not been yet.
-/

namespace K2soHead

open Runs

namespace Platform

/-! ## CPU 0 collects nothing -/

section

variable (p : Platform) (d : DeviceIdx) (i : SeatIdx)

theorem collectedFrom_vacateSeat (j : SeatIdx) :
    (p.vacateSeat d j).collectedFrom i = p.collectedFrom i := by
  simp [collectedFrom, vacateSeat, recordMail, Mail.found]

theorem collectedFrom_disconnectDevice :
    (p.disconnectDevice d).collectedFrom i = p.collectedFrom i := by
  unfold disconnectDevice
  simp only
  split
  · unfold onDeviceDisconnected
    split
    · rfl
    · split
      · rfl
      · exact collectedFrom_vacateSeat _ d i _
  · rfl

theorem collectedFrom_dropDevice : (p.dropDevice d).collectedFrom i = p.collectedFrom i :=
  p.collectedFrom_disconnectDevice d i

theorem collectedFrom_showSeat : (p.showSeat d).collectedFrom i = p.collectedFrom i :=
  congrArg (List.filterMap (Mail.found i)) (p.mail_showSeat d)

theorem collectedFrom_onDeviceReady :
    (p.onDeviceReady d).1.collectedFrom i = p.collectedFrom i := by
  unfold onDeviceReady
  split
  · rfl
  · split
    · rfl
    · split
      · exact p.collectedFrom_showSeat d i
      · exact collectedFrom_showSeat _ d i

theorem collectedFrom_setReadyComplete :
    (p.setReadyComplete d).1.collectedFrom i = p.collectedFrom i := by
  unfold setReadyComplete
  split
  · rfl
  · simp only
    split
    · exact p.collectedFrom_onDeviceReady d i
    · exact (collectedFrom_dropDevice _ d i).trans (p.collectedFrom_onDeviceReady d i)

theorem collectedFrom_storeData (ctl : ControllerData) :
    (p.storeData d ctl).collectedFrom i = p.collectedFrom i := by
  unfold storeData
  split
  · rfl
  · simp [collectedFrom, recordMail, Mail.found]

end

theorem collectedFrom_btStep (p : Platform) (i : SeatIdx) (e : BtEvent) :
    (p.btStep e).collectedFrom i = p.collectedFrom i := by
  cases e with
  | create address =>
    simp only [btStep, createDevice]
    split <;> rfl
  | setReady d =>
    simp only [btStep, setReady]
    split
    · rfl
    · split
      · rfl
      · exact collectedFrom_setReadyComplete _ d i
  | setReadyComplete d => exact p.collectedFrom_setReadyComplete d i
  | disconnect d => exact p.collectedFrom_disconnectDevice d i
  | drop d => exact p.collectedFrom_dropDevice d i
  | timeout d =>
    simp only [btStep, deviceConnectionTimeout]
    split
    · rfl
    · exact p.collectedFrom_dropDevice d i
  | receive => exact congrArg (List.filterMap (Mail.found i)) p.mail_receiveRequest
  | report d ctl =>
    simp only [btStep, reported]
    split
    · exact collectedFrom_storeData _ d i _
    · rfl
  | _ => rfl

/-- What CPU 1 finds in seat `i` is collected from it, and from no other seat. -/
theorem collectedFrom_collect (p : Platform) (i j : SeatIdx) :
    (p.collect i).1.collectedFrom j =
      p.collectedFrom j ++ if j = i then (p.collect i).2.toList else [] := by
  by_cases hji : j = i
  · subst hji
    cases hwaits : (p.controllers j).dataUpdated <;>
      simp [collectedFrom, collect, recordMail, Mail.found, hwaits]
  · simp [collectedFrom, collect, recordMail, Mail.found, hji, Ne.symm hji]

end Platform

/-- The seats whose news the head may still lack. -/
def UpdatePc.unread : UpdatePc → List SeatIdx
  | .idle => List.finRange MAX_DEVICES
  | .check rest _ _ => rest
  | .read i rest _ _ => i :: rest
  | _ => []

/-- A callback starts the session of its slot over, and leaves the others as they are. -/
theorem PadSessions.latest_of_callbacks {s : PadSessions} {cbs : List Callback}
    {ctl : ControllerPtr} {report : Report}
    (h : ((cbs.foldl callback s).slot ctl).latest = some report) :
    (s.slot ctl).latest = some report := by
  induction cbs generalizing s with
  | nil => exact h
  | cons cb cbs ih =>
    have hlatest := ih h
    cases cb with
    | connected c =>
      by_cases hctl : ctl = c
      · subst hctl
        simp [callback] at hlatest
      · simpa [callback, hctl] using hlatest
    | disconnected c =>
      by_cases hctl : ctl = c
      · subst hctl
        simp [callback] at hlatest
      · simpa [callback, hctl] using hlatest

namespace PadSystem

open Bluepad32

/-! ## What a step of the update does to the reports -/

/-- It collects from a seat, goes on without touching a report, or returns. -/
inductive Advanced (s s' : PadSystem) : Prop where
  | reads {i : SeatIdx} (hunread : s.bp32.pc.unread = i :: s'.bp32.pc.unread)
      (hbusy : s'.bp32.pc ≠ .idle) (hplatform : s'.platform = (s.platform.collect i).1)
      (hcontrollers : s'.bp32.controllers =
        (s.bp32.collected i (s.platform.collect i).2).controllers)
      (hupdates : s'.bp32.updates = s.bp32.updates)
  | goesOn (hunread : s'.bp32.pc.unread.Sublist s.bp32.pc.unread) (hbusy : s'.bp32.pc ≠ .idle)
      (hplatform : s'.platform = s.platform)
      (hdata : ∀ i, (s'.bp32.controllers i).data = (s.bp32.controllers i).data)
      (hnews : ∀ i, (s'.bp32.controllers i).hasData = (s.bp32.controllers i).hasData)
      (hupdates : s'.bp32.updates = s.bp32.updates)
  | returns (hidle : s'.bp32.pc = .idle) (hplatform : s'.platform = s.platform)
      (hcontrollers : s'.bp32.controllers = s.bp32.controllers)
      (hupdates : ∃ dataUpdated, s'.bp32.updates =
        s.bp32.updates ++ [⟨s.bp32.calls, s.bp32.controllerAt, dataUpdated⟩])

section Compare

variable (b : Bluepad32) (seatTaken : SeatIdx → Bool) (i : SeatIdx) (rest : List SeatIdx)
  (connected : ℕ) (dataUpdated : Bool)

/-- The second loop writes flags and properties only. -/
theorem reports_compare (j : SeatIdx) :
    ((b.compare seatTaken i rest connected dataUpdated).controllers j).data =
        (b.controllers j).data ∧
      ((b.compare seatTaken i rest connected dataUpdated).controllers j).hasData =
        (b.controllers j).hasData := by
  simp only [Bluepad32.compare]
  by_cases hji : j = i
  · subst hji
    split
    · exact ⟨rfl, rfl⟩
    · split
      · split <;> simp [goto, callBack]
      · simp [goto, callBack]
  · split
    · exact ⟨rfl, rfl⟩
    · split
      · split <;> simp [goto, callBack, hji]
      · simp [goto, callBack, hji]

theorem pc_compare :
    (b.compare seatTaken i rest connected dataUpdated).pc = .diff rest connected dataUpdated ∨
      (b.compare seatTaken i rest connected dataUpdated).pc =
        .fetch i rest connected dataUpdated := by
  simp only [Bluepad32.compare]
  split
  · exact .inl rfl
  · split
    · split
      · exact .inr rfl
      · exact .inl rfl
    · exact .inl rfl

theorem updates_compare :
    (b.compare seatTaken i rest connected dataUpdated).updates = b.updates := by
  simp only [Bluepad32.compare]
  split
  · rfl
  · split
    · split <;> rfl
    · rfl

end Compare

theorem advanced (s : PadSystem) : Advanced s s.advance := by
  unfold advance
  split
  · rename_i hpc
    refine .goesOn ?_ (by simp [goto]) rfl (fun _ => rfl) (fun _ => rfl) rfl
    rw [hpc]
    exact List.Sublist.refl _
  · rename_i i rest connected dataUpdated hpc
    split
    · refine .goesOn ?_ (by simp [goto]) rfl (fun _ => rfl) (fun _ => rfl) rfl
      rw [hpc]
      exact List.Sublist.refl _
    · refine .goesOn ?_ (by simp [goto]) rfl (fun _ => rfl) (fun _ => rfl) rfl
      rw [hpc]
      exact List.sublist_cons_self i rest
  · -- the copy is the only step that changes what a controller holds
    rename_i i rest connected dataUpdated hpc
    refine .reads ?_ (by simp [goto]) rfl rfl rfl
    rw [hpc]
    rfl
  · rename_i connected dataUpdated hpc
    split
    · exact .returns rfl rfl rfl ⟨dataUpdated, rfl⟩
    · refine .goesOn ?_ (by simp [goto]) rfl (fun _ => rfl) (fun _ => rfl) rfl
      exact List.nil_sublist _
  · rename_i i rest connected dataUpdated hpc
    have hreports := reports_compare s.bp32 s.platform.seatTaken i rest connected dataUpdated
    refine .goesOn ?_ ?_ rfl (fun j => (hreports j).1) (fun j => (hreports j).2)
      (updates_compare s.bp32 s.platform.seatTaken i rest connected dataUpdated) <;>
      rcases pc_compare s.bp32 s.platform.seatTaken i rest connected dataUpdated with h | h <;>
      simp [h, UpdatePc.unread]
  · rename_i i rest connected dataUpdated hpc
    refine .goesOn (List.nil_sublist _) (by simp [goto]) rfl (fun j => ?_) (fun j => ?_) rfl <;>
      by_cases hji : j = i <;> simp [announce, goto, callBack, hji]
  · rename_i connected dataUpdated hpc
    exact .returns rfl rfl rfl ⟨dataUpdated, rfl⟩

/-! ## What the head has been told -/

/-- The sessions after the updates that have returned. -/
def told (s : PadSystem) : PadSessions := run PadSessions.update {} s.bp32.updates

/-- The latest report of a session is the one its controller holds. -/
def Current (s : PadSystem) (i : SeatIdx) : Prop :=
  ∀ report, (s.told.slot i.val).latest = some report →
    report = (s.bp32.controllers i).data.report

/-- A controller holds what was collected last, and the head knows of it unless the seat was
read in the update under way. -/
structure Tracks (s : PadSystem) : Prop where
  nodup : s.bp32.pc.unread.Nodup
  unread : ∀ i ∈ s.bp32.pc.unread, s.Current i
  quiet : ∀ i, (s.bp32.controllers i).hasData = false → s.Current i
  data : ∀ i, (s.bp32.controllers i).data = (s.platform.collectedFrom i).getLast?.getD {}
  gamepad : s.bp32.pc = .idle → ∀ i : SeatIdx,
    (s.told.slot i.val).gamepad = decide ((s.bp32.controllers i).data.klass = .gamepad)

section

variable {s s' : PadSystem}

theorem Current.congr {i : SeatIdx} (h : s.Current i) (hupdates : s'.bp32.updates = s.bp32.updates)
    (hdata : (s'.bp32.controllers i).data = (s.bp32.controllers i).data) : s'.Current i := by
  rw [Current, told, hupdates, hdata]
  exact h

/-- The report in a seat that is read becomes the controller's. -/
theorem Tracks.reads (h : s.Tracks) {i : SeatIdx}
    (hunread : s.bp32.pc.unread = i :: s'.bp32.pc.unread) (hbusy : s'.bp32.pc ≠ .idle)
    (hplatform : s'.platform = (s.platform.collect i).1)
    (hcontrollers : s'.bp32.controllers = (s.bp32.collected i (s.platform.collect i).2).controllers)
    (hupdates : s'.bp32.updates = s.bp32.updates) : s'.Tracks := by
  -- a seat is read once in an update, so the seats to come are not the one just read
  have hnodup := h.nodup
  rw [hunread, List.nodup_cons] at hnodup
  have hothers : ∀ j, j ≠ i → s'.bp32.controllers j = s.bp32.controllers j := by
    intro j hji
    simp [hcontrollers, collected, hji]
  have hmine : (s'.bp32.controllers i).data =
        (s.platform.collect i).2.getD (s.bp32.controllers i).data ∧
      (s'.bp32.controllers i).hasData = (s.platform.collect i).2.isSome := by
    simp [hcontrollers, collected]
  refine ⟨hnodup.2, fun j hj => ?_, fun j hj => ?_, fun j => ?_, fun hidle => absurd hidle hbusy⟩
  · have hji : j ≠ i := by
      rintro rfl
      exact hnodup.1 hj
    have hbefore := h.unread j (hunread ▸ List.mem_cons_of_mem i hj)
    exact hbefore.congr hupdates (congrArg ControllerObject.data (hothers j hji))
  · by_cases hji : j = i
    · -- nothing was found, so the controller holds what it held before the update
      subst hji
      have hnone : (s.platform.collect j).2 = none := by
        rw [hmine.2] at hj
        exact Option.not_isSome_iff_eq_none.mp (Bool.eq_false_iff.mp hj)
      have hbefore := h.unread j (hunread ▸ List.mem_cons_self)
      exact hbefore.congr hupdates (hmine.1.trans (by rw [hnone]; rfl))
    · rw [hothers j hji] at hj
      exact (h.quiet j hj).congr hupdates (congrArg ControllerObject.data (hothers j hji))
  · rw [hplatform, Platform.collectedFrom_collect]
    by_cases hji : j = i
    · subst hji
      rw [if_pos rfl, hmine.1]
      cases (s.platform.collect j).2 with
      | none => simpa using h.data j
      | some data => simp
    · rw [if_neg hji, List.append_nil, hothers j hji]
      exact h.data j

theorem Tracks.goesOn (h : s.Tracks) (hunread : s'.bp32.pc.unread.Sublist s.bp32.pc.unread)
    (hbusy : s'.bp32.pc ≠ .idle) (hplatform : s'.platform = s.platform)
    (hdata : ∀ i, (s'.bp32.controllers i).data = (s.bp32.controllers i).data)
    (hnews : ∀ i, (s'.bp32.controllers i).hasData = (s.bp32.controllers i).hasData)
    (hupdates : s'.bp32.updates = s.bp32.updates) : s'.Tracks where
  nodup := h.nodup.sublist hunread
  unread i hi := (h.unread i (hunread.subset hi)).congr hupdates (hdata i)
  quiet i hi := (h.quiet i ((hnews i).symm.trans hi)).congr hupdates (hdata i)
  data i := by rw [hdata, hplatform, h.data]
  gamepad hidle := absurd hidle hbusy

/-- A returning update tells the head of every report that was found. -/
theorem Tracks.returns (h : s.Tracks) (hidle : s'.bp32.pc = .idle)
    (hplatform : s'.platform = s.platform)
    (hcontrollers : s'.bp32.controllers = s.bp32.controllers)
    (hupdates : ∃ dataUpdated, s'.bp32.updates =
      s.bp32.updates ++ [⟨s.bp32.calls, s.bp32.controllerAt, dataUpdated⟩]) : s'.Tracks := by
  obtain ⟨dataUpdated, hupdates⟩ := hupdates
  have htold : s'.told = s.told.update ⟨s.bp32.calls, s.bp32.controllerAt, dataUpdated⟩ := by
    rw [told, hupdates, run_concat, told]
  have hanswer : ∀ i : SeatIdx, s.bp32.controllerAt i.val = (s.bp32.controllers i).answer :=
    fun i => dif_pos i.isLt
  have hcurrent : ∀ i, s'.Current i := by
    intro i report hlatest
    rw [hcontrollers]
    rw [htold] at hlatest
    simp only [PadSessions.update, PadSessions.deliver, hanswer] at hlatest
    split at hlatest
    · exact (Option.some.inj hlatest).symm
    · rename_i hquiet
      -- no news, so the head knew already, unless a callback closed the session
      exact h.quiet i (Bool.eq_false_iff.mpr hquiet) report (PadSessions.latest_of_callbacks hlatest)
  refine ⟨?_, fun i _ => hcurrent i, fun i _ => hcurrent i, fun i => ?_, fun _ i => ?_⟩
  · rw [hidle]
    exact List.nodup_finRange MAX_DEVICES
  · rw [hcontrollers, hplatform, h.data]
  · rw [htold, hcontrollers]
    simp only [PadSessions.update, PadSessions.deliver, hanswer]
    rfl

theorem Tracks.advance (h : s.Tracks) : s.advance.Tracks := by
  cases s.advanced with
  | reads hunread hbusy hplatform hcontrollers hupdates =>
    exact h.reads hunread hbusy hplatform hcontrollers hupdates
  | goesOn hunread hbusy hplatform hdata hnews hupdates =>
    exact h.goesOn hunread hbusy hplatform hdata hnews hupdates
  | returns hidle hplatform hcontrollers hupdates =>
    exact h.returns hidle hplatform hcontrollers hupdates

/-- CPU 0 and the requests leave the controllers and what was collected alone. -/
theorem Tracks.other (h : s.Tracks) (hbp32 : s'.bp32 = s.bp32)
    (hcollected : ∀ i, s'.platform.collectedFrom i = s.platform.collectedFrom i) :
    s'.Tracks := by
  have hcurrent : ∀ i, s.Current i → s'.Current i := fun i hi =>
    hi.congr (by rw [hbp32]) (by rw [hbp32])
  refine ⟨hbp32 ▸ h.nodup, fun i hi => hcurrent i (h.unread i (hbp32 ▸ hi)),
    fun i hi => hcurrent i (h.quiet i (hbp32 ▸ hi)), fun i => ?_, fun hidle i => ?_⟩
  · rw [hbp32, hcollected, h.data]
  · rw [told, hbp32]
    exact h.gamepad (hbp32 ▸ hidle) i

end

theorem tracks_step (s : PadSystem) (e : Event) (h : s.Tracks) : (s.step e).Tracks := by
  cases e with
  | cpu0 e => exact h.other rfl fun i => s.platform.collectedFrom_btStep i e
  | advance => exact h.advance
  | request i cmd =>
    simp only [step, request]
    split
    · refine h.other rfl fun j => ?_
      simp only [Platform.collectedFrom, Platform.history_arduinoRequest]
    · exact h

theorem tracks_start : ({} : PadSystem).Tracks := by
  refine ⟨List.nodup_finRange MAX_DEVICES, ?_, ?_, fun _ => rfl, fun _ _ => rfl⟩ <;>
    · rintro i - report ⟨⟩

/-- Over every interleaving with the Bluetooth thread, whenever no update is under way a state
the head reads as connected is that of a gamepad the library calls connected, and it shows, field
by field, what was last collected from that pad's seat, which came in since the pad was
announced. -/
theorem head_shows_last_report (es : List Event) (hidle : (run step {} es).bp32.pc = .idle) :
    let s := run step {} es
    s.told.input.sState.connected = true →
      ∃ (i : SeatIdx) (data : ControllerData), s.told.input.sController = some i.val ∧
        (s.bp32.controllers i).connected = true ∧
        (s.platform.collectedFrom i).getLast? = some data ∧ data.klass = .gamepad ∧
        (s.told.slot i.val).latest = some data.report ∧
        s.told.input.sState.Shows data.report := by
  have htracks := inv_run tracks_step tracks_start es
  have htells := inv_run tells_step tells_start es
  generalize run step {} es = s at hidle htracks htells ⊢
  intro _ hconnected
  have hfresh : s.told.Fresh :=
    inv_run_of_along (fun _ _ hin hu => hin.update hu) PadSessions.fresh_start htells.reports
  obtain ⟨ctl, report, hctl, hopen, hgamepad, hlatest, hshows⟩ := hfresh hconnected
  -- what the head believes open is a controller with its flag set
  have hopened : s.bp32.opened ctl = true := by
    have hphase := htells.phase
    rw [Phase, hidle] at hphase
    have hsessions : s.bp32.sessions = s.told := by
      rw [sessions, hphase]
      rfl
    rw [← htells.opened, hsessions]
    exact hopen
  unfold Bluepad32.opened at hopened
  split at hopened
  · rename_i hlt
    rw [Bool.and_eq_true] at hopened
    have hklass := htracks.gamepad hidle ⟨ctl, hlt⟩
    rw [hgamepad, eq_comm, decide_eq_true_iff] at hklass
    have hreport : report = (s.bp32.controllers ⟨ctl, hlt⟩).data.report := by
      refine htracks.unread ⟨ctl, hlt⟩ ?_ report hlatest
      rw [hidle]
      exact List.mem_finRange _
    have hdata := htracks.data ⟨ctl, hlt⟩
    cases hlast : (s.platform.collectedFrom ⟨ctl, hlt⟩).getLast? with
    | none =>
      -- a seat nothing was collected from is no gamepad
      rw [hlast] at hdata
      rw [hdata] at hklass
      cases hklass
    | some data =>
      rw [hlast, Option.getD_some] at hdata
      rw [hdata] at hklass hreport
      exact ⟨⟨ctl, hlt⟩, data, hctl, hopened.1, hlast, hklass, hreport ▸ hlatest,
        hreport ▸ hshows⟩
  · cases hopened

/-- A gamepad gets ready and reports, and the update after that hands the report to the head. -/
theorem first_report_shown :
    let data : ControllerData := ⟨.gamepad, { axisX := 200, dpad := 1 }⟩
    let es : List Event := [.cpu0 (.create 1), .cpu0 (.connect 0), .cpu0 (.setReady 0),
      .cpu0 (.report 0 data)] ++ List.replicate 13 .advance
    let s := run step {} es
    s.bp32.pc = .idle ∧ s.told.input.sState.connected = true ∧
      ∃ (i : SeatIdx) (data : ControllerData), s.told.input.sController = some i.val ∧
        (s.platform.collectedFrom i).getLast? = some data ∧
        s.told.input.sState.Shows data.report := by
  intro data es s
  have hidle : s.bp32.pc = .idle := by
    have hdone : s.bp32.pc.todo = 0 := by decide +kernel
    by_contra hbusy
    exact (UpdatePc.todo_pos hbusy).ne' hdone
  have hconnected : s.told.input.sState.connected = true := by decide +kernel
  have hshown := head_shows_last_report es hidle
  -- the run has been evaluated as far as it is needed
  clear_value es
  obtain ⟨i, data', hctl, -, hlast, -, -, hshows⟩ := hshown hconnected
  exact ⟨hidle, hconnected, i, data', hctl, hlast, hshows⟩

end PadSystem

end K2soHead
