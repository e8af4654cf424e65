import K2soHead.Properties.PlatformSeats

/-!
# Reports on their way to the sketch

Each seat is a mailbox that keeps the latest report.  CPU 0 posts to it and clears it with
the seat, CPU 1 collects from it, and a report is only ever posted to a taken seat by the one
device that claims it.
-/

namespace K2soHead

open Runs

namespace Platform

/-! ## Claims -/

/-- The device will use seat `i`: for its reports while it is ready, and to give it back
while it is connected. -/
def Claims (p : Platform) (d : DeviceIdx) (i : SeatIdx) : Prop :=
  ((p.gDevices d).state = .deviceReady ∨ (p.gDevices d).connected = true) ∧
    (p.gDevices d).controllerIdx = ((i : ℕ) : ℤ)

/-- A claimed seat is taken, and claimed once. -/
structure Exclusive (p : Platform) : Prop where
  taken : ∀ {d i}, p.Claims d i → p.seatTaken i = true
  once : ∀ {d e i}, p.Claims d i → p.Claims e i → d = e

section

variable {p q : Platform} {d : DeviceIdx}

/-- No claim is new and no seat is freed. -/
theorem Exclusive.mono (h : p.Exclusive) (hclaims : ∀ d i, q.Claims d i → p.Claims d i)
    (htaken : ∀ i, p.seatTaken i = true → q.seatTaken i = true) : q.Exclusive where
  taken hq := htaken _ (h.taken (hclaims _ _ hq))
  once hd he := h.once (hclaims _ _ hd) (hclaims _ _ he)

theorem Exclusive.congr_tables (h : p.Exclusive) (hdevices : q.gDevices = p.gDevices)
    (htaken : q.seatTaken = p.seatTaken) : q.Exclusive :=
  h.mono (fun d i hq => by rwa [Claims, hdevices] at hq) fun i hi => by rwa [htaken]

/-- Writing a device so that it claims no more than it did. -/
theorem Exclusive.setDevice (h : p.Exclusive) {f : Device → Device}
    (hclaims : ∀ i, (p.setDevice d f).Claims d i → p.Claims d i) : (p.setDevice d f).Exclusive := by
  refine h.mono (fun e i he => ?_) fun i hi => hi
  by_cases hed : e = d
  · subst hed
    exact hclaims i he
  · rwa [Claims, gDevices_setDevice, Function.update_of_ne hed] at he

theorem claims_setDevice_self {f : Device → Device} {i : SeatIdx} :
    (p.setDevice d f).Claims d i ↔
      ((f (p.gDevices d)).state = .deviceReady ∨ (f (p.gDevices d)).connected = true) ∧
        (f (p.gDevices d)).controllerIdx = ((i : ℕ) : ℤ) := by
  rw [Claims, gDevices_setDevice, Function.update_self]

/-- A device in `state` claims nothing new. -/
theorem Exclusive.setState (h : p.Exclusive) {state : ConnState} (hstate : state ≠ .deviceReady) :
    (p.setState d state).Exclusive := by
  refine h.setDevice fun i hi => ?_
  obtain ⟨hready | hconnected, hidx⟩ := claims_setDevice_self.mp hi
  · exact absurd hready hstate
  · exact ⟨.inr hconnected, hidx⟩

theorem seatTaken_setSeat_of_ne {i j : SeatIdx} (hji : j ≠ i) (f : Seat → Seat) :
    (p.setSeat i f).seatTaken j = p.seatTaken j := by
  rw [seatTaken, seatTaken, controllers_setSeat, Function.update_of_ne hji]

/-- The last claim on a seat goes, and the seat with it. -/
theorem Exclusive.vacateSeat (h : p.Exclusive) {i : SeatIdx}
    (halone : ∀ e, e ≠ d → ¬ p.Claims e i) : (p.vacateSeat d i).Exclusive := by
  have hback : ∀ e j, (p.vacateSeat d i).Claims e j → e ≠ d ∧ p.Claims e j := by
    intro e j he
    have hed : e ≠ d := by
      rintro rfl
      obtain ⟨-, hidx⟩ := he
      rw [Platform.vacateSeat, recordMail, gDevices_record, gDevices_setDevice,
        Function.update_self] at hidx
      exact invalid_ne_natCast j hidx
    rw [Claims, Platform.vacateSeat, recordMail, gDevices_record, gDevices_setDevice,
      Function.update_of_ne hed] at he
    exact ⟨hed, he⟩
  refine ⟨fun he => ?_, fun he hf => h.once (hback _ _ he).2 (hback _ _ hf).2⟩
  rename_i e j
  obtain ⟨hed, hclaim⟩ := hback e j he
  have hji : j ≠ i := by
    rintro rfl
    exact halone e hed hclaim
  exact (seatTaken_setSeat_of_ne (p := { p with usedControllers := p.usedControllers - 1 }) hji
    fun _ => {}).trans (h.taken hclaim)

theorem Exclusive.disconnectDevice (h : p.Exclusive) (d : DeviceIdx) :
    (p.disconnectDevice d).Exclusive := by
  have hclosed : (p.setDevice d fun dev => { dev with connected := false }).Exclusive := by
    refine h.setDevice fun i hi => ?_
    obtain ⟨hready | hconnected, hidx⟩ := claims_setDevice_self.mp hi
    · exact ⟨.inl hready, hidx⟩
    · cases hconnected
  unfold Platform.disconnectDevice
  cases hconnected : (p.gDevices d).connected with
  | false => exact hclosed
  | true =>
    simp only [if_true, onDeviceDisconnected]
    split
    · exact hclosed
    · split
      · exact hclosed
      · rename_i i hi
        rw [gDevices_setDevice, Function.update_self, seatIdx_eq_some] at hi
        have hmine : p.Claims d i := ⟨.inr hconnected, hi⟩
        refine hclosed.vacateSeat fun e hed he => hed (h.once ?_ hmine)
        rwa [Claims, gDevices_setDevice, Function.update_of_ne hed] at he

theorem Exclusive.dropDevice (h : p.Exclusive) (d : DeviceIdx) : (p.dropDevice d).Exclusive := by
  refine Exclusive.setDevice (f := fun _ => {}) (h.disconnectDevice d) fun i hi => ?_
  obtain ⟨hready | hconnected, -⟩ := claims_setDevice_self.mp hi
  · cases hready
  · cases hconnected

theorem seatTaken_showSeat (p : Platform) (d : DeviceIdx) :
    (p.showSeat d).seatTaken = p.seatTaken := by
  funext i
  rw [seatTaken, controllers_showSeat, seatTaken]

theorem seatTaken_assignSeat {i j : SeatIdx} :
    (p.assignSeat d i).seatTaken j = (decide (j = i) || p.seatTaken j) := by
  by_cases hji : j = i
  · subst hji
    simp [Platform.assignSeat, seatTaken, (invalid_ne_natCast j).symm]
  · simp [Platform.assignSeat, seatTaken, hji]

/-- A device without a claim takes a free seat and is ready. -/
theorem Exclusive.seatDevice (h : p.Exclusive) {i : SeatIdx} (hfree : p.freeSeat = some i) :
    (((p.assignSeat d i).showSeat d).setState d .deviceReady).Exclusive := by
  have hempty : p.seatTaken i = false := by
    have hidx := List.find?_some hfree
    rw [decide_eq_true_eq] at hidx
    simp [seatTaken, hidx]
  have hunclaimed : ∀ e, ¬ p.Claims e i := by
    intro e he
    rw [h.taken he] at hempty
    cases hempty
  have htaken : (((p.assignSeat d i).showSeat d).setState d .deviceReady).seatTaken =
      (p.assignSeat d i).seatTaken := seatTaken_showSeat (p.assignSeat d i) d
  -- only `d` gains a claim, and only to seat `i`
  have hback : ∀ e j, (((p.assignSeat d i).showSeat d).setState d .deviceReady).Claims e j →
      (e = d ∧ j = i) ∨ p.Claims e j := by
    intro e j he
    rw [Claims, Platform.setState, gDevices_setDevice, gDevices_showSeat] at he
    by_cases hed : e = d
    · subst hed
      obtain ⟨-, hidx⟩ := he
      simp only [Platform.assignSeat, gDevices_setDevice, Function.update_self] at hidx
      exact .inl ⟨rfl, Fin.ext (by exact_mod_cast hidx.symm)⟩
    · rw [Function.update_of_ne hed, Platform.assignSeat, gDevices_setDevice,
        Function.update_of_ne hed] at he
      exact .inr he
  refine ⟨fun he => ?_, fun he hf => ?_⟩
  · rw [htaken, seatTaken_assignSeat]
    rcases hback _ _ he with ⟨-, rfl⟩ | hold
    · simp
    · simp [h.taken hold]
  · rcases hback _ _ he with ⟨rfl, rfl⟩ | hold <;> rcases hback _ _ hf with ⟨rfl, hj⟩ | hold'
    · rfl
    · exact absurd hold' (hunclaimed _)
    · exact absurd (hj ▸ hold) (hunclaimed _)
    · exact h.once hold hold'

theorem Exclusive.setReadyComplete (h : p.Exclusive) (d : DeviceIdx) :
    (p.setReadyComplete d).1.Exclusive := by
  unfold Platform.setReadyComplete
  split
  · exact h
  · by_cases hfull : p.usedControllers = MAX_DEVICES
    · simpa [onDeviceReady, hfull] using h.dropDevice d
    · by_cases hidx : (p.gDevices d).controllerIdx = UNI_ARDUINO_GAMEPAD_INVALID
      · cases hfree : p.freeSeat with
        | none =>
          -- ready without a seat: no report of the device is ever stored
          simp only [onDeviceReady, hfull, hidx, hfree, if_false, ne_eq, not_true_eq_false,
            if_true]
          refine (h.congr_tables (gDevices_showSeat p d) (p.seatTaken_showSeat d)).setDevice
            fun i hi => ?_
          obtain ⟨-, hclaim⟩ := claims_setDevice_self.mp hi
          rw [gDevices_showSeat, hidx] at hclaim
          exact absurd hclaim (invalid_ne_natCast i)
        | some i =>
          simp only [onDeviceReady, hfull, hidx, hfree, if_false, ne_eq, not_true_eq_false,
            if_true]
          exact h.seatDevice hfree
      · simpa [onDeviceReady, hfull, hidx] using h.dropDevice d

theorem Exclusive.storeData (h : p.Exclusive) (d : DeviceIdx) (ctl : ControllerData) :
    (p.storeData d ctl).Exclusive := by
  unfold Platform.storeData
  split
  · exact h
  · rename_i i _
    refine h.congr_tables rfl (funext fun j => ?_)
    by_cases hji : j = i
    · subst hji
      simp [recordMail, seatTaken]
    · simp [recordMail, seatTaken, hji]

/-- Every call of the Bluetooth thread keeps claims exclusive. -/
theorem Exclusive.btStep (h : p.Exclusive) (e : BtEvent) : (p.btStep e).Exclusive := by
  cases e with
  | create address =>
    simp only [Platform.btStep, createDevice]
    split
    · exact h
    · refine Exclusive.setDevice (f := fun _ => { btaddr := address }) h fun i hi => ?_
      obtain ⟨hready | hconnected, -⟩ := claims_setDevice_self.mp hi
      · cases hready
      · cases hconnected
  | identify d type vendorId productId parser =>
    simp only [Platform.btStep]
    exact h.setDevice fun i hi => claims_setDevice_self.mp hi
  | setState d state => exact h.setState state.2
  | connect d =>
    refine (h.setDevice (d := d) (f := fun dev => { dev with
      connected := true, controllerIdx := UNI_ARDUINO_GAMEPAD_INVALID }) fun i hi => ?_).congr_tables
        ?_ rfl
    · exact absurd (claims_setDevice_self.mp hi).2 (invalid_ne_natCast i)
    · simp [Platform.btStep, connectDevice, onDeviceConnected]
  | setReady d =>
    simp only [Platform.btStep, setReady]
    split
    · exact h
    · have hpending : (p.setState d .devicePendingReady).Exclusive := h.setState (by simp)
      split
      · exact hpending
      · exact hpending.setReadyComplete d
  | setReadyComplete d => exact h.setReadyComplete d
  | disconnect d => exact h.disconnectDevice d
  | drop d => exact h.dropDevice d
  | timeout d =>
    simp only [Platform.btStep, deviceConnectionTimeout]
    split
    · exact h
    · exact h.dropDevice d
  | receive =>
    refine h.congr_tables (gDevices_receiveRequest p) (funext fun i => ?_)
    rw [seatTaken, Platform.btStep, controllers_receiveRequest, seatTaken]
  | report d ctl =>
    simp only [Platform.btStep, reported]
    split
    · refine Exclusive.storeData ?_ d _
      exact h.setDevice fun i hi => claims_setDevice_self.mp hi
    · exact h.setDevice fun i hi => claims_setDevice_self.mp hi

/-! ## The mail -/

/-- The reports the sketch has collected from seat `i`, oldest first. -/
def collectedFrom (i : SeatIdx) (p : Platform) : List ControllerData :=
  p.history.mail.filterMap (Mail.found i)

/-- The log says what the seats hold, and a free seat holds nothing. -/
structure Delivers (p : Platform) : Prop where
  honest : Mail.Honest p.history.mail
  box : ∀ i, Mail.box i p.history.mail =
    if (p.controllers i).dataUpdated then some (p.controllers i).data else none
  free : ∀ i, p.seatTaken i = false → (p.controllers i).dataUpdated = false

/-- The mail is left alone, and so are the reports in the seats. -/
theorem Delivers.mono (h : p.Delivers) (hmail : q.history.mail = p.history.mail)
    (hdata : ∀ i, (q.controllers i).data = (p.controllers i).data)
    (hupdated : ∀ i, (q.controllers i).dataUpdated = (p.controllers i).dataUpdated)
    (htaken : ∀ i, p.seatTaken i = true → q.seatTaken i = true) : q.Delivers where
  honest := hmail ▸ h.honest
  box i := by rw [hmail, hdata, hupdated, h.box]
  free i hi := by
    rw [hupdated]
    refine h.free i (Bool.eq_false_iff.mpr fun hp => ?_)
    rw [htaken i hp] at hi
    cases hi

theorem Delivers.congr_seats (h : p.Delivers) (hmail : q.history.mail = p.history.mail)
    (hseats : q.controllers = p.controllers) : q.Delivers :=
  h.mono hmail (fun _ => by rw [hseats]) (fun _ => by rw [hseats]) fun i hi => by
    rwa [seatTaken, hseats]

/-- Something happens to seat `i`, and the log says what. -/
theorem Delivers.concat (h : p.Delivers) {i : SeatIdx} {m : Mail SeatIdx ControllerData}
    (hmail : q.history.mail = p.history.mail ++ [m]) (hallowed : Mail.Allowed p.history.mail m)
    (hothers : ∀ j, j ≠ i → q.controllers j = p.controllers j)
    (hkeys : ∀ j box, j ≠ i → Mail.effect j box m = box)
    (hbox : Mail.effect i (Mail.box i p.history.mail) m =
      if (q.controllers i).dataUpdated then some (q.controllers i).data else none)
    (hfree : q.seatTaken i = false → (q.controllers i).dataUpdated = false) : q.Delivers where
  honest := by
    rw [hmail]
    exact (Mail.honest_concat _ _).mpr ⟨h.honest, hallowed⟩
  box j := by
    rw [hmail, Mail.box_concat]
    by_cases hji : j = i
    · subst hji
      exact hbox
    · rw [hkeys j _ hji, h.box, hothers j hji]
  free j hj := by
    by_cases hji : j = i
    · subst hji
      exact hfree hj
    · rw [seatTaken, hothers j hji] at hj
      rw [hothers j hji]
      exact h.free j hj

theorem Delivers.vacateSeat (h : p.Delivers) (d : DeviceIdx) (i : SeatIdx) :
    (p.vacateSeat d i).Delivers := by
  refine h.concat (i := i) rfl trivial (fun j hji => ?_) (fun j box hji => ?_) ?_ fun _ => ?_
  · simp [Platform.vacateSeat, recordMail, hji]
  · simp [Mail.effect, hji.symm]
  · simp [Platform.vacateSeat, recordMail, Mail.effect]
  · simp [Platform.vacateSeat, recordMail]

/-- A report goes to a taken seat only. -/
theorem Delivers.storeData (h : p.Delivers) {ctl : ControllerData}
    (htaken : ∀ i, seatIdx (p.gDevices d).controllerIdx = some i → p.seatTaken i = true) :
    (p.storeData d ctl).Delivers := by
  unfold Platform.storeData
  split
  · exact h
  · rename_i i hi
    refine h.concat (i := i) rfl trivial (fun j hji => ?_) (fun j box hji => ?_) ?_ fun hfree => ?_
    · simp [recordMail, hji]
    · simp [Mail.effect, hji.symm]
    · simp [recordMail, Mail.effect]
    · have hseat := htaken i hi
      simp [recordMail, seatTaken] at hfree hseat
      contradiction

theorem Delivers.collect (h : p.Delivers) (i : SeatIdx) : (p.collect i).1.Delivers := by
  refine h.concat (i := i) rfl (h.box i).symm (fun j hji => ?_) (fun j box hji => ?_) ?_ fun _ => ?_
  · simp [Platform.collect, recordMail, hji]
  · simp [Mail.effect, hji.symm]
  · simp [Platform.collect, recordMail, Mail.effect]
  · simp [Platform.collect, recordMail]

theorem Delivers.disconnectDevice (h : p.Delivers) (d : DeviceIdx) :
    (p.disconnectDevice d).Delivers := by
  have hclosed : (p.setDevice d fun dev => { dev with connected := false }).Delivers :=
    h.congr_seats rfl rfl
  unfold Platform.disconnectDevice
  simp only
  split
  · unfold onDeviceDisconnected
    split
    · exact hclosed
    · split
      · exact hclosed
      · exact hclosed.vacateSeat d _
  · exact hclosed

theorem Delivers.dropDevice (h : p.Delivers) (d : DeviceIdx) : (p.dropDevice d).Delivers :=
  (h.disconnectDevice d).congr_seats rfl rfl

theorem mail_showSeat (p : Platform) (d : DeviceIdx) :
    (p.showSeat d).history.mail = p.history.mail := by
  obtain ⟨cs, h⟩ := p.showSeat_eq d
  rw [h, history_record]

theorem Delivers.onDeviceReady (h : p.Delivers) (d : DeviceIdx) :
    (p.onDeviceReady d).1.Delivers := by
  unfold Platform.onDeviceReady
  split
  · exact h
  · split
    · exact h
    · split
      · exact h.congr_seats (p.mail_showSeat d) (p.controllers_showSeat d)
      · rename_i i _
        refine Delivers.congr_seats (p := p.assignSeat d i) ?_ (mail_showSeat _ d)
          (controllers_showSeat _ d)
        refine h.mono rfl (fun j => ?_) (fun j => ?_) fun j hj => ?_
        · by_cases hji : j = i
          · subst hji
            simp [Platform.assignSeat]
          · simp [Platform.assignSeat, hji]
        · by_cases hji : j = i
          · subst hji
            simp [Platform.assignSeat]
          · simp [Platform.assignSeat, hji]
        · rw [seatTaken_assignSeat, hj, Bool.or_true]

theorem Delivers.setReadyComplete (h : p.Delivers) (d : DeviceIdx) :
    (p.setReadyComplete d).1.Delivers := by
  unfold Platform.setReadyComplete
  split
  · exact h
  · simp only
    split
    · exact (h.onDeviceReady d).congr_seats rfl rfl
    · exact (h.onDeviceReady d).dropDevice d

/-- Every call of the Bluetooth thread keeps the log true; a ready device reports to the seat
it claims. -/
theorem Delivers.btStep (h : p.Delivers) (hseats : p.Exclusive) (e : BtEvent) :
    (p.btStep e).Delivers := by
  cases e with
  | create address =>
    simp only [Platform.btStep, createDevice]
    split
    · exact h
    · exact h.congr_seats rfl rfl
  | identify d type vendorId productId parser => exact h.congr_seats rfl rfl
  | setState d state => exact h.congr_seats rfl rfl
  | connect d => exact h.congr_seats rfl rfl
  | setReady d =>
    simp only [Platform.btStep, setReady]
    split
    · exact h
    · have hpending : (p.setState d .devicePendingReady).Delivers := h.congr_seats rfl rfl
      split
      · exact hpending
      · exact hpending.setReadyComplete d
  | setReadyComplete d => exact h.setReadyComplete d
  | disconnect d => exact h.disconnectDevice d
  | drop d => exact h.dropDevice d
  | timeout d =>
    simp only [Platform.btStep, deviceConnectionTimeout]
    split
    · exact h
    · exact h.dropDevice d
  | receive => exact h.congr_seats p.mail_receiveRequest p.controllers_receiveRequest
  | report d ctl =>
    simp only [Platform.btStep, reported]
    split
    · rename_i hready
      have hcopied : (p.setDevice d fun dev =>
          { dev with controller := remapped p.remapping ctl }).Delivers := h.congr_seats rfl rfl
      refine hcopied.storeData fun i hi => ?_
      rw [seatIdx_eq_some, gDevices_setDevice, Function.update_self] at hi
      -- a ready device claims the seat it reports to, so the seat is not free
      exact hseats.taken (d := d) ⟨.inl hready, hi⟩
    · exact h.congr_seats rfl rfl

end

end Platform

namespace PadSystem

open Platform

theorem exclusive_step (s : PadSystem) (e : Event) (h : s.platform.Exclusive) :
    (s.step e).platform.Exclusive := by
  cases e with
  | cpu0 e => exact h.btStep e
  | advance =>
    simp only [step]
    rcases s.platform_advance with hsame | ⟨i, hcollect⟩
    · rwa [hsame]
    · rw [hcollect]
      refine h.congr_tables rfl (funext fun j => ?_)
      by_cases hji : j = i
      · subst hji
        simp [collect, recordMail, seatTaken]
      · simp [collect, recordMail, seatTaken, hji]
  | request i cmd =>
    simp only [step, request]
    split
    · refine h.congr_tables (gDevices_arduinoRequest cmd _ s.platform) (funext fun j => ?_)
      rw [seatTaken, controllers_arduinoRequest, seatTaken]
    · exact h

theorem exclusive_run (es : List Event) : (run step {} es).platform.Exclusive := by
  refine inv_run exclusive_step ⟨fun he => ?_, fun he => ?_⟩ es <;>
    · obtain ⟨hready | hconnected, -⟩ := he
      · cases hready
      · cases hconnected

/-- In every state between two calls of CPU 0, the search by seat finds the ready device with
that seat if there is one, no other has it, and the sketch sees the seat as taken. -/
theorem seat_finds_device (es : List Event) (i : SeatIdx) (d : DeviceIdx) :
    let p := (run step {} es).platform
    (p.deviceAt i = some d ↔
      (p.gDevices d).state = .deviceReady ∧ (p.gDevices d).controllerIdx = ((i : ℕ) : ℤ)) ∧
      (p.deviceAt i = some d → p.seatTaken i = true) := by
  have h := exclusive_run es
  generalize (run step {} es).platform = p at h ⊢
  have hfound : ∀ e, p.deviceAt i = some e →
      (p.gDevices e).state = .deviceReady ∧ (p.gDevices e).controllerIdx = ((i : ℕ) : ℤ) := by
    intro e he
    have hsome := List.find?_some he
    rwa [decide_eq_true_eq] at hsome
  refine ⟨⟨hfound d, fun hd => ?_⟩, fun hd => ?_⟩
  · have hclaim : p.Claims d i := ⟨.inl hd.1, hd.2⟩
    cases he : p.deviceAt i with
    | none =>
      have hnone := List.find?_eq_none.mp he d (List.mem_finRange d)
      rw [decide_eq_true_eq] at hnone
      exact absurd hd hnone
    | some e =>
      have hother : p.Claims e i := ⟨.inl (hfound e he).1, (hfound e he).2⟩
      rw [h.once hother hclaim]
  · exact h.taken (d := d) ⟨.inl (hfound d hd).1, (hfound d hd).2⟩

end PadSystem

end K2soHead
