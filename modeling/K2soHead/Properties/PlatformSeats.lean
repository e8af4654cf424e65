import K2soHead.Library.Seating
import K2soHead.Firmware.Bluepad32

/-!
# Seats of the platform

The tables of `arduino_platform.c` are a `Seating`: a device sits where its `controller_idx`
says while it is connected, for only then does its end give the seat back.  Each call of the
Bluetooth thread is a move of that seating (`SeatedAs.btStep`), CPU 1 moves nothing, and so
the seats stranded after any interleaving are exactly those its steps lost.
-/

namespace K2soHead

open Runs

namespace Platform

/-! ## The seating -/

/-- The seat the device will give back when it goes. -/
def seatOf (p : Platform) (d : DeviceIdx) : Option SeatIdx :=
  if (p.gDevices d).connected then seatIdx (p.gDevices d).controllerIdx else none

/-- The tables say what `s` says. -/
structure SeatedAs (p : Platform) (s : Seating DeviceIdx SeatIdx) : Prop where
  idx : ∀ i, (p.controllers i).idx =
    if i ∈ s.taken then ((i : ℕ) : ℤ) else UNI_ARDUINO_GAMEPAD_INVALID
  seat : s.seat = p.seatOf
  unassigned : ∀ d, (p.gDevices d).connected = true → p.seatOf d = none →
    (p.gDevices d).controllerIdx = UNI_ARDUINO_GAMEPAD_INVALID
  used : p.usedControllers = s.taken.card

theorem invalid_ne_natCast (n : ℕ) : UNI_ARDUINO_GAMEPAD_INVALID ≠ (n : ℤ) := by
  rw [UNI_ARDUINO_GAMEPAD_INVALID]
  omega

section

variable {p q : Platform} {s : Seating DeviceIdx SeatIdx} {d : DeviceIdx}

theorem SeatedAs.seatTaken_iff (h : p.SeatedAs s) (i : SeatIdx) :
    p.seatTaken i = true ↔ i ∈ s.taken := by
  rw [seatTaken, decide_eq_true_iff, h.idx i]
  by_cases hi : i ∈ s.taken
  · rw [if_pos hi]
    exact iff_of_true (invalid_ne_natCast i).symm hi
  · rw [if_neg hi]
    exact iff_of_false (fun hne => hne rfl) hi

/-- Nothing the seating is read from has changed. -/
theorem SeatedAs.congr (h : p.SeatedAs s)
    (hidx : ∀ i, (q.controllers i).idx = (p.controllers i).idx)
    (hconnected : ∀ d, (q.gDevices d).connected = (p.gDevices d).connected)
    (hcontroller : ∀ d, (q.gDevices d).controllerIdx = (p.gDevices d).controllerIdx)
    (hused : q.usedControllers = p.usedControllers) : q.SeatedAs s := by
  have hseat : q.seatOf = p.seatOf := by
    funext d
    rw [seatOf, seatOf, hconnected, hcontroller]
  refine ⟨fun i => (hidx i).trans (h.idx i), h.seat.trans hseat.symm, ?_, hused.trans h.used⟩
  intro d
  rw [hconnected, hcontroller, hseat]
  exact h.unassigned d

theorem SeatedAs.congr_tables (h : p.SeatedAs s) (hdevices : q.gDevices = p.gDevices)
    (hcontrollers : ∀ i, (q.controllers i).idx = (p.controllers i).idx)
    (hused : q.usedControllers = p.usedControllers) : q.SeatedAs s :=
  h.congr hcontrollers (fun d => by rw [hdevices]) (fun d => by rw [hdevices]) hused

/-- A device whose seat and connection are left alone. -/
theorem SeatedAs.setDevice (h : p.SeatedAs s) {f : Device → Device}
    (hconnected : (f (p.gDevices d)).connected = (p.gDevices d).connected)
    (hcontroller : (f (p.gDevices d)).controllerIdx = (p.gDevices d).controllerIdx) :
    (p.setDevice d f).SeatedAs s := by
  refine h.congr (fun _ => rfl) (fun e => ?_) (fun e => ?_) rfl <;>
    · rw [gDevices_setDevice]
      by_cases hed : e = d
      · subst hed
        rwa [Function.update_self]
      · rw [Function.update_of_ne hed]

/-! ## What the calls do to it -/

theorem connected_disconnectDevice (p : Platform) (d : DeviceIdx) :
    ((p.disconnectDevice d).gDevices d).connected = false := by
  unfold Platform.disconnectDevice onDeviceDisconnected
  cases (p.gDevices d).connected with
  | false => simp
  | true =>
    simp only [if_true]
    split
    · simp
    · split <;> simp [vacateSeat, recordMail]

section Overwrite

variable {f : Device → Device}

theorem seatOf_overwrite
    (hd : (f (p.gDevices d)).connected = true →
      (f (p.gDevices d)).controllerIdx = UNI_ARDUINO_GAMEPAD_INVALID) :
    (p.setDevice d f).seatOf = Function.update p.seatOf d none := by
  funext e
  by_cases hed : e = d
  · subst hed
    rw [Function.update_self, seatOf, gDevices_setDevice, Function.update_self]
    split
    · rename_i hconnected
      rw [hd hconnected, seatIdx_invalid]
    · rfl
  · rw [Function.update_of_ne hed, seatOf, seatOf, gDevices_setDevice, Function.update_of_ne hed]

theorem SeatedAs.unassigned_overwrite (h : p.SeatedAs s)
    (hd : (f (p.gDevices d)).connected = true →
      (f (p.gDevices d)).controllerIdx = UNI_ARDUINO_GAMEPAD_INVALID) (e : DeviceIdx) :
    ((p.setDevice d f).gDevices e).connected = true → (p.setDevice d f).seatOf e = none →
      ((p.setDevice d f).gDevices e).controllerIdx = UNI_ARDUINO_GAMEPAD_INVALID := by
  rw [seatOf_overwrite hd, gDevices_setDevice]
  by_cases hed : e = d
  · subst hed
    rw [Function.update_self]
    exact fun hconnected _ => hd hconnected
  · rw [Function.update_of_ne hed, Function.update_of_ne hed]
    exact h.unassigned e

/-- A device without a seat that is written over. -/
theorem SeatedAs.overwrite_unseated (h : p.SeatedAs s) (hnone : p.seatOf d = none)
    (hd : (f (p.gDevices d)).connected = true →
      (f (p.gDevices d)).controllerIdx = UNI_ARDUINO_GAMEPAD_INVALID) :
    (p.setDevice d f).SeatedAs s := by
  refine ⟨h.idx, ?_, h.unassigned_overwrite hd, h.used⟩
  rw [seatOf_overwrite hd, h.seat, ← hnone, Function.update_eq_self]

/-- A device that is written over, seat and all: the seat stays taken behind it. -/
theorem SeatedAs.overwrite (h : p.SeatedAs s)
    (hd : (f (p.gDevices d)).connected = true →
      (f (p.gDevices d)).controllerIdx = UNI_ARDUINO_GAMEPAD_INVALID) :
    ∃ s', s.Move (p.seatOf d).toList s' ∧ (p.setDevice d f).SeatedAs s' := by
  cases hold : p.seatOf d with
  | none => exact ⟨s, .still, h.overwrite_unseated hold hd⟩
  | some i =>
    have hsit : s.seat d = some i := h.seat ▸ hold
    refine ⟨s.forget d, .forget d i hsit, h.idx, ?_, h.unassigned_overwrite hd, h.used⟩
    rw [seatOf_overwrite hd, ← h.seat]
    rfl

end Overwrite

theorem seatOf_of_not_connected (hd : (p.gDevices d).connected = false) : p.seatOf d = none := by
  rw [seatOf, hd]
  rfl

/-- The end of a device gives its seat back, if it was told to have one. -/
theorem SeatedAs.disconnectDevice (h : p.SeatedAs s) (d : DeviceIdx) :
    ∃ s', s.Move [] s' ∧ (p.disconnectDevice d).SeatedAs s' := by
  unfold Platform.disconnectDevice
  cases hconnected : (p.gDevices d).connected with
  | false =>
    rw [if_neg Bool.false_ne_true]
    exact ⟨s, .still, h.setDevice hconnected.symm rfl⟩
  | true =>
    have hidx : ((p.setDevice d fun dev => { dev with connected := false }).gDevices
        d).controllerIdx = (p.gDevices d).controllerIdx := by
      rw [gDevices_setDevice, Function.update_self]
    simp only [if_true, onDeviceDisconnected, hidx]
    cases hold : p.seatOf d with
    | none =>
      rw [if_pos (h.unassigned d hconnected hold)]
      -- it has no seat yet
      exact ⟨s, .still, h.overwrite_unseated hold fun hc => by cases hc⟩
    | some i =>
      have hcontroller : (p.gDevices d).controllerIdx = (i : ℕ) := by
        rw [seatOf, hconnected, if_pos rfl] at hold
        exact seatIdx_eq_some.mp hold
      have hsit : s.seat d = some i := h.seat ▸ hold
      rw [hcontroller, if_neg (invalid_ne_natCast i).symm, seatIdx_natCast]
      -- the seat is cleared, so whoever asks next may have it
      refine ⟨s.release d i hsit, .release d i hsit, ?_, ?_, ?_, ?_⟩
      · intro j
        by_cases hji : j = i
        · subst hji
          simp [vacateSeat, recordMail, Seating.release]
        · simp [vacateSeat, recordMail, Seating.release, hji, h.idx j]
      · funext e
        by_cases hed : e = d
        · subst hed
          simp [vacateSeat, recordMail, Seating.release, seatOf]
        · simp [vacateSeat, recordMail, Seating.release, seatOf, hed, h.seat]
      · intro e
        by_cases hed : e = d
        · subst hed
          simp [vacateSeat, recordMail]
        · simpa [vacateSeat, recordMail, seatOf, hed] using h.unassigned e
      · have hcard := Finset.card_erase_of_mem (s.mem_taken hsit)
        have hpos : 0 < s.taken.card := Finset.card_pos.mpr ⟨i, s.mem_taken hsit⟩
        change p.usedControllers - 1 = ((s.taken.erase i).card : ℤ)
        rw [hcard, h.used]
        omega

theorem SeatedAs.dropDevice (h : p.SeatedAs s) (d : DeviceIdx) :
    ∃ s', s.Move [] s' ∧ (p.dropDevice d).SeatedAs s' := by
  obtain ⟨s', hmove, hs'⟩ := h.disconnectDevice d
  have hgone : (p.disconnectDevice d).seatOf d = none :=
    seatOf_of_not_connected (connected_disconnectDevice p d)
  exact ⟨s', hmove, hs'.overwrite_unseated (f := fun _ => {}) hgone fun hc => by cases hc⟩

/-- A free seat is one nobody has taken, and it is found while the table is not full. -/
theorem SeatedAs.exists_freeSeat (h : p.SeatedAs s) (hroom : p.usedControllers ≠ MAX_DEVICES) :
    ∃ i, p.freeSeat = some i ∧ i ∉ s.taken := by
  have hfree : ∃ i, i ∉ s.taken := by
    by_contra hall
    refine hroom (h.used.trans ?_)
    have huniv : s.taken = Finset.univ := by
      ext i
      simpa using not_not.mp (fun hi => hall ⟨i, hi⟩)
    rw [huniv, Finset.card_univ, Fintype.card_fin]
  obtain ⟨i, hi⟩ := hfree
  have hsome : p.freeSeat.isSome := by
    rw [freeSeat, List.find?_isSome]
    exact ⟨i, List.mem_finRange i, by simp [h.idx i, hi]⟩
  obtain ⟨j, hj⟩ := Option.isSome_iff_exists.mp hsome
  refine ⟨j, hj, fun hmem => ?_⟩
  have hidx := List.find?_some hj
  simp only [decide_eq_true_eq] at hidx
  rw [h.idx j, if_pos hmem] at hidx
  exact invalid_ne_natCast j hidx.symm

/-- The seats `set_ready_complete` takes for nobody: the device was disconnected, and its
entry kept. -/
def lostReady (d : DeviceIdx) (p : Platform) : List SeatIdx :=
  if (p.gDevices d).state = .deviceReady ∨ (p.gDevices d).connected = true ∨
      (p.gDevices d).controllerIdx ≠ UNI_ARDUINO_GAMEPAD_INVALID ∨
      p.usedControllers = MAX_DEVICES then []
  else p.freeSeat.toList

theorem SeatedAs.assignSeat (h : p.SeatedAs s) {i : SeatIdx} (hi : i ∉ s.taken)
    (hd : (p.gDevices d).controllerIdx = UNI_ARDUINO_GAMEPAD_INVALID) :
    ∃ s', s.Move (if (p.gDevices d).connected = true then [] else [i]) s' ∧
      (p.assignSeat d i).SeatedAs s' := by
  have hnone : s.seat d = none := by
    rw [h.seat, seatOf]
    split
    · rw [hd, seatIdx_invalid]
    · rfl
  have hidx : ∀ j, ((p.assignSeat d i).controllers j).idx =
      if j ∈ insert i s.taken then ((j : ℕ) : ℤ) else UNI_ARDUINO_GAMEPAD_INVALID := by
    intro j
    by_cases hji : j = i
    · subst hji
      simp [Platform.assignSeat]
    · simp [Platform.assignSeat, hji, h.idx j]
  have hused : (p.assignSeat d i).usedControllers = ((insert i s.taken).card : ℤ) := by
    rw [Finset.card_insert_of_notMem hi]
    change p.usedControllers + 1 = _
    rw [h.used]
    rfl
  have hunassigned : ∀ e, ((p.assignSeat d i).gDevices e).connected = true →
      (p.assignSeat d i).seatOf e = none →
      ((p.assignSeat d i).gDevices e).controllerIdx = UNI_ARDUINO_GAMEPAD_INVALID := by
    intro e
    by_cases hed : e = d
    · subst hed
      intro hconnected hseat
      rw [seatOf, if_pos hconnected] at hseat
      simp [Platform.assignSeat] at hseat
    · simpa [Platform.assignSeat, seatOf, hed] using h.unassigned e
  cases hconnected : (p.gDevices d).connected with
  | true =>
    -- a connected device claims the seat
    refine ⟨s.claim d i hi, .claim d i hi hnone, hidx, ?_, hunassigned, hused⟩
    funext e
    by_cases hed : e = d
    · subst hed
      simp [Platform.assignSeat, seatOf, hconnected]
    · simp [Platform.assignSeat, seatOf, hed, h.seat]
  | false =>
    -- for any other one it is taken all the same, and nobody gives it back
    refine ⟨s.leak i, .leak i hi, hidx, ?_, hunassigned, hused⟩
    change s.seat = _
    rw [h.seat]
    funext e
    by_cases hed : e = d
    · subst hed
      simp [Platform.assignSeat, seatOf, hconnected]
    · simp [Platform.assignSeat, seatOf, hed]

theorem SeatedAs.setReadyComplete (h : p.SeatedAs s) (d : DeviceIdx) :
    ∃ s', s.Move (p.lostReady d) s' ∧ (p.setReadyComplete d).1.SeatedAs s' := by
  unfold Platform.setReadyComplete lostReady
  by_cases hready : (p.gDevices d).state = .deviceReady
  · simp only [hready, true_or, if_true]
    exact ⟨s, .still, h⟩
  · by_cases hfull : p.usedControllers = MAX_DEVICES
    · simpa [hready, hfull, onDeviceReady] using h.dropDevice d
    · by_cases hidx : (p.gDevices d).controllerIdx = UNI_ARDUINO_GAMEPAD_INVALID
      · obtain ⟨i, hfree, hi⟩ := h.exists_freeSeat hfull
        obtain ⟨s', hmove, hs'⟩ := h.assignSeat (d := d) hi hidx
        refine ⟨s', ?_, ?_⟩
        · simpa [hready, hfull, hidx, hfree] using hmove
        · simp only [hready, hfull, hidx, hfree, onDeviceReady, if_false, ne_eq, not_true_eq_false,
            if_true]
          exact (hs'.congr_tables (gDevices_showSeat _ d) (fun _ => by rw [controllers_showSeat])
            (usedControllers_showSeat _ d)).setDevice rfl rfl
      · simpa [hready, hfull, hidx, onDeviceReady] using h.dropDevice d

theorem SeatedAs.setReady (h : p.SeatedAs s) (d : DeviceIdx) :
    ∃ s', s.Move (if (p.gDevices d).state = .devicePendingReady ∨
        (p.gDevices d).reportParser.setup = true then []
      else (p.setState d .devicePendingReady).lostReady d) s' ∧ (p.setReady d).SeatedAs s' := by
  have hstate : (p.setState d .devicePendingReady).SeatedAs s := h.setDevice rfl rfl
  have hsetup : ((p.setState d .devicePendingReady).gDevices d).reportParser.setup =
      (p.gDevices d).reportParser.setup := by
    rw [Platform.setState, gDevices_setDevice, Function.update_self]
  unfold Platform.setReady
  by_cases hpending : (p.gDevices d).state = .devicePendingReady
  · simp only [hpending, true_or, if_true]
    exact ⟨s, .still, h⟩
  · simp only [hpending, false_or, if_false, hsetup]
    split
    · exact ⟨s, .still, hstate⟩
    · exact hstate.setReadyComplete d

theorem SeatedAs.storeData (h : p.SeatedAs s) (d : DeviceIdx) (ctl : ControllerData) :
    (p.storeData d ctl).SeatedAs s := by
  unfold Platform.storeData
  split
  · exact h
  · refine h.congr_tables rfl (fun j => ?_) rfl
    rename_i i _
    by_cases hji : j = i
    · subst hji
      simp [recordMail]
    · simp [recordMail, hji]

theorem SeatedAs.collect (h : p.SeatedAs s) (i : SeatIdx) : (p.collect i).1.SeatedAs s := by
  refine h.congr_tables rfl (fun j => ?_) rfl
  by_cases hji : j = i
  · subst hji
    simp [Platform.collect, recordMail]
  · simp [Platform.collect, recordMail, hji]

/-! ## Every step -/

/-- The seats a call strands.  Three ways lead there: a free entry that was connected all the
same is created anew, a seated device connects once more, and a device that was disconnected
and kept becomes ready. -/
def lost (p : Platform) : BtEvent → List SeatIdx
  | .create _ => (p.freeDevice.bind p.seatOf).toList
  | .connect d => (p.seatOf d).toList
  | .setReady d =>
      if (p.gDevices d).state = .devicePendingReady ∨
          (p.gDevices d).reportParser.setup = true then []
      else (p.setState d .devicePendingReady).lostReady d
  | .setReadyComplete d => p.lostReady d
  | _ => []

/-- Every call of the Bluetooth thread is a move of the seating. -/
theorem SeatedAs.btStep (h : p.SeatedAs s) (e : BtEvent) :
    ∃ s', s.Move (p.lost e) s' ∧ (p.btStep e).SeatedAs s' := by
  cases e with
  | create address =>
    simp only [Platform.btStep, lost, createDevice]
    cases p.freeDevice with
    | none => exact ⟨s, .still, h⟩
    | some d => exact h.overwrite (f := fun _ => { btaddr := address }) fun hc => by cases hc
  | identify d type vendorId productId parser =>
    refine ⟨s, .still, ?_⟩
    simp only [Platform.btStep]
    exact h.setDevice rfl rfl
  | setState d state =>
    refine ⟨s, .still, ?_⟩
    simp only [Platform.btStep, setState]
    exact h.setDevice rfl rfl
  | connect d =>
    have hboth : p.connectDevice d = p.setDevice d fun dev =>
        { dev with connected := true, controllerIdx := UNI_ARDUINO_GAMEPAD_INVALID } := by
      simp [connectDevice, onDeviceConnected, Platform.setDevice]
    simp only [Platform.btStep, lost, hboth]
    exact h.overwrite fun _ => rfl
  | setReady d => exact h.setReady d
  | setReadyComplete d => exact h.setReadyComplete d
  | disconnect d => exact h.disconnectDevice d
  | drop d => exact h.dropDevice d
  | timeout d =>
    simp only [Platform.btStep, lost, deviceConnectionTimeout]
    split
    · exact ⟨s, .still, h⟩
    · exact h.dropDevice d
  | receive =>
    exact ⟨s, .still, h.congr_tables (gDevices_receiveRequest p)
      (fun i => by rw [Platform.btStep, controllers_receiveRequest])
      (usedControllers_receiveRequest p)⟩
  | report d ctl =>
    refine ⟨s, .still, ?_⟩
    simp only [Platform.btStep, reported]
    split
    · exact (h.setDevice rfl rfl).storeData d _
    · exact h.setDevice rfl rfl

end

end Platform

/-! ## Every interleaving -/

namespace PadSystem

open Platform

/-- The seats a step of either CPU strands. -/
def lost (s : PadSystem) : Event → List SeatIdx
  | .cpu0 e => s.platform.lost e
  | _ => []

theorem platform_advance (s : PadSystem) :
    s.advance.platform = s.platform ∨ ∃ i, s.advance.platform = (s.platform.collect i).1 := by
  unfold advance
  split
  · exact .inl rfl
  · split <;> exact .inl rfl
  · exact .inr ⟨_, rfl⟩
  · split <;> exact .inl rfl
  · exact .inl rfl
  · exact .inl rfl
  · exact .inl rfl

/-- CPU 1 moves nothing. -/
theorem seatedAs_step (s : PadSystem) (e : Event) (t : Seating DeviceIdx SeatIdx)
    (h : s.platform.SeatedAs t) :
    ∃ t', t.Move (s.lost e) t' ∧ (s.step e).platform.SeatedAs t' := by
  cases e with
  | cpu0 e => exact h.btStep e
  | advance =>
    refine ⟨t, .still, ?_⟩
    simp only [step]
    rcases s.platform_advance with hsame | ⟨i, hcollect⟩
    · rwa [hsame]
    · rw [hcollect]
      exact h.collect i
  | request i cmd =>
    refine ⟨t, .still, ?_⟩
    simp only [step, request]
    split
    · exact h.congr_tables (gDevices_arduinoRequest cmd _ s.platform)
        (fun j => by rw [controllers_arduinoRequest]) (usedControllers_arduinoRequest cmd _ _)
    · exact h

theorem seatedAs_start : ({} : PadSystem).platform.SeatedAs Seating.empty where
  idx _ := rfl
  seat := rfl
  unassigned _ hconnected := by cases hconnected
  used := rfl

/-- After any interleaving the tables are a seating, and the seats stranded in it are the
ones the run lost. -/
theorem exists_seatedAs (es : List Event) :
    ∃ t, (run step {} es).platform.SeatedAs t ∧
      t.stranded = {i | i ∈ outputs step lost {} es} := by
  have hsim : ∀ (s : PadSystem) (e : Event) (t : Seating DeviceIdx SeatIdx),
      s.platform.SeatedAs t → ∃ t', t.Move (s.lost e) t' ∧ (s.step e).platform.SeatedAs t' :=
    fun s e t h => s.seatedAs_step e t h
  obtain ⟨t, ht, hstranded⟩ := Seating.stranded_of_simulates hsim seatedAs_start es
  rw [Seating.stranded_empty, Set.empty_union] at hstranded
  exact ⟨t, ht, hstranded⟩

/-- A seat is taken and no connected device has it, so no disconnect will free it. -/
def Stranded (s : PadSystem) (i : SeatIdx) : Prop :=
  s.platform.seatTaken i = true ∧
    ∀ d, (s.platform.gDevices d).connected = true →
      (s.platform.gDevices d).controllerIdx ≠ ((i : ℕ) : ℤ)

theorem seatOf_eq_some {p : Platform} {d : DeviceIdx} {i : SeatIdx} :
    p.seatOf d = some i ↔
      (p.gDevices d).connected = true ∧ (p.gDevices d).controllerIdx = ((i : ℕ) : ℤ) := by
  rw [seatOf]
  split
  · rename_i hconnected
    rw [seatIdx_eq_some, and_iff_right hconnected]
  · rename_i hconnected
    exact iff_of_false (by simp) fun h => hconnected h.1

theorem stranded_iff_mem {s : PadSystem} {t : Seating DeviceIdx SeatIdx}
    (h : s.platform.SeatedAs t) (i : SeatIdx) : s.Stranded i ↔ i ∈ t.stranded := by
  refine and_congr (h.seatTaken_iff i) (forall_congr' fun d => ?_)
  simp only [h.seat, ne_eq, seatOf_eq_some, not_and]

/-- Over every interleaving of the two CPUs, the seats stranded at the end are exactly the
seats its steps lost: none is ever stranded otherwise, and none ever recovered. -/
theorem stranded_iff_lost (es : List Event) (i : SeatIdx) :
    (run step {} es).Stranded i ↔ i ∈ outputs step lost {} es := by
  obtain ⟨t, ht, hstranded⟩ := exists_seatedAs es
  rw [stranded_iff_mem ht, hstranded]
  exact Iff.rfl

/-- The counter, the seats and the devices tell one story. -/
structure TablesAgree (p : Platform) : Prop where
  /-- `used_controllers_` counts the taken seats -/
  used : p.usedControllers = (Finset.univ.filter fun i => p.seatTaken i = true).card
  /-- a taken seat knows its own number -/
  idx : ∀ i, p.seatTaken i = true → (p.controllers i).idx = ((i : ℕ) : ℤ)
  /-- a connected device has no seat yet, or a taken one -/
  seated : ∀ d, (p.gDevices d).connected = true →
    (p.gDevices d).controllerIdx = UNI_ARDUINO_GAMEPAD_INVALID ∨
      ∃ i : SeatIdx, (p.gDevices d).controllerIdx = ((i : ℕ) : ℤ) ∧ p.seatTaken i = true
  /-- no two connected devices share one -/
  alone : ∀ d e, (p.gDevices d).connected = true → (p.gDevices e).connected = true →
    (p.gDevices d).controllerIdx = (p.gDevices e).controllerIdx →
    (p.gDevices d).controllerIdx ≠ UNI_ARDUINO_GAMEPAD_INVALID → d = e

/-- In every state between two calls of CPU 0, the tables agree, stranded seats or not. -/
theorem tables_agree (es : List Event) : TablesAgree (run step {} es).platform := by
  obtain ⟨t, ht, -⟩ := exists_seatedAs es
  generalize (run step {} es).platform = p at ht
  have htaken : (Finset.univ.filter fun i => p.seatTaken i = true) = t.taken := by
    ext i
    rw [Finset.mem_filter, ht.seatTaken_iff]
    exact and_iff_right (Finset.mem_univ i)
  -- a connected device that was given a number has the seat of that number
  have hseat : ∀ d, (p.gDevices d).connected = true →
      (p.gDevices d).controllerIdx ≠ UNI_ARDUINO_GAMEPAD_INVALID → ∃ i, p.seatOf d = some i := by
    intro d hconnected hidx
    rw [← Option.ne_none_iff_exists']
    exact fun hnone => hidx (ht.unassigned d hconnected hnone)
  refine ⟨?_, ?_, ?_, ?_⟩
  · rw [htaken]
    exact ht.used
  · intro i hi
    rw [ht.idx i, if_pos ((ht.seatTaken_iff i).mp hi)]
  · intro d hconnected
    by_cases hidx : (p.gDevices d).controllerIdx = UNI_ARDUINO_GAMEPAD_INVALID
    · exact .inl hidx
    · obtain ⟨i, hi⟩ := hseat d hconnected hidx
      refine .inr ⟨i, (seatOf_eq_some.mp hi).2, ?_⟩
      rw [ht.seatTaken_iff]
      exact t.mem_taken (ht.seat ▸ hi)
  · intro d e hd he hsame hidx
    obtain ⟨i, hi⟩ := hseat d hd hidx
    have hei : p.seatOf e = some i :=
      seatOf_eq_some.mpr ⟨he, hsame ▸ (seatOf_eq_some.mp hi).2⟩
    rw [← ht.seat] at hi hei
    exact t.owner_unique hi hei

/-- In a run that strands no seat, `on_device_ready` turns nobody away for want of a seat:
if it answers that there is none, the device has one. -/
theorem noSlots_only_if_seated (es : List Event) (hnone : outputs step lost {} es = [])
    (d : DeviceIdx) (hfull : ((run step {} es).platform.onDeviceReady d).2 = .noSlots) :
    ((run step {} es).platform.gDevices d).connected = true ∧
      ∃ i : SeatIdx, ((run step {} es).platform.gDevices d).controllerIdx = ((i : ℕ) : ℤ) := by
  obtain ⟨t, ht, hstranded⟩ := exists_seatedAs es
  generalize (run step {} es).platform = p at ht hfull ⊢
  have hused : p.usedControllers = MAX_DEVICES := by
    by_contra hroom
    rw [onDeviceReady, if_neg hroom] at hfull
    split at hfull
    · cases hfull
    · split at hfull <;> cases hfull
  have huniv : t.taken = Finset.univ := by
    have hcard : (t.taken.card : ℤ) = MAX_DEVICES := ht.used.symm.trans hused
    refine Finset.eq_univ_of_card t.taken ?_
    rw [Fintype.card_fin]
    exact_mod_cast hcard
  have hempty : t.stranded = ∅ := by
    rw [hstranded, hnone]
    simp
  -- as many devices as seats, and every seat has its device
  obtain ⟨i, hi⟩ := Seating.exists_seat_of_full hempty huniv le_rfl d
  obtain ⟨hconnected, hidx⟩ := seatOf_eq_some.mp (ht.seat ▸ hi : p.seatOf d = some i)
  exact ⟨hconnected, i, hidx⟩

/-- A pad is found, connects and becomes ready. -/
def arrive (d : DeviceIdx) (address : BdAddr) : List Event :=
  [.cpu0 (.create address), .cpu0 (.connect d), .cpu0 (.setReady d)]

/-- Four pads fill the table, and the first of them asks for a seat again. -/
theorem fourth_pad_fills_table :
    let es := arrive 0 1 ++ arrive 1 2 ++ arrive 2 3 ++ arrive 3 4
    ((run step {} es).platform.onDeviceReady 0).2 = .noSlots ∧
      ((run step {} es).platform.gDevices 0).connected = true ∧
        ∃ i : SeatIdx, ((run step {} es).platform.gDevices 0).controllerIdx = ((i : ℕ) : ℤ) := by
  intro es
  have hfull : ((run step {} es).platform.onDeviceReady 0).2 = .noSlots := by decide
  exact ⟨hfull, noSlots_only_if_seated es (by decide) 0 hfull⟩

end PadSystem

end K2soHead
