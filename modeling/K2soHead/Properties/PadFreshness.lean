import K2soHead.Firmware.GamepadInput
import K2soHead.Library.Runs
import Mathlib.Data.Nat.Bitwise
import Mathlib.Logic.Function.Basic

/-!
# The gamepad state is never stale

Beside the statics of `gamepad_input.cpp` a run keeps, for every slot of the library, what
its pad delivered since it connected.  `update()` has three exits and each leaves another
part of the state as it was, so freshness is carried through the callbacks (`Holds`) and
through the poll (`Fresh`) separately.  What it means for a state to show a report is said field
by field (`Shows`), and not by the code that copies it.
-/

namespace K2soHead

open Runs

/-! ## What a state shows of a report -/

/-- The axes, triggers and masks are those of the report, and each flag is the bit of its mask
that `uni_gamepad.h` numbers. -/
structure GamepadState.Shows (st : GamepadState) (r : Report) : Prop where
  axisX : st.axisX = r.axisX
  axisY : st.axisY = r.axisY
  axisRX : st.axisRX = r.axisRX
  axisRY : st.axisRY = r.axisRY
  brake : st.brake = r.brake
  throttle : st.throttle = r.throttle
  buttons : st.buttons = r.buttons
  dpad : st.dpad = r.dpad
  a : st.a = r.buttons.toNat.testBit 0
  b : st.b = r.buttons.toNat.testBit 1
  x : st.x = r.buttons.toNat.testBit 2
  y : st.y = r.buttons.toNat.testBit 3
  l1 : st.l1 = r.buttons.toNat.testBit 4
  r1 : st.r1 = r.buttons.toNat.testBit 5
  select : st.select = r.miscButtons.toNat.testBit 1
  start : st.start = r.miscButtons.toNat.testBit 2
  dpadUp : st.dpadUp = r.dpad.toNat.testBit 0
  dpadDown : st.dpadDown = r.dpad.toNat.testBit 1
  dpadRight : st.dpadRight = r.dpad.toNat.testBit 2
  dpadLeft : st.dpadLeft = r.dpad.toNat.testBit 3

theorem and_two_pow_ne_zero (mask k : ℕ) : (mask &&& 2 ^ k ≠ 0) ↔ mask.testBit k = true := by
  rw [Nat.and_two_pow]
  cases mask.testBit k <;> simp

/-- Testing a mask of 16 bits against one of them. -/
theorem bit16_eq_testBit (mask bit : UInt16) {k : ℕ} (hbit : bit.toNat = 2 ^ k) :
    (mask &&& bit != 0) = mask.toNat.testBit k := by
  have hmask := and_two_pow_ne_zero mask.toNat k
  rw [Bool.eq_iff_iff, bne_iff_ne, ← hmask, Ne, ← UInt16.toNat_inj, UInt16.toNat_and, hbit]
  rfl

/-- The same for 8 bits. -/
theorem bit8_eq_testBit (mask bit : UInt8) {k : ℕ} (hbit : bit.toNat = 2 ^ k) :
    (mask &&& bit != 0) = mask.toNat.testBit k := by
  have hmask := and_two_pow_ne_zero mask.toNat k
  rw [Bool.eq_iff_iff, bne_iff_ne, ← hmask, Ne, ← UInt8.toNat_inj, UInt8.toNat_and, hbit]
  rfl

/-- A report is copied whole. -/
theorem GamepadInput.shows_decode (r : Report) : (decode r).Shows r where
  axisX := rfl
  axisY := rfl
  axisRX := rfl
  axisRY := rfl
  brake := rfl
  throttle := rfl
  buttons := rfl
  dpad := rfl
  a := bit16_eq_testBit _ _ rfl
  b := bit16_eq_testBit _ _ rfl
  x := bit16_eq_testBit _ _ rfl
  y := bit16_eq_testBit _ _ rfl
  l1 := bit16_eq_testBit _ _ rfl
  r1 := bit16_eq_testBit _ _ rfl
  select := bit16_eq_testBit _ _ rfl
  start := bit16_eq_testBit _ _ rfl
  dpadUp := bit8_eq_testBit _ _ rfl
  dpadDown := bit8_eq_testBit _ _ rfl
  dpadRight := bit8_eq_testBit _ _ rfl
  dpadLeft := bit8_eq_testBit _ _ rfl

/-! ## Sessions -/

/-- What the library knows of one slot. -/
structure Slot where
  connected : Bool := false
  gamepad : Bool := false
  /-- the latest report since the pad connected -/
  latest : Option Report := none

/-- `GamepadInput` together with the library's slots. -/
structure PadSessions where
  input : GamepadInput := {}
  slot : ControllerPtr → Slot := fun _ => {}

/-- The three exits of a poll: not usable, nothing new, and a new report. -/
theorem GamepadInput.poll_exits (u : Bp32Update) (g : GamepadInput) :
    (g.poll u).sState.connected = false ∨
      ∃ ctl, g.sController = some ctl ∧ (u.controller ctl).isConnected = true ∧
        (u.controller ctl).isGamepad = true ∧
        ((u.controller ctl).hasData = false ∧ g.poll u = g ∨
          (u.controller ctl).hasData = true ∧
            g.poll u = { g with sState := decode (u.controller ctl).report }) := by
  unfold poll
  cases hctl : g.sController with
  | none => exact .inl rfl
  | some ctl =>
    cases hconnected : (u.controller ctl).isConnected with
    | false => exact .inl (by simp [hconnected])
    | true =>
      cases hgamepad : (u.controller ctl).isGamepad with
      | false => exact .inl (by simp [hconnected, hgamepad])
      | true =>
        refine .inr ⟨ctl, rfl, hconnected, hgamepad, ?_⟩
        cases hdata : (u.controller ctl).hasData with
        | false => exact .inl (by simp [hconnected, hgamepad, hdata])
        | true => exact .inr (by simp [hconnected, hgamepad, hdata])

namespace PadSessions

/-- A callback opens or closes the session of its slot. -/
def callback (s : PadSessions) (cb : Callback) : PadSessions where
  input := s.input.callback cb
  slot := match cb with
    | .connected ctl => Function.update s.slot ctl { connected := true }
    | .disconnected ctl => Function.update s.slot ctl {}

/-- What the slots have delivered once a `BP32.update()` is over. -/
def deliver (u : Bp32Update) (slot : ControllerPtr → Slot) (ctl : ControllerPtr) : Slot where
  connected := (slot ctl).connected
  gamepad := (u.controller ctl).isGamepad
  latest := if (u.controller ctl).hasData then some (u.controller ctl).report else (slot ctl).latest

/-- One `GamepadInput::update`: the callbacks, the new reports, and the poll. -/
def update (s : PadSessions) (u : Bp32Update) : PadSessions :=
  let called := u.callbacks.foldl callback s
  { input := called.input.poll u
    slot := deliver u called.slot }

/-! ## What the library promises -/

/-- A pad connects only while it is not connected, and disconnects only while it is. -/
def Alternates (s : PadSessions) : Callback → Prop
  | .connected ctl => (s.slot ctl).connected = false
  | .disconnected ctl => (s.slot ctl).connected = true

/-- Every connect and disconnect is reported through a callback. -/
structure Reports (s : PadSessions) (u : Bp32Update) : Prop where
  alternates : Along callback Alternates s u.callbacks
  connected : ∀ ctl, (u.controller ctl).isConnected =
    ((u.callbacks.foldl callback s).slot ctl).connected

/-! ## Freshness -/

/-- A state marked connected shows the latest report of the session the tracked pad is in. -/
def Holds (s : PadSessions) : Prop :=
  s.input.sState.connected = true →
    ∃ ctl report, s.input.sController = some ctl ∧ (s.slot ctl).connected = true ∧
      (s.slot ctl).latest = some report ∧ s.input.sState.Shows report

/-- The same, and the tracked pad is a gamepad. -/
def Fresh (s : PadSessions) : Prop :=
  s.input.sState.connected = true →
    ∃ ctl report, s.input.sController = some ctl ∧ (s.slot ctl).connected = true ∧
      (s.slot ctl).gamepad = true ∧ (s.slot ctl).latest = some report ∧
      s.input.sState.Shows report

theorem Fresh.holds {s : PadSessions} (h : s.Fresh) : s.Holds := by
  intro hconnected
  obtain ⟨ctl, report, hctl, hopen, -, hlatest, hstate⟩ := h hconnected
  exact ⟨ctl, report, hctl, hopen, hlatest, hstate⟩

/-- A pad that connects takes an empty slot, and never the one the state is read from. -/
theorem Holds.connected {s : PadSessions} (h : s.Holds) {ctl : ControllerPtr}
    (hclosed : (s.slot ctl).connected = false) : (s.callback (.connected ctl)).Holds := by
  have hstate : (s.callback (.connected ctl)).input.sState = s.input.sState := by
    simp only [callback, GamepadInput.callback, GamepadInput.onConnected]
    split <;> rfl
  intro hconnected
  rw [hstate] at hconnected
  obtain ⟨tracked, report, htracked, hopen, hlatest, hshows⟩ := h hconnected
  have hne : tracked ≠ ctl := by
    rintro rfl
    rw [hclosed] at hopen
    cases hopen
  have hkept : (s.callback (.connected ctl)).input.sController = some tracked := by
    simp only [callback, GamepadInput.callback, GamepadInput.onConnected]
    rw [if_neg (by rw [htracked]; exact Option.some_ne_none tracked), htracked]
  have hslot : (s.callback (.connected ctl)).slot tracked = s.slot tracked :=
    Function.update_of_ne hne _ _
  exact ⟨tracked, report, hkept, hslot ▸ hopen, hslot ▸ hlatest, hstate ▸ hshows⟩

/-- A pad that disconnects resets the state if it was tracked, and nothing otherwise. -/
theorem Holds.disconnected {s : PadSessions} (h : s.Holds) (ctl : ControllerPtr) :
    (s.callback (.disconnected ctl)).Holds := by
  intro hconnected
  by_cases htracks : s.input.sController = some ctl
  · have hreset : (s.callback (.disconnected ctl)).input.sState = {} := by
      simp only [callback, GamepadInput.callback, GamepadInput.onDisconnected, if_pos htracks]
    rw [hreset] at hconnected
    cases hconnected
  · have hinput : (s.callback (.disconnected ctl)).input = s.input := by
      simp only [callback, GamepadInput.callback, GamepadInput.onDisconnected, if_neg htracks]
    rw [hinput] at hconnected
    obtain ⟨tracked, report, htracked, hopen, hlatest, hshows⟩ := h hconnected
    have hne : tracked ≠ ctl := fun heq => htracks (heq ▸ htracked)
    have hslot : (s.callback (.disconnected ctl)).slot tracked = s.slot tracked :=
      Function.update_of_ne hne _ _
    exact ⟨tracked, report, by rw [hinput, htracked], hslot ▸ hopen, hslot ▸ hlatest,
      hinput ▸ hshows⟩

theorem Holds.callback {s : PadSessions} (h : s.Holds) {cb : Callback} (hcb : s.Alternates cb) :
    (s.callback cb).Holds := by
  cases cb with
  | connected ctl => exact h.connected hcb
  | disconnected ctl => exact h.disconnected ctl

/-- The poll leaves the state marked connected only where it is fresh. -/
theorem Holds.update {s : PadSessions} (h : s.Holds) {u : Bp32Update} (hu : s.Reports u) :
    (s.update u).Fresh := by
  have hcalled : (u.callbacks.foldl PadSessions.callback s).Holds :=
    inv_run_of_along (fun _ _ hin hcb => hin.callback hcb) h hu.alternates
  have hopen := hu.connected
  simp only [PadSessions.update]
  generalize u.callbacks.foldl PadSessions.callback s = called at hcalled hopen ⊢
  intro hconnected
  rcases called.input.poll_exits u with hoff | ⟨ctl, hctl, hisConnected, hisGamepad, hexit⟩
  · rw [hoff] at hconnected
    cases hconnected
  · have hslot : (deliver u called.slot ctl).connected = true :=
      (hopen ctl).symm.trans hisConnected
    rcases hexit with ⟨hquiet, hpoll⟩ | ⟨hdata, hpoll⟩
    · -- nothing new: what the state holds is still the latest report
      rw [hpoll] at hconnected ⊢
      obtain ⟨tracked, report, htracked, -, hlatest, hshows⟩ := hcalled hconnected
      obtain rfl := Option.some.inj (hctl.symm.trans htracked)
      have hkept : (deliver u called.slot ctl).latest = (called.slot ctl).latest := by
        simp [deliver, hquiet]
      exact ⟨ctl, report, hctl, hslot, hisGamepad, hkept.trans hlatest, hshows⟩
    · rw [hpoll]
      have hnew : (deliver u called.slot ctl).latest = some (u.controller ctl).report :=
        if_pos hdata
      exact ⟨ctl, _, hctl, hslot, hisGamepad, hnew, GamepadInput.shows_decode _⟩

/-! ## Every run -/

theorem fresh_start : ({} : PadSessions).Fresh := by
  rintro ⟨⟩

theorem Fresh.update {s : PadSessions} (h : s.Fresh) {u : Bp32Update} (hu : s.Reports u) :
    (s.update u).Fresh :=
  h.holds.update hu

/-- Over every run of `update()` with any callbacks, reports and class changes, a state marked
connected shows the latest report the tracked gamepad delivered since it connected. -/
theorem never_stale (updates : List Bp32Update) (h : Along update Reports {} updates) :
    (run update {} updates).Fresh :=
  inv_run_of_along (fun _ _ hin hu => hin.update hu) fresh_start h

/-- One `BP32.update()` after which the first slot, and no other, has a pad: a gamepad. -/
def firstSlot (callbacks : List Callback) (hasData : Bool) (report : Report) : Bp32Update where
  callbacks := callbacks
  controller ctl := ⟨ctl == 0, true, hasData && ctl == 0, report⟩
  dataUpdated := hasData

/-- A pad reports, goes and comes back in between two polls, and then reports again: what it
reported first is gone at once, and only the new report marks the state connected. -/
theorem reconnect_starts_over :
    let before := [firstSlot [.connected 0] true { axisRX := 512 },
      firstSlot [.disconnected 0, .connected 0] false { axisRX := 512 }]
    let updates := before ++ [firstSlot [] true { axisY := -7, buttons := 0x9, dpad := 0x8 }]
    (run update {} before).input.sState = {} ∧ (run update {} updates).Fresh ∧
      (run update {} updates).input.sState =
        { connected := true, axisY := -7, buttons := 0x9, dpad := 0x8,
          a := true, y := true, dpadLeft := true } := by
  intro before updates
  have hreports : Along update Reports {} updates := by
    refine ⟨⟨⟨rfl, trivial⟩, ?_⟩, ⟨⟨rfl, rfl, trivial⟩, ?_⟩, ⟨trivial, ?_⟩, trivial⟩ <;>
      intro ctl <;> by_cases hctl : ctl = 0 <;>
      simp [firstSlot, update, deliver, callback, Function.update, hctl]
  exact ⟨rfl, never_stale updates hreports, rfl⟩

end PadSessions

end K2soHead
