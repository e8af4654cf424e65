import Mathlib.Data.List.Basic

/-!
# Rumble

Eight of the parsers play a rumble in the same way: it may start after a delay, a timer stops
it, and a new request takes the place of the one before.  They differ in the reports they send,
in which states a duration of 0 stops the motors, in what they assert before they do, and in
whether they look at what the write answers.

An assertion that fails is `none`; so is the one in `btstack_run_loop_base_add_timer` against a
timer that is already registered.
-/

namespace K2soHead

/-- `DS3_STATE_RUMBLE_..`, `DS4_STATE_RUMBLE_..` and so on. -/
inductive RumbleState where
  | disabled
  | delayed
  | inProgress
  deriving DecidableEq

/-- What `hids_client_send_write_report` answers, as far as a parser looks at it. -/
inductive WriteStatus where
  | success
  | commandDisallowed
  | otherError
  deriving DecidableEq

/-- A report to the pad and the way it takes. -/
inductive OutputReport where
  | ctrl (data : List UInt8)
  | intr (data : List UInt8)
  | hids (reportId : UInt8) (data : List UInt8)
  deriving DecidableEq

/-- The arguments of a `.._play_dual_rumble`. -/
structure RumbleRequest (μ : Type) where
  startDelayMs : UInt16
  durationMs : UInt16
  magnitudes : μ
  deriving DecidableEq

/-- Milliseconds until a write that was disallowed is tried again. -/
def BLE_RETRY_MS : UInt16 := 50

/-- A device as far as rumble goes.  `σ` is the rest of the parser's instance. -/
structure RumblePad (σ μ : Type) where
  ins : σ
  rumbleState : RumbleState := .disabled
  rumbleDurationMs : UInt16 := 0
  /-- what the timer was set to, while it is registered -/
  rumbleTimerDelayedStart : Option UInt16 := none
  rumbleTimerDuration : Option UInt16 := none
  sent : List OutputReport := []
  /-- what the last rumble report told the motors; no code reads it -/
  playing : Option μ := none

/-- What a parser does in its own way; `ω` is what else is asked of it. -/
structure RumbleDriver (σ μ ω : Type) where
  /-- a request is looked at only then -/
  ready : σ → Bool := fun _ => true
  /-- keeps and gives back the magnitudes of a delayed start -/
  hold : μ → σ → σ
  held : σ → μ
  turnOn : μ → σ → σ × List OutputReport
  turnOff : σ → σ × List OutputReport
  /-- where a duration of 0 stops the motors -/
  stopsIn : RumbleState → Bool
  /-- the assertion in `.._stop_rumble_now` -/
  stopAsserts : RumbleState → Bool
  checksStatus : σ → Bool := fun _ => false
  /-- LEDs, and whatever else changes the instance -/
  other : ω → RumbleState → σ → σ × List OutputReport
  stops_inProgress : stopsIn .inProgress = true := by decide
  stops_disabled : stopsIn .disabled = false := by decide
  asserts_inProgress : stopAsserts .inProgress = true := by decide

variable {σ μ ω : Type}

namespace RumblePad

/-- `btstack_run_loop_set_timer` and `btstack_run_loop_add_timer`. -/
def addDelayedStart (ms : UInt16) (d : RumblePad σ μ) : Option (RumblePad σ μ) :=
  if d.rumbleTimerDelayedStart.isSome then none
  else some { d with rumbleTimerDelayedStart := some ms }

def addDuration (ms : UInt16) (d : RumblePad σ μ) : Option (RumblePad σ μ) :=
  if d.rumbleTimerDuration.isSome then none else some { d with rumbleTimerDuration := some ms }

/-- `btstack_run_loop_remove_timer` of the timer the state names. -/
def removeTimer (d : RumblePad σ μ) : RumblePad σ μ :=
  match d.rumbleState with
  | .delayed => { d with rumbleTimerDelayedStart := none }
  | .inProgress => { d with rumbleTimerDuration := none }
  | .disabled => d

end RumblePad

namespace RumbleDriver

variable (drv : RumbleDriver σ μ ω)

/-- The answer to a write, for those that look. -/
def answer (status : WriteStatus) (d : RumblePad σ μ) : WriteStatus :=
  if drv.checksStatus d.ins then status else .success

/-- `.._stop_rumble_now`. -/
def stopRumbleNow (status : WriteStatus) (d : RumblePad σ μ) : Option (RumblePad σ μ) :=
  if drv.stopAsserts d.rumbleState then
    match drv.answer status d with
    | .success =>
        some { d with
          rumbleState := .disabled
          ins := (drv.turnOff d.ins).1
          sent := d.sent ++ (drv.turnOff d.ins).2
          playing := none }
    | .commandDisallowed => { d with rumbleState := .inProgress }.addDuration BLE_RETRY_MS
    | .otherError => some { d with rumbleState := .disabled }
  else none

/-- `.._play_dual_rumble_now`. -/
def playDualRumbleNow (durationMs : UInt16) (magnitudes : μ) (status : WriteStatus)
    (d : RumblePad σ μ) : Option (RumblePad σ μ) :=
  if durationMs = 0 then
    if drv.stopsIn d.rumbleState then drv.stopRumbleNow status d else some d
  else
    match drv.answer status d with
    | .success =>
        { d with
          rumbleState := .inProgress
          ins := (drv.turnOn magnitudes d.ins).1
          sent := d.sent ++ (drv.turnOn magnitudes d.ins).2
          playing := some magnitudes }.addDuration durationMs
    | .commandDisallowed => { d with rumbleState := .delayed }.addDelayedStart BLE_RETRY_MS
    | .otherError => some d

/-- `.._play_dual_rumble`. -/
def playDualRumble (r : RumbleRequest μ) (status : WriteStatus) (d : RumblePad σ μ) :
    Option (RumblePad σ μ) :=
  if drv.ready d.ins then
    if r.startDelayMs = 0 then
      drv.playDualRumbleNow r.durationMs r.magnitudes status d.removeTimer
    else
      { d.removeTimer with
        rumbleState := .delayed
        rumbleDurationMs := r.durationMs
        ins := drv.hold r.magnitudes d.ins }.addDelayedStart r.startDelayMs
  else some d

/-- `on_.._set_rumble_on`; the run loop has taken the timer from its list. -/
def onSetRumbleOn (status : WriteStatus) (d : RumblePad σ μ) : Option (RumblePad σ μ) :=
  drv.playDualRumbleNow d.rumbleDurationMs (drv.held d.ins) status
    { d with rumbleTimerDelayedStart := none }

/-- `on_.._set_rumble_off`. -/
def onSetRumbleOff (status : WriteStatus) (d : RumblePad σ μ) : Option (RumblePad σ μ) :=
  drv.stopRumbleNow status { d with rumbleTimerDuration := none }

/-- What can happen to the device; a timer can only come due while it is registered. -/
inductive Event (μ ω : Type) where
  | play (r : RumbleRequest μ) (status : WriteStatus)
  | delayedStart (status : WriteStatus)
  | duration (status : WriteStatus)
  | other (op : ω)

def step (d : RumblePad σ μ) : Event μ ω → Option (RumblePad σ μ)
  | .play r status => drv.playDualRumble r status d
  | .delayedStart status =>
      if d.rumbleTimerDelayedStart.isSome then drv.onSetRumbleOn status d else some d
  | .duration status =>
      if d.rumbleTimerDuration.isSome then drv.onSetRumbleOff status d else some d
  | .other op =>
      some { d with
        ins := (drv.other op d.rumbleState d.ins).1
        sent := d.sent ++ (drv.other op d.rumbleState d.ins).2 }

end RumbleDriver

end K2soHead
