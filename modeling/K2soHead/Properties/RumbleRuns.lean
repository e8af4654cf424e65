import K2soHead.Firmware.RumbleDrivers
import K2soHead.Library.Faults
import Mathlib.Data.List.Infix

/-!
# Rumble over whole runs

A request may be delayed, and then a timer starts it; another one stops it.  Which of the two
timers are registered can be read off the state of every driver in every run, so the run loop
never finds one of them registered twice.  What differs is what becomes of a duration of 0 that
meets a delayed start.
-/

namespace K2soHead.RumbleDriver

open Faults

variable {σ μ ω : Type} {drv : RumbleDriver σ μ ω} {d d' : RumblePad σ μ} {status : WriteStatus}

/-- The requests among the events. -/
def requests (es : List (Event μ ω)) : List (RumbleRequest μ) :=
  es.filterMap fun e =>
    match e with
    | .play r _ => some r
    | _ => none

@[simp] theorem requests_append (es es' : List (Event μ ω)) :
    requests (es ++ es') = requests es ++ requests es' :=
  List.filterMap_append

/-! ## Timers -/

/-- A timer is registered only in the state it belongs to. -/
structure Tidy (d : RumblePad σ μ) : Prop where
  delayedStart : d.rumbleTimerDelayedStart ≠ none → d.rumbleState = .delayed
  duration : d.rumbleTimerDuration ≠ none → d.rumbleState = .inProgress

/-- No timer is registered. -/
structure Bare (d : RumblePad σ μ) : Prop where
  delayedStart : d.rumbleTimerDelayedStart = none
  duration : d.rumbleTimerDuration = none

theorem Bare.tidy (h : Bare d) : Tidy d :=
  ⟨fun hne => absurd h.delayedStart hne, fun hne => absurd h.duration hne⟩

theorem Tidy.delayedStart_none (h : Tidy d) (hs : d.rumbleState ≠ .delayed) :
    d.rumbleTimerDelayedStart = none :=
  by_contra fun hne => hs (h.delayedStart hne)

theorem Tidy.duration_none (h : Tidy d) (hs : d.rumbleState ≠ .inProgress) :
    d.rumbleTimerDuration = none :=
  by_contra fun hne => hs (h.duration hne)

theorem Tidy.removeTimer (h : Tidy d) : Bare d.removeTimer := by
  rw [RumblePad.removeTimer]
  cases hs : d.rumbleState with
  | disabled => exact ⟨h.delayedStart_none (by simp [hs]), h.duration_none (by simp [hs])⟩
  | delayed => exact ⟨rfl, h.duration_none (by simp [hs])⟩
  | inProgress => exact ⟨h.delayedStart_none (by simp [hs]), rfl⟩

@[simp] theorem removeTimer_rumbleState : d.removeTimer.rumbleState = d.rumbleState := by
  unfold RumblePad.removeTimer
  cases hs : d.rumbleState <;> simp [hs]

@[simp] theorem removeTimer_ins : d.removeTimer.ins = d.ins := by
  unfold RumblePad.removeTimer
  cases d.rumbleState <;> rfl

@[simp] theorem removeTimer_playing : d.removeTimer.playing = d.playing := by
  unfold RumblePad.removeTimer
  cases d.rumbleState <;> rfl

@[simp] theorem removeTimer_sent : d.removeTimer.sent = d.sent := by
  unfold RumblePad.removeTimer
  cases d.rumbleState <;> rfl

/-- The start timer came due. -/
theorem Tidy.started (h : Tidy d) (hdue : d.rumbleTimerDelayedStart ≠ none) :
    Bare { d with rumbleTimerDelayedStart := none } :=
  ⟨rfl, h.duration_none (by rw [h.delayedStart hdue]; decide)⟩

/-- The timer of the duration came due. -/
theorem Tidy.elapsed (h : Tidy d) (hdue : d.rumbleTimerDuration ≠ none) :
    Bare { d with rumbleTimerDuration := none } :=
  ⟨h.delayedStart_none (by rw [h.duration hdue]; decide), rfl⟩

/-! ## One step -/

/-- What `.._stop_rumble_now` leaves. -/
def stopped (drv : RumbleDriver σ μ ω) (status : WriteStatus) (d : RumblePad σ μ) : RumblePad σ μ :=
  match drv.answer status d with
  | .success =>
      { d with
        rumbleState := .disabled
        ins := (drv.turnOff d.ins).1
        sent := d.sent ++ (drv.turnOff d.ins).2
        playing := none }
  | .commandDisallowed =>
      { d with rumbleState := .inProgress, rumbleTimerDuration := some BLE_RETRY_MS }
  | .otherError => { d with rumbleState := .disabled }

/-- What a start leaves. -/
def started (drv : RumbleDriver σ μ ω) (durationMs : UInt16) (magnitudes : μ)
    (status : WriteStatus) (d : RumblePad σ μ) : RumblePad σ μ :=
  match drv.answer status d with
  | .success =>
      { d with
        rumbleState := .inProgress
        ins := (drv.turnOn magnitudes d.ins).1
        sent := d.sent ++ (drv.turnOn magnitudes d.ins).2
        playing := some magnitudes
        rumbleTimerDuration := some durationMs }
  | .commandDisallowed =>
      { d with rumbleState := .delayed, rumbleTimerDelayedStart := some BLE_RETRY_MS }
  | .otherError => d

theorem stopRumbleNow_eq (h : Bare d) :
    drv.stopRumbleNow status d =
      if drv.stopAsserts d.rumbleState then some (drv.stopped status d) else none := by
  unfold stopRumbleNow stopped
  split
  · cases drv.answer status d <;> simp [RumblePad.addDuration, h.duration]
  · rfl

theorem playDualRumbleNow_eq (h : Bare d) (durationMs : UInt16) (magnitudes : μ) :
    drv.playDualRumbleNow durationMs magnitudes status d =
      if durationMs = 0 then
        if drv.stopsIn d.rumbleState then
          if drv.stopAsserts d.rumbleState then some (drv.stopped status d) else none
        else some d
      else some (drv.started durationMs magnitudes status d) := by
  unfold playDualRumbleNow started
  split
  · rw [stopRumbleNow_eq h]
  · cases drv.answer status d <;>
      simp [RumblePad.addDuration, RumblePad.addDelayedStart, h.duration, h.delayedStart]

/-- What a delayed request leaves. -/
def postponed (drv : RumbleDriver σ μ ω) (r : RumbleRequest μ) (d : RumblePad σ μ) :
    RumblePad σ μ :=
  { d.removeTimer with
    rumbleState := .delayed
    rumbleDurationMs := r.durationMs
    ins := drv.hold r.magnitudes d.ins
    rumbleTimerDelayedStart := some r.startDelayMs }

theorem playDualRumble_eq (h : Tidy d) (r : RumbleRequest μ) :
    drv.playDualRumble r status d =
      if drv.ready d.ins then
        if r.startDelayMs = 0 then
          drv.playDualRumbleNow r.durationMs r.magnitudes status d.removeTimer
        else some (drv.postponed r d)
      else some d := by
  simp only [playDualRumble, postponed, RumblePad.addDelayedStart, h.removeTimer.delayedStart,
    Option.isSome_none, Bool.false_eq_true, if_false]

theorem tidy_stopped (h : Bare d) : Tidy (drv.stopped status d) := by
  unfold stopped
  cases drv.answer status d with
  | success => exact ⟨fun hne => absurd h.delayedStart hne, fun hne => absurd h.duration hne⟩
  | commandDisallowed => exact ⟨fun hne => absurd h.delayedStart hne, fun _ => rfl⟩
  | otherError => exact ⟨fun hne => absurd h.delayedStart hne, fun hne => absurd h.duration hne⟩

theorem tidy_started (h : Bare d) (durationMs : UInt16) (magnitudes : μ) :
    Tidy (drv.started durationMs magnitudes status d) := by
  unfold started
  cases drv.answer status d with
  | success => exact ⟨fun hne => absurd h.delayedStart hne, fun _ => rfl⟩
  | commandDisallowed => exact ⟨fun _ => rfl, fun hne => absurd h.duration hne⟩
  | otherError => exact h.tidy

theorem tidy_postponed (h : Tidy d) (r : RumbleRequest μ) : Tidy (drv.postponed r d) :=
  ⟨fun _ => rfl, fun hne => absurd h.removeTimer.duration hne⟩

theorem tidy_playDualRumbleNow (h : Bare d) {durationMs : UInt16} {magnitudes : μ}
    (hplay : drv.playDualRumbleNow durationMs magnitudes status d = some d') : Tidy d' := by
  rw [playDualRumbleNow_eq h] at hplay
  split_ifs at hplay
  · exact Option.some.inj hplay ▸ tidy_stopped h
  · exact Option.some.inj hplay ▸ h.tidy
  · exact Option.some.inj hplay ▸ tidy_started h durationMs magnitudes

theorem Tidy.step (h : Tidy d) {e : Event μ ω} (hstep : drv.step d e = some d') : Tidy d' := by
  cases e with
  | play r status =>
    rw [RumbleDriver.step, playDualRumble_eq h] at hstep
    split_ifs at hstep
    · exact tidy_playDualRumbleNow h.removeTimer hstep
    · exact Option.some.inj hstep ▸ tidy_postponed h r
    · exact Option.some.inj hstep ▸ h
  | delayedStart status =>
    rw [RumbleDriver.step] at hstep
    split_ifs at hstep with hdue
    · exact tidy_playDualRumbleNow (h.started (Option.isSome_iff_ne_none.mp hdue)) hstep
    · exact Option.some.inj hstep ▸ h
  | duration status =>
    rw [RumbleDriver.step] at hstep
    split_ifs at hstep with hdue
    · have hbare := h.elapsed (Option.isSome_iff_ne_none.mp hdue)
      rw [onSetRumbleOff, stopRumbleNow_eq hbare] at hstep
      split_ifs at hstep
      exact Option.some.inj hstep ▸ tidy_stopped hbare
    · exact Option.some.inj hstep ▸ h
  | other op => exact Option.some.inj hstep ▸ ⟨h.delayedStart, h.duration⟩

theorem tidy_run {start : RumblePad σ μ} (hstart : Bare start) {es : List (Event μ ω)}
    (h : run drv.step start es = some d) : Tidy d :=
  run_invariant (P := fun _ d => Tidy d) hstart.tidy (fun _ _ _ _ h => h.step) h

/-! ## What is sent -/

/-- What an event does to the instance, the reports and the motors. -/
inductive Effect (drv : RumbleDriver σ μ ω) (d d' : RumblePad σ μ) : Event μ ω → Prop where
  | nothing (e : Event μ ω) (ins : d'.ins = d.ins) (sent : d'.sent = d.sent)
      (playing : d'.playing = d.playing) : Effect drv d d' e
  | held (r : RumbleRequest μ) (status : WriteStatus) (delay : r.startDelayMs ≠ 0)
      (ins : d'.ins = drv.hold r.magnitudes d.ins) (sent : d'.sent = d.sent)
      (playing : d'.playing = d.playing) : Effect drv d d' (.play r status)
  | on (e : Event μ ω) (m : μ)
      (which : (∃ r status, e = .play r status ∧ m = r.magnitudes) ∨
        ∃ status, e = .delayedStart status ∧ m = drv.held d.ins)
      (ins : d'.ins = (drv.turnOn m d.ins).1) (sent : d'.sent = d.sent ++ (drv.turnOn m d.ins).2)
      (playing : d'.playing = some m) : Effect drv d d' e
  | off (e : Event μ ω) (ins : d'.ins = (drv.turnOff d.ins).1)
      (sent : d'.sent = d.sent ++ (drv.turnOff d.ins).2) (playing : d'.playing = none) :
      Effect drv d d' e
  | other (op : ω) (s : RumbleState) (ins : d'.ins = (drv.other op s d.ins).1)
      (sent : d'.sent = d.sent ++ (drv.other op s d.ins).2) (playing : d'.playing = d.playing) :
      Effect drv d d' (.other op)

/-- The timers have no part in it. -/
theorem Effect.of_eq {d₀ : RumblePad σ μ} {e : Event μ ω} (h : Effect drv d₀ d' e)
    (ins : d₀.ins = d.ins) (sent : d₀.sent = d.sent) (playing : d₀.playing = d.playing) :
    Effect drv d d' e := by
  cases h with
  | nothing _ hins hsent hplaying =>
    exact .nothing e (hins.trans ins) (hsent.trans sent) (hplaying.trans playing)
  | held r status delay hins hsent hplaying =>
    exact .held r status delay (ins ▸ hins) (hsent.trans sent) (hplaying.trans playing)
  | on _ m which hins hsent hplaying =>
    rw [ins] at which hins hsent
    exact .on e m which hins (sent ▸ hsent) hplaying
  | off _ hins hsent hplaying =>
    rw [ins] at hins hsent
    exact .off e hins (sent ▸ hsent) hplaying
  | other op s hins hsent hplaying =>
    rw [ins] at hins hsent
    exact .other op s hins (sent ▸ hsent) (hplaying.trans playing)

theorem effect_stopped (e : Event μ ω) : Effect drv d (drv.stopped status d) e := by
  unfold stopped
  cases drv.answer status d with
  | success => exact .off e rfl rfl rfl
  | commandDisallowed => exact .nothing e rfl rfl rfl
  | otherError => exact .nothing e rfl rfl rfl

theorem effect_playDualRumbleNow (h : Bare d) {durationMs : UInt16} {m : μ} {e : Event μ ω}
    (which : (∃ r status, e = .play r status ∧ m = r.magnitudes) ∨
      ∃ status, e = .delayedStart status ∧ m = drv.held d.ins)
    (hplay : drv.playDualRumbleNow durationMs m status d = some d') : Effect drv d d' e := by
  rw [playDualRumbleNow_eq h] at hplay
  split_ifs at hplay
  · exact Option.some.inj hplay ▸ effect_stopped e
  · exact Option.some.inj hplay ▸ .nothing e rfl rfl rfl
  · obtain rfl := Option.some.inj hplay
    unfold started
    cases drv.answer status d with
    | success => exact .on e m which rfl rfl rfl
    | commandDisallowed => exact .nothing e rfl rfl rfl
    | otherError => exact .nothing e rfl rfl rfl

theorem step_effect (h : Tidy d) {e : Event μ ω} (hstep : drv.step d e = some d') :
    Effect drv d d' e := by
  cases e with
  | play r status =>
    rw [RumbleDriver.step, playDualRumble_eq h] at hstep
    split_ifs at hstep with _ hdelay
    · exact (effect_playDualRumbleNow h.removeTimer (.inl ⟨r, status, rfl, rfl⟩) hstep).of_eq
        removeTimer_ins removeTimer_sent removeTimer_playing
    · obtain rfl := Option.some.inj hstep
      exact .held r status hdelay rfl removeTimer_sent removeTimer_playing
    · exact Option.some.inj hstep ▸ .nothing _ rfl rfl rfl
  | delayedStart status =>
    rw [RumbleDriver.step] at hstep
    split_ifs at hstep with hdue
    · exact (effect_playDualRumbleNow (h.started (Option.isSome_iff_ne_none.mp hdue))
        (.inr ⟨status, rfl, rfl⟩) hstep).of_eq rfl rfl rfl
    · exact Option.some.inj hstep ▸ .nothing _ rfl rfl rfl
  | duration status =>
    rw [RumbleDriver.step] at hstep
    split_ifs at hstep with hdue
    · rw [onSetRumbleOff, stopRumbleNow_eq (h.elapsed (Option.isSome_iff_ne_none.mp hdue))] at hstep
      split_ifs at hstep
      exact Option.some.inj hstep ▸ (effect_stopped _).of_eq rfl rfl rfl
    · exact Option.some.inj hstep ▸ .nothing _ rfl rfl rfl
  | other op =>
    obtain rfl := Option.some.inj hstep
    exact .other op d.rumbleState rfl rfl rfl

/-! ## A duration of 0 while a start is delayed -/

/-- The request that waits is to be played for no time, or an immediate one for no time takes
its place. -/
def Clash (drv : RumbleDriver σ μ ω) (d : RumblePad σ μ) : Event μ ω → Prop
  | .play r _ =>
      d.rumbleState = .delayed ∧ drv.ready d.ins = true ∧ r.startDelayMs = 0 ∧ r.durationMs = 0
  | .delayedStart _ => d.rumbleTimerDelayedStart ≠ none ∧ d.rumbleDurationMs = 0
  | .duration _ | .other _ => False

theorem playDualRumbleNow_eq_none (h : Bare d) {durationMs : UInt16} {magnitudes : μ} :
    drv.playDualRumbleNow durationMs magnitudes status d = none ↔
      durationMs = 0 ∧ d.rumbleState = .delayed ∧ drv.stopsIn .delayed = true ∧
        drv.stopAsserts .delayed = false := by
  rw [playDualRumbleNow_eq h]
  by_cases hzero : durationMs = 0
  · rw [if_pos hzero]
    cases hs : d.rumbleState with
    | disabled => simp [drv.stops_disabled]
    | delayed => cases drv.stopsIn .delayed <;> cases drv.stopAsserts .delayed <;> simp [hzero]
    | inProgress => simp [drv.stops_inProgress, drv.asserts_inProgress]
  · simp [hzero]

/-- Only there can the assertion fail, and the one of the run loop never does. -/
theorem step_eq_none_iff (h : Tidy d) {e : Event μ ω} :
    drv.step d e = none ↔
      Clash drv d e ∧ drv.stopsIn .delayed = true ∧ drv.stopAsserts .delayed = false := by
  cases e with
  | play r status =>
    rw [RumbleDriver.step, playDualRumble_eq h, Clash]
    by_cases hready : drv.ready d.ins = true
    · by_cases hdelay : r.startDelayMs = 0
      · rw [if_pos hready, if_pos hdelay, playDualRumbleNow_eq_none h.removeTimer,
          removeTimer_rumbleState]
        tauto
      · simp [hready, hdelay]
    · simp [hready]
  | delayedStart status =>
    rw [RumbleDriver.step, Clash]
    split_ifs with hdue
    · have hne := Option.isSome_iff_ne_none.mp hdue
      rw [onSetRumbleOn, playDualRumbleNow_eq_none (h.started hne)]
      have hs : d.rumbleState = .delayed := h.delayedStart hne
      tauto
    · simp only [Bool.not_eq_true, Option.isSome_eq_false_iff, Option.isNone_iff_eq_none] at hdue
      simp [hdue]
  | duration status =>
    rw [RumbleDriver.step, Clash]
    split_ifs with hdue
    · have hne := Option.isSome_iff_ne_none.mp hdue
      have hs : d.rumbleState = .inProgress := h.duration hne
      rw [onSetRumbleOff, stopRumbleNow_eq (h.elapsed hne)]
      simp [hs, drv.asserts_inProgress]
    · simp
  | other op => simp [RumbleDriver.step, Clash]

/-! ## The last request -/

/-- Where the device is with the last of the requests `rs`. -/
inductive Follows (drv : RumbleDriver σ μ ω) (rs : List (RumbleRequest μ)) (d : RumblePad σ μ) :
    Prop where
  | idle (bare : Bare d) (state : d.rumbleState = .disabled) (playing : d.playing = none)
  | waiting (r : RumbleRequest μ) (last : rs.getLast? = some r) (delay : r.startDelayMs ≠ 0)
      (state : d.rumbleState = .delayed) (duration : d.rumbleTimerDuration = none)
      (start : d.rumbleTimerDelayedStart = some r.startDelayMs)
      (kept : d.rumbleDurationMs = r.durationMs) (held : drv.held d.ins = r.magnitudes)
  | running (r : RumbleRequest μ) (last : rs.getLast? = some r) (duration : r.durationMs ≠ 0)
      (state : d.rumbleState = .inProgress) (start : d.rumbleTimerDelayedStart = none)
      (timer : d.rumbleTimerDuration = some r.durationMs) (playing : d.playing = some r.magnitudes)

theorem Follows.tidy {rs : List (RumbleRequest μ)} (h : Follows drv rs d) : Tidy d := by
  cases h with
  | idle bare => exact bare.tidy
  | waiting r _ _ state duration => exact ⟨fun _ => state, fun hne => absurd duration hne⟩
  | running r _ _ state start => exact ⟨fun hne => absurd start hne, fun _ => state⟩

/-- What the drivers have in common that stop a delayed start too. -/
structure Stopping (drv : RumbleDriver σ μ ω) : Prop where
  ready : ∀ ins, drv.ready ins = true
  stops : drv.stopsIn .delayed = true
  held_hold : ∀ m ins, drv.held (drv.hold m ins) = m
  held_other : ∀ op s ins, drv.held (drv.other op s ins).1 = drv.held ins

/-- What is written while the event is handled is taken. -/
def Taken (drv : RumbleDriver σ μ ω) (d : RumblePad σ μ) : Event μ ω → Prop
  | .play _ status | .delayedStart status | .duration status => drv.answer status d = .success
  | .other _ => True

theorem follows_stopped {rs : List (RumbleRequest μ)} (h : Bare d)
    (hanswer : drv.answer status d = .success) : Follows drv rs (drv.stopped status d) := by
  rw [stopped, hanswer]
  exact .idle ⟨h.delayedStart, h.duration⟩ rfl rfl

/-- A start with the magnitudes and the duration of the last request. -/
theorem follows_playDualRumbleNow (hdrv : Stopping drv) {rs : List (RumbleRequest μ)}
    {r : RumbleRequest μ} {durationMs : UInt16} {magnitudes : μ} (h : Bare d)
    (hlast : rs.getLast? = some r) (hduration : durationMs = r.durationMs)
    (hmagnitudes : magnitudes = r.magnitudes) (hanswer : drv.answer status d = .success)
    (hidle : d.rumbleState = .disabled → d.playing = none)
    (hplay : drv.playDualRumbleNow durationMs magnitudes status d = some d') :
    Follows drv rs d' := by
  subst hduration hmagnitudes
  have hstops : d.rumbleState ≠ .disabled → drv.stopsIn d.rumbleState = true := by
    cases d.rumbleState with
    | disabled => exact fun hne => absurd rfl hne
    | delayed => exact fun _ => hdrv.stops
    | inProgress => exact fun _ => drv.stops_inProgress
  rw [playDualRumbleNow_eq h] at hplay
  split_ifs at hplay with hzero hstop
  · exact Option.some.inj hplay ▸ follows_stopped h hanswer
  · obtain rfl := Option.some.inj hplay
    have hs : d.rumbleState = .disabled := by_contra fun hne => hstop (hstops hne)
    exact .idle h hs (hidle hs)
  · obtain rfl := Option.some.inj hplay
    rw [started, hanswer]
    exact .running r hlast hzero rfl h.delayedStart rfl rfl

theorem Follows.step (hdrv : Stopping drv) {es : List (Event μ ω)}
    (h : Follows drv (requests es) d) {e : Event μ ω} (htaken : Taken drv d e)
    (hstep : drv.step d e = some d') : Follows drv (requests (es ++ [e])) d' := by
  have hsame : requests [e] = [] → requests (es ++ [e]) = requests es := fun hnone => by
    rw [requests_append, hnone, List.append_nil]
  cases e with
  | play r status =>
    have hlast : (requests (es ++ [.play r status] : List (Event μ ω))).getLast? = some r := by
      rw [requests_append]
      exact List.getLast?_concat
    rw [RumbleDriver.step, playDualRumble_eq h.tidy, if_pos (hdrv.ready _)] at hstep
    split_ifs at hstep with hdelay
    · -- at once, with the timers of the request before taken away
      refine follows_playDualRumbleNow hdrv h.tidy.removeTimer hlast rfl rfl ?_ ?_ hstep
      · simpa [Taken, answer] using htaken
      · intro hs
        rw [removeTimer_rumbleState] at hs
        rw [removeTimer_playing]
        cases h with
        | idle _ _ playing => exact playing
        | waiting _ _ _ state => rw [state] at hs; cases hs
        | running _ _ _ state => rw [state] at hs; cases hs
    · obtain rfl := Option.some.inj hstep
      exact .waiting r hlast hdelay rfl h.tidy.removeTimer.duration rfl rfl (hdrv.held_hold _ _)
  | delayedStart status =>
    rw [hsame rfl]
    rw [RumbleDriver.step] at hstep
    split_ifs at hstep with hdue
    · have hne := Option.isSome_iff_ne_none.mp hdue
      -- only a pad that waits has this timer
      cases h with
      | idle bare => exact absurd bare.delayedStart hne
      | running _ _ _ _ start => exact absurd start hne
      | waiting r last delay state duration start kept held =>
        have hstate : ¬ d.rumbleState = .disabled := by
          rw [state]
          decide
        exact follows_playDualRumbleNow (d := { d with rumbleTimerDelayedStart := none }) hdrv
          ⟨rfl, duration⟩ last kept held htaken (fun hs => absurd hs hstate) hstep
    · exact Option.some.inj hstep ▸ h
  | duration status =>
    rw [hsame rfl]
    rw [RumbleDriver.step] at hstep
    split_ifs at hstep with hdue
    · have hbare := h.tidy.elapsed (Option.isSome_iff_ne_none.mp hdue)
      rw [onSetRumbleOff, stopRumbleNow_eq hbare] at hstep
      split_ifs at hstep
      exact Option.some.inj hstep ▸ follows_stopped hbare htaken
    · exact Option.some.inj hstep ▸ h
  | other op =>
    rw [hsame rfl]
    obtain rfl := Option.some.inj hstep
    cases h with
    | idle bare state playing => exact .idle ⟨bare.delayedStart, bare.duration⟩ state playing
    | waiting r last delay state duration start kept held =>
      exact .waiting r last delay state duration start kept ((hdrv.held_other _ _ _).trans held)
    | running r last duration state start timer playing =>
      exact .running r last duration state start timer playing

theorem Follows.run (hdrv : Stopping drv) (hstatus : ∀ ins, drv.checksStatus ins = false)
    {start d : RumblePad σ μ} (hstart : Follows drv [] start) {es : List (Event μ ω)}
    (h : run drv.step start es = some d) : Follows drv (requests es) d := by
  refine run_invariant (P := fun es d => Follows drv (requests es) d) hstart ?_ h
  intro es s e t hs hstep
  refine hs.step hdrv ?_ hstep
  cases e <;> simp [Taken, answer, hstatus]

/-- The last request is delayed if the pad waits for a start. -/
theorem Follows.last_of_delayed {rs : List (RumbleRequest μ)} {d : RumblePad σ μ}
    (h : Follows drv rs d) (hs : d.rumbleState = .delayed) :
    ∃ r before, rs = before ++ [r] ∧ r.startDelayMs ≠ 0 ∧ d.rumbleDurationMs = r.durationMs := by
  cases h with
  | idle _ state => rw [state] at hs; cases hs
  | running _ _ _ state => rw [state] at hs; cases hs
  | waiting r last delay _ _ _ kept =>
    obtain ⟨before, hbefore⟩ := List.getLast?_eq_some_iff.mp last
    exact ⟨r, before, hbefore, delay, kept⟩

/-! ## Assertions that can fail -/

/-- The requests alone, one behind the other. -/
def plays (rs : List (RumbleRequest μ)) : List (Event μ ω) := rs.map fun r => .play r .success

@[simp] theorem requests_plays (rs : List (RumbleRequest μ)) :
    requests (plays rs : List (Event μ ω)) = rs := by
  induction rs with
  | nil => rfl
  | cons r rs ih => exact congrArg (r :: ·) ih

/-- A delayed request for no time, or an immediate one for no time right behind a delayed one. -/
def MayAbort (rs : List (RumbleRequest μ)) : Prop :=
  (∃ r ∈ rs, r.startDelayMs ≠ 0 ∧ r.durationMs = 0) ∨
    ∃ r r', [r, r'] <:+: rs ∧ r.startDelayMs ≠ 0 ∧ r'.startDelayMs = 0 ∧ r'.durationMs = 0

/-- Some order of these requests and the timers fails an assertion. -/
def CanAbort (drv : RumbleDriver σ μ ω) (start : RumblePad σ μ) (rs : List (RumbleRequest μ)) :
    Prop :=
  ∃ es, requests es = rs ∧ run drv.step start es = none

theorem mayAbort_of_run (hdrv : Stopping drv) (hstatus : ∀ ins, drv.checksStatus ins = false)
    {start : RumblePad σ μ} (hstart : Follows drv [] start) {es : List (Event μ ω)}
    (h : run drv.step start es = none) : MayAbort (requests es) := by
  obtain ⟨before, e, behind, t, rfl, ht, hnone⟩ := run_eq_none_iff.mp h
  have hfollows := Follows.run hdrv hstatus hstart ht
  obtain ⟨hclash, -⟩ := (step_eq_none_iff hfollows.tidy).mp hnone
  rw [requests_append]
  cases e with
  | play r' status =>
    obtain ⟨hs, -, hnow, hzero⟩ := hclash
    obtain ⟨r, rs, hrs, hdelay, -⟩ := hfollows.last_of_delayed hs
    refine .inr ⟨r, r', ⟨rs, requests behind, ?_⟩, hdelay, hnow, hzero⟩
    rw [hrs]
    simp [requests]
  | delayedStart status =>
    obtain ⟨hdue, hzero⟩ := hclash
    obtain ⟨r, rs, hrs, hdelay, hkept⟩ :=
      hfollows.last_of_delayed (hfollows.tidy.delayedStart hdue)
    refine .inl ⟨r, ?_, hdelay, hkept ▸ hzero⟩
    rw [hrs]
    simp
  | duration status => exact hclash.elim
  | other op => exact hclash.elim

/-- A delayed request gets through, unless something failed before it. -/
theorem run_plays_delayed (hdrv : Stopping drv) {start : RumblePad σ μ} (hstart : Bare start)
    {r : RumbleRequest μ} (hdelay : r.startDelayMs ≠ 0) (rs : List (RumbleRequest μ)) :
    run drv.step start (plays (rs ++ [r])) = none ∨
      ∃ d, Tidy d ∧ run drv.step start (plays (rs ++ [r])) = some (drv.postponed r d) := by
  rw [plays, List.map_append, List.map_singleton, run_concat]
  cases hrun : run drv.step start (rs.map fun r => .play r .success) with
  | none => exact .inl rfl
  | some d =>
    have htidy := tidy_run hstart hrun
    refine .inr ⟨d, htidy, ?_⟩
    rw [Option.bind_some, RumbleDriver.step, playDualRumble_eq htidy, if_pos (hdrv.ready _),
      if_neg hdelay]

theorem canAbort_of_mayAbort (hdrv : Stopping drv) (hasserts : drv.stopAsserts .delayed = false)
    {start : RumblePad σ μ} (hstart : Bare start) {rs : List (RumbleRequest μ)}
    (h : MayAbort rs) : CanAbort drv start rs := by
  rcases h with ⟨r, hr, hdelay, hzero⟩ | ⟨r, r', ⟨before, behind, rfl⟩, hdelay, hnow, hzero⟩
  · obtain ⟨before, behind, rfl⟩ := List.append_of_mem hr
    -- let the timer of the delayed request come due right away
    refine ⟨plays (before ++ [r]) ++ (.delayedStart .success :: plays behind), ?_, ?_⟩
    · rw [requests_append, requests_plays]
      have hrest : requests (.delayedStart .success :: plays behind : List (Event μ ω)) = behind :=
        requests_plays behind
      rw [hrest, List.append_assoc]
      rfl
    · rw [run_append]
      rcases run_plays_delayed hdrv hstart hdelay before with hnone | ⟨d, htidy, hsome⟩
      · rw [hnone, Option.bind_none]
      · have hclash : Clash drv (drv.postponed r d) (.delayedStart .success : Event μ ω) :=
          ⟨Option.some_ne_none _, hzero⟩
        rw [hsome, Option.bind_some, run_cons,
          (step_eq_none_iff (tidy_postponed htidy r)).mpr ⟨hclash, hdrv.stops, hasserts⟩,
          Option.bind_none]
  · -- no timer is needed: the requests one after the other
    refine ⟨plays (before ++ [r, r'] ++ behind), requests_plays _, ?_⟩
    have hsplit : (plays (before ++ [r, r'] ++ behind) : List (Event μ ω)) =
        plays (before ++ [r]) ++ (.play r' .success :: plays behind) := by
      simp [plays]
    rw [hsplit, run_append]
    rcases run_plays_delayed hdrv hstart hdelay before with hnone | ⟨d, htidy, hsome⟩
    · rw [hnone, Option.bind_none]
    · have hclash : Clash drv (drv.postponed r d) (.play r' .success : Event μ ω) :=
        ⟨rfl, hdrv.ready _, hnow, hzero⟩
      rw [hsome, Option.bind_some, run_cons,
        (step_eq_none_iff (tidy_postponed htidy r)).mpr ⟨hclash, hdrv.stops, hasserts⟩,
        Option.bind_none]

/-! ## Starts that never come -/

/-- What the drivers have in common that leave a delayed start alone. -/
structure Leaving (drv : RumbleDriver σ μ ω) : Prop where
  leaves : drv.stopsIn .delayed = false
  unchecked : ∀ ins, drv.checksStatus ins = false

theorem Leaving.stopped (hdrv : Leaving drv) :
    drv.stopped status d =
      { d with
        rumbleState := .disabled
        ins := (drv.turnOff d.ins).1
        sent := d.sent ++ (drv.turnOff d.ins).2
        playing := none } := by
  rw [RumbleDriver.stopped, answer, hdrv.unchecked]
  rfl

end K2soHead.RumbleDriver
