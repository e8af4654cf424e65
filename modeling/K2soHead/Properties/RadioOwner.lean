import K2soHead.Library.Runs
import K2soHead.Properties.LoopFrames

/-!
# One radio, one owner

The logged radio calls are replayed through `Radio`, the state of the shared radio.  Every
toggle of the admin button appends one of three blocks of calls, and each block takes the
radio from one resting state to another: scanning alone, or the access point with its
update service.
-/

namespace K2soHead

open Runs

/-- The state of the shared radio. -/
structure Radio where
  scanning : Bool := true
  wifiAp : Bool := false
  apUp : Bool := false
  otaListening : Bool := false
  deriving DecidableEq

namespace Radio

def apply (r : Radio) : RadioCall → Radio
  | .enableNewBluetoothConnections enabled => { r with scanning := enabled }
  | .wifiMode true => { r with wifiAp := true }
  | .wifiMode false => { r with wifiAp := false, apUp := false }
  | .softAP _ _ up => { r with apUp := up }
  | .serverBegin => r
  | .serverStop => r
  | .softAPdisconnect => { r with apUp := false }
  | .otaBegin _ => { r with otaListening := true }
  | .otaEnd => { r with otaListening := false }

/-- Does the call take something of the access point down? -/
def takesDown : RadioCall → Bool
  | .serverStop => true
  | .softAPdisconnect => true
  | .wifiMode ap => !ap
  | _ => false

/-- Does the call start the update service? -/
def startsOta : RadioCall → Bool
  | .otaBegin _ => true
  | _ => false

/-- What every single call must respect: no scanning while WiFi is in AP mode, the update
service starts only on an access point that is up, and stops before it is taken down. -/
structure Ordered (r : Radio) (c : RadioCall) : Prop where
  paused : (r.apply c).wifiAp = true → (r.apply c).scanning = false
  ota_after_ap : startsOta c = true → r.apUp = true
  ota_stopped_first : takesDown c = true → r.otaListening = false

instance (r : Radio) (c : RadioCall) : Decidable (Ordered r c) :=
  decidable_of_iff
    (((r.apply c).wifiAp = true → (r.apply c).scanning = false) ∧
      (startsOta c = true → r.apUp = true) ∧ (takesDown c = true → r.otaListening = false))
    ⟨fun ⟨paused, after, stopped⟩ => ⟨paused, after, stopped⟩,
      fun h => ⟨h.paused, h.ota_after_ap, h.ota_stopped_first⟩⟩

/-- Nothing but scanning. -/
def resting : Radio := {}

/-- The access point with its update service. -/
def serving : Radio := { scanning := false, wifiAp := true, apUp := true, otaListening := true }

/-- The radio after the calls logged so far. -/
def after (s : Services) : Radio := run apply resting s.radio

end Radio

namespace Services

open Radio

/-- Both flags agree with the radio, and every call so far was in order. -/
structure OneOwner (s : Services) : Prop where
  flags : s.otaRunning = s.webRunning
  radio : after s = if s.webRunning then serving else resting
  ordered : Along apply Ordered resting s.radio

/-! ## The three blocks of calls -/

def stopCalls : List RadioCall :=
  [.otaEnd, .serverStop, .softAPdisconnect, .wifiMode false, .enableNewBluetoothConnections true]

def failedCalls : List RadioCall :=
  [.enableNewBluetoothConnections false, .wifiMode true, .softAP kApSsid kApPassword false,
    .wifiMode false, .enableNewBluetoothConnections true]

def startCalls : List RadioCall :=
  [.enableNewBluetoothConnections false, .wifiMode true, .softAP kApSsid kApPassword true,
    .serverBegin, .otaBegin kHostname]

theorem toggleAP_running {s : Services} (hweb : s.webRunning = true) (hota : s.otaRunning = true)
    (up : Bool) : Sketch.toggleAP up s =
      { webRunning := false, otaRunning := false, radio := s.radio ++ stopCalls } := by
  simp [Sketch.toggleAP, OtaService.stop, WebUI.stop, GamepadInput.setDiscoverable, emit, hweb,
    hota, stopCalls]

theorem toggleAP_failed {s : Services} (hweb : s.webRunning = false) :
    Sketch.toggleAP false s = { s with radio := s.radio ++ failedCalls } := by
  simp [Sketch.toggleAP, WebUI.start, GamepadInput.setDiscoverable, emit, hweb, failedCalls]

theorem toggleAP_started {s : Services} (hweb : s.webRunning = false)
    (hota : s.otaRunning = false) : Sketch.toggleAP true s =
      { webRunning := true, otaRunning := true, radio := s.radio ++ startCalls } := by
  simp [Sketch.toggleAP, WebUI.start, OtaService.begin, GamepadInput.setDiscoverable, emit, hweb,
    hota, startCalls]

/-! ## One toggle -/

/-- Appending calls that are in order from where the log ends. -/
theorem after_append {s s' : Services} {calls : List RadioCall}
    (hradio : s'.radio = s.radio ++ calls) : after s' = run apply (after s) calls := by
  rw [after, after, hradio, run_append]

theorem ordered_append {s s' : Services} {calls : List RadioCall}
    (hs : Along apply Ordered resting s.radio) (hcalls : Along apply Ordered (after s) calls)
    (hradio : s'.radio = s.radio ++ calls) : Along apply Ordered resting s'.radio := by
  rw [hradio, along_append]
  exact ⟨hs, hcalls⟩

theorem OneOwner.toggleAP {s : Services} (h : s.OneOwner) (up : Bool) :
    (Sketch.toggleAP up s).OneOwner := by
  cases hweb : s.webRunning with
  | true =>
    have hota : s.otaRunning = true := h.flags.trans hweb
    have hserving : after s = serving := by rw [h.radio, hweb, if_pos rfl]
    rw [toggleAP_running hweb hota]
    refine ⟨rfl, ?_, ?_⟩
    · rw [after_append (s := s) rfl, hserving]
      rfl
    · exact ordered_append h.ordered (hserving ▸ by decide) rfl
  | false =>
    have hota : s.otaRunning = false := h.flags.trans hweb
    have hresting : after s = resting := by
      rw [h.radio, hweb]
      rfl
    cases up with
    | true =>
      rw [toggleAP_started hweb hota]
      refine ⟨rfl, ?_, ?_⟩
      · rw [after_append (s := s) rfl, hresting]
        rfl
      · exact ordered_append h.ordered (hresting ▸ by decide) rfl
    | false =>
      rw [toggleAP_failed hweb]
      -- neither flag moved: the failed start undid itself
      refine ⟨h.flags, ?_, ?_⟩
      · rw [after_append (s := s) rfl, hresting, hweb]
        rfl
      · exact ordered_append h.ordered (hresting ▸ by decide) rfl

/-- A toggle in which the access point does not come up leaves only the scan. -/
theorem OneOwner.failed_softAP {s : Services} (h : s.OneOwner) {up : Bool}
    {new : List RadioCall} (hnew : (Sketch.toggleAP up s).radio = s.radio ++ new)
    {ssid password : String} (hfailed : .softAP ssid password false ∈ new) :
    (Sketch.toggleAP up s).webRunning = false := by
  cases hweb : s.webRunning with
  | true =>
    rw [toggleAP_running hweb (h.flags.trans hweb)]
  | false =>
    cases up with
    | true =>
      -- the access point came up, so no failed call is among the new ones
      rw [toggleAP_started hweb (h.flags.trans hweb)] at hnew
      rw [← List.append_cancel_left hnew] at hfailed
      simp [startCalls] at hfailed
    | false =>
      rw [toggleAP_failed hweb]
      exact hweb

/-! ## Every run of `loop()` -/

theorem oneOwner_setup (b : Board) (t : ℕ) (d : RearmDraws) :
    (Sketch.setup b t d).services.OneOwner := by
  have hordered : Along apply Ordered resting
      [.enableNewBluetoothConnections true, .wifiMode false] := by decide
  exact ⟨rfl, rfl, hordered⟩

theorem oneOwner_run (b : Board) (t : ℕ) (d : RearmDraws) (is : List LoopInput) :
    (run (Sketch.loop b) (Sketch.setup b t d) is).services.OneOwner := by
  have hstep : ∀ h i, h.services.OneOwner → (Sketch.loop b h i).services.OneOwner := by
    intro h i hone
    rcases Sketch.services_loop b h i with hsame | htoggled
    · exact hsame ▸ hone
    · exact htoggled ▸ hone.toggleAP i.softAP
  exact inv_run hstep (oneOwner_setup b t d) is

/-- At the end of every tick the web UI runs if and only if the update service does, if and
only if scanning is paused; the single calls come in order; and after a failed `softAP`
WiFi is off, the update service stopped and scanning resumed. -/
theorem one_radio_one_owner (b : Board) (t : ℕ) (d : RearmDraws) (is : List LoopInput) :
    let h := run (Sketch.loop b) (Sketch.setup b t d) is
    (h.services.webRunning = true ↔ h.services.otaRunning = true) ∧
    (h.services.otaRunning = true ↔ (after h.services).scanning = false) ∧
    Along apply Ordered resting h.services.radio ∧
    ∀ i new ssid password, (Sketch.loop b h i).services.radio = h.services.radio ++ new →
      .softAP ssid password false ∈ new →
      let s' := (Sketch.loop b h i).services
      s'.webRunning = false ∧ s'.otaRunning = false ∧ after s' = resting := by
  intro h
  have hone : h.services.OneOwner := oneOwner_run b t d is
  have hscan : (after h.services).scanning = !h.services.webRunning := by
    rw [hone.radio]
    cases h.services.webRunning <;> rfl
  refine ⟨by rw [hone.flags], by rw [hone.flags, hscan]; simp, hone.ordered, ?_⟩
  intro i new ssid password hnew hfailed s'
  have hone' : s'.OneOwner := by
    have := oneOwner_run b t d (is ++ [i])
    rwa [run_concat] at this
  have hweb : s'.webRunning = false := by
    rcases Sketch.services_loop b h i with hsame | htoggled
    -- a tick that toggles nothing logs no call at all
    · rw [hsame, List.self_eq_append_right] at hnew
      rw [hnew] at hfailed
      exact absurd hfailed List.not_mem_nil
    · rw [htoggled] at hnew
      exact (congrArg Services.webRunning htoggled).trans (hone.failed_softAP hnew hfailed)
  refine ⟨hweb, hone'.flags.trans hweb, ?_⟩
  rw [hone'.radio, hweb]
  rfl

end Services

end K2soHead
