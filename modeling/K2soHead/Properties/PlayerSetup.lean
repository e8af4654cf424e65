import K2soHead.Library.Runs
import K2soHead.Properties.PlayerPackets

/-!
# The driver and the module agree on set-up and volume

The module answers nothing, so all it knows is what was written.  A run keeps every packet
with the real time of its call; `Agrees` says what the module can rely on.  The driver keeps
it by sending the set-up late: before the module is ready a volume only waits in `sVolume`.
-/

namespace K2soHead

open Runs WrappingClock

/-- A packet on the wire, with the time of its call and the driver's volume at its end. -/
structure Sent where
  time : ℕ
  volume : UInt8
  bytes : List UInt8

namespace Sent

def IsSelect (p : Sent) : Prop := AudioPlayer.command? p.bytes = some AudioPlayer.kCmdSelectDevice

def IsPlay (p : Sent) : Prop := AudioPlayer.command? p.bytes = some AudioPlayer.kCmdPlayMp3Folder

/-- The level a `SetVolume` packet carries. -/
def level? (p : Sent) : Option UInt16 :=
  if AudioPlayer.command? p.bytes = some AudioPlayer.kCmdSetVolume then
    AudioPlayer.param? p.bytes
  else
    none

@[simp] theorem isSelect_packet (time : ℕ) (volume cmd : UInt8) (param : UInt16) :
    IsSelect ⟨time, volume, AudioPlayer.packet cmd param⟩ ↔ cmd = AudioPlayer.kCmdSelectDevice := by
  simp [IsSelect]

@[simp] theorem isPlay_packet (time : ℕ) (volume cmd : UInt8) (param : UInt16) :
    IsPlay ⟨time, volume, AudioPlayer.packet cmd param⟩ ↔ cmd = AudioPlayer.kCmdPlayMp3Folder := by
  simp [IsPlay]

@[simp] theorem level?_packet (time : ℕ) (volume cmd : UInt8) (param : UInt16) :
    level? ⟨time, volume, AudioPlayer.packet cmd param⟩ =
      if cmd = AudioPlayer.kCmdSetVolume then some param else none := by
  simp [level?]

end Sent

/-- A call, some time after the one before. -/
structure TimedCall where
  wait : ℕ
  call : PlayerCall

/-- The driver with its history: when the module is ready, and all that was sent. -/
structure PlayerRun where
  player : AudioPlayer
  clock : ℕ
  readyAt : ℕ
  sent : List Sent := []

namespace PlayerRun

/-- What `begin` leaves. -/
def start (t : ℕ) (busyGpio : Option ℕ) : PlayerRun where
  player := ({} : AudioPlayer).begin (reading t) busyGpio
  clock := t
  readyAt := t + AudioPlayer.kStartupDelayMs.toNat

def step (b : Board) (s : PlayerRun) (c : TimedCall) : PlayerRun :=
  let player := s.player.call b (reading (s.clock + c.wait)) c.call
  { s with
    player := player
    clock := s.clock + c.wait
    -- what the call added to the serial line
    sent := s.sent ++ (player.serial.drop s.player.serial.length).map
      (Sent.mk (s.clock + c.wait) player.sVolume) }

/-! ## The law -/

/-- What a packet may be, after the packets `before` it. -/
structure Allowed (readyAt : ℕ) (before : List Sent) (p : Sent) : Prop where
  setup_ready : p.IsSelect ∨ p.level?.isSome = true → readyAt ≤ p.time
  select_once : p.IsSelect → ∀ q ∈ before, ¬ q.IsSelect
  level_selected : p.level?.isSome = true → ∃ q ∈ before, q.IsSelect
  level_le : ∀ level, p.level? = some level → level ≤ 30
  play_setup : p.IsPlay → readyAt ≤ p.time →
    (∃ q ∈ before, q.IsSelect) ∧ Logs.last? Sent.level? before = some p.volume.toUInt16

/-- Everything sent was allowed when it was sent, and a set-up module knows the volume. -/
structure Agrees (s : PlayerRun) : Prop where
  complete : s.sent.map Sent.bytes = s.player.serial
  allowed : Logs.Justified (Allowed s.readyAt) s.sent
  volume_le : s.player.sVolume ≤ 30
  told : s.player.sInitSent = true →
    Logs.last? Sent.level? s.sent = some s.player.sVolume.toUInt16

/-! ## What is kept inside a call -/

/-- What holds of the driver and the log between any two packets of a call made at `time`. -/
structure Kept (readyAt time : ℕ) (a : AudioPlayer) (sent : List Sent) : Prop where
  complete : sent.map Sent.bytes = a.serial
  allowed : Logs.Justified (Allowed readyAt) sent
  volume_le : a.sVolume ≤ 30
  armed : a.sReadyAtMs = reading readyAt
  early : readyAt ≤ time + AudioPlayer.kStartupDelayMs.toNat
  due : a.sInitSent = true → readyAt ≤ time
  selected : a.sInitSent = true → ∃ q ∈ sent, q.IsSelect
  silent : a.sInitSent = false → ∀ q ∈ sent, ¬ q.IsSelect

/-- Inside the window the driver's readiness test is right. -/
theorem Kept.reached_iff {readyAt time : ℕ} {a : AudioPlayer} {sent : List Sent}
    (h : Kept readyAt time a sent) (hwindow : time < readyAt + 2 ^ 31) :
    reached (reading time) a.sReadyAtMs = true ↔ readyAt ≤ time := by
  rw [h.armed]
  rcases Nat.lt_or_ge time readyAt with hearly | hready
  · have hdelay : AudioPlayer.kStartupDelayMs.toNat = 1500 := rfl
    have hsoon := h.early
    rw [not_reached_of_lt hearly (by omega)]
    simp [hearly]
  · rw [reached_iff_of_le hready, Nat.mod_eq_of_lt (by omega)]
    exact iff_of_true (by omega) hready

/-- Only what the module is told and when it is ready counts. -/
theorem Kept.congr {readyAt time : ℕ} {a a' : AudioPlayer} {sent : List Sent}
    (h : Kept readyAt time a sent) (hserial : a'.serial = a.serial)
    (hvolume : a'.sVolume = a.sVolume) (harmed : a'.sReadyAtMs = a.sReadyAtMs)
    (hinit : a'.sInitSent = a.sInitSent) : Kept readyAt time a' sent where
  complete := h.complete.trans hserial.symm
  allowed := h.allowed
  volume_le := by rw [hvolume]; exact h.volume_le
  armed := harmed.trans h.armed
  early := h.early
  due hsent := h.due (hinit ▸ hsent)
  selected hsent := h.selected (hinit ▸ hsent)
  silent hsent := h.silent (hinit ▸ hsent)

/-- One more packet that is allowed, and no set-up packet. -/
theorem Kept.concat {readyAt time : ℕ} {a : AudioPlayer} {sent : List Sent}
    (h : Kept readyAt time a sent) {p : Sent} (hp : Allowed readyAt sent p)
    (hselect : ¬ p.IsSelect) :
    Kept readyAt time { a with serial := a.serial ++ [p.bytes] } (sent ++ [p]) where
  complete := by simp [h.complete]
  allowed := (Logs.justified_concat _ _ _).mpr ⟨h.allowed, hp⟩
  volume_le := h.volume_le
  armed := h.armed
  early := h.early
  due := h.due
  selected hsent := by
    obtain ⟨q, hq, hselect⟩ := h.selected hsent
    exact ⟨q, List.mem_append_left _ hq, hselect⟩
  silent hsent q hq := by
    rcases List.mem_append.mp hq with hq | hq
    · exact h.silent hsent q hq
    · rwa [List.mem_singleton.mp hq]

/-- The volume fits the module's scale on the wire too. -/
theorem level_le_of_volume_le {volume : UInt8} (h : volume ≤ 30) : volume.toUInt16 ≤ 30 := by
  rw [UInt16.le_iff_toNat_le, UInt8.toNat_toUInt16]
  exact UInt8.le_iff_toNat_le.mp h

/-- A volume packet is allowed once the device was selected. -/
theorem allowed_level {readyAt time : ℕ} {sent : List Sent} {volume : UInt8}
    (hready : readyAt ≤ time) (hselected : ∃ q ∈ sent, q.IsSelect) (hvolume : volume ≤ 30) :
    Allowed readyAt sent
      ⟨time, volume, AudioPlayer.packet AudioPlayer.kCmdSetVolume volume.toUInt16⟩ where
  setup_ready _ := hready
  select_once hselect := by
    rw [Sent.isSelect_packet] at hselect
    exact absurd hselect (by decide)
  level_selected _ := hselected
  level_le level hlevel := by
    rw [Sent.level?_packet, if_pos rfl] at hlevel
    exact Option.some.inj hlevel ▸ level_le_of_volume_le hvolume
  play_setup hplay := by
    rw [Sent.isPlay_packet] at hplay
    exact absurd hplay (by decide)

/-- The log with the set-up, one packet at a time. -/
theorem append_setup (sent : List Sent) (time : ℕ) (volume : UInt8) :
    sent ++ (AudioPlayer.setup volume).map (Sent.mk time volume) =
      sent ++ [⟨time, volume, AudioPlayer.packet AudioPlayer.kCmdSelectDevice
        AudioPlayer.kDeviceSdCard⟩] ++
        [⟨time, volume, AudioPlayer.packet AudioPlayer.kCmdSetVolume volume.toUInt16⟩] := by
  simp [AudioPlayer.setup]

/-- The two packets of the set-up, sent once and in time. -/
theorem Kept.setup {readyAt time : ℕ} {a : AudioPlayer} {sent : List Sent}
    (h : Kept readyAt time a sent) (hready : readyAt ≤ time) (hsent : a.sInitSent = false) :
    Kept readyAt time
      { a with sInitSent := true, serial := a.serial ++ AudioPlayer.setup a.sVolume }
      (sent ++ (AudioPlayer.setup a.sVolume).map (Sent.mk time a.sVolume)) := by
  have hdevice : Allowed readyAt sent ⟨time, a.sVolume,
      AudioPlayer.packet AudioPlayer.kCmdSelectDevice AudioPlayer.kDeviceSdCard⟩ := by
    refine ⟨fun _ => hready, fun _ => h.silent hsent, fun hlevel => ?_, fun level hlevel => ?_,
      fun hplay => ?_⟩
    · rw [Sent.level?_packet, if_neg (by decide)] at hlevel
      cases hlevel
    · rw [Sent.level?_packet, if_neg (by decide)] at hlevel
      cases hlevel
    · rw [Sent.isPlay_packet] at hplay
      exact absurd hplay (by decide)
  have hselected : ∃ q ∈ sent ++ [⟨time, a.sVolume, AudioPlayer.packet
      AudioPlayer.kCmdSelectDevice AudioPlayer.kDeviceSdCard⟩], Sent.IsSelect q :=
    ⟨_, List.mem_append_right _ List.mem_cons_self, by rw [Sent.isSelect_packet]⟩
  rw [append_setup]
  refine ⟨?_, ?_, h.volume_le, h.armed, h.early, fun _ => hready, ?_, fun hunsent => ?_⟩
  · simp [h.complete, AudioPlayer.setup]
  · rw [Logs.justified_concat, Logs.justified_concat]
    exact ⟨⟨h.allowed, hdevice⟩, allowed_level hready hselected h.volume_le⟩
  · obtain ⟨q, hq, hselect⟩ := hselected
    exact fun _ => ⟨q, List.mem_append_left _ hq, hselect⟩
  · cases hunsent

/-- A set-up module was last told the driver's volume. -/
def Told (a : AudioPlayer) (sent : List Sent) : Prop :=
  a.sInitSent = true → Logs.last? Sent.level? sent = some a.sVolume.toUInt16

/-- The start of every play and volume call: the set-up goes out if it is due. -/
theorem Kept.ensureInitialized {readyAt time : ℕ} {a : AudioPlayer} {sent : List Sent}
    (h : Kept readyAt time a sent) (hwindow : time < readyAt + 2 ^ 31) :
    Kept readyAt time (a.ensureInitialized (reading time))
        (sent ++ (a.setupIfDue (reading time)).map (Sent.mk time a.sVolume)) ∧
      ((a.ensureInitialized (reading time)).sInitSent = true ↔ readyAt ≤ time) ∧
      (Told a sent → Told (a.ensureInitialized (reading time))
        (sent ++ (a.setupIfDue (reading time)).map (Sent.mk time a.sVolume))) := by
  have hreached := h.reached_iff hwindow
  rw [AudioPlayer.ensureInitialized_eq, AudioPlayer.setupIfDue, AudioPlayer.setupDue]
  cases hsent : a.sInitSent with
  | true =>
    -- the set-up went out earlier, so nothing is due
    have hsame : { a with sInitSent := true } = a := by rw [← hsent]
    simp only [Bool.true_or, Bool.not_true, Bool.false_and, Bool.false_eq_true, if_false,
      List.append_nil, List.map_nil, hsame]
    exact ⟨h, iff_of_true trivial (h.due hsent), id⟩
  | false =>
    simp only [Bool.false_or, Bool.not_false, Bool.true_and, hreached]
    by_cases hready : readyAt ≤ time
    · have hdue := hreached.mpr hready
      rw [if_pos hready, hdue]
      refine ⟨h.setup hready hsent, trivial, fun _ _ => ?_⟩
      rw [append_setup, Logs.last?_concat, Sent.level?_packet, if_pos rfl]
      rfl
    · have hdue : reached (reading time) a.sReadyAtMs = false :=
        Bool.eq_false_of_not_eq_true fun hdue => hready (hreached.mp hdue)
      have hsame : { a with sInitSent := false } = a := by rw [← hsent]
      simp only [if_neg hready, hdue, List.append_nil, List.map_nil, hsame]
      exact ⟨h, trivial, id⟩

/-! ## One call -/

/-- The log after a call that put `packets` on the line. -/
theorem sent_step {b : Board} {s : PlayerRun} {c : TimedCall} {packets : List (List UInt8)}
    (h : (s.player.call b (reading (s.clock + c.wait)) c.call).serial =
      s.player.serial ++ packets) :
    (step b s c).sent = s.sent ++ packets.map (Sent.mk (s.clock + c.wait)
      (s.player.call b (reading (s.clock + c.wait)) c.call).sVolume) := by
  simp only [step, h, List.drop_left]

/-- What holds between calls. -/
structure Invariant (s : PlayerRun) : Prop where
  kept : Kept s.readyAt s.clock s.player s.sent
  told : Told s.player s.sent

theorem Kept.later {readyAt time : ℕ} {a : AudioPlayer} {sent : List Sent}
    (h : Kept readyAt time a sent) (n : ℕ) : Kept readyAt (time + n) a sent :=
  { h with
    early := by have := h.early; omega
    due := fun hsent => Nat.le_add_right_of_le (h.due hsent) }

/-- A packet that is neither set-up nor play is always allowed. -/
theorem allowed_stop (readyAt time : ℕ) (sent : List Sent) (volume : UInt8) :
    Allowed readyAt sent ⟨time, volume, AudioPlayer.packet AudioPlayer.kCmdStop 0⟩ := by
  have hselect : ¬ AudioPlayer.kCmdStop = AudioPlayer.kCmdSelectDevice := by decide
  have hlevel : ¬ AudioPlayer.kCmdStop = AudioPlayer.kCmdSetVolume := by decide
  have hplay : ¬ AudioPlayer.kCmdStop = AudioPlayer.kCmdPlayMp3Folder := by decide
  constructor <;> simp [hselect, hlevel, hplay]

/-- A play packet is allowed where a module that could hear it has been set up. -/
theorem allowed_play {readyAt time : ℕ} {a : AudioPlayer} {sent : List Sent} (track : UInt16)
    (h : Kept readyAt time a sent) (hready : readyAt ≤ time → a.sInitSent = true)
    (htold : Told a sent) :
    Allowed readyAt sent
      ⟨time, a.sVolume, AudioPlayer.packet AudioPlayer.kCmdPlayMp3Folder track⟩ := by
  have hselect : ¬ AudioPlayer.kCmdPlayMp3Folder = AudioPlayer.kCmdSelectDevice := by decide
  have hlevel : ¬ AudioPlayer.kCmdPlayMp3Folder = AudioPlayer.kCmdSetVolume := by decide
  refine ⟨by simp [hselect, hlevel], by simp [hselect], by simp [hlevel], by simp [hlevel], ?_⟩
  intro _ hlate
  exact ⟨h.selected (hready hlate), htold (hready hlate)⟩

/-- A call that left `a` and wrote `packets` keeps the invariant if both fit. -/
theorem invariant_of_call {b : Board} {s : PlayerRun} {c : TimedCall} {a : AudioPlayer}
    {packets : List (List UInt8)}
    (hcall : s.player.call b (reading (s.clock + c.wait)) c.call = a)
    (hserial : a.serial = s.player.serial ++ packets)
    (hkept : Kept s.readyAt (s.clock + c.wait) a
      (s.sent ++ packets.map (Sent.mk (s.clock + c.wait) a.sVolume)))
    (htold : Told a (s.sent ++ packets.map (Sent.mk (s.clock + c.wait) a.sVolume))) :
    (step b s c).Invariant := by
  have hsent := sent_step (hcall ▸ hserial)
  rw [hcall] at hsent
  have hplayer : (step b s c).player = a := hcall
  constructor
  · rw [hsent, hplayer]
    exact hkept
  · rw [hsent, hplayer]
    exact htold

theorem Invariant.play {b : Board} {s : PlayerRun} {c : TimedCall} (h : s.Invariant)
    (hwindow : s.clock + c.wait < s.readyAt + 2 ^ 31) {track : UInt16}
    (hcall : s.player.call b (reading (s.clock + c.wait)) c.call =
      s.player.play (reading (s.clock + c.wait)) track) : (step b s c).Invariant := by
  obtain ⟨hkept, hinit, htold⟩ := (h.kept.later c.wait).ensureInitialized hwindow
  have hplay := allowed_play track hkept hinit.mpr (htold h.told)
  have hselect : ¬ AudioPlayer.kCmdPlayMp3Folder = AudioPlayer.kCmdSelectDevice := by decide
  have hlevel : ¬ AudioPlayer.kCmdPlayMp3Folder = AudioPlayer.kCmdSetVolume := by decide
  have hnext := hkept.concat hplay (by simp [hselect])
  rw [AudioPlayer.play_eq] at hcall
  refine invariant_of_call hcall rfl ?_ ?_
  · simp only [List.map_append, ← List.append_assoc, List.map_cons, List.map_nil,
      AudioPlayer.sVolume_ensureInitialized] at hnext ⊢
    exact hnext.congr (by simp) rfl rfl rfl
  · -- a play packet carries no level, so the last one stands
    simpa [Told, ← List.append_assoc, hlevel] using htold h.told

theorem Invariant.setVolume {b : Board} {s : PlayerRun} {c : TimedCall} (h : s.Invariant)
    (hwindow : s.clock + c.wait < s.readyAt + 2 ^ 31) {volume : UInt8}
    (hcall : s.player.call b (reading (s.clock + c.wait)) c.call =
      s.player.setVolume (reading (s.clock + c.wait)) volume) : (step b s c).Invariant := by
  -- the new volume is stored first, and from there on it is the driver's
  have hstored : Kept s.readyAt (s.clock + c.wait) (s.player.store volume) s.sent :=
    { h.kept.later c.wait with volume_le := AudioPlayer.clampVolume_le volume }
  obtain ⟨hkept, hinit, htold⟩ := hstored.ensureInitialized hwindow
  rw [AudioPlayer.setVolume_eq] at hcall
  refine invariant_of_call hcall rfl ?_ ?_
  · split
    · rename_i hready
      have hlevel := allowed_level (hinit.mp hready) (hkept.selected hready) hkept.volume_le
      have hnext := hkept.concat hlevel (by simp; decide)
      simp only [List.map_append, ← List.append_assoc, List.map_cons, List.map_nil,
        AudioPlayer.sVolume_ensureInitialized] at hnext ⊢
      exact hnext.congr (by simp) rfl rfl rfl
    · simp only [List.append_nil, AudioPlayer.sVolume_ensureInitialized]
      exact hkept.congr (by simp) (by simp) rfl rfl
  · intro hready
    -- a set-up module is told at once
    have hsent : ((s.player.store volume).ensureInitialized
        (reading (s.clock + c.wait))).sInitSent = true := hready
    simp [← List.append_assoc, hsent]

theorem Invariant.stop {b : Board} {s : PlayerRun} {c : TimedCall} (h : s.Invariant)
    (hcall : s.player.call b (reading (s.clock + c.wait)) c.call = s.player.stop) :
    (step b s c).Invariant := by
  have hselect : ¬ AudioPlayer.kCmdStop = AudioPlayer.kCmdSelectDevice := by decide
  have hlevel : ¬ AudioPlayer.kCmdStop = AudioPlayer.kCmdSetVolume := by decide
  have hstop := allowed_stop s.readyAt (s.clock + c.wait) s.sent s.player.sVolume
  refine invariant_of_call hcall rfl ((h.kept.later c.wait).concat hstop (by simp [hselect])) ?_
  simpa [Told, AudioPlayer.stop, AudioPlayer.sendCommand, hlevel] using h.told

theorem Invariant.step {s : PlayerRun} (h : s.Invariant) (b : Board) (c : TimedCall)
    (hwindow : s.clock + c.wait < s.readyAt + 2 ^ 31) : (step b s c).Invariant := by
  rcases s.player.call_cases b (reading (s.clock + c.wait)) c.call with
    ⟨volume, hcall⟩ | ⟨track, hcall⟩ | hcall | hcall
  · exact h.setVolume hwindow hcall
  · exact h.play hwindow hcall
  · exact h.stop hcall
  · -- nothing to play: nothing is sent
    refine invariant_of_call hcall (List.append_nil _).symm ?_ ?_
    · simpa using h.kept.later c.wait
    · simpa using h.told

/-! ## Every run -/

theorem invariant_start (t : ℕ) (busyGpio : Option ℕ) : (start t busyGpio).Invariant := by
  have hready : reading t + AudioPlayer.kStartupDelayMs =
      reading (t + AudioPlayer.kStartupDelayMs.toNat) := by
    rw [reading_add]
    rfl
  have hvolume : (20 : UInt8) ≤ 30 := by decide
  refine ⟨⟨rfl, Logs.justified_nil _, hvolume, hready, Nat.le_refl _, ?_, ?_, ?_⟩, ?_⟩
  · rintro ⟨⟩
  · rintro ⟨⟩
  · rintro - q ⟨⟩
  · rintro ⟨⟩

theorem clock_le_run (b : Board) (s : PlayerRun) (calls : List TimedCall) :
    s.clock ≤ (run (step b) s calls).clock ∧ (run (step b) s calls).readyAt = s.readyAt := by
  induction calls generalizing s with
  | nil => exact ⟨Nat.le_refl _, rfl⟩
  | cons c calls ih =>
    obtain ⟨hclock, hready⟩ := ih (step b s c)
    exact ⟨(Nat.le_add_right s.clock c.wait).trans hclock, hready⟩

/-- The invariant holds after every run that ends inside the window. -/
theorem invariant_run (b : Board) {s : PlayerRun} (h : s.Invariant) (calls : List TimedCall)
    (hwindow : (run (step b) s calls).clock < s.readyAt + 2 ^ 31) :
    (run (step b) s calls).Invariant := by
  induction calls generalizing s with
  | nil => exact h
  | cons c calls ih =>
    -- the clock never goes back, so the first call is inside the window too
    have hfirst := (clock_le_run b (step b s c) calls).1
    exact ih (h.step b c (Nat.lt_of_le_of_lt hfirst hwindow)) hwindow

/-- After every sequence of calls less than 2^31 ms past the ready time, the packets sent so
far follow the law and a set-up module knows the driver's volume. -/
theorem driver_agrees (b : Board) (t : ℕ) (busyGpio : Option ℕ) (calls : List TimedCall)
    (hwindow : (run (step b) (start t busyGpio) calls).clock <
      (start t busyGpio).readyAt + 2 ^ 31) :
    (run (step b) (start t busyGpio) calls).Agrees := by
  have h := invariant_run b (invariant_start t busyGpio) calls hwindow
  exact ⟨h.kept.complete, h.kept.allowed, h.kept.volume_le, h.told⟩

/-- A volume set before the module is ready is sent by the first play after it, and all of it
across a wrap of `millis()`. -/
theorem waiting_volume_sent_by_play :
    let calls : List TimedCall :=
      [⟨0, .setVolume 25⟩, ⟨100, .play 1⟩, ⟨1500, .playNext⟩, ⟨30, .setVolume 200⟩]
    let s := run (step (esp32DevKitC fun _ => 0)) (start (2 ^ 32 - 500) none) calls
    s.Agrees ∧ s.sent.map Sent.level? = [none, none, some 25, none, some 30] := by
  intro calls s
  have hwindow : s.clock < (start (2 ^ 32 - 500) none).readyAt + 2 ^ 31 := by decide
  exact ⟨driver_agrees _ _ _ calls hwindow, by decide⟩

end PlayerRun

end K2soHead
