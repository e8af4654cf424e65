import K2soHead.Firmware.AudioPlayer
import K2soHead.Library.Logs

/-!
# Packets as the player module reads them

`command?` and `param?` are the listener's side of `sendCommand`: what a module takes from
ten bytes on the wire.  `PlayerCall` lists the entry points of the driver, and `writes` says
what each of them puts on the wire.
-/

namespace K2soHead

namespace AudioPlayer

/-! ## The listener's side -/

/-- The command byte of a packet. -/
def command? (bytes : List UInt8) : Option UInt8 := bytes[3]?

/-- The parameter of a packet, high byte first. -/
def param? (bytes : List UInt8) : Option UInt16 :=
  match bytes[5]?, bytes[6]? with
  | some hi, some lo => some (hi.toUInt16 * 256 + lo.toUInt16)
  | _, _ => none

@[simp] theorem command?_packet (cmd : UInt8) (param : UInt16) :
    command? (packet cmd param) = some cmd := rfl

@[simp] theorem param?_packet (cmd : UInt8) (param : UInt16) :
    param? (packet cmd param) = some param := by
  have hbytes : (param >>> 8).toUInt8.toUInt16 * 256 + param.toUInt8.toUInt16 = param := by
    have hlt := param.toNat_lt
    have hshift : (param >>> 8).toNat = param.toNat / 256 := by
      rw [UInt16.toNat_shiftRight, Nat.shiftRight_eq_div_pow]
      rfl
    apply UInt16.toNat_inj.mp
    simp only [UInt16.toNat_add, UInt16.toNat_mul, UInt8.toNat_toUInt16, UInt16.toNat_toUInt8,
      hshift, UInt16.toNat_ofNat]
    omega
  exact congrArg some hbytes

/-! ## The entry points -/

end AudioPlayer

/-- A call of the driver after `begin`. -/
inductive PlayerCall where
  | setVolume (volume : UInt8)
  | play (track : UInt16)
  | playNext
  | playPrevious
  | replay
  | stop

namespace AudioPlayer

def call (b : Board) (now : UInt32) (a : AudioPlayer) : PlayerCall → AudioPlayer
  | .setVolume volume => a.setVolume now volume
  | .play track => a.play now track
  | .playNext => a.playNext b now
  | .playPrevious => a.playPrevious b now
  | .replay => a.replay b now
  | .stop => a.stop

/-- The set-up is due on this reading. -/
def setupDue (now : UInt32) (a : AudioPlayer) : Bool :=
  !a.sInitSent && WrappingClock.reached now a.sReadyAtMs

/-- The packets of the set-up. -/
def setup (volume : UInt8) : List (List UInt8) :=
  [packet kCmdSelectDevice kDeviceSdCard, packet kCmdSetVolume volume.toUInt16]

theorem ensureInitialized_eq (now : UInt32) (a : AudioPlayer) :
    a.ensureInitialized now =
      { a with
        sInitSent := a.sInitSent || WrappingClock.reached now a.sReadyAtMs
        serial := a.serial ++ if a.setupDue now then setup a.sVolume else [] } := by
  unfold ensureInitialized setupDue
  cases hsent : a.sInitSent with
  | true =>
    obtain ⟨⟩ := a
    simp_all
  | false =>
    cases hdue : WrappingClock.reached now a.sReadyAtMs with
    | true => simp [sendCommand, setup]
    | false =>
      obtain ⟨⟩ := a
      simp_all

/-- What the set-up adds to the serial line on this reading. -/
def setupIfDue (now : UInt32) (a : AudioPlayer) : List (List UInt8) :=
  if a.setupDue now then setup a.sVolume else []

@[simp] theorem sVolume_ensureInitialized (now : UInt32) (a : AudioPlayer) :
    (a.ensureInitialized now).sVolume = a.sVolume := by
  rw [ensureInitialized_eq]

@[simp] theorem serial_ensureInitialized (now : UInt32) (a : AudioPlayer) :
    (a.ensureInitialized now).serial = a.serial ++ a.setupIfDue now := by
  rw [ensureInitialized_eq, setupIfDue]

/-- Playing sends the set-up where it is due, and then the play packet. -/
theorem play_eq (now : UInt32) (track : UInt16) (a : AudioPlayer) :
    a.play now track =
      { a.ensureInitialized now with
        sCurrentTrack := track
        sLastPlayCommandMs := now
        sHasPlayed := true
        serial := a.serial ++ (a.setupIfDue now ++ [packet kCmdPlayMp3Folder track]) } := by
  simp [play, sendCommand, ensureInitialized_eq, setupIfDue]

/-- The level `setVolume` stores. -/
def clampVolume (volume : UInt8) : UInt8 := if volume > 30 then 30 else volume

theorem clampVolume_le (volume : UInt8) : clampVolume volume ≤ 30 := by
  unfold clampVolume
  split
  · exact UInt8.le_refl _
  · rename_i hle
    exact UInt8.not_lt.mp hle

/-- The driver with a new volume stored, and nothing sent yet. -/
def store (volume : UInt8) (a : AudioPlayer) : AudioPlayer :=
  { a with sVolume := clampVolume volume }

@[simp] theorem sVolume_store (volume : UInt8) (a : AudioPlayer) :
    (a.store volume).sVolume = clampVolume volume := rfl

@[simp] theorem serial_store (volume : UInt8) (a : AudioPlayer) :
    (a.store volume).serial = a.serial := rfl

/-- Setting the volume stores it, and sends it once the module is set up. -/
theorem setVolume_eq (now : UInt32) (volume : UInt8) (a : AudioPlayer) :
    a.setVolume now volume =
      { (a.store volume).ensureInitialized now with
        serial := a.serial ++ ((a.store volume).setupIfDue now ++
          if ((a.store volume).ensureInitialized now).sInitSent then
            [packet kCmdSetVolume (clampVolume volume).toUInt16]
          else
            []) } := by
  unfold setVolume
  simp only [sendCommand, ensureInitialized_eq, setupIfDue, clampVolume, store]
  split <;> simp_all

/-- A call is one of four things, or none of them where there are no tracks. -/
theorem call_cases (b : Board) (now : UInt32) (a : AudioPlayer) (c : PlayerCall) :
    (∃ volume, a.call b now c = a.setVolume now volume) ∨
      (∃ track, a.call b now c = a.play now track) ∨ a.call b now c = a.stop ∨
        a.call b now c = a := by
  cases c with
  | setVolume volume => exact .inl ⟨volume, rfl⟩
  | play track => exact .inr (.inl ⟨track, rfl⟩)
  | playNext =>
    by_cases hnone : trackCount b = 0
    · exact .inr (.inr (.inr (if_pos hnone)))
    · exact .inr (.inl ⟨_, if_neg hnone⟩)
  | playPrevious =>
    by_cases hnone : trackCount b = 0
    · exact .inr (.inr (.inr (if_pos hnone)))
    · exact .inr (.inl ⟨_, if_neg hnone⟩)
  | replay =>
    by_cases hnone : trackCount b = 0
    · exact .inr (.inr (.inr (if_pos hnone)))
    · exact .inr (.inl ⟨_, if_neg hnone⟩)
  | stop => exact .inr (.inr (.inl rfl))

end AudioPlayer

end K2soHead
