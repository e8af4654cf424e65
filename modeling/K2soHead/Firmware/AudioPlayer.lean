import K2soHead.Firmware.Board
import K2soHead.Library.WrappingClock

/-!
# `audio_player.cpp`

Write-only driver of the DFPlayer Mini.  `serial` is everything written to the UART,
oldest first, one entry per 10-byte packet.  Every function that reads `millis()` takes
the reading as its argument `now`.
-/

namespace K2soHead

/-- The statics of `audio_player.cpp`, and the packets written so far. -/
structure AudioPlayer where
  sReadyAtMs : UInt32 := 0
  sInitSent : Bool := false
  sVolume : UInt8 := 20
  sCurrentTrack : UInt16 := 0
  sBusyGpio : Option ℕ := none
  sLastPlayCommandMs : UInt32 := 0
  sHasPlayed : Bool := false
  serial : List (List UInt8) := []

namespace AudioPlayer

def kCmdSelectDevice : UInt8 := 0x09
def kCmdSetVolume : UInt8 := 0x06
def kCmdStop : UInt8 := 0x16
def kCmdPlayMp3Folder : UInt8 := 0x12
def kDeviceSdCard : UInt16 := 0x0002
def kStartupDelayMs : UInt32 := 1500

/-! ## The wire format -/

/-- Two's complement of the 16-bit sum of bytes 1..6. -/
def checksum (addressed : List UInt8) : UInt16 :=
  0 - (addressed.map UInt8.toUInt16).sum

/-- The packet `sendCommand` builds. -/
def packet (cmd : UInt8) (param : UInt16) : List UInt8 :=
  let addressed : List UInt8 := [0xFF, 0x06, cmd, 0x00, (param >>> 8).toUInt8, param.toUInt8]
  let sum := checksum addressed
  0x7E :: addressed ++ [(sum >>> 8).toUInt8, sum.toUInt8, 0xEF]

def sendCommand (cmd : UInt8) (param : UInt16) (a : AudioPlayer) : AudioPlayer :=
  { a with serial := a.serial ++ [packet cmd param] }

/-! ## Start-up -/

/-- The one-time set-up, once the module has had time to boot. -/
def ensureInitialized (now : UInt32) (a : AudioPlayer) : AudioPlayer :=
  if a.sInitSent || !WrappingClock.reached now a.sReadyAtMs then
    a
  else
    -- the source waits 50 ms between the two packets
    let a := sendCommand kCmdSelectDevice kDeviceSdCard a
    let a := sendCommand kCmdSetVolume a.sVolume.toUInt16 a
    { a with sInitSent := true }

def begin (now : UInt32) (busyGpio : Option ℕ) (a : AudioPlayer) : AudioPlayer :=
  { a with sReadyAtMs := now + kStartupDelayMs, sInitSent := false, sBusyGpio := busyGpio }

/-! ## Volume -/

def setVolume (now : UInt32) (volume : UInt8) (a : AudioPlayer) : AudioPlayer :=
  let volume := if volume > 30 then 30 else volume
  let a := ensureInitialized now { a with sVolume := volume }
  -- before the set-up the volume waits, and the set-up sends it
  if a.sInitSent then sendCommand kCmdSetVolume a.sVolume.toUInt16 a else a

def volume (a : AudioPlayer) : UInt8 := a.sVolume

/-! ## Playing -/

def currentTrack (a : AudioPlayer) : UInt16 := a.sCurrentTrack

/-- `AUDIO_TRACK_COUNT`, or 0 where the board does not define it. -/
def trackCount (b : Board) : UInt16 := b.audioTrackCount.getD 0

def play (now : UInt32) (track : UInt16) (a : AudioPlayer) : AudioPlayer :=
  let a := ensureInitialized now a
  sendCommand kCmdPlayMp3Folder track
    { a with sCurrentTrack := track, sLastPlayCommandMs := now, sHasPlayed := true }

def playNext (b : Board) (now : UInt32) (a : AudioPlayer) : AudioPlayer :=
  let count := trackCount b
  -- tracks count from 1, so the last one wraps to the first
  if count = 0 then a else play now (a.sCurrentTrack % count + 1) a

def playPrevious (b : Board) (now : UInt32) (a : AudioPlayer) : AudioPlayer :=
  let count := trackCount b
  if count = 0 then a
  else play now (if a.sCurrentTrack ≤ 1 then count else a.sCurrentTrack - 1) a

def replay (b : Board) (now : UInt32) (a : AudioPlayer) : AudioPlayer :=
  if trackCount b = 0 then a
  else play now (if a.sCurrentTrack = 0 then 1 else a.sCurrentTrack) a

def stop (a : AudioPlayer) : AudioPlayer := sendCommand kCmdStop 0 a

/-! ## What the eyes read -/

/-- BUSY is active low; an unwired pin never reads as playing. -/
def isPlaying (busyLow : Bool) (a : AudioPlayer) : Bool := a.sBusyGpio.isSome && busyLow

def sinceLastPlayCommand (now : UInt32) (a : AudioPlayer) : UInt32 :=
  if a.sHasPlayed then now - a.sLastPlayCommandMs else 0xFFFFFFFF

end AudioPlayer

end K2soHead
