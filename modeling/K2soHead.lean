import K2soHead.Library.Runs
import K2soHead.Firmware.Sketch
import K2soHead.Library.Loops
import K2soHead.Properties.LedStrips
import K2soHead.Properties.AppliedBrightness
import K2soHead.Properties.PadTracking
import K2soHead.Properties.AccentColor
import K2soHead.Properties.LoopFrames
import K2soHead.Properties.RadioOwner
import K2soHead.Properties.EyeTicks
import K2soHead.Properties.EyeRuns
import K2soHead.Properties.IdleHandOver
import K2soHead.Properties.EyeLevel
import K2soHead.Properties.PixelIndex
import K2soHead.Properties.IdleParking
import K2soHead.Properties.Sessions
import K2soHead.Library.Erasure
import K2soHead.Properties.PixelErasure
import K2soHead.Properties.BlindTick
import K2soHead.Properties.Frames
import K2soHead.Library.Logs
import K2soHead.Properties.PlayerPackets
import K2soHead.Properties.PlayerSetup
import K2soHead.Library.Rounds
import K2soHead.Properties.TrackCursor
import K2soHead.Properties.PadFreshness
import K2soHead.Library.Envelope
import K2soHead.Properties.EyeGaze
import K2soHead.Properties.AnalogMaps
import K2soHead.Properties.ServoEnvelope
import K2soHead.Properties.TrimRequests
import K2soHead.Library.Timers
import K2soHead.Properties.IdlePacing
import K2soHead.Properties.TickLevels
import K2soHead.Properties.SpeechOrder
import K2soHead.Properties.BlinkRamp
import K2soHead.Firmware.WiiParser
import K2soHead.Properties.AnalogRanges
import K2soHead.Library.Hex
import K2soHead.Properties.ColorRequest
import K2soHead.Library.Checksums
import K2soHead.Properties.PacketCodec
import K2soHead.Library.RaggedRows
import K2soHead.Properties.FlatPixels
import K2soHead.Library.Sweeps
import K2soHead.Properties.MovingPatterns
import K2soHead.Properties.AdminFlash
import K2soHead.Library.Latches
import K2soHead.Properties.FailedUploads
import K2soHead.Properties.ButtonStates
import K2soHead.Properties.LightsSwitch
import K2soHead.Library.Presses
import K2soHead.Properties.ButtonCalls
import K2soHead.Properties.AdminHold
import K2soHead.Properties.TickColours
import K2soHead.Properties.YClicks
import K2soHead.Properties.VolumeRamp
import K2soHead.Library.Seating
import K2soHead.Firmware.ArduinoPlatform
import K2soHead.Firmware.Bluepad32
import K2soHead.Properties.PlatformSeats
import K2soHead.Properties.PadCallbacks
import K2soHead.Properties.PadUpdates
import K2soHead.Properties.PadMail
import K2soHead.Properties.PadReports
import K2soHead.Properties.PadRequests
import K2soHead.Firmware.CircularBuffer
import K2soHead.Firmware.OutgoingReports
import K2soHead.Properties.ReportQueue
import K2soHead.Library.Records
import K2soHead.Library.Slots
import K2soHead.Firmware.Allowlist
import K2soHead.Properties.AllowlistText
import K2soHead.Properties.AllowlistReboot
import K2soHead.Library.Crc
import K2soHead.Firmware.Rumble
import K2soHead.Firmware.SonyReports
import K2soHead.Firmware.SwitchRumble
import K2soHead.Firmware.RumbleDrivers
import K2soHead.Library.Faults
import K2soHead.Properties.RumbleRuns
import K2soHead.Properties.RumblePads
import K2soHead.Properties.ReportChecks
