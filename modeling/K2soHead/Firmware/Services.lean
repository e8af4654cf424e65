/-!
# The radio: `WebUI`, `OtaService` and Bluetooth scanning

The running flags of the two services and every call that changes what the shared radio
does, oldest first.  The outcome of `WiFi.softAP` is an input.
-/

namespace K2soHead

def kApSsid : String := "k2so-esp32"
def kApPassword : String := "ledparty1"
def kHostname : String := "k2so-head"

/-- A call into Bluepad32, the WiFi stack or ArduinoOTA. -/
inductive RadioCall where
  | enableNewBluetoothConnections (enabled : Bool)
  /-- `WiFi.mode(WIFI_AP)` or `WiFi.mode(WIFI_OFF)` -/
  | wifiMode (ap : Bool)
  /-- `WiFi.softAP`, with what it returned -/
  | softAP (ssid password : String) (up : Bool)
  | serverBegin
  | serverStop
  | softAPdisconnect
  | otaBegin (hostname : String)
  | otaEnd
  deriving DecidableEq

/-- `sRunning` of `web_ui.cpp` and of `ota_service.cpp`, with the radio calls so far. -/
structure Services where
  webRunning : Bool := false
  otaRunning : Bool := false
  radio : List RadioCall := []
  deriving DecidableEq

def Services.emit (calls : List RadioCall) (s : Services) : Services :=
  { s with radio := s.radio ++ calls }

/-- `GamepadInput::setDiscoverable` -/
def GamepadInput.setDiscoverable (enabled : Bool) (s : Services) : Services :=
  s.emit [.enableNewBluetoothConnections enabled]

namespace WebUI

def start (softAP : Bool) (s : Services) : Services :=
  if s.webRunning then
    s
  else
    let s := s.emit [.wifiMode true, .softAP kApSsid kApPassword softAP]
    if !softAP then
      -- WiFi must not be left in AP mode without an access point
      s.emit [.wifiMode false]
    else
      { s.emit [.serverBegin] with webRunning := true }

def stop (s : Services) : Services :=
  if !s.webRunning then
    s
  else
    { s.emit [.serverStop, .softAPdisconnect, .wifiMode false] with webRunning := false }

end WebUI

namespace OtaService

def begin (s : Services) : Services :=
  if s.otaRunning then s else { s.emit [.otaBegin kHostname] with otaRunning := true }

def stop (s : Services) : Services :=
  if !s.otaRunning then s else { s.emit [.otaEnd] with otaRunning := false }

end OtaService

end K2soHead
