import Afterveda.Lib.Binary64
import Afterveda.Onvif.Host

/-!
# The client of rail-media

The records of `core/types.h` and the functions of `network/rail_client.cpp`: settings are read out
of rail-media's documents by scanning for a marker, and sent back in bodies built by hand.
-/

namespace Afterveda.Onvif

open CText CNumber

/-! ### Settings -/

structure VideoProfile where
  token : Bytes := []
  name : Bytes := []
  width : ℤ := 1280
  height : ℤ := 720
  fps : ℤ := 30
  bitrateKbps : ℤ := 2500
  deriving DecidableEq

structure ImageSettings where
  brightness : Double := .finite 50
  contrast : Double := .finite 50
  colorSaturation : Double := .finite 50
  deriving DecidableEq

structure OsdSettings where
  enabled : Bool := true
  text : Bytes := bytes "Afterveda"
  deriving DecidableEq

/-! ### Reading documents -/

/-- `"\"" + key + "\":"` -/
def jsonMarker (key : Bytes) : Bytes := 34 :: key ++ bytes "\":"

/-- The text after the first marker of a key. -/
def afterMarker (json key : Bytes) : Option Bytes :=
  (find json (jsonMarker key)).map fun pos => json.drop (pos + (jsonMarker key).length)

def jsonInt (json key : Bytes) (fallback : ℤ) : ℤ :=
  match (afterMarker json key).bind strtol with
  | none => fallback
  | some (value, _) => wrap32 value

def jsonDouble (precision : Precision) (json key : Bytes) (fallback : Double) : Double :=
  match (afterMarker json key).bind strtod with
  | none => fallback
  | some (value, _) => precision.nearest value

/-- A byte of `" \t\r\n"`. -/
def isJsonSpace (c : UInt8) : Bool := c = 32 || c = 9 || c = 13 || c = 10

def jsonBool (json key : Bytes) (fallback : Bool) : Bool :=
  match afterMarker json key with
  | none => fallback
  | some rest =>
    let rest := rest.dropWhile isJsonSpace
    if bytes "true" <+: rest then true
    else if bytes "false" <+: rest then false
    else fallback

def jsonString (json key fallback : Bytes) : Bytes :=
  match afterMarker json key with
  | none => fallback
  | some rest =>
    match find rest [34] with
    | none => fallback
    | some start =>
      match readQuoted (rest.drop (start + 1)) with
      | none => fallback
      | some (value, _) => value

def jsonEscape (value : Bytes) : Bytes := backslashEscape value

/-! ### Requests -/

/-- `http_request_with_status`. -/
def httpRequestWithStatus (method path body : Bytes) : Service (Option RailHttpResponse) :=
  .perform (Call.http method path body)

/-- The response is one of success. -/
def RailHttpResponse.ok (response : RailHttpResponse) : Bool :=
  200 ≤ response.status && response.status < 300

/-- `http_request`: the body of a successful response. -/
def httpRequest (method path : Bytes) : Service (Option Bytes) := do
  let response ← httpRequestWithStatus method path []
  return (response.filter RailHttpResponse.ok).map RailHttpResponse.body

/-- The error text of a setter: what it reports when there is no answer, and when the answer is a
failure without a body. -/
def setterError (unavailable rejected : Bytes) (response : Option RailHttpResponse) : Bytes :=
  match response with
  | none => unavailable
  | some response =>
    if response.ok then [] else if response.body = [] then rejected else response.body

def defaultProfiles : List VideoProfile :=
  [{ token := bytes "main", name := bytes "main", width := 1280, height := 720, fps := 30,
     bitrateKbps := 2500 }]

/-- The profile with what a document of rail-media says of it. -/
def VideoProfile.read (profile : VideoProfile) (current : Bytes) : VideoProfile :=
  { profile with
    width := jsonInt current (bytes "width") profile.width
    height := jsonInt current (bytes "height") profile.height
    fps := jsonInt current (bytes "fps") profile.fps
    bitrateKbps := jsonInt current (bytes "bitrate_kbps") profile.bitrateKbps }

def profilesFromRail : Service (List VideoProfile) := do
  match ← httpRequest (bytes "GET") (bytes "/profile") with
  -- without an answer the built-in settings stand for the current ones
  | none => return defaultProfiles
  | some current => return defaultProfiles.modifyHead (·.read current)

/-- The body `set_video_config` posts. -/
def videoConfigBody (profile : VideoProfile) : Bytes :=
  bytes "\x7b\"width\":" ++ toDecimal profile.width ++
    bytes ",\"height\":" ++ toDecimal profile.height ++
    bytes ",\"fps\":" ++ toDecimal profile.fps ++
    bytes ",\"bitrate_kbps\":" ++ toDecimal profile.bitrateKbps ++ bytes "\x7d"

def setVideoConfig (profile : VideoProfile) : Service Bytes := do
  let response ← httpRequestWithStatus (bytes "POST") (bytes "/config") (videoConfigBody profile)
  return setterError (bytes "rail-media video config control is unavailable")
    (bytes "rail-media rejected video config") response

/-- The settings with what a document of rail-media says of them. -/
def ImageSettings.read (settings : ImageSettings) (precision : Precision) (current : Bytes) :
    ImageSettings where
  brightness := jsonDouble precision current (bytes "brightness") settings.brightness
  contrast := jsonDouble precision current (bytes "contrast") settings.contrast
  colorSaturation :=
    jsonDouble precision current (bytes "color_saturation") settings.colorSaturation

def imagingSettingsFromRail (precision : Precision) : Service ImageSettings := do
  match ← httpRequest (bytes "GET") (bytes "/imaging") with
  | none => return {}
  | some current => return ({} : ImageSettings).read precision current

/-- The body `set_imaging_settings` posts. -/
def imagingBody (settings : ImageSettings) : Bytes :=
  bytes "\x7b\"brightness\":" ++ formatDouble settings.brightness ++
    bytes ",\"contrast\":" ++ formatDouble settings.contrast ++
    bytes ",\"color_saturation\":" ++ formatDouble settings.colorSaturation ++ bytes "\x7d"

def setImagingSettings (settings : ImageSettings) : Service Bytes := do
  let response ← httpRequestWithStatus (bytes "POST") (bytes "/imaging") (imagingBody settings)
  return setterError (bytes "rail-media imaging control is unavailable")
    (bytes "rail-media rejected imaging settings") response

/-- The settings with what a document of rail-media says of them. -/
def OsdSettings.read (settings : OsdSettings) (current : Bytes) : OsdSettings where
  enabled := jsonBool current (bytes "enabled") settings.enabled
  text := jsonString current (bytes "text") settings.text

def osdSettingsFromRail : Service OsdSettings := do
  match ← httpRequest (bytes "GET") (bytes "/osd") with
  | none => return {}
  | some current => return ({} : OsdSettings).read current

/-- The body `set_osd_settings` posts. -/
def osdBody (settings : OsdSettings) : Bytes :=
  bytes "\x7b\"enabled\":" ++ (if settings.enabled then bytes "true" else bytes "false") ++
    bytes ",\"text\":\"" ++ jsonEscape settings.text ++ bytes "\"\x7d"

def setOsdSettings (settings : OsdSettings) : Service Bytes := do
  let response ← httpRequestWithStatus (bytes "POST") (bytes "/osd") (osdBody settings)
  return setterError (bytes "rail-media osd control is unavailable")
    (bytes "rail-media rejected osd settings") response

end Afterveda.Onvif
