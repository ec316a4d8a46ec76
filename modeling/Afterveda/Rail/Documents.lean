import Afterveda.Lib.RealText
import Afterveda.Rail.Config

/-!
# What the control API answers with

The JSON texts `control_server.cpp` builds by hand.
-/

namespace Afterveda.Rail

open CText CNumber

def jsonEscape (value : Bytes) : Bytes := backslashEscape value

/-- `{"error":"..."}` -/
def errorJson (message : Bytes) : Bytes :=
  bytes "\x7b\"error\":\"" ++ jsonEscape message ++ bytes "\"\x7d\n"

def profileJson (config : Config) : Bytes :=
  bytes "\x7b\n  \"profile\": \"" ++ (jsonEscape config.profile ++
    (bytes "\",\n  \"width\": " ++ (toDecimal config.width ++
    (bytes ",\n  \"height\": " ++ (toDecimal config.height ++
    (bytes ",\n  \"fps\": " ++ (toDecimal config.fps ++
    (bytes ",\n  \"bitrate_kbps\": " ++ (toDecimal config.bitrateKbps ++
    (bytes ",\n  \"encoder\": \"" ++ (jsonEscape config.encoder ++ bytes "\"\n\x7d\n")))))))))))

def profilesJson (config : Config) : Bytes :=
  let profile := profileJson config
  let profile := if profile.getLast? = some 10 then profile.dropLast else profile
  bytes "[\n  " ++ profile ++ bytes "\n]\n"

/-- One preset in the list of presets. -/
def presetJson (profile : Profile) : Bytes :=
  bytes "  \x7b\"profile\":\"" ++ profile.name ++ bytes "\",\"quality\":\"" ++ profile.quality ++
    bytes "\",\"width\":" ++ toDecimal profile.width ++
    bytes ",\"height\":" ++ toDecimal profile.height ++
    bytes ",\"fps\":" ++ toDecimal profile.fps ++
    bytes ",\"bitrate_kbps\":" ++ toDecimal profile.bitrateKbps ++
    bytes ",\"encoder\":\"" ++ profile.encoder ++ bytes "\"\x7d"

def presetsJson : Bytes :=
  bytes "[\n" ++ (bytes ",\n").intercalate (kProfiles.map presetJson) ++ bytes "\n]\n"

def imagingJson (config : Config) : Bytes :=
  bytes "\x7b\"brightness\":" ++ (formatDouble config.brightness ++
    (bytes ",\"contrast\":" ++ (formatDouble config.contrast ++
    (bytes ",\"color_saturation\":" ++ (formatDouble config.colorSaturation ++ bytes "\x7d\n")))))

def osdJson (config : Config) : Bytes :=
  bytes "\x7b\n  \"enabled\": " ++ ((if config.osdEnabled then bytes "true" else bytes "false") ++
    (bytes ",\n  \"text\": \"" ++ (jsonEscape config.osdText ++ bytes "\"\n\x7d\n")))

end Afterveda.Rail
