import Afterveda.Onvif.MediaModel
import Afterveda.Onvif.Soap.Schema

/-!
# The imaging service

`soap/soap_imaging_service.cpp`: brightness, contrast and saturation, each in the range 0..100.  A
`float` is taken as its exact value.
-/

namespace Afterveda.Onvif.Soap

open CText CNumber

def validateVideoSourceToken (token : Option CStr) : Service Unit :=
  if stringValue token = [] then .fail (soapSenderFault (bytes "Missing VideoSourceToken"))
  else if stringValue token ≠ kVideoSourceToken then .fail (invalidTokenFault (stringValue token))
  else pure ()

def validSetting (value : Option Double) : Bool :=
  match value with
  | none => true
  | some value => value.isFinite && value.ge 0 && value.le 100

/-- A setting that is given must be valid. -/
def requireSetting (value : Option Double) (invalid : Bytes) : Service Unit :=
  if validSetting value then pure () else .fail (soapSenderFault invalid)

def fillSettingsResponse (settings : ImageSettings) : ImagingSettings20 where
  brightness := some settings.brightness
  contrast := some settings.contrast
  colorSaturation := some settings.colorSaturation

def fillOptionsResponse : ImagingOptions20 where
  brightness := ⟨.finite 0, .finite 100⟩
  contrast := ⟨.finite 0, .finite 100⟩
  colorSaturation := ⟨.finite 0, .finite 100⟩

/-- The settings with those of a request changed that it gives. -/
def ImagingSettings20.over (input : ImagingSettings20) (settings : ImageSettings) :
    ImageSettings where
  brightness := input.brightness.getD settings.brightness
  contrast := input.contrast.getD settings.contrast
  colorSaturation := input.colorSaturation.getD settings.colorSaturation

/-! ### Operations -/

def timgGetOptions (ctx : Context) (request : Option TimgRequest) : Service ImagingOptions20 := do
  authenticate ctx
  match request with
  | none => Prog.fail (soapSenderFault (bytes "Missing GetOptions request"))
  | some request =>
    validateVideoSourceToken request.videoSourceToken
    return fillOptionsResponse

def timgGetImagingSettings (precision : Precision) (ctx : Context)
    (request : Option TimgRequest) : Service ImagingSettings20 := do
  authenticate ctx
  match request with
  | none => Prog.fail (soapSenderFault (bytes "Missing GetImagingSettings request"))
  | some request =>
    validateVideoSourceToken request.videoSourceToken
    let settings ← imagingSettingsFromRail precision
    return fillSettingsResponse settings

def timgSetImagingSettings (precision : Precision) (ctx : Context)
    (request : Option TimgSetImagingSettings) : Service Unit := do
  authenticate ctx
  match request with
  | none => Prog.fail (soapSenderFault (bytes "Missing SetImagingSettings request"))
  | some request =>
    validateVideoSourceToken request.videoSourceToken
    match request.imagingSettings with
    | none => Prog.fail (soapSenderFault (bytes "Missing ImagingSettings"))
    | some input =>
      requireSetting input.brightness (bytes "Invalid Brightness value")
      requireSetting input.contrast (bytes "Invalid Contrast value")
      requireSetting input.colorSaturation (bytes "Invalid ColorSaturation value")
      if input.brightness.isNone ∧ input.contrast.isNone ∧ input.colorSaturation.isNone then
        Prog.fail (soapSenderFault (bytes "No supported imaging settings were provided"))
      else
        -- the settings that are not given are sent back as they were read
        let settings ← imagingSettingsFromRail precision
        let fault ← setImagingSettings (input.over settings)
        checkError fault

def timgGetServiceCapabilities (ctx : Context) : Service ImagingServiceCapabilities := do
  authenticate ctx
  return { imageStabilization := false, presets := false }

end Afterveda.Onvif.Soap
