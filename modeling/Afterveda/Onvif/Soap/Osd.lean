import Afterveda.Onvif.MediaModel
import Afterveda.Onvif.Soap.Schema

/-!
# The OSD operations

`soap/soap_osd_service.cpp`: the one on-screen text of rail-media as an ONVIF object with the token
`osd-main`, which exists while the text is enabled.
-/

namespace Afterveda.Onvif.Soap

open CText

def kOsdToken : Bytes := bytes "osd-main"

/-! ### Checks -/

/-- The common part of the two token checks: a missing token is a fault of its own. -/
def validateToken (token : Option CStr) (expected missing : Bytes) : Service Unit :=
  if stringValue token = [] then .fail (soapSenderFault missing)
  else if stringValue token ≠ expected then .fail (invalidTokenFault (stringValue token))
  else pure ()

def validateConfigurationToken (token : Option CStr) (required : Bool) : Service Unit :=
  if stringValue token = [] ∧ !required then pure ()
  else validateToken token kVideoSourceConfigToken (bytes "Missing ConfigurationToken")

def validateOsdToken (token : Option CStr) : Service Unit :=
  validateToken token kOsdToken (bytes "Missing OSDToken")

/-- Whether a pointer that is set holds another text. -/
def differs (value : Option CStr) (expected : Bytes) : Bool :=
  value.isSome && stringValue value ≠ expected

/-- The checks of an OSD of a request; the result is its text. -/
def validateOsdConfiguration (osd : OsdConfigurationRequest)
    (requireOsdToken requireConfigurationToken : Bool) : Service Bytes := do
  if requireOsdToken then validateOsdToken osd.token
  if requireConfigurationToken ∧ stringValue osd.videoSourceConfigurationToken = [] then
    Prog.fail (soapSenderFault (bytes "Missing VideoSourceConfigurationToken"))
  else if differs osd.videoSourceConfigurationToken kVideoSourceConfigToken then
    Prog.fail (invalidTokenFault (stringValue osd.videoSourceConfigurationToken))
  else if differs osd.type (bytes "Text") then
    Prog.fail (soapSenderFault (bytes "Only Text OSD is supported"))
  else
    match osd.textString with
    | some ⟨type, some plainText⟩ =>
      if differs type (bytes "Plain") then
        Prog.fail (soapSenderFault (bytes "Only Plain OSD text is supported"))
      else return plainText
    | _ => Prog.fail (soapSenderFault (bytes "Missing OSD PlainText"))

/-! ### Parts of answers -/

def fillOsd (settings : OsdSettings) : OsdConfiguration where
  token := kOsdToken
  videoSourceConfigurationToken := kVideoSourceConfigToken
  type := bytes "Text"
  positionType := bytes "UpperLeft"
  textType := bytes "Plain"
  plainText := cString settings.text

def fillOsdOptions : OsdConfigurationOptions where
  maximumNumberOfOsds :=
    { total := 1, image := none, plainText := some 1, date := none, time := none,
      dateAndTime := none }
  type := [bytes "Text"]
  positionOption := [bytes "UpperLeft"]
  textOptionType := [bytes "Plain"]

def setOsd (enabled : Bool) (text : Bytes) : Service Unit := do
  -- both settings are replaced, so what is read here does not matter
  let settings ← osdSettingsFromRail
  let error ← setOsdSettings { settings with enabled, text }
  checkError error

/-! ### Operations -/

def trtGetOsds (ctx : Context) (request : Option TrtGetOsds) :
    Service (List OsdConfiguration) := do
  authenticate ctx
  match request with
  | none => Prog.fail (soapSenderFault (bytes "Missing GetOSDs request"))
  | some request =>
    validateConfigurationToken request.configurationToken false
    let settings ← osdSettingsFromRail
    return if settings.enabled then [fillOsd settings] else []

def trtGetOsd (ctx : Context) (request : Option TrtGetOsd) : Service OsdConfiguration := do
  authenticate ctx
  match request with
  | none => Prog.fail (soapSenderFault (bytes "Missing GetOSD request"))
  | some request =>
    validateOsdToken request.osdToken
    let settings ← osdSettingsFromRail
    if settings.enabled then return fillOsd settings
    else Prog.fail (invalidTokenFault (stringValue request.osdToken))

def trtGetOsdOptions (ctx : Context) (request : Option TrtGetOsdOptions) :
    Service OsdConfigurationOptions := do
  authenticate ctx
  match request with
  | none => Prog.fail (soapSenderFault (bytes "Missing GetOSDOptions request"))
  | some request =>
    validateConfigurationToken request.configurationToken true
    return fillOsdOptions

def trtSetOsd (ctx : Context) (request : Option TrtSetOsd) : Service Unit := do
  authenticate ctx
  match request.bind TrtSetOsd.osd with
  | none => Prog.fail (soapSenderFault (bytes "Missing OSD configuration"))
  | some osd =>
    let plainText ← validateOsdConfiguration osd true false
    let current ← osdSettingsFromRail
    if current.enabled then setOsd true plainText
    else Prog.fail (invalidTokenFault (stringValue osd.token))

def trtCreateOsd (ctx : Context) (request : Option TrtCreateOsd) : Service Bytes := do
  authenticate ctx
  match request.bind TrtCreateOsd.osd with
  | none => Prog.fail (soapSenderFault (bytes "Missing OSD configuration"))
  | some osd =>
    let plainText ← validateOsdConfiguration osd false true
    let current ← osdSettingsFromRail
    if current.enabled then Prog.fail (soapSenderFault (bytes "Maximum number of OSDs reached"))
    else
      setOsd true plainText
      return kOsdToken

def trtDeleteOsd (ctx : Context) (request : Option TrtDeleteOsd) : Service Unit := do
  authenticate ctx
  match request with
  | none => Prog.fail (soapSenderFault (bytes "Missing DeleteOSD request"))
  | some request =>
    validateOsdToken request.osdToken
    let current ← osdSettingsFromRail
    -- a deleted OSD is one that is switched off; its text is kept
    if current.enabled then setOsd false current.text
    else Prog.fail (invalidTokenFault (stringValue request.osdToken))

end Afterveda.Onvif.Soap
