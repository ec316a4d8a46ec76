import Afterveda.Lib.Calendar
import Afterveda.Onvif.MediaModel
import Afterveda.Onvif.Soap.Schema

/-!
# The PTZ service

`soap/soap_ptz_service.cpp`: one node with pan and tilt, no zoom, and the single preset `home`.  The
commands themselves are calls (`Onvif.Host`); here are their checks, the parsing of a timeout and
the answers.  Coordinates of a response are exact, without their rounding to a `float`.
-/

namespace Afterveda.Onvif.Soap

open CText CNumber Calendar

def kPanTiltVelocitySpace : Bytes :=
  bytes "http://www.onvif.org/ver10/tptz/PanTiltSpaces/VelocityGenericSpace"
def kPanTiltTranslationSpace : Bytes :=
  bytes "http://www.onvif.org/ver10/tptz/PanTiltSpaces/TranslationGenericSpace"

/-! ### Parts of answers -/

def fillSpace2d (uri : Bytes) : Space2DDescription where
  uri := uri
  xRange := ⟨.finite (-1), .finite 1⟩
  yRange := ⟨.finite (-1), .finite 1⟩

def fillPtzSpaces : PtzSpaces where
  continuousPanTiltVelocitySpace := [fillSpace2d kPanTiltVelocitySpace]
  relativePanTiltTranslationSpace := [fillSpace2d kPanTiltTranslationSpace]

def fillPtzNode : PtzNode where
  token := bytes "ptz-node"
  name := bytes "PanTilt"
  supportedPtzSpaces := fillPtzSpaces
  maximumNumberOfPresets := 1
  homeSupported := true

def fillPtzConfiguration : PtzConfiguration where
  token := bytes "ptz"
  name := bytes "PanTilt"
  useCount := 1
  nodeToken := bytes "ptz-node"
  defaultContinuousPanTiltVelocitySpace := kPanTiltVelocitySpace
  defaultRelativePanTiltTranslationSpace := kPanTiltTranslationSpace
  defaultPtzTimeout := bytes "PT1S"

def fillPtzConfigurationOptions : PtzConfigurationOptions where
  spaces := fillPtzSpaces
  ptzTimeoutMin := bytes "PT0.1S"
  ptzTimeoutMax := bytes "PT1H"

def fillPtzPresetsResponse : List PtzPreset := [⟨bytes "home", bytes "Home"⟩]

/-- `now` is the answer of the clock to `now_utc`. -/
def fillPtzStatusResponse (now : ℤ) (status : Ptz.PtzStatus) : PtzStatusResponse where
  position :=
    { panTilt := some
        ⟨Ptz.ptzPanToOnvif status.position.pan, Ptz.ptzTiltToOnvif status.position.tilt⟩
      zoom := none }
  moveStatus :=
    { panTilt :=
        if status.panSpeed ≠ 0 ∨ status.tiltSpeed ≠ 0 then bytes "MOVING" else bytes "IDLE"
      zoom := none }
  utcTime := formatUtc (gmtime now)

/-! ### Checks -/

def isSupportedPresetToken (token : Bytes) : Bool := token = bytes "home"

def typedZoomRequested (zoom : Option Double) : Bool :=
  match zoom with
  | none => false
  | some x => x.fabs.gt (1 / 1000000)

def kZoomFault : Fault := soapSenderFault (bytes "Zoom is not supported by this device")

/-- A speed, a velocity or a translation must not ask for zoom. -/
def refuseZoom (vector : Option PtzVector) : Service Unit :=
  if typedZoomRequested (vector.bind PtzVector.zoom) then .fail kZoomFault else pure ()

/-- The seconds that a unit stands for. -/
def unitSeconds (unit : UInt8) : Option ℤ :=
  if unit = 72 then some 3600
  else if unit = 77 then some 60
  else if unit = 83 then some 1
  else none

/-- The loop of `parse_ptz_timeout_ms`.  Every turn reads a number and its unit, so a fuel of the
length of the text does not run out. -/
def sumDuration : ℕ → Bytes → Double → Option Double
  | _, [], seconds => some seconds
  | 0, _, _ => none
  | fuel + 1, cursor, seconds =>
    match strtod cursor with
    | some (amount, unit :: rest) =>
      if strtodRange cursor ∨ amount.lt 0 then none
      else
        match unitSeconds unit with
        | none => none
        | some size => sumDuration fuel rest (seconds.add (amount.scale size))
    | _ => none

/-- `parse_ptz_timeout_ms`: `none` for a text that it does not accept. -/
def parsePtzTimeoutMs (libm : Libm) (value : Option CStr) : Option ℤ :=
  let duration := stringValue value
  if duration = [] then some 1000
  else if ¬bytes "PT" <+: duration ∨ duration.length ≤ 2 then none
  else
    match sumDuration duration.length (duration.drop 2) (.finite 0) with
    | none => none
    | some seconds =>
      if seconds.le 0 ∨ seconds.gt 3600 then none
      else
        let timeoutMs := wrap32 (lround libm (seconds.scale 1000))
        if 0 < timeoutMs then some timeoutMs else none

def validateProfileToken (ctx : Context) (value : Option CStr) : Service Unit := do
  let token := stringValue value
  if token = [] then Prog.fail (soapSenderFault (bytes "Missing ProfileToken"))
  else
    let model ← mediaModelFromConfig ctx.config
    if !hasProfileToken model token then Prog.fail (invalidTokenFault token) else return ()

/-- The common part of the checks of the node and of the configuration. -/
def requireToken (value : Option CStr) (expected : Bytes) : Service Unit :=
  if stringValue value ≠ expected then .fail (invalidTokenFault (stringValue value)) else pure ()

def validateNodeToken (value : Option CStr) : Service Unit := requireToken value (bytes "ptz-node")

def validatePtzConfigurationToken (value : Option CStr) : Service Unit :=
  requireToken value (bytes "ptz")

/-! ### Operations -/

/-- The one operation of the server that does not authenticate. -/
def tptzGetServiceCapabilities : Service PtzServiceCapabilities :=
  return { eFlip := false, reverse := false, getCompatibleConfigurations := false,
           moveStatus := true, statusPosition := true }

def tptzGetNodes (ctx : Context) : Service (List PtzNode) := do
  authenticate ctx
  return [fillPtzNode]

def tptzGetNode (ctx : Context) (request : Option TptzGetNode) : Service PtzNode := do
  authenticate ctx
  validateNodeToken (request.bind TptzGetNode.nodeToken)
  return fillPtzNode

def tptzGetConfigurations (ctx : Context) : Service (List PtzConfiguration) := do
  authenticate ctx
  return [fillPtzConfiguration]

def tptzGetConfiguration (ctx : Context) (request : Option TptzGetConfiguration) :
    Service PtzConfiguration := do
  authenticate ctx
  validatePtzConfigurationToken (request.bind TptzGetConfiguration.ptzConfigurationToken)
  return fillPtzConfiguration

def tptzGetConfigurationOptions (ctx : Context) (request : Option TptzGetConfigurationOptions) :
    Service PtzConfigurationOptions := do
  authenticate ctx
  validatePtzConfigurationToken (request.bind TptzGetConfigurationOptions.configurationToken)
  return fillPtzConfigurationOptions

def tptzGetPresets (ctx : Context) (request : Option TptzProfileRequest) :
    Service (List PtzPreset) := do
  authenticate ctx
  validateProfileToken ctx (request.bind TptzProfileRequest.profileToken)
  return fillPtzPresetsResponse

def tptzSetPreset (ctx : Context) (request : Option TptzSetPreset) : Service Bytes := do
  authenticate ctx
  validateProfileToken ctx (request.bind TptzSetPreset.profileToken)
  let token := stringValue (request.bind TptzSetPreset.presetToken)
  if token ≠ [] ∧ !isSupportedPresetToken token then Prog.fail (invalidTokenFault token)
  else
    let fault ← Prog.perform Call.setHomePtzFromCurrent
    checkError fault
    return bytes "home"

def tptzGotoPreset (ctx : Context) (request : Option TptzGotoPreset) : Service Unit := do
  authenticate ctx
  validateProfileToken ctx (request.bind TptzGotoPreset.profileToken)
  let token := stringValue (request.bind TptzGotoPreset.presetToken)
  if !isSupportedPresetToken token then Prog.fail (invalidTokenFault token)
  else
    refuseZoom (request.bind TptzGotoPreset.speed)
    let fault ← Prog.perform Call.homePtz
    checkError fault

def tptzGetStatus (ctx : Context) (request : Option TptzProfileRequest) :
    Service PtzStatusResponse := do
  authenticate ctx
  validateProfileToken ctx (request.bind TptzProfileRequest.profileToken)
  match ← Prog.perform Call.readPtzStatus with
  | .error fault => Prog.fail (soapSenderFault fault)
  | .ok status =>
    let now ← Prog.perform Call.time
    return fillPtzStatusResponse now status

def tptzSetHomePosition (ctx : Context) (request : Option TptzProfileRequest) : Service Unit := do
  authenticate ctx
  validateProfileToken ctx (request.bind TptzProfileRequest.profileToken)
  let fault ← Prog.perform Call.setHomePtzFromCurrent
  checkError fault

def tptzGotoHomePosition (ctx : Context) (request : Option TptzGotoHomePosition) :
    Service Unit := do
  authenticate ctx
  validateProfileToken ctx (request.bind TptzGotoHomePosition.profileToken)
  refuseZoom (request.bind TptzGotoHomePosition.speed)
  let fault ← Prog.perform Call.homePtz
  checkError fault

def tptzStop (ctx : Context) (request : Option TptzStop) : Service Unit := do
  authenticate ctx
  validateProfileToken ctx (request.bind TptzStop.profileToken)
  if (request.bind TptzStop.panTilt).getD true then
    let fault ← Prog.perform Call.stopPtz
    checkError fault

def tptzContinuousMove (libm : Libm) (ctx : Context) (request : Option TptzContinuousMove) :
    Service Unit := do
  authenticate ctx
  validateProfileToken ctx (request.bind TptzContinuousMove.profileToken)
  refuseZoom (request.bind TptzContinuousMove.velocity)
  match (request.bind TptzContinuousMove.velocity).bind PtzVector.panTilt with
  | none => Prog.fail (soapSenderFault (bytes "Missing pan/tilt velocity"))
  | some velocity =>
    match parsePtzTimeoutMs libm (request.bind TptzContinuousMove.timeout) with
    | none =>
      Prog.fail <| soapSenderFault <| bytes
        "Invalid PTZ Timeout; expected an ISO 8601 duration greater than PT0S and no more than PT1H"
    | some timeoutMs =>
      let fault ← Prog.perform (Call.continuousMovePtz velocity.x velocity.y timeoutMs)
      checkError fault

def tptzRelativeMove (ctx : Context) (request : Option TptzRelativeMove) : Service Unit := do
  authenticate ctx
  validateProfileToken ctx (request.bind TptzRelativeMove.profileToken)
  refuseZoom (request.bind TptzRelativeMove.translation)
  match (request.bind TptzRelativeMove.translation).bind PtzVector.panTilt with
  | none => Prog.fail (soapSenderFault (bytes "Missing pan/tilt translation"))
  | some translation =>
    let fault ← Prog.perform (Call.relativeMovePtz translation.x translation.y)
    checkError fault

end Afterveda.Onvif.Soap
