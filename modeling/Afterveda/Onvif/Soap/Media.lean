import Afterveda.Onvif.MediaModel
import Afterveda.Onvif.Soap.Schema

/-!
# The media services

`soap/soap_media_service.cpp`: Media1 (`trt`) and Media2 (`tr2`).  Every answer about the stream is
made of the media model that rail-media's current profile gives, and
`SetVideoEncoderConfiguration` sends a new video configuration to rail-media.
-/

namespace Afterveda.Onvif.Soap

open CText CNumber

/-! ### What is supported -/

def kSupportedResolutions : List VideoResolution := [⟨640, 360⟩, ⟨1280, 720⟩, ⟨1920, 1080⟩]

def kSupportedFrameRate : ℤ := 30
def kMinBitrateKbps : ℤ := 800
def kMaxBitrateKbps : ℤ := 5000
def kVideoQuality : Double := .finite 4

def media1StreamSetupSupported (request : Option TrtGetStreamUri) : Bool :=
  match request.bind TrtGetStreamUri.streamSetup with
  | some ⟨stream, some protocol⟩ =>
    stringValue stream = bytes "RTP-Unicast" &&
      (stringValue protocol = bytes "RTSP" || stringValue protocol = bytes "TCP")
  | _ => false

def media2ProtocolSupported (protocol : Option CStr) : Bool := stringValue protocol = bytes "RTSP"

def supportedResolution (width height : ℤ) : Bool :=
  kSupportedResolutions.any fun resolution => resolution.width = width && resolution.height = height

/-- `std::clamp`. -/
def clamp (value low high : ℤ) : ℤ :=
  if value < low then low else if high < value then high else value

def videoConfigFromEncoderRequest (model : MediaModel)
    (request : Option TrtSetVideoEncoderConfiguration) (token : Bytes) : Option VideoProfile :=
  match request.bind TrtSetVideoEncoderConfiguration.configuration with
  | none => none
  | some config =>
    let candidate := profileForToken model token
    if config.encoding.isSome ∧ stringValue config.encoding ≠ bytes "H264" then none
    else
      let candidate :=
        match config.resolution with
        | none => candidate
        | some resolution =>
          { candidate with width := resolution.width, height := resolution.height }
      let candidate :=
        match config.rateControl with
        | none => candidate
        | some rateControl =>
          -- only a requested bitrate is clamped, a current one stays as it is
          { candidate with
            fps := rateControl.frameRateLimit
            bitrateKbps := clamp rateControl.bitrateLimit kMinBitrateKbps kMaxBitrateKbps }
      if token = [] ∧ config.resolution.isNone ∧ config.rateControl.isNone then none
      -- these checks are on the merged candidate, so on kept values as well
      else if !supportedResolution candidate.width candidate.height ∨
          candidate.fps ≠ kSupportedFrameRate then none
      else some { candidate with token := bytes "main", name := bytes "main" }

def encoderRequestProfileToken (request : Option TrtSetVideoEncoderConfiguration) : Bytes :=
  match (request.bind TrtSetVideoEncoderConfiguration.configuration).bind
    EncoderConfigurationRequest.token with
  | none => []
  | some token => profileTokenFromEncoderToken token

/-! ### Parts of answers -/

def makeBounds (profile : VideoProfile) : IntRectangle := ⟨0, 0, profile.width, profile.height⟩

def makeMulticast : MulticastConfiguration where
  addressType := bytes "IPv4"
  ipv4Address := bytes "0.0.0.0"
  port := 0
  ttl := 1
  autoStart := false

def makeVideoSourceConfiguration (profile : VideoProfile) : VideoSourceConfiguration where
  token := kVideoSourceConfigToken
  name := bytes "PiCam"
  useCount := 1
  sourceToken := kVideoSourceToken
  bounds := makeBounds profile

def makeVideoEncoderConfiguration (profile : VideoProfile) : VideoEncoderConfiguration where
  token := cString (encoderTokenForProfile profile)
  name := cString (profile.name ++ bytes "-h264")
  useCount := 1
  encoding := bytes "H264"
  resolution := ⟨profile.width, profile.height⟩
  quality := kVideoQuality
  rateControl :=
    { frameRateLimit := profile.fps, encodingInterval := 1, bitrateLimit := profile.bitrateKbps }
  h264 := { govLength := wrap32 (profile.fps * 2), h264Profile := bytes "Main" }
  multicast := makeMulticast
  sessionTimeout := kMediaSessionTimeout

def makePtzConfiguration : PtzConfiguration where
  token := kPtzConfigToken
  name := bytes "PanTilt"
  useCount := 1
  nodeToken := bytes "ptz-node"
  defaultContinuousPanTiltVelocitySpace :=
    bytes "http://www.onvif.org/ver10/tptz/PanTiltSpaces/VelocityGenericSpace"
  defaultRelativePanTiltTranslationSpace :=
    bytes "http://www.onvif.org/ver10/tptz/PanTiltSpaces/TranslationGenericSpace"
  defaultPtzTimeout := bytes "PT1S"

def fillMedia1Profile (profile : VideoProfile) : Profile where
  token := cString profile.token
  fixed := false
  name := cString profile.name
  videoSourceConfiguration := makeVideoSourceConfiguration profile
  videoEncoderConfiguration := makeVideoEncoderConfiguration profile
  ptzConfiguration := makePtzConfiguration

def fillMedia1ProfilesResponse (model : MediaModel) : List Profile :=
  model.profiles.map fillMedia1Profile

def fillMedia1StreamUriResponse (model : MediaModel) : MediaUri where
  uri := cString model.rtspUri
  invalidAfterConnect := false
  invalidAfterReboot := false
  timeout := kMediaSessionTimeout

def fillMedia1VideoSourcesResponse (model : MediaModel) : List VideoSource :=
  let profile := profileForToken model (bytes "main")
  [{ token := kVideoSourceToken, framerate := .finite profile.fps,
     resolution := ⟨profile.width, profile.height⟩ }]

def fillMedia1VideoEncoderConfigurationsResponse (model : MediaModel) :
    List VideoEncoderConfiguration :=
  model.profiles.map makeVideoEncoderConfiguration

def fillMedia1ServiceCapabilitiesResponse : MediaServiceCapabilities where
  snapshotUri := false
  rotation := false
  videoSourceMode := false
  osd := true
  temporaryOsdText := false
  exiCompression := false

def fillMedia1VideoSourceConfigurationResponse (model : MediaModel) : VideoSourceConfiguration :=
  makeVideoSourceConfiguration (profileForToken model (bytes "main"))

def fillMedia1VideoSourceConfigurationsResponse (model : MediaModel) :
    List VideoSourceConfiguration :=
  [makeVideoSourceConfiguration (profileForToken model (bytes "main"))]

def fillMedia1VideoSourceConfigurationOptionsResponse (model : MediaModel) :
    VideoSourceConfigurationOptions :=
  let profile := profileForToken model (bytes "main")
  { xRange := ⟨0, 0⟩, yRange := ⟨0, 0⟩, widthRange := ⟨profile.width, profile.width⟩,
    heightRange := ⟨profile.height, profile.height⟩,
    videoSourceTokensAvailable := [kVideoSourceToken] }

def makeH264Options : H264Options where
  resolutionsAvailable := kSupportedResolutions
  govLengthRange := ⟨kSupportedFrameRate * 2, kSupportedFrameRate * 2⟩
  frameRateRange := ⟨kSupportedFrameRate, kSupportedFrameRate⟩
  encodingIntervalRange := ⟨1, 1⟩
  h264ProfilesSupported := [bytes "Main"]

def fillMedia1VideoEncoderConfigurationOptionsResponse : VideoEncoderConfigurationOptions where
  qualityRange := ⟨kVideoQuality, kVideoQuality⟩
  h264 := makeH264Options
  bitrateRange := ⟨kMinBitrateKbps, kMaxBitrateKbps⟩

def media2TypeRequested (request : Option Tr2GetProfiles) (type : Bytes) : Bool :=
  match request with
  | none => false
  | some request =>
    request.type.any fun requested =>
      stringValue requested = bytes "All" || stringValue requested = type

def fillMedia2Profile (profile : VideoProfile) (request : Option Tr2GetProfiles) : MediaProfile :=
  let includeVideoSource := media2TypeRequested request (bytes "VideoSource")
  let includeVideoEncoder := media2TypeRequested request (bytes "VideoEncoder")
  { token := cString profile.token, fixed := false, name := cString profile.name
    configurations :=
      if includeVideoSource || includeVideoEncoder then
        some
          { videoSource :=
              if includeVideoSource then some (makeVideoSourceConfiguration profile) else none
            videoEncoder :=
              if includeVideoEncoder then some (makeVideoEncoderConfiguration profile) else none }
      else none }

def fillMedia2ProfilesResponse (model : MediaModel) (request : Option Tr2GetProfiles) :
    List MediaProfile :=
  let requestedToken := stringValue (request.bind Tr2GetProfiles.token)
  let profiles :=
    if requestedToken = [] then model.profiles else [profileForToken model requestedToken]
  profiles.map (fillMedia2Profile · request)

def fillMedia2StreamUriResponse (model : MediaModel) : Bytes := cString model.rtspUri

def fillMedia2ServiceCapabilitiesResponse : MediaServiceCapabilities where
  snapshotUri := false
  rotation := false
  videoSourceMode := false
  osd := false
  temporaryOsdText := false
  exiCompression := false

/-! ### Checks -/

/-- A token that must be given and name the profile of the model. -/
def requireProfileToken (model : MediaModel) (token missing : Bytes) : Service Unit :=
  if token = [] then .fail (soapSenderFault missing)
  else if !hasProfileToken model token then .fail (invalidTokenFault token)
  else pure ()

/-- A token that, when given, must name the profile of the model. -/
def optionalProfileToken (model : MediaModel) (token : Bytes) : Service Unit :=
  if token ≠ [] ∧ !hasProfileToken model token then .fail (invalidTokenFault token) else pure ()

def kStreamFault : Fault :=
  soapSenderFault (bytes "Only RTP/RTSP/TCP unicast streaming is supported")

/-! ### Media1 operations -/

def trtGetProfiles (ctx : Context) : Service (List Profile) := do
  authenticate ctx
  let model ← mediaModelFromConfig ctx.config
  return fillMedia1ProfilesResponse model

def trtGetProfile (ctx : Context) (request : Option TrtGetProfile) : Service Profile := do
  authenticate ctx
  let model ← mediaModelFromConfig ctx.config
  let token := stringValue (request.bind TrtGetProfile.profileToken)
  requireProfileToken model token (bytes "Missing ProfileToken")
  return fillMedia1Profile (profileForToken model token)

def trtGetStreamUri (ctx : Context) (request : Option TrtGetStreamUri) : Service MediaUri := do
  authenticate ctx
  if !media1StreamSetupSupported request then Prog.fail kStreamFault
  else
    let model ← mediaModelFromConfig ctx.config
    let token := stringValue (request.bind TrtGetStreamUri.profileToken)
    requireProfileToken model token (bytes "Missing ProfileToken")
    return fillMedia1StreamUriResponse model

def trtGetVideoEncoderConfiguration (ctx : Context)
    (request : Option TrtGetVideoEncoderConfiguration) : Service VideoEncoderConfiguration := do
  authenticate ctx
  let model ← mediaModelFromConfig ctx.config
  let token := stringValue (request.bind TrtGetVideoEncoderConfiguration.configurationToken)
  requireProfileToken model token (bytes "Missing ConfigurationToken")
  return makeVideoEncoderConfiguration (profileForToken model token)

def trtSetVideoEncoderConfiguration (ctx : Context)
    (request : Option TrtSetVideoEncoderConfiguration) : Service Unit := do
  authenticate ctx
  let model ← mediaModelFromConfig ctx.config
  let token := encoderRequestProfileToken request
  requireProfileToken model token (bytes "Missing video encoder configuration token")
  match videoConfigFromEncoderRequest model request token with
  | none =>
    Prog.fail (soapSenderFault (bytes
      "Unsupported video encoder configuration; use H264, 640x360/1280x720/1920x1080, and 30 fps"))
  | some next =>
    let fault ← setVideoConfig next
    checkError fault

def trtGetServiceCapabilities (ctx : Context) : Service MediaServiceCapabilities := do
  authenticate ctx
  return fillMedia1ServiceCapabilitiesResponse

def trtGetVideoSources (ctx : Context) : Service (List VideoSource) := do
  authenticate ctx
  let model ← mediaModelFromConfig ctx.config
  return fillMedia1VideoSourcesResponse model

def trtGetVideoSourceConfigurations (ctx : Context) : Service (List VideoSourceConfiguration) := do
  authenticate ctx
  let model ← mediaModelFromConfig ctx.config
  return fillMedia1VideoSourceConfigurationsResponse model

def trtGetVideoSourceConfiguration (ctx : Context)
    (request : Option TrtGetVideoSourceConfiguration) : Service VideoSourceConfiguration := do
  authenticate ctx
  let token := stringValue (request.bind TrtGetVideoSourceConfiguration.configurationToken)
  if token = [] then Prog.fail (soapSenderFault (bytes "Missing ConfigurationToken"))
  else if token ≠ kVideoSourceConfigToken then Prog.fail (invalidTokenFault token)
  else
    let model ← mediaModelFromConfig ctx.config
    return fillMedia1VideoSourceConfigurationResponse model

def trtGetVideoEncoderConfigurations (ctx : Context) :
    Service (List VideoEncoderConfiguration) := do
  authenticate ctx
  let model ← mediaModelFromConfig ctx.config
  return fillMedia1VideoEncoderConfigurationsResponse model

def trtGetVideoSourceConfigurationOptions (ctx : Context)
    (request : Option TrtGetVideoSourceConfigurationOptions) :
    Service VideoSourceConfigurationOptions := do
  authenticate ctx
  let model ← mediaModelFromConfig ctx.config
  let configurationToken :=
    stringValue (request.bind TrtGetVideoSourceConfigurationOptions.configurationToken)
  let profileToken := stringValue (request.bind TrtGetVideoSourceConfigurationOptions.profileToken)
  if configurationToken ≠ [] ∧ configurationToken ≠ kVideoSourceConfigToken then
    Prog.fail (invalidTokenFault configurationToken)
  else
    optionalProfileToken model profileToken
    return fillMedia1VideoSourceConfigurationOptionsResponse model

def trtGetVideoEncoderConfigurationOptions (ctx : Context)
    (request : Option TrtGetVideoEncoderConfigurationOptions) :
    Service VideoEncoderConfigurationOptions := do
  authenticate ctx
  let model ← mediaModelFromConfig ctx.config
  optionalProfileToken model
    (stringValue (request.bind TrtGetVideoEncoderConfigurationOptions.configurationToken))
  optionalProfileToken model
    (stringValue (request.bind TrtGetVideoEncoderConfigurationOptions.profileToken))
  return fillMedia1VideoEncoderConfigurationOptionsResponse

/-! ### Media2 operations -/

def tr2GetProfiles (ctx : Context) (request : Option Tr2GetProfiles) :
    Service (List MediaProfile) := do
  authenticate ctx
  let model ← mediaModelFromConfig ctx.config
  optionalProfileToken model (stringValue (request.bind Tr2GetProfiles.token))
  return fillMedia2ProfilesResponse model request

def tr2GetStreamUri (ctx : Context) (request : Option Tr2GetStreamUri) : Service Bytes := do
  authenticate ctx
  if request.isNone ∨ !media2ProtocolSupported (request.bind Tr2GetStreamUri.protocol) then
    Prog.fail kStreamFault
  else
    let model ← mediaModelFromConfig ctx.config
    let token := stringValue (request.bind Tr2GetStreamUri.profileToken)
    requireProfileToken model token (bytes "Missing ProfileToken")
    return fillMedia2StreamUriResponse model

def tr2GetServiceCapabilities (ctx : Context) : Service MediaServiceCapabilities := do
  authenticate ctx
  return fillMedia2ServiceCapabilitiesResponse

end Afterveda.Onvif.Soap
