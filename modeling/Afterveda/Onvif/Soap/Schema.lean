import Afterveda.Onvif.Host

/-!
# Requests and responses

The records of `gsoap/onvif.h` that the services read and fill in.  A pointer that may be null is an
option, an array with its size a list, and the text of a response a byte string.  Fields of a
request that no service reads are left out.
-/

namespace Afterveda.Onvif.Soap

open CText CNumber

/-! ### Common records -/

structure IntRange where
  min : ℤ
  max : ℤ
  deriving DecidableEq

structure FloatRange where
  min : Double
  max : Double
  deriving DecidableEq

structure VideoResolution where
  width : ℤ
  height : ℤ
  deriving DecidableEq

structure IntRectangle where
  x : ℤ
  y : ℤ
  width : ℤ
  height : ℤ
  deriving DecidableEq

/-! ### Device -/

inductive CapabilityCategory
  | all
  | analytics
  | device
  | events
  | imaging
  | media
  | ptz
  deriving DecidableEq

structure TdsGetCapabilities where
  category : List CapabilityCategory := []

structure DeviceInformation where
  manufacturer : Bytes
  model : Bytes
  firmwareVersion : Bytes
  serialNumber : Bytes
  hardwareId : Bytes
  deriving DecidableEq

/-- `tds__Service`, its version as major and minor. -/
structure ServiceEntry where
  ns : Bytes
  xaddr : Bytes
  major : ℤ
  minor : ℤ
  deriving DecidableEq

structure StreamingCapabilities where
  rtpMulticast : Option Bool
  rtpTcp : Option Bool
  rtpRtspTcp : Option Bool
  deriving DecidableEq

structure MediaCapabilities where
  xaddr : Bytes
  streamingCapabilities : StreamingCapabilities
  deriving DecidableEq

/-- `tt__Capabilities`: the device, PTZ and imaging services are known by their addresses. -/
structure Capabilities where
  device : Option Bytes
  media : Option MediaCapabilities
  media2 : Option MediaCapabilities
  ptz : Option Bytes
  imaging : Option Bytes
  deriving DecidableEq

structure NetworkCapabilities where
  ipFilter : Bool
  zeroConfiguration : Bool
  ipVersion6 : Bool
  dynDns : Bool
  deriving DecidableEq

structure SecurityCapabilities where
  onboardKeyGeneration : Bool
  accessPolicyConfig : Bool
  defaultAccessPolicy : Bool
  dot1X : Bool
  remoteUserHandling : Bool
  deriving DecidableEq

structure SystemCapabilities where
  discoveryResolve : Bool
  discoveryBye : Bool
  remoteDiscovery : Bool
  systemBackup : Bool
  systemLogging : Bool
  firmwareUpgrade : Bool
  deriving DecidableEq

structure DeviceServiceCapabilities where
  network : NetworkCapabilities
  security : SecurityCapabilities
  system : SystemCapabilities
  deriving DecidableEq

structure SystemDateTime where
  dateTimeType : Bytes
  daylightSavings : Bool
  hour : ℤ
  minute : ℤ
  second : ℤ
  year : ℤ
  month : ℤ
  day : ℤ
  deriving DecidableEq

structure Scope where
  scopeDef : Bytes
  scopeItem : Bytes
  deriving DecidableEq

structure HostnameInformation where
  fromDhcp : Bool
  name : Bytes
  deriving DecidableEq

structure PrefixedIPv4Address where
  address : Bytes
  prefixLength : ℤ
  deriving DecidableEq

structure IPv4Configuration where
  manual : List PrefixedIPv4Address
  linkLocal : Option PrefixedIPv4Address
  fromDhcp : Option PrefixedIPv4Address
  dhcp : Bool
  deriving DecidableEq

structure NetworkInterface where
  token : Bytes
  enabled : Bool
  name : Bytes
  hwAddress : Bytes
  mtu : ℤ
  ipv4Enabled : Bool
  ipv4Config : IPv4Configuration
  deriving DecidableEq

structure User where
  username : Bytes
  userLevel : Bytes
  deriving DecidableEq

/-! ### Media -/

structure MulticastConfiguration where
  addressType : Bytes
  ipv4Address : Bytes
  port : ℤ
  ttl : ℤ
  autoStart : Bool
  deriving DecidableEq

structure VideoRateControl where
  frameRateLimit : ℤ
  encodingInterval : ℤ
  bitrateLimit : ℤ
  deriving DecidableEq

structure H264Configuration where
  govLength : ℤ
  h264Profile : Bytes
  deriving DecidableEq

structure VideoSource where
  token : Bytes
  framerate : Double
  resolution : VideoResolution
  deriving DecidableEq

structure VideoSourceConfiguration where
  token : Bytes
  name : Bytes
  useCount : ℤ
  sourceToken : Bytes
  bounds : IntRectangle
  deriving DecidableEq

structure VideoEncoderConfiguration where
  token : Bytes
  name : Bytes
  useCount : ℤ
  encoding : Bytes
  resolution : VideoResolution
  quality : Double
  rateControl : VideoRateControl
  h264 : H264Configuration
  multicast : MulticastConfiguration
  sessionTimeout : Bytes
  deriving DecidableEq

structure PtzConfiguration where
  token : Bytes
  name : Bytes
  useCount : ℤ
  nodeToken : Bytes
  defaultContinuousPanTiltVelocitySpace : Bytes
  defaultRelativePanTiltTranslationSpace : Bytes
  defaultPtzTimeout : Bytes
  deriving DecidableEq

structure Profile where
  token : Bytes
  fixed : Bool
  name : Bytes
  videoSourceConfiguration : VideoSourceConfiguration
  videoEncoderConfiguration : VideoEncoderConfiguration
  ptzConfiguration : PtzConfiguration
  deriving DecidableEq

structure MediaUri where
  uri : Bytes
  invalidAfterConnect : Bool
  invalidAfterReboot : Bool
  timeout : Bytes
  deriving DecidableEq

structure VideoSourceConfigurationOptions where
  xRange : IntRange
  yRange : IntRange
  widthRange : IntRange
  heightRange : IntRange
  videoSourceTokensAvailable : List Bytes
  deriving DecidableEq

structure H264Options where
  resolutionsAvailable : List VideoResolution
  govLengthRange : IntRange
  frameRateRange : IntRange
  encodingIntervalRange : IntRange
  h264ProfilesSupported : List Bytes
  deriving DecidableEq

structure VideoEncoderConfigurationOptions where
  qualityRange : FloatRange
  h264 : H264Options
  bitrateRange : IntRange
  deriving DecidableEq

/-- `trt__Capabilities` and `tr2__Capabilities`. -/
structure MediaServiceCapabilities where
  snapshotUri : Bool
  rotation : Bool
  videoSourceMode : Bool
  osd : Bool
  temporaryOsdText : Bool
  exiCompression : Bool
  deriving DecidableEq

structure ConfigurationSet where
  videoSource : Option VideoSourceConfiguration
  videoEncoder : Option VideoEncoderConfiguration
  deriving DecidableEq

structure MediaProfile where
  token : Bytes
  fixed : Bool
  name : Bytes
  configurations : Option ConfigurationSet
  deriving DecidableEq

structure TrtGetProfile where
  profileToken : Option CStr := none

structure StreamSetup where
  stream : Option CStr := none
  /-- `Transport`, known by its protocol. -/
  transport : Option (Option CStr) := none

structure TrtGetStreamUri where
  streamSetup : Option StreamSetup := none
  profileToken : Option CStr := none

structure TrtGetVideoEncoderConfiguration where
  configurationToken : Option CStr := none

structure TrtGetVideoSourceConfiguration where
  configurationToken : Option CStr := none

structure TrtGetVideoSourceConfigurationOptions where
  configurationToken : Option CStr := none
  profileToken : Option CStr := none

structure TrtGetVideoEncoderConfigurationOptions where
  configurationToken : Option CStr := none
  profileToken : Option CStr := none

/-- `RateControl` of a request. -/
structure RateControlRequest where
  frameRateLimit : ℤ
  bitrateLimit : ℤ
  deriving DecidableEq

/-- `tt__VideoEncoderConfiguration` of a request. -/
structure EncoderConfigurationRequest where
  token : Option CStr := none
  encoding : Option CStr := none
  resolution : Option VideoResolution := none
  rateControl : Option RateControlRequest := none
  deriving DecidableEq

structure TrtSetVideoEncoderConfiguration where
  configuration : Option EncoderConfigurationRequest := none
  deriving DecidableEq

structure Tr2GetProfiles where
  token : Option CStr := none
  type : List (Option CStr) := []

structure Tr2GetStreamUri where
  protocol : Option CStr := none
  profileToken : Option CStr := none

/-! ### OSD -/

/-- `tt__OSDConfiguration`: the type of the position and of the text, and the text. -/
structure OsdConfiguration where
  token : Bytes
  videoSourceConfigurationToken : Bytes
  type : Bytes
  positionType : Bytes
  textType : Bytes
  plainText : Bytes
  deriving DecidableEq

/-- `TextString` of a request. -/
structure OsdTextRequest where
  type : Option CStr := none
  plainText : Option CStr := none
  deriving DecidableEq

/-- `tt__OSDConfiguration` of a request. -/
structure OsdConfigurationRequest where
  token : Option CStr := none
  videoSourceConfigurationToken : Option CStr := none
  type : Option CStr := none
  textString : Option OsdTextRequest := none
  deriving DecidableEq

structure MaximumNumberOfOsds where
  total : ℤ
  image : Option ℤ
  plainText : Option ℤ
  date : Option ℤ
  time : Option ℤ
  dateAndTime : Option ℤ
  deriving DecidableEq

structure OsdConfigurationOptions where
  maximumNumberOfOsds : MaximumNumberOfOsds
  type : List Bytes
  positionOption : List Bytes
  textOptionType : List Bytes
  deriving DecidableEq

structure TrtGetOsds where
  configurationToken : Option CStr := none

structure TrtGetOsd where
  osdToken : Option CStr := none

structure TrtGetOsdOptions where
  configurationToken : Option CStr := none

structure TrtSetOsd where
  osd : Option OsdConfigurationRequest := none

structure TrtCreateOsd where
  osd : Option OsdConfigurationRequest := none

structure TrtDeleteOsd where
  osdToken : Option CStr := none

/-! ### PTZ -/

structure PtzServiceCapabilities where
  eFlip : Bool
  reverse : Bool
  getCompatibleConfigurations : Bool
  moveStatus : Bool
  statusPosition : Bool
  deriving DecidableEq

structure Space2DDescription where
  uri : Bytes
  xRange : FloatRange
  yRange : FloatRange
  deriving DecidableEq

structure PtzSpaces where
  relativePanTiltTranslationSpace : List Space2DDescription
  continuousPanTiltVelocitySpace : List Space2DDescription
  deriving DecidableEq

structure PtzNode where
  token : Bytes
  name : Bytes
  supportedPtzSpaces : PtzSpaces
  maximumNumberOfPresets : ℤ
  homeSupported : Bool
  deriving DecidableEq

/-- `tt__PTZConfigurationOptions`: the spaces and the range of the timeout. -/
structure PtzConfigurationOptions where
  spaces : PtzSpaces
  ptzTimeoutMin : Bytes
  ptzTimeoutMax : Bytes
  deriving DecidableEq

structure PtzPreset where
  token : Bytes
  name : Bytes
  deriving DecidableEq

structure Vector2D where
  x : Double
  y : Double
  deriving DecidableEq

/-- `tt__PTZVector` and `tt__PTZSpeed`; a zoom is known by its `x`. -/
structure PtzVector where
  panTilt : Option Vector2D := none
  zoom : Option Double := none
  deriving DecidableEq

structure PtzMoveStatus where
  panTilt : Bytes
  zoom : Option Bytes
  deriving DecidableEq

structure PtzStatusResponse where
  position : PtzVector
  moveStatus : PtzMoveStatus
  utcTime : Bytes
  deriving DecidableEq

structure TptzGetNode where
  nodeToken : Option CStr := none

structure TptzGetConfiguration where
  ptzConfigurationToken : Option CStr := none

structure TptzGetConfigurationOptions where
  configurationToken : Option CStr := none

/-- `_tptz__GetPresets`, `_tptz__GetStatus` and `_tptz__SetHomePosition`. -/
structure TptzProfileRequest where
  profileToken : Option CStr := none

structure TptzSetPreset where
  profileToken : Option CStr := none
  presetToken : Option CStr := none

structure TptzGotoPreset where
  profileToken : Option CStr := none
  presetToken : Option CStr := none
  speed : Option PtzVector := none

structure TptzGotoHomePosition where
  profileToken : Option CStr := none
  speed : Option PtzVector := none

structure TptzStop where
  profileToken : Option CStr := none
  panTilt : Option Bool := none

structure TptzContinuousMove where
  profileToken : Option CStr := none
  velocity : Option PtzVector := none
  timeout : Option CStr := none

structure TptzRelativeMove where
  profileToken : Option CStr := none
  translation : Option PtzVector := none

/-! ### Imaging -/

/-- `tt__ImagingSettings20`. -/
structure ImagingSettings20 where
  brightness : Option Double := none
  contrast : Option Double := none
  colorSaturation : Option Double := none
  deriving DecidableEq

structure ImagingOptions20 where
  brightness : FloatRange
  contrast : FloatRange
  colorSaturation : FloatRange
  deriving DecidableEq

structure ImagingServiceCapabilities where
  imageStabilization : Bool
  presets : Bool
  deriving DecidableEq

/-- `_timg__GetOptions` and `_timg__GetImagingSettings`. -/
structure TimgRequest where
  videoSourceToken : Option CStr := none

structure TimgSetImagingSettings where
  videoSourceToken : Option CStr := none
  imagingSettings : Option ImagingSettings20 := none

end Afterveda.Onvif.Soap
