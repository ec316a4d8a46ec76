import Afterveda.Onvif.Soap.Device
import Afterveda.Onvif.Soap.Imaging
import Afterveda.Onvif.Soap.Media
import Afterveda.Onvif.Soap.Osd
import Afterveda.Onvif.Soap.Ptz

/-!
# The operations of the server

The 49 operations of `soap/` as one type, with the request each of them reads, the type of the
response it fills in (`Response`), and the service that carries it out (`serve`).
-/

namespace Afterveda.Onvif.Soap

open CText CNumber

/-- A SOAP operation with its request. -/
inductive Operation
  | tdsGetCapabilities (request : Option TdsGetCapabilities)
  | tdsGetServices
  | tdsGetDeviceInformation
  | tdsGetSystemDateAndTime
  | tdsGetScopes
  | tdsGetHostname
  | tdsGetNetworkInterfaces
  | tdsGetUsers
  | tdsGetServiceCapabilities
  | trtGetProfiles
  | trtGetProfile (request : Option TrtGetProfile)
  | trtGetStreamUri (request : Option TrtGetStreamUri)
  | trtGetVideoEncoderConfiguration (request : Option TrtGetVideoEncoderConfiguration)
  | trtSetVideoEncoderConfiguration (request : Option TrtSetVideoEncoderConfiguration)
  | trtGetServiceCapabilities
  | trtGetVideoSources
  | trtGetVideoSourceConfigurations
  | trtGetVideoSourceConfiguration (request : Option TrtGetVideoSourceConfiguration)
  | trtGetVideoEncoderConfigurations
  | trtGetVideoSourceConfigurationOptions (request : Option TrtGetVideoSourceConfigurationOptions)
  | trtGetVideoEncoderConfigurationOptions (request : Option TrtGetVideoEncoderConfigurationOptions)
  | trtGetOsds (request : Option TrtGetOsds)
  | trtGetOsd (request : Option TrtGetOsd)
  | trtGetOsdOptions (request : Option TrtGetOsdOptions)
  | trtSetOsd (request : Option TrtSetOsd)
  | trtCreateOsd (request : Option TrtCreateOsd)
  | trtDeleteOsd (request : Option TrtDeleteOsd)
  | tr2GetProfiles (request : Option Tr2GetProfiles)
  | tr2GetStreamUri (request : Option Tr2GetStreamUri)
  | tr2GetServiceCapabilities
  | tptzGetServiceCapabilities
  | tptzGetNodes
  | tptzGetNode (request : Option TptzGetNode)
  | tptzGetConfigurations
  | tptzGetConfiguration (request : Option TptzGetConfiguration)
  | tptzGetConfigurationOptions (request : Option TptzGetConfigurationOptions)
  | tptzGetPresets (request : Option TptzProfileRequest)
  | tptzSetPreset (request : Option TptzSetPreset)
  | tptzGotoPreset (request : Option TptzGotoPreset)
  | tptzGetStatus (request : Option TptzProfileRequest)
  | tptzSetHomePosition (request : Option TptzProfileRequest)
  | tptzGotoHomePosition (request : Option TptzGotoHomePosition)
  | tptzStop (request : Option TptzStop)
  | tptzContinuousMove (request : Option TptzContinuousMove)
  | tptzRelativeMove (request : Option TptzRelativeMove)
  | timgGetOptions (request : Option TimgRequest)
  | timgGetImagingSettings (request : Option TimgRequest)
  | timgSetImagingSettings (request : Option TimgSetImagingSettings)
  | timgGetServiceCapabilities

/-- The content of the response of an operation. -/
def Operation.Response : Operation → Type
  | .tdsGetCapabilities _ => Capabilities
  | .tdsGetServices => List ServiceEntry
  | .tdsGetDeviceInformation => DeviceInformation
  | .tdsGetSystemDateAndTime => SystemDateTime
  | .tdsGetScopes => List Scope
  | .tdsGetHostname => HostnameInformation
  | .tdsGetNetworkInterfaces => List NetworkInterface
  | .tdsGetUsers => List User
  | .tdsGetServiceCapabilities => DeviceServiceCapabilities
  | .trtGetProfiles => List Profile
  | .trtGetProfile _ => Profile
  | .trtGetStreamUri _ => MediaUri
  | .trtGetVideoEncoderConfiguration _ => VideoEncoderConfiguration
  | .trtSetVideoEncoderConfiguration _ => Unit
  | .trtGetServiceCapabilities => MediaServiceCapabilities
  | .trtGetVideoSources => List VideoSource
  | .trtGetVideoSourceConfigurations => List VideoSourceConfiguration
  | .trtGetVideoSourceConfiguration _ => VideoSourceConfiguration
  | .trtGetVideoEncoderConfigurations => List VideoEncoderConfiguration
  | .trtGetVideoSourceConfigurationOptions _ => VideoSourceConfigurationOptions
  | .trtGetVideoEncoderConfigurationOptions _ => VideoEncoderConfigurationOptions
  | .trtGetOsds _ => List OsdConfiguration
  | .trtGetOsd _ => OsdConfiguration
  | .trtGetOsdOptions _ => OsdConfigurationOptions
  | .trtSetOsd _ => Unit
  | .trtCreateOsd _ => Bytes
  | .trtDeleteOsd _ => Unit
  | .tr2GetProfiles _ => List MediaProfile
  | .tr2GetStreamUri _ => Bytes
  | .tr2GetServiceCapabilities => MediaServiceCapabilities
  | .tptzGetServiceCapabilities => PtzServiceCapabilities
  | .tptzGetNodes => List PtzNode
  | .tptzGetNode _ => PtzNode
  | .tptzGetConfigurations => List PtzConfiguration
  | .tptzGetConfiguration _ => PtzConfiguration
  | .tptzGetConfigurationOptions _ => PtzConfigurationOptions
  | .tptzGetPresets _ => List PtzPreset
  | .tptzSetPreset _ => Bytes
  | .tptzGetStatus _ => PtzStatusResponse
  | .tptzGotoPreset _ | .tptzSetHomePosition _ | .tptzGotoHomePosition _ | .tptzStop _
  | .tptzContinuousMove _ | .tptzRelativeMove _ => Unit
  | .timgGetOptions _ => ImagingOptions20
  | .timgGetImagingSettings _ => ImagingSettings20
  | .timgSetImagingSettings _ => Unit
  | .timgGetServiceCapabilities => ImagingServiceCapabilities

/-- The service of an operation. -/
def serve (libm : Libm) (ctx : Context) : (op : Operation) → Service op.Response
  | .tdsGetCapabilities request => tdsGetCapabilities ctx request
  | .tdsGetServices => tdsGetServices ctx
  | .tdsGetDeviceInformation => tdsGetDeviceInformation ctx
  | .tdsGetSystemDateAndTime => tdsGetSystemDateAndTime ctx
  | .tdsGetScopes => tdsGetScopes ctx
  | .tdsGetHostname => tdsGetHostname ctx
  | .tdsGetNetworkInterfaces => tdsGetNetworkInterfaces ctx
  | .tdsGetUsers => tdsGetUsers ctx
  | .tdsGetServiceCapabilities => tdsGetServiceCapabilities ctx
  | .trtGetProfiles => trtGetProfiles ctx
  | .trtGetProfile request => trtGetProfile ctx request
  | .trtGetStreamUri request => trtGetStreamUri ctx request
  | .trtGetVideoEncoderConfiguration request => trtGetVideoEncoderConfiguration ctx request
  | .trtSetVideoEncoderConfiguration request => trtSetVideoEncoderConfiguration ctx request
  | .trtGetServiceCapabilities => trtGetServiceCapabilities ctx
  | .trtGetVideoSources => trtGetVideoSources ctx
  | .trtGetVideoSourceConfigurations => trtGetVideoSourceConfigurations ctx
  | .trtGetVideoSourceConfiguration request => trtGetVideoSourceConfiguration ctx request
  | .trtGetVideoEncoderConfigurations => trtGetVideoEncoderConfigurations ctx
  | .trtGetVideoSourceConfigurationOptions request =>
    trtGetVideoSourceConfigurationOptions ctx request
  | .trtGetVideoEncoderConfigurationOptions request =>
    trtGetVideoEncoderConfigurationOptions ctx request
  | .trtGetOsds request => trtGetOsds ctx request
  | .trtGetOsd request => trtGetOsd ctx request
  | .trtGetOsdOptions request => trtGetOsdOptions ctx request
  | .trtSetOsd request => trtSetOsd ctx request
  | .trtCreateOsd request => trtCreateOsd ctx request
  | .trtDeleteOsd request => trtDeleteOsd ctx request
  | .tr2GetProfiles request => tr2GetProfiles ctx request
  | .tr2GetStreamUri request => tr2GetStreamUri ctx request
  | .tr2GetServiceCapabilities => tr2GetServiceCapabilities ctx
  | .tptzGetServiceCapabilities => tptzGetServiceCapabilities
  | .tptzGetNodes => tptzGetNodes ctx
  | .tptzGetNode request => tptzGetNode ctx request
  | .tptzGetConfigurations => tptzGetConfigurations ctx
  | .tptzGetConfiguration request => tptzGetConfiguration ctx request
  | .tptzGetConfigurationOptions request => tptzGetConfigurationOptions ctx request
  | .tptzGetPresets request => tptzGetPresets ctx request
  | .tptzSetPreset request => tptzSetPreset ctx request
  | .tptzGotoPreset request => tptzGotoPreset ctx request
  | .tptzGetStatus request => tptzGetStatus ctx request
  | .tptzSetHomePosition request => tptzSetHomePosition ctx request
  | .tptzGotoHomePosition request => tptzGotoHomePosition ctx request
  | .tptzStop request => tptzStop ctx request
  | .tptzContinuousMove request => tptzContinuousMove libm ctx request
  | .tptzRelativeMove request => tptzRelativeMove ctx request
  | .timgGetOptions request => timgGetOptions ctx request
  | .timgGetImagingSettings request => timgGetImagingSettings libm.precision ctx request
  | .timgSetImagingSettings request => timgSetImagingSettings libm.precision ctx request
  | .timgGetServiceCapabilities => timgGetServiceCapabilities ctx

end Afterveda.Onvif.Soap
