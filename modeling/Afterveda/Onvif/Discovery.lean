import Afterveda.Onvif.Soap.Device

/-!
# WS-Discovery

`network/discovery_server.cpp`: what the camera announces of itself, and the answer to a probe,
which is written out as XML.  The announcements and the answer to `Resolve` pass the same texts to
gSOAP, which writes them out.
-/

namespace Afterveda.Onvif

open CText Soap

/-- `kDiscoveryTypes`. -/
def kDiscoveryTypes : Bytes := bytes "dn:NetworkVideoTransmitter tds:Device"

def discoveryEndpoint (config : Config) : Bytes := bytes "urn:uuid:" ++ uuidFromSerial config.serial

def discoveryXaddrs (config : Config) : Bytes := xaddrBase config ++ bytes "/device_service"

def discoveryScopes (config : Config) : Bytes :=
  bytes "onvif://www.onvif.org/name/" ++ config.deviceName ++
    bytes " onvif://www.onvif.org/hardware/" ++ config.hardwareId ++
    bytes " onvif://www.onvif.org/type/video_encoder" ++
    bytes " onvif://www.onvif.org/type/NetworkVideoTransmitter" ++
    bytes " onvif://www.onvif.org/location/country/Korea"

/-- `discovery_probe_matches_xml`, where `messageId` is what `soap_wsa_rand_uuid` returns and
`relatesTo` the message id of the probe; either may be null. -/
def discoveryProbeMatchesXml (messageId : Option CStr) (config : Config) (relatesTo : Option CStr) :
    Bytes :=
  let messageId := (messageId.map Subtype.val).getD (bytes "uuid:afterveda-probematch")
  let relatesTo := (relatesTo.map Subtype.val).getD []
  bytes "<?xml version=\"1.0\" encoding=\"UTF-8\"?>" ++
    bytes "<s:Envelope xmlns:s=\"http://www.w3.org/2003/05/soap-envelope\" " ++
    bytes "xmlns:a=\"http://schemas.xmlsoap.org/ws/2004/08/addressing\" " ++
    bytes "xmlns:d=\"http://schemas.xmlsoap.org/ws/2005/04/discovery\" " ++
    bytes "xmlns:dn=\"http://www.onvif.org/ver10/network/wsdl\" " ++
    bytes "xmlns:tds=\"http://www.onvif.org/ver10/device/wsdl\">" ++
    bytes "<s:Header>" ++
    bytes "<a:Action>http://schemas.xmlsoap.org/ws/2005/04/discovery/ProbeMatches</a:Action>" ++
    bytes "<a:MessageID>" ++ messageId ++ bytes "</a:MessageID>" ++
    bytes "<a:RelatesTo>" ++ xmlEscape relatesTo ++ bytes "</a:RelatesTo>" ++
    bytes "<a:To>http://schemas.xmlsoap.org/ws/2004/08/addressing/role/anonymous</a:To>" ++
    bytes "</s:Header>" ++
    bytes "<s:Body>" ++
    bytes "<d:ProbeMatches>" ++
    bytes "<d:ProbeMatch>" ++
    bytes "<a:EndpointReference><a:Address>" ++ xmlEscape (discoveryEndpoint config) ++
    bytes "</a:Address></a:EndpointReference>" ++
    bytes "<d:Types>" ++ kDiscoveryTypes ++ bytes "</d:Types>" ++
    bytes "<d:Scopes>" ++ xmlEscape (discoveryScopes config) ++ bytes "</d:Scopes>" ++
    bytes "<d:XAddrs>" ++ xmlEscape (discoveryXaddrs config) ++ bytes "</d:XAddrs>" ++
    bytes "<d:MetadataVersion>1</d:MetadataVersion>" ++
    bytes "</d:ProbeMatch>" ++
    bytes "</d:ProbeMatches>" ++
    bytes "</s:Body>" ++
    bytes "</s:Envelope>"

/-- What is given to gSOAP for a `Hello`, a `Bye` or a `ResolveMatch`. -/
structure Announcement where
  endpoint : Bytes
  types : Bytes
  scopes : Bytes
  xaddrs : Bytes
  metadataVersion : ℕ
  deriving DecidableEq

/-- The common part of `announce_discovery_hello`, `announce_discovery_bye` and
`wsdd_event_Resolve`. -/
def announcement (config : Config) : Announcement where
  endpoint := cString (discoveryEndpoint config)
  types := kDiscoveryTypes
  scopes := cString (discoveryScopes config)
  xaddrs := cString (discoveryXaddrs config)
  metadataVersion := 1

/-- What WS-Discovery sends. -/
inductive Message
  | hello (a : Announcement)
  | probeMatches (xml : Bytes)
  | resolveMatches (a : Announcement)
  | bye (a : Announcement)
  deriving DecidableEq

/-- `announce_discovery_hello`; `ctx` says whether there is a context to send with. -/
def announceDiscoveryHello (ctx : Bool) (config : Config) : Option Message :=
  if ctx then some (.hello (announcement config)) else none

def announceDiscoveryBye (ctx : Bool) (config : Config) : Option Message :=
  if ctx then some (.bye (announcement config)) else none

/-- `wsdd_event_Probe`; `peer` says whether there are a socket and a peer to answer to. -/
def wsddEventProbe (messageId : Option CStr) (config : Config) (relatesTo : Option CStr)
    (peer : Bool) : Option Message :=
  if peer then some (.probeMatches (discoveryProbeMatchesXml messageId config relatesTo)) else none

def wsddEventResolve (config : Config) : Message := .resolveMatches (announcement config)

end Afterveda.Onvif
