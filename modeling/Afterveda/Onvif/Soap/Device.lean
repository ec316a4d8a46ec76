import Afterveda.Onvif.Soap.Schema

/-!
# The device service

`soap/soap_device_service.cpp`: what the device says of itself, its services, its scopes, its clock,
its users and its network interfaces.
-/

namespace Afterveda.Onvif.Soap

open CText CNumber Calendar

/-! ### Services and capabilities -/

def fillDeviceInformationResponse (config : Config) : DeviceInformation where
  manufacturer := cString config.manufacturer
  model := cString config.model
  firmwareVersion := cString config.firmware
  serialNumber := cString config.serial
  hardwareId := cString config.hardwareId

def xaddrBase (config : Config) : Bytes :=
  bytes "http://" ++ config.xaddrHost ++ bytes ":" ++ toDecimal config.onvifPort ++ bytes "/onvif"

/-- `kServices`: the namespaces, paths and versions of the services. -/
def kServices : List (Bytes × Bytes × ℤ × ℤ) :=
  [(bytes "http://www.onvif.org/ver10/device/wsdl", bytes "/device_service", 2, 20),
    (bytes "http://www.onvif.org/ver10/media/wsdl", bytes "/media_service", 2, 20),
    (bytes "http://www.onvif.org/ver20/media/wsdl", bytes "/media2_service", 2, 20),
    (bytes "http://www.onvif.org/ver20/ptz/wsdl", bytes "/ptz_service", 2, 20),
    (bytes "http://www.onvif.org/ver20/imaging/wsdl", bytes "/imaging_service", 2, 20)]

def fillServicesResponse (config : Config) : List ServiceEntry :=
  kServices.map fun (ns, path, major, minor) =>
    ⟨ns, cString (xaddrBase config ++ path), major, minor⟩

def makeStreamingCapabilities (includeRtpTcp includeRtspTcp : Bool) : StreamingCapabilities where
  rtpMulticast := some false
  rtpTcp := if includeRtpTcp then some true else none
  rtpRtspTcp := if includeRtspTcp then some true else none

def makeMediaCapabilities (xaddr : Bytes) (includeRtpTcp includeRtspTcp : Bool) :
    MediaCapabilities where
  xaddr := cString xaddr
  streamingCapabilities := makeStreamingCapabilities includeRtpTcp includeRtspTcp

def categoryRequested (request : Option TdsGetCapabilities) (category : CapabilityCategory) :
    Bool :=
  match request with
  | none => true
  | some request =>
    request.category = [] || request.category.any fun c => c = .all || c = category

def fillCapabilitiesResponse (request : Option TdsGetCapabilities) (config : Config) :
    Capabilities :=
  let base := xaddrBase config
  let includeMedia := categoryRequested request .media
  { device :=
      if categoryRequested request .device then some (cString (base ++ bytes "/device_service"))
      else none
    media :=
      if includeMedia then some (makeMediaCapabilities (base ++ bytes "/media_service") true true)
      else none
    media2 :=
      if includeMedia then some (makeMediaCapabilities (base ++ bytes "/media2_service") false true)
      else none
    ptz :=
      if categoryRequested request .ptz then some (cString (base ++ bytes "/ptz_service")) else none
    imaging :=
      if categoryRequested request .imaging then some (cString (base ++ bytes "/imaging_service"))
      else none }

def fillServiceCapabilitiesResponse : DeviceServiceCapabilities where
  network := { ipFilter := false, zeroConfiguration := false, ipVersion6 := false, dynDns := false }
  security :=
    { onboardKeyGeneration := false, accessPolicyConfig := false, defaultAccessPolicy := false,
      dot1X := false, remoteUserHandling := false }
  system :=
    { discoveryResolve := true, discoveryBye := false, remoteDiscovery := false,
      systemBackup := false, systemLogging := false, firmwareUpgrade := false }

def fillSystemDateAndTimeResponse (raw : ℤ) : SystemDateTime :=
  let tm := gmtime raw
  { dateTimeType := bytes "NTP", daylightSavings := false, hour := tm.hour, minute := tm.minute,
    second := tm.second, year := tm.year, month := tm.month, day := tm.day }

def fillScopesResponse (config : Config) : List Scope :=
  [bytes "onvif://www.onvif.org/name/" ++ config.deviceName,
    bytes "onvif://www.onvif.org/hardware/" ++ config.hardwareId].map fun item =>
      ⟨bytes "Fixed", cString item⟩

def fillHostnameResponse (config : Config) : HostnameInformation where
  fromDhcp := false
  name := cString config.deviceName

def fillUsersResponse (config : Config) : List User :=
  if config.username = [] then [] else [⟨cString config.username, bytes "Administrator"⟩]

/-! ### Network interfaces -/

/-- `IPv4AddressSnapshot`. -/
structure IPv4AddressSnapshot where
  address : Bytes
  prefixLength : ℤ := 0
  deriving DecidableEq

/-- `NetworkInterfaceSnapshot`. -/
structure NetworkInterfaceSnapshot where
  name : Bytes := []
  hardwareAddress : Bytes := []
  mtu : ℤ := 0
  enabled : Bool := false
  dhcp : Bool := false
  ipv4Addresses : List IPv4AddressSnapshot := []
  deriving DecidableEq

/-- The loop of `prefix_length`: at most 32 shifts leave no bit set. -/
def countLeadingOnes : ℕ → BitVec 32 → ℤ
  | 0, _ => 0
  | n + 1, bits => if bits.msb then 1 + countLeadingOnes n (bits <<< 1) else 0

def prefixLength (netmask : Option (BitVec 32)) : ℤ :=
  match netmask with
  | none => 0
  | some bits => countLeadingOnes 32 bits

/-- The snapshot of an interface with one more of its entries. -/
def NetworkInterfaceSnapshot.add (snapshot : NetworkInterfaceSnapshot) (name : Bytes)
    (current : IfAddr) : NetworkInterfaceSnapshot :=
  { snapshot with
    name
    enabled := snapshot.enabled || current.up
    ipv4Addresses :=
      match current.ipv4 with
      | none => snapshot.ipv4Addresses
      | some text => snapshot.ipv4Addresses ++ [⟨text, prefixLength current.netmask⟩] }

/-- `snapshots[name]` changed, where `snapshots` is a `std::map` as the list of its values in the
order of their names. -/
def updateSnapshot (name : Bytes) (change : NetworkInterfaceSnapshot → NetworkInterfaceSnapshot) :
    List NetworkInterfaceSnapshot → List NetworkInterfaceSnapshot
  | [] => [change {}]
  | snapshot :: rest =>
    if snapshot.name = name then change snapshot :: rest
    else if name < snapshot.name then change {} :: snapshot :: rest
    else snapshot :: updateSnapshot name change rest

/-- One turn of the loop over the entries. -/
def addEntry (snapshots : List NetworkInterfaceSnapshot) (current : IfAddr) :
    List NetworkInterfaceSnapshot :=
  match current.name with
  | none => snapshots
  | some name =>
    if !current.hasAddr || current.loopback then snapshots
    else updateSnapshot name (·.add name current) snapshots

/-- A byte as two hexadecimal digits. -/
def hexByte (c : UInt8) : Bytes :=
  let digit (d : ℕ) : UInt8 := if d < 10 then UInt8.ofNat (48 + d) else UInt8.ofNat (87 + d)
  [digit (c.toNat / 16), digit (c.toNat % 16)]

def readLinkDetails (details : LinkDetails) (snapshot : NetworkInterfaceSnapshot) :
    NetworkInterfaceSnapshot :=
  { snapshot with
    mtu := details.mtu.getD snapshot.mtu
    hardwareAddress :=
      match details.hardwareAddress with
      | none => snapshot.hardwareAddress
      | some address => [58].intercalate (address.map hexByte) }

def readNetworkInterfaces (host : HostNetwork) : List NetworkInterfaceSnapshot :=
  match host.addresses with
  | none => []
  | some addresses =>
    (addresses.foldl addEntry []).map fun snapshot =>
      let details := host.details snapshot.name
      { readLinkDetails details snapshot with dhcp := details.dhcp }

def fillPrefixedAddress (source : IPv4AddressSnapshot) : PrefixedIPv4Address where
  address := cString source.address
  prefixLength := source.prefixLength

def fillNetworkInterface (snapshot : NetworkInterfaceSnapshot) : NetworkInterface where
  token := cString snapshot.name
  enabled := snapshot.enabled
  name := cString snapshot.name
  hwAddress := cString snapshot.hardwareAddress
  mtu := snapshot.mtu
  ipv4Enabled := snapshot.enabled
  ipv4Config :=
    { dhcp := snapshot.dhcp
      manual := if snapshot.dhcp then [] else snapshot.ipv4Addresses.map fillPrefixedAddress
      linkLocal := none
      fromDhcp :=
        if snapshot.dhcp then snapshot.ipv4Addresses.head?.map fillPrefixedAddress else none }

def fillNetworkInterfacesResponse (host : HostNetwork) : List NetworkInterface :=
  (readNetworkInterfaces host).map fillNetworkInterface

/-! ### Operations -/

def tdsGetCapabilities (ctx : Context) (request : Option TdsGetCapabilities) :
    Service Capabilities := do
  authenticate ctx
  return fillCapabilitiesResponse request ctx.config

def tdsGetServices (ctx : Context) : Service (List ServiceEntry) := do
  authenticate ctx
  return fillServicesResponse ctx.config

def tdsGetDeviceInformation (ctx : Context) : Service DeviceInformation := do
  authenticate ctx
  return fillDeviceInformationResponse ctx.config

def tdsGetSystemDateAndTime (ctx : Context) : Service SystemDateTime := do
  authenticate ctx
  let raw ← Prog.perform Call.time
  return fillSystemDateAndTimeResponse raw

def tdsGetScopes (ctx : Context) : Service (List Scope) := do
  authenticate ctx
  return fillScopesResponse ctx.config

def tdsGetHostname (ctx : Context) : Service HostnameInformation := do
  authenticate ctx
  return fillHostnameResponse ctx.config

def tdsGetNetworkInterfaces (ctx : Context) : Service (List NetworkInterface) := do
  authenticate ctx
  let host ← Prog.perform Call.network
  return fillNetworkInterfacesResponse host

def tdsGetUsers (ctx : Context) : Service (List User) := do
  authenticate ctx
  return fillUsersResponse ctx.config

def tdsGetServiceCapabilities (ctx : Context) : Service DeviceServiceCapabilities := do
  authenticate ctx
  return fillServiceCapabilitiesResponse

end Afterveda.Onvif.Soap
