import Afterveda.Lib.CNumber
import Afterveda.Lib.Interact
import Afterveda.Onvif.Auth
import Afterveda.Ptz.Device

/-!
# What the services call

A SOAP service computes its answer in memory, except for the calls it makes: HTTP requests to
rail-media (`http_client.cpp`), the functions of `ptz_device.h`, the clock, and the network
interfaces of the host.  A service is a `Service`, a program of these calls that ends with a
response or a fault.
-/

namespace Afterveda.Onvif

open CText CNumber

/-! ### Network interfaces -/

/-- One entry of `getifaddrs`: a null name or address is `none`; `ipv4` is the text `inet_ntop`
gives for the address of an `AF_INET` entry, with its mask in host order. -/
structure IfAddr where
  name : Option CStr
  hasAddr : Bool
  loopback : Bool
  up : Bool
  ipv4 : Option Bytes
  netmask : Option (BitVec 32)
  deriving DecidableEq

/-- What the host says of an interface by its name: the MTU and the six bytes of the hardware
address where the `ioctl` succeeded, and whether there is a DHCP lease. -/
structure LinkDetails where
  mtu : Option ℤ
  hardwareAddress : Option Bytes
  dhcp : Bool
  deriving DecidableEq

/-- What `getifaddrs` and the queries by name return; no list when `getifaddrs` fails. -/
structure HostNetwork where
  addresses : Option (List IfAddr)
  details : Bytes → LinkDetails

/-! ### Calls -/

/-- `RailHttpResponse`. -/
structure RailHttpResponse where
  status : ℤ
  body : Bytes
  deriving DecidableEq

inductive Call
  /-- An HTTP request to the configured `rail_control_url`. -/
  | http (method path body : Bytes)
  /-- `std::time`. -/
  | time
  | network
  | readPtzStatus
  | continuousMovePtz (x y : Double) (timeoutMs : ℤ)
  | relativeMovePtz (x y : Double)
  | stopPtz
  | homePtz
  | setHomePtzFromCurrent
  deriving DecidableEq

/-- What a call returns: an HTTP request no response when the exchange fails, a PTZ command its
error text, empty on success. -/
abbrev Call.Answer : Call → Type
  | .http .. => Option RailHttpResponse
  | .time => ℤ
  | .network => HostNetwork
  | .readPtzStatus => Except Bytes Ptz.PtzStatus
  | _ => Bytes

/-- The answers of a host where nothing works. -/
instance (c : Call) : Inhabited c.Answer where
  default :=
    match c with
    | .http .. => (none : Option RailHttpResponse)
    | .time => (0 : ℤ)
    | .network => ⟨none, fun _ => ⟨none, none, false⟩⟩
    | .readPtzStatus => .error (bytes "failed to open PTZ device")
    | .continuousMovePtz .. | .relativeMovePtz .. | .stopPtz | .homePtz | .setHomePtzFromCurrent =>
      bytes "failed to open PTZ device"

/-- A function that may make calls and may end the request with a fault. -/
abbrev Service (α : Type) := Prog Call Call.Answer Fault α

/-- An empty error text lets the service go on. -/
def checkError (error : Bytes) : Service Unit :=
  if error = [] then pure () else .fail (soapSenderFault error)

/-- `require_auth` at the start of a service. -/
def authenticate (ctx : Context) : Service Unit := .ofExcept (requireAuth ctx)

/-- A pointer to a C string, as `string_value` reads it. -/
def stringValue (value : Option CStr) : Bytes := (value.map Subtype.val).getD []

end Afterveda.Onvif
