import Afterveda.Lib.HttpRequest
import Afterveda.Onvif.HttpClient
import Afterveda.Onvif.Link
import Afterveda.Rail.Equiv.Stored

/-!
# rail-media behind its HTTP port

`wireHost` serves the HTTP calls of a service with the bytes of `http_client.cpp`: what a call sends
goes over a connection to rail-media's port, the HTTP library there makes a request of it for
`ControlServer::handle_request`, and the answer comes back as the bytes of a response.  The library
is a parameter, and `Front.Conforms` is what is used of it.
-/

namespace Afterveda.Onvif.HttpClient

open CText Http JsonGlib

/-- rail-media's HTTP library on the port it listens on. -/
structure Front where
  inetPton : Bytes → Option (BitVec 32)
  address : BitVec 32
  port : UInt16
  /-- The request that the bytes of a connection are. -/
  read : Bytes → Option Rail.Request
  /-- What comes back for bytes that are none. -/
  refuse : Incoming
  /-- What comes back for an answer of `handle_request`. -/
  write : Rail.Response → Incoming

/-! ### The library -/

def isSmallLetter (c : UInt8) : Bool := 97 ≤ c && c ≤ 122

/-- A path of one segment of small letters, which stands for itself. -/
def PlainPath (path : Bytes) : Prop := path.head? = some 47 ∧ path.tail.all isSmallLetter = true

instance (path : Bytes) : Decidable (PlainPath path) := inferInstanceAs (Decidable (_ ∧ _))

/-- The header fields that the client writes. -/
def wireFields (authority body : Bytes) : List Field :=
  [⟨bytes "Host", bytes " " ++ authority⟩, ⟨bytes "Connection", bytes " close"⟩,
    ⟨bytes "Content-Length", 32 :: toDecimal body.length⟩] ++
  if body = [] then [] else [⟨bytes "Content-Type", bytes " application/json"⟩]

/-- A request of HTTP/1.1 to `authority` with the client's header fields, and with a path that needs
no decoding. -/
structure PlainRequest (authority : Bytes) (R : Http.Request) : Prop where
  method : R.method = bytes "GET" ∧ R.body = [] ∨ R.method = bytes "POST"
  target : PlainPath R.target
  version : R.version = bytes "HTTP/1.1"
  fields : R.fields = wireFields authority R.body

/-- The library reads such requests, and it writes each answer of `handle_request` as a response
with its status and its body, of which every byte arrives. -/
structure Front.Conforms (front : Front) (authority : Bytes) : Prop where
  read : ∀ R : Http.Request, PlainRequest authority R →
    front.read R.text = some ⟨R.method, R.target, R.body⟩
  write : ∀ response : Rail.Response, response.status ∈ Rail.kStatuses →
    ∃ R : Http.Response, R.status = response.status ∧ R.body = response.body ∧
      (front.write response).received = R.text

/-- The URL leads to the port of the library, with `authority` in it. -/
structure Front.Reached (front : Front) (url authority : Bytes) : Prop where
  url : url = bytes "http://" ++ authority
  slash : 47 ∉ authority
  inLine : Http.InLine authority
  port : ∃ host port, hostPort authority = some (host, port) ∧
    front.inetPton (cString host) = some front.address ∧ UInt16.ofInt port = front.port

/-! ### Serving -/

variable {T : Type} (points : Rail.MountPoints T) (parse : Parser) (uptime : ℤ) (front : Front)

/-- What rail-media makes of the bytes of a connection: what comes back, and the state after it. -/
def Front.serve (sent : Bytes) (s : Rail.MediaServer T) : Incoming × Rail.MediaServer T :=
  match front.read sent with
  | none => (front.refuse, s)
  | some request =>
    let (response, t) := Rail.handleRequest points parse uptime request s
    (front.write response, t)

/-- The network with rail-media in the state `s` on its port, and nothing else. -/
def Front.sockets (s : Rail.MediaServer T) : Sockets where
  socket := true
  inetPton := front.inetPton
  connect address port :=
    if address = front.address ∧ port = front.port then
      some fun sent => (front.serve points parse uptime sent s).1
    else none

/-- The bytes that a request sends, when there is a connection for it. -/
def sent (net : Sockets) (baseUrl method path body : Bytes) : Option Bytes := do
  let (authority, basePath) ← parseHttpUrl baseUrl
  let (host, port) ← hostPort authority
  let _ ← net.dial host port
  return wire authority method (basePath ++ path) body

/-- rail-media behind its port as the host of a service; `other` answers the calls that are not HTTP
requests. -/
def wireHost (railControlUrl : Bytes) (other : (c : Call) → c.Answer) :
    (c : Call) → Rail.MediaServer T → c.Answer × Rail.MediaServer T
  | .http method path body, s =>
    let net := front.sockets points parse uptime s
    (httpRequestWithStatus net railControlUrl method path body,
      match sent net railControlUrl method path body with
      | none => s
      | some bytes => (front.serve points parse uptime bytes s).2)
  | c, s => (other c, s)

end Afterveda.Onvif.HttpClient
