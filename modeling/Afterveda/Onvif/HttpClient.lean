import Afterveda.Onvif.RailClient

/-!
# The HTTP client

`network/http_client.cpp`: a request is sent over a connection of its own, and the response is what
`recv` gives until it gives nothing more.  The sockets are a parameter.  `socketHost` serves the
calls of a service this way.
-/

namespace Afterveda.Onvif.HttpClient

open CText CNumber

/-! ### Sockets -/

/-- Why `recv` gives no more bytes: 0 when the peer has closed the connection, and -1 for an error
or after the receive timeout. -/
inductive Ending
  | closed
  | error
  | timeout
  deriving DecidableEq

/-- What the calls of `recv` on a connection give: chunks that fit into the buffer, and an ending.
-/
structure Incoming where
  chunks : List Bytes
  ending : Ending
  chunks_size : ∀ chunk ∈ chunks, 0 < chunk.length ∧ chunk.length ≤ 2048

/-- All bytes that arrive. -/
def Incoming.received (incoming : Incoming) : Bytes := incoming.chunks.flatten

/-- What the client is told by the system: whether there is a socket, which address a text is, and
what comes back on a connection to an address and port for the bytes sent over it. -/
structure Sockets where
  socket : Bool
  inetPton : Bytes → Option (BitVec 32)
  connect : BitVec 32 → UInt16 → Option (Bytes → Incoming)

/-- `socket`, `inet_pton` and `connect`, where all of them succeed. -/
def Sockets.dial (net : Sockets) (host : Bytes) (port : ℤ) : Option (Bytes → Incoming) :=
  if net.socket then
    (net.inetPton (cString host)).bind fun address => net.connect address (UInt16.ofInt port)
  else none

/-! ### Requests -/

/-- `parse_http_url`, or `none` where it throws: the authority and the path. -/
def parseHttpUrl (url : Bytes) : Option (Bytes × Bytes) :=
  if bytes "http://" <+: url then
    let rest := url.drop (bytes "http://").length
    match find rest (bytes "/") with
    | none => some (rest, [])
    | some slash => some (rest.take slash, rest.drop slash)
  else none

/-- The host and the port of an authority, or `none` where `std::stoi` throws. -/
def hostPort (authority : Bytes) : Option (Bytes × ℤ) :=
  match rfind authority 58 with
  | none => some (authority, 80)
  | some colon => (stoi (authority.drop (colon + 1))).map fun port => (authority.take colon, port)

/-- The bytes of a request. -/
def wire (authority method fullPath body : Bytes) : Bytes :=
  method ++ bytes " " ++ fullPath ++ bytes " HTTP/1.1\r\n" ++
    bytes "Host: " ++ authority ++ bytes "\r\n" ++
    bytes "Connection: close\r\n" ++
    bytes "Content-Length: " ++ toDecimal body.length ++ bytes "\r\n" ++
    (if body = [] then [] else bytes "Content-Type: application/json\r\n") ++
    bytes "\r\n" ++ body

/-- What arrives for a request, when there is a connection for it. -/
def exchange (net : Sockets) (baseUrl method path body : Bytes) : Option Incoming := do
  let (authority, basePath) ← parseHttpUrl baseUrl
  let (host, port) ← hostPort authority
  let peer ← net.dial host port
  return peer (wire authority method (basePath ++ path) body)

/-! ### Responses -/

/-- The loop over `recv`. -/
def receive : List Bytes → Bytes → Bytes
  -- `n <= 0`: the ending makes no difference
  | [], response => response
  | chunk :: chunks, response => receive chunks (response ++ chunk)

/-- What is made of the received bytes. -/
def parseResponse (response : Bytes) : Option RailHttpResponse :=
  match find response (bytes "\r\n\r\n") with
  | none => none
  | some bodyStart =>
    match find response (bytes " ") with
    | none => none
    | some statusStart =>
      (stoi ((response.drop (statusStart + 1)).take 3)).map fun status =>
        ⟨status, response.drop (bodyStart + 4)⟩

/-- `http_request_with_status`. -/
def httpRequestWithStatus (net : Sockets) (baseUrl method path body : Bytes) :
    Option RailHttpResponse :=
  (exchange net baseUrl method path body).bind fun incoming =>
    parseResponse (receive incoming.chunks [])

/-- `http_request`. -/
def httpRequest (net : Sockets) (baseUrl method path : Bytes) : Option Bytes :=
  ((httpRequestWithStatus net baseUrl method path []).filter RailHttpResponse.ok).map
    RailHttpResponse.body

/-! ### Calls -/

/-- The network as the host of a service; `other` answers the calls that are not HTTP requests. -/
def socketHost (net : Sockets) (railControlUrl : Bytes) (other : (c : Call) → c.Answer) :
    (c : Call) → Unit → c.Answer × Unit
  | .http method path body, s => (httpRequestWithStatus net railControlUrl method path body, s)
  | c, s => (other c, s)

end Afterveda.Onvif.HttpClient
