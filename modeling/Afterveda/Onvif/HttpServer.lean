import Afterveda.Onvif.RailClient

/-!
# The health of both servers

`health_check` of `network/http_server.cpp` answers a `GET`: it asks rail-media for its health and
wraps the answer, whatever it is, into a document of its own.
-/

namespace Afterveda.Onvif

open CText CNumber

/-- What `health_check` sends. -/
structure HealthReply where
  status : ℤ
  content : Bytes
  body : Bytes
  deriving DecidableEq

/-- The document for what rail-media has answered. -/
def healthDocument : Option RailHttpResponse → Bytes
  | some rail =>
    let railBody := if rail.body = [] then bytes "\x7b\x7d" else rail.body
    bytes "\x7b\n" ++
      bytes "  \"status\": \"" ++ (if rail.ok then bytes "ok" else bytes "degraded") ++
      bytes "\",\n" ++
      bytes "  \"service\": \"afterveda-onvif\",\n" ++
      bytes "  \"rail_media\": \x7b\n" ++
      bytes "    \"reachable\": true,\n" ++
      bytes "    \"http_status\": " ++ toDecimal rail.status ++ bytes ",\n" ++
      bytes "    \"health\": " ++ railBody ++
      bytes "  \x7d\n" ++
      bytes "\x7d\n"
  | none =>
    bytes "\x7b\n" ++
      bytes "  \"status\": \"degraded\",\n" ++
      bytes "  \"service\": \"afterveda-onvif\",\n" ++
      bytes "  \"rail_media\": \x7b\n" ++
      bytes "    \"reachable\": false,\n" ++
      bytes "    \"error\": \"rail-media health endpoint is unavailable\"\n" ++
      bytes "  \x7d\n" ++
      bytes "\x7d\n"

/-- The reply; the document is sent as a C string. -/
def healthReply (rail : Option RailHttpResponse) : HealthReply where
  status := if rail.any RailHttpResponse.ok then 200 else 503
  content := bytes "application/json"
  body := cString (healthDocument rail)

/-- `health_check`. -/
def healthCheck : Service HealthReply := do
  let rail ← httpRequestWithStatus (bytes "GET") (bytes "/health") []
  return healthReply rail

end Afterveda.Onvif
