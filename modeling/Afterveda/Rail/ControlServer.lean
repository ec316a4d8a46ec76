import Afterveda.Lib.JsonGlib
import Afterveda.Lib.Machine
import Afterveda.Rail.MediaServer

/-!
# The control API

`ControlServer::run_server` and `ControlServer::handle_request` of `control_server.cpp`: the port
the server listens on, the readers of request bodies, the routes and the status of each answer.  A
request is handled to its end before the next one, and its operation runs on the main loop
meanwhile, so a request is one step of the server; GStreamer's callbacks come between requests.  The
JSON parser is a parameter.

`machine` is the whole server from its start: its events are exchanges, a request with the answer it
got, and callbacks.
-/

namespace Afterveda.Rail

open CText CNumber JsonGlib

/-! ### Listening -/

/-- What `run_server` is told by the libraries: whether there is a server, whether a text is an
address, and whether the server listens at an address and port, else with the message if there is
one. -/
structure Network where
  newServer : Bool
  inetAddress : Bytes → Bool
  listen : Bytes → UInt16 → Except (Option Bytes) Unit

/-- `ControlServer::run_server` up to its main loop: the port it listens on, or the error it
reports. -/
def runServer (net : Network) (host port : Bytes) : Except Stop UInt16 :=
  if !net.newServer then .error (.error (bytes "failed to create HTTP control server"))
  else
    match parseInt port (bytes "--control-port") with
    | .error stop => .error stop
    | .ok parsedPort =>
      if 65535 < parsedPort then .error (.error (bytes "invalid --control-port: " ++ port))
      else if !net.inetAddress (cString host) then
        .error (.error (bytes "invalid --control-host: " ++ host))
      else
        match net.listen (cString host) (UInt16.ofInt parsedPort) with
        | .error message => .error (.error
            (bytes "failed to bind HTTP control port: " ++ message.getD (bytes "unknown error")))
        | .ok () => .ok (UInt16.ofInt parsedPort)

/-! ### Reading members -/

/-- What a reader of a member returns: that it is present with its value, that it is absent, or that
its value is bad. -/
abbrev Member (α : Type) := Except Unit (Option α)

/-- The value `read_json_int` takes from a number. -/
def intValue : JsonNode → Option ℤ
  | .int raw => if raw ≤ 0 ∨ 2 ^ 31 - 1 < raw then none else some raw
  -- a real number has to be a whole one
  | .double (.finite raw) =>
    if raw ≤ 0 ∨ 2 ^ 31 - 1 < raw ∨ (⌊raw⌋ : ℚ) ≠ raw then none else some ⌊raw⌋
  | _ => none

/-- The value `read_json_double` takes from a number. -/
def doubleValue (node : JsonNode) : Option Double :=
  match node.getDouble with
  | some (.finite parsed) => if parsed < 0 ∨ 100 < parsed then none else some (.finite parsed)
  | _ => none

def boolValue : JsonNode → Option Bool
  | .boolean value => some value
  | _ => none

/-- The value `read_json_string` takes from a string: a C string of at most 128 bytes. -/
def stringValue : JsonNode → Option Bytes
  | .string parsed => if (cString parsed).length ≤ 128 then some (cString parsed) else none
  | _ => none

/-- The common part of the `read_json_` functions. -/
def readJson {α : Type} (value : JsonNode → Option α) (object : List (Bytes × JsonNode))
    (key : Bytes) : Member α :=
  match getMember object key with
  | none => .ok none
  | some node =>
    match value node with
    | none => .error ()
    | some x => .ok (some x)

def readJsonInt := readJson intValue
def readJsonDouble := readJson doubleValue
def readJsonBool := readJson boolValue
def readJsonString := readJson stringValue

/-! ### Reading bodies -/

def parseJsonObject (parse : Parser) (body : Bytes) : Option (List (Bytes × JsonNode)) :=
  match parse body with
  | some (.object members) => some members
  | _ => none

/-- A bad member is reported under its name. -/
def checkMember {α : Type} (name : Bytes) (member : Member α) : Except Bytes (Option α) :=
  member.mapError fun _ => bytes "\x7b\"error\":\"invalid " ++ name ++ bytes "\"\x7d\n"

def videoConfigFromJson (parse : Parser) (body : Bytes) (current : Config) :
    Except Bytes Config := do
  match parseJsonObject parse body with
  | none => .error (bytes "\x7b\"error\":\"bad video config json\"\x7d\n")
  | some object =>
    let width ← checkMember (bytes "width") (readJsonInt object (bytes "width"))
    let height ← checkMember (bytes "height") (readJsonInt object (bytes "height"))
    let fps ← checkMember (bytes "fps") (readJsonInt object (bytes "fps"))
    let bitrateKbps ← checkMember (bytes "bitrate_kbps") (readJsonInt object (bytes "bitrate_kbps"))
    if width.isNone ∧ height.isNone ∧ fps.isNone ∧ bitrateKbps.isNone then
      .error (bytes "\x7b\"error\":\"no video config values\"\x7d\n")
    else
      return { current with
        width := width.getD current.width
        height := height.getD current.height
        fps := fps.getD current.fps
        bitrateKbps := bitrateKbps.getD current.bitrateKbps
        profile := bytes "main" }

def imagingFromJson (parse : Parser) (body : Bytes) (current : Config) : Except Bytes Config := do
  match parseJsonObject parse body with
  | none => .error (bytes "\x7b\"error\":\"bad imaging json\"\x7d\n")
  | some object =>
    let brightness ← checkMember (bytes "brightness") (readJsonDouble object (bytes "brightness"))
    let contrast ← checkMember (bytes "contrast") (readJsonDouble object (bytes "contrast"))
    let colorSaturation ← checkMember (bytes "color_saturation")
      (readJsonDouble object (bytes "color_saturation"))
    if brightness.isNone ∧ contrast.isNone ∧ colorSaturation.isNone then
      .error (bytes "\x7b\"error\":\"no imaging values\"\x7d\n")
    else
      return { current with
        brightness := brightness.getD current.brightness
        contrast := contrast.getD current.contrast
        colorSaturation := colorSaturation.getD current.colorSaturation }

def osdFromJson (parse : Parser) (body : Bytes) (current : Config) : Except Bytes Config := do
  match parseJsonObject parse body with
  | none => .error (bytes "\x7b\"error\":\"bad osd json\"\x7d\n")
  | some object =>
    let enabled ← checkMember (bytes "enabled") (readJsonBool object (bytes "enabled"))
    let text ← checkMember (bytes "text") (readJsonString object (bytes "text"))
    if enabled.isNone ∧ text.isNone then .error (bytes "\x7b\"error\":\"no osd values\"\x7d\n")
    else
      return { current with
        osdEnabled := enabled.getD current.osdEnabled
        osdText := text.getD current.osdText }

/-! ### Routes -/

structure Request where
  method : Bytes
  path : Bytes
  body : Bytes := []
  deriving DecidableEq

structure Response where
  status : ℤ
  body : Bytes
  deriving DecidableEq

/-- `null` for an empty text, and the text in quotes otherwise. -/
def nullableJson (value : Bytes) : Bytes :=
  if value = [] then bytes "null" else bytes "\"" ++ jsonEscape value ++ bytes "\""

/-- The answer to `GET /health`. -/
def healthResponse (health : HealthStatus) (config : Config) : Response :=
  let failed : Bool := !health.rtspServerReady || health.pipelineStatus = bytes "error"
  let status :=
    if failed then bytes "error"
    else if health.pipelineStatus = bytes "ready" then bytes "ok"
    else health.pipelineStatus
  ⟨if failed then 503 else 200,
    bytes "\x7b\n  \"status\": \"" ++ status ++
    bytes "\",\n  \"rtsp_server\": \"" ++
      (if health.rtspServerReady then bytes "ready" else bytes "error") ++
    bytes "\",\n  \"pipeline\": \"" ++ jsonEscape health.pipelineStatus ++
    bytes "\",\n  \"camera\": \"" ++ jsonEscape health.cameraStatus ++
    bytes "\",\n  \"profile\": \"" ++ jsonEscape config.profile ++
    bytes "\",\n  \"resolution\": \"" ++ toDecimal config.width ++ bytes "x" ++
      toDecimal config.height ++
    bytes "\",\n  \"fps\": " ++ toDecimal config.fps ++
    bytes ",\n  \"bitrate_kbps\": " ++ toDecimal config.bitrateKbps ++
    bytes ",\n  \"rtsp_clients\": " ++ toDecimal health.rtspClients.toNat ++
    bytes ",\n  \"uptime_seconds\": " ++ toDecimal health.uptimeSeconds ++
    bytes ",\n  \"started_at\": \"" ++ jsonEscape health.startedAt ++
    bytes "\",\n  \"last_pipeline_ready_at\": " ++ nullableJson health.lastPipelineReadyAt ++
    bytes ",\n  \"last_error\": " ++ nullableJson health.lastError ++ bytes "\n\x7d\n"⟩

/-- The answer made of an operation's result. -/
def respond {S : Type} (failure : ℤ) (result : (Bool × Bytes) × S) : Response × S :=
  (⟨if result.1.1 then 200 else failure, result.1.2⟩, result.2)

/-- The name after `/preset/` or `/profile/`. -/
def presetName (path : Bytes) : Option Bytes :=
  if bytes "/preset/" <+: path then some (path.drop (bytes "/preset/").length)
  else if bytes "/profile/" <+: path then some (path.drop (bytes "/profile/").length)
  else none

/-- What a method and a path ask for. -/
inductive Route
  | getHealth
  | getProfiles
  | getPresets
  | getProfile
  | getImaging
  | getOsd
  | postConfig
  | postPreset (name : Bytes)
  | postImaging
  | postOsd
  | notFound
  deriving DecidableEq

def Request.route (request : Request) : Route :=
  if request.method = bytes "GET" then
    if request.path = bytes "/health" then .getHealth
    else if request.path = bytes "/profiles" then .getProfiles
    else if request.path = bytes "/presets" then .getPresets
    else if request.path = bytes "/profile" then .getProfile
    else if request.path = bytes "/imaging" then .getImaging
    else if request.path = bytes "/osd" then .getOsd
    else .notFound
  else if request.method = bytes "POST" then
    if request.path = bytes "/config" then .postConfig
    else
      match presetName request.path with
      | some name => .postPreset name
      | none =>
        if request.path = bytes "/imaging" then .postImaging
        else if request.path = bytes "/osd" then .postOsd
        else .notFound
  else .notFound

variable {T : Type} (points : MountPoints T) (parse : Parser)

/-- The answer to a request and the server after it; `uptime` is what the clock says. -/
def handleRequest (uptime : ℤ) (request : Request) (s : MediaServer T) :
    Response × MediaServer T :=
  match request.route with
  | .getHealth => (healthResponse (s.healthStatus uptime) s.current, s)
  | .getProfiles => (⟨200, profilesJson s.current⟩, s)
  | .getPresets => (⟨200, presetsJson⟩, s)
  | .getProfile => (⟨200, profileJson s.current⟩, s)
  | .getImaging => (⟨200, imagingJson s.current⟩, s)
  | .getOsd => (⟨200, osdJson s.current⟩, s)
  | .postConfig =>
    match videoConfigFromJson parse request.body s.current with
    | .error errorBody => (⟨400, errorBody⟩, s)
    | .ok next => respond 500 (setVideoConfigNow points next s)
  | .postPreset name => respond 404 (switchProfileNow points name s)
  | .postImaging =>
    match imagingFromJson parse request.body s.current with
    | .error errorBody => (⟨400, errorBody⟩, s)
    | .ok next =>
      respond 500 (setImagingNow points next.brightness next.contrast next.colorSaturation s)
  | .postOsd =>
    match osdFromJson parse request.body s.current with
    | .error errorBody => (⟨400, errorBody⟩, s)
    | .ok next => respond 500 (setOsdNow points next.osdEnabled next.osdText s)
  | .notFound => (⟨404, bytes "\x7b\"error\":\"not found\"\x7d\n"⟩, s)

/-! ### Runs -/

inductive Event
  /-- A request handled when the server has been up for `uptime` seconds, and its answer. -/
  | exchange (uptime : ℤ) (request : Request) (response : Response)
  | callback (callback : Callback)

/-- The state after an event; an exchange happens with the one answer the server gives. -/
def step (s : MediaServer T) : Event → Option (MediaServer T)
  | .exchange uptime request response =>
    let (answer, t) := handleRequest points parse uptime request s
    if answer = response then some t else none
  | .callback callback => some (onCallback callback s)

/-- rail-media started with a configuration. -/
def machine (config : Config) : Machine (MediaServer T) Event where
  init s := ∃ now, s = MediaServer.start points config now
  step := step points parse

end Afterveda.Rail
