import Afterveda.Rail.Callbacks
import Afterveda.Rail.HandOff

/-!
# A request among the callbacks

`handle_request` runs on the control thread, the operation it hands over runs on the main loop, and
GStreamer's callbacks run on threads of their own.  `Sections.machine` takes every critical section
of `MediaServer`, and every call to the mount points, as one step, in any order that the three
allow.  `Atomic.machine` is the same server with each request handled in one step.
-/

namespace Afterveda.Rail

open CText JsonGlib

variable {T : Type} (points : MountPoints T) (parse : Parser)

/-! ### What is shared -/

/-- The server, and the calls of `on_media_unprepared` between their two sections. -/
structure Shared (T : Type) where
  server : MediaServer T
  unpreparing : List {status : MediaStatus // status ≠ .error} := []

/-- The sections that belong to callbacks. -/
def Threads.Event.isCallback : Threads.Event → Bool
  | .install _ | .storeCurrent _ | .read => false
  | _ => true

/-- A section of a callback. -/
def Shared.callback (s : Shared T) (e : Threads.Event) : Option (Shared T) :=
  if e.isCallback then
    (Threads.step points { server := s.server, unpreparing := s.unpreparing } e).map fun t =>
      { server := t.server, unpreparing := t.unpreparing }
  else none

/-- The server as it is started. -/
def Shared.Starts (config : Config) (s : Shared T) : Prop :=
  ∃ now, s = { server := MediaServer.start points config now }

/-! ### Requests in one step -/

inductive Atomic.Event
  | exchange (uptime : ℤ) (request : Request) (response : Response)
  | callback (e : Threads.Event)

def Atomic.step (s : Shared T) : Atomic.Event → Option (Shared T)
  | .exchange uptime request response =>
    let (answer, server) := handleRequest points parse uptime request s.server
    if answer = response then some { s with server } else none
  | .callback e => s.callback points e

def Atomic.machine (config : Config) : Machine (Shared T) Atomic.Event where
  init := Shared.Starts points config
  step := Atomic.step points parse

/-! ### The main loop -/

/-- What the four operations come to before they install anything: the configuration they install
and the text that reports it, or the text of an error.  `current` is what they read under the
mutex. -/
def Operation.plan (current : Config) : Operation → Except Bytes (Config × Bytes)
  | .switchProfile profileName =>
    match findProfile profileName with
    | none => .error (errorJson (bytes "unknown profile: " ++ profileName))
    | some profile =>
      let next := { applyProfile current profile with profile := bytes "main" }
      .ok (next, profileJson next)
  | .setVideoConfig next =>
    if next.width ≤ 0 ∨ next.height ≤ 0 ∨ next.fps ≤ 0 ∨ next.bitrateKbps ≤ 0 then
      .error (errorJson (bytes "video config values must be positive"))
    else if supportedDynamicVideoConfig next = false then
      .error <| errorJson <| bytes
        "supported video settings are 640x360, 1280x720, or 1920x1080 at 30 fps and 800..5000 kbps"
    else if next.encoder ≠ bytes "v4l2" ∧ next.encoder ≠ bytes "x264" then
      .error (errorJson (bytes "encoder must be v4l2 or x264"))
    else .ok (next, profileJson next)
  | .setImaging brightness contrast colorSaturation =>
    let next := { current with brightness, contrast, colorSaturation }
    .ok (next, imagingJson next)
  | .setOsd enabled text =>
    if 128 < text.length then
      .error (errorJson (bytes "osd text must be 128 characters or fewer"))
    else
      let next := { current with osdEnabled := enabled, osdText := text }
      .ok (next, osdJson next)

/-- Where the main loop is. -/
inductive Main
  | free
  | applying (operation : Operation)
  /-- Before `update_pipeline_status` of `install_factory`. -/
  | resetting (next : Config) (message : Bytes)
  /-- Before `gst_rtsp_mount_points_remove_factory`. -/
  | removing (next : Config) (message : Bytes)
  /-- Before `gst_rtsp_mount_points_add_factory`. -/
  | adding (next : Config) (message : Bytes)
  /-- Before `current_ = next`. -/
  | storing (next : Config) (message : Bytes)
  | finished (result : Bool × Bytes)

/-- One step of the main loop over the server. -/
def Main.step (server : MediaServer T) : Main → Option (Main × MediaServer T)
  | .applying operation =>
    match operation.plan server.current with
    | .error message => some (.finished (false, message), server)
    | .ok (next, message) => some (.resetting next message, server)
  | .resetting next message =>
    some (.removing next message,
      updatePipelineStatus (bytes "idle") (bytes "not_checked") server)
  | .removing next message =>
    some (.adding next message,
      { server with mounts := points.removeFactory server.mounts (cString server.mount) })
  | .adding next message =>
    some (.storing next message,
      { server with
        mounts := points.addFactory server.mounts (cString server.mount) (createFactory next) })
  | .storing next message => some (.finished (true, message), { server with current := next })
  | .free | .finished _ => none

/-! ### The control thread -/

/-- A request that is being handled; `uptime` is what the clock said at the first read. -/
structure Handling where
  uptime : ℤ
  request : Request
  deriving DecidableEq

/-- Where the control thread is. -/
inductive Control
  | idle
  /-- At the start of `handle_request`. -/
  | handling (request : Request)
  /-- Between the two reads of `GET /health`. -/
  | healthRead (h : Handling) (health : HealthStatus)
  | posting (h : Handling) (operation : Operation) (failure : ℤ)
  | waiting (h : Handling) (failure : ℤ)
  | answering (h : Handling) (response : Response)

/-- `handle_request` after its read of the configuration, up to its answer or the hand-off. -/
def Control.proceed (h : Handling) (current : Config) : Control :=
  match h.request.route with
  | .getProfiles => .answering h ⟨200, profilesJson current⟩
  | .getPresets => .answering h ⟨200, presetsJson⟩
  | .getProfile => .answering h ⟨200, profileJson current⟩
  | .getImaging => .answering h ⟨200, imagingJson current⟩
  | .getOsd => .answering h ⟨200, osdJson current⟩
  | .postConfig =>
    match videoConfigFromJson parse h.request.body current with
    | .error errorBody => .answering h ⟨400, errorBody⟩
    | .ok next => .posting h (.setVideoConfig next) 500
  | .postPreset name => .posting h (.switchProfile name) 404
  | .postImaging =>
    match imagingFromJson parse h.request.body current with
    | .error errorBody => .answering h ⟨400, errorBody⟩
    | .ok next => .posting h (.setImaging next.brightness next.contrast next.colorSaturation) 500
  | .postOsd =>
    match osdFromJson parse h.request.body current with
    | .error errorBody => .answering h ⟨400, errorBody⟩
    | .ok next => .posting h (.setOsd next.osdEnabled next.osdText) 500
  | .getHealth | .notFound => .answering h ⟨404, bytes "\x7b\"error\":\"not found\"\x7d\n"⟩

/-! ### All of them -/

structure Sections (T : Type) where
  shared : Shared T
  control : Control := .idle
  main : Main := .free

inductive Sections.Event
  | arrive (request : Request)
  /-- The first read of `handle_request`, when the server has been up for so many seconds. -/
  | read (uptime : ℤ)
  /-- The second read of `GET /health`. -/
  | readConfig
  | post
  | mainLoop
  /-- The control thread takes the result of its operation. -/
  | resume
  | respond (h : Handling) (response : Response)
  | callback (e : Threads.Event)

def Sections.step (s : Sections T) : Sections.Event → Option (Sections T)
  | .arrive request =>
    match s.control with
    | .idle => some { s with control := .handling request }
    | _ => none
  | .read uptime =>
    match s.control with
    | .handling request =>
      if request.route = .getHealth then
        some { s with
          control := .healthRead ⟨uptime, request⟩ (s.shared.server.healthStatus uptime) }
      else
        some { s with control := .proceed parse ⟨uptime, request⟩ s.shared.server.current }
    | _ => none
  | .readConfig =>
    match s.control with
    | .healthRead h health =>
      some { s with control := .answering h (healthResponse health s.shared.server.current) }
    | _ => none
  | .post =>
    match s.control, s.main with
    | .posting h operation failure, .free =>
      some { s with control := .waiting h failure, main := .applying operation }
    | _, _ => none
  | .mainLoop =>
    (s.main.step points s.shared.server).map fun (main, server) =>
      { s with main, shared := { s.shared with server } }
  | .resume =>
    match s.control, s.main with
    | .waiting h failure, .finished (ok, message) =>
      some { s with control := .answering h ⟨if ok then 200 else failure, message⟩, main := .free }
    | _, _ => none
  | .respond h response =>
    match s.control with
    | .answering h' response' =>
      if h = h' ∧ response = response' then some { s with control := .idle } else none
    | _ => none
  | .callback e => (s.shared.callback points e).map fun shared => { s with shared }

def Sections.machine (config : Config) : Machine (Sections T) Sections.Event where
  init s := ∃ shared, Shared.Starts points config shared ∧ s = { shared }
  step := Sections.step points parse

/-! ### What is seen -/

/-- A request with its answer. -/
abbrev Exchange : Type := Handling × Response

def Atomic.Event.exchanged : Atomic.Event → Option Exchange
  | .exchange uptime request response => some (⟨uptime, request⟩, response)
  | .callback _ => none

def Atomic.Event.called : Atomic.Event → Option Threads.Event
  | .exchange .. => none
  | .callback e => some e

def Sections.Event.answered : Sections.Event → Option Exchange
  | .respond h response => some (h, response)
  | _ => none

def Sections.Event.called : Sections.Event → Option Threads.Event
  | .callback e => some e
  | _ => none

end Afterveda.Rail
