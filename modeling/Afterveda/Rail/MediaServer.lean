import Afterveda.Lib.Calendar
import Afterveda.Rail.Documents
import Afterveda.Rail.Pipeline

/-!
# The media server

`MediaServer` of `media_server.cpp`: the variables of the class, the operations the control API
calls, and the callbacks GStreamer makes.  An operation runs on the main loop and is one function of
the state.

The mount points of gst-rtsp-server are a parameter, `MountPoints`; `MountPoints.Replaces` is the
one thing the code relies on: a factory added where the old one was removed is the one served there.
-/

namespace Afterveda.Rail

open CText CNumber Calendar

def kRtspViewerRole : Bytes := bytes "viewer"

/-- `GstRTSPMediaFactory`: what the code sets of it. -/
structure Factory where
  launch : Bytes
  shared : Bool
  roles : List Bytes
  deriving DecidableEq

/-- `GstRTSPMountPoints`, over the type of its tables. -/
structure MountPoints (T : Type) where
  empty : T
  removeFactory : T → Bytes → T
  addFactory : T → Bytes → Factory → T
  lookup : T → Bytes → Option Factory

/-- Removing the factory at a path and adding another replaces it. -/
def MountPoints.Replaces {T : Type} (points : MountPoints T) : Prop :=
  ∀ table path factory, path.head? = some 47 →
    points.lookup (points.addFactory (points.removeFactory table path) path factory) path =
      some factory

/-- Mount points as a table of paths and factories. -/
def mountTable : MountPoints (List (Bytes × Factory)) where
  empty := []
  removeFactory table path := table.filter fun entry => entry.1 ≠ path
  addFactory table path factory := (path, factory) :: table
  lookup table path := table.lookup path

theorem replaces_mountTable : mountTable.Replaces := by
  intro table path factory _
  show ((path, factory) :: _).lookup path = some factory
  rw [List.lookup_cons_self]

/-- The users an RTSP client may sign in as: `GstRTSPAuth` with one digest user. -/
structure RtspAuth where
  realm : Bytes
  user : Bytes
  password : Bytes
  role : Bytes
  deriving DecidableEq

structure MediaServer (T : Type) where
  mounts : T
  auth : Option RtspAuth
  mount : Bytes
  current : Config
  pipelineStatus : Bytes := bytes "idle"
  cameraStatus : Bytes := bytes "not_checked"
  lastError : Bytes := []
  startedAt : ℤ
  lastPipelineReadyAt : ℤ := 0
  rtspClients : UInt32 := 0

variable {T : Type} (points : MountPoints T)

def rtspAuthEnabled (config : Config) : Bool := config.rtspUser ≠ [] && config.rtspPassword ≠ []

def supportedDynamicVideoConfig (config : Config) : Bool :=
  let supportedResolution :=
    (config.width = 640 ∧ config.height = 360) ∨
    (config.width = 1280 ∧ config.height = 720) ∨
    (config.width = 1920 ∧ config.height = 1080)
  supportedResolution ∧ config.fps = 30 ∧ 800 ≤ config.bitrateKbps ∧ config.bitrateKbps ≤ 5000

def utcTimestamp (value : ℤ) : Bytes := if value = 0 then [] else formatUtc (gmtime value)

/-! ### Factories -/

def configureAuth (config : Config) : Option RtspAuth :=
  if rtspAuthEnabled config then
    some ⟨cString config.rtspRealm, cString config.rtspUser, cString config.rtspPassword,
      kRtspViewerRole⟩
  else none

def createFactory (config : Config) : Factory where
  launch := cString (buildLaunchPipeline config)
  shared := true
  roles := if rtspAuthEnabled config then [kRtspViewerRole] else []

def updatePipelineStatus (pipelineStatus cameraStatus : Bytes) (s : MediaServer T) :
    MediaServer T :=
  { s with pipelineStatus, cameraStatus }

def installFactory (config : Config) (s : MediaServer T) : MediaServer T :=
  let s := updatePipelineStatus (bytes "idle") (bytes "not_checked") s
  let mounts := points.removeFactory s.mounts (cString s.mount)
  { s with mounts := points.addFactory mounts (cString s.mount) (createFactory config) }

/-- The constructor; `now` is the time. -/
def MediaServer.start (config : Config) (now : ℤ) : MediaServer T :=
  let current := { config with profile := bytes "main" }
  installFactory points current
    { mounts := points.empty, auth := configureAuth config, mount := config.mount, current,
      startedAt := now }

/-! ### The operations -/

/-- The end of each operation: the factory is installed and the configuration committed. -/
def commit (next : Config) (s : MediaServer T) : MediaServer T :=
  { installFactory points next s with current := next }

def switchProfileNow (profileName : Bytes) (s : MediaServer T) :
    (Bool × Bytes) × MediaServer T :=
  match findProfile profileName with
  | none => ((false, errorJson (bytes "unknown profile: " ++ profileName)), s)
  | some profile =>
    -- the stream keeps its name, only the values are those of the preset
    let next := { applyProfile s.current profile with profile := bytes "main" }
    ((true, profileJson next), commit points next s)

def setVideoConfigNow (next : Config) (s : MediaServer T) : (Bool × Bytes) × MediaServer T :=
  if next.width ≤ 0 ∨ next.height ≤ 0 ∨ next.fps ≤ 0 ∨ next.bitrateKbps ≤ 0 then
    ((false, errorJson (bytes "video config values must be positive")), s)
  else if supportedDynamicVideoConfig next = false then
    ((false, errorJson (bytes
      "supported video settings are 640x360, 1280x720, or 1920x1080 at 30 fps and 800..5000 kbps")),
      s)
  else if next.encoder ≠ bytes "v4l2" ∧ next.encoder ≠ bytes "x264" then
    ((false, errorJson (bytes "encoder must be v4l2 or x264")), s)
  else ((true, profileJson next), commit points next s)

def setImagingNow (brightness contrast colorSaturation : Double) (s : MediaServer T) :
    (Bool × Bytes) × MediaServer T :=
  let next := { s.current with brightness, contrast, colorSaturation }
  ((true, imagingJson next), commit points next s)

def setOsdNow (enabled : Bool) (text : Bytes) (s : MediaServer T) :
    (Bool × Bytes) × MediaServer T :=
  if 128 < text.length then
    ((false, errorJson (bytes "osd text must be 128 characters or fewer")), s)
  else
    let next := { s.current with osdEnabled := enabled, osdText := text }
    ((true, osdJson next), commit points next s)

/-! ### Callbacks -/

/-- `GstRTSPMediaStatus`. -/
inductive MediaStatus
  | unprepared
  | unpreparing
  | preparing
  | prepared
  | suspended
  | error
  deriving DecidableEq

def pipelineStatusName : MediaStatus → Bytes
  | .unprepared => bytes "idle"
  | .unpreparing => bytes "stopping"
  | .preparing => bytes "preparing"
  | .prepared => bytes "ready"
  | .suspended => bytes "suspended"
  | .error => bytes "error"

/-- What a bus message carries: an error with its source's name and text, where they are set, or the
end of the stream. -/
inductive BusMessage
  | error (source message : Option Bytes)
  | eos
  deriving DecidableEq

inductive Callback
  | mediaConfigure
  | mediaPrepared (now : ℤ)
  | mediaUnprepared (status : MediaStatus)
  | mediaNewState (status : MediaStatus)
  | busMessage (message : BusMessage)
  | clientConnected
  | clientClosed
  deriving DecidableEq

def onMediaConfigure (s : MediaServer T) : MediaServer T :=
  updatePipelineStatus (bytes "preparing") (bytes "checking") s

def onMediaPrepared (now : ℤ) (s : MediaServer T) : MediaServer T :=
  { s with pipelineStatus := bytes "ready", cameraStatus := bytes "ok", lastPipelineReadyAt := now }

def onMediaUnprepared (status : MediaStatus) (s : MediaServer T) : MediaServer T :=
  if status = .error then updatePipelineStatus (bytes "error") (bytes "error") s
  -- an error stays shown until a pipeline is prepared again
  else if s.pipelineStatus = bytes "error" then s
  else updatePipelineStatus (pipelineStatusName status) (bytes "not_checked") s

def onMediaNewState (status : MediaStatus) (s : MediaServer T) : MediaServer T :=
  if status = .error then updatePipelineStatus (bytes "error") (bytes "error") s else s

def onBusMessage (message : BusMessage) (s : MediaServer T) : MediaServer T :=
  let lastError :=
    match message with
    | .error source message =>
      (match source with
        | some name => name ++ bytes ": "
        | none => []) ++ message.getD (bytes "unknown GStreamer error")
    | .eos => bytes "GStreamer pipeline reached end of stream"
  { s with pipelineStatus := bytes "error", cameraStatus := bytes "error", lastError }

def onClientConnected (s : MediaServer T) : MediaServer T :=
  { s with rtspClients := s.rtspClients + 1 }

def onClientClosed (s : MediaServer T) : MediaServer T :=
  if 0 < s.rtspClients then { s with rtspClients := s.rtspClients - 1 } else s

def onCallback : Callback → MediaServer T → MediaServer T
  | .mediaConfigure => onMediaConfigure
  | .mediaPrepared now => onMediaPrepared now
  | .mediaUnprepared status => onMediaUnprepared status
  | .mediaNewState status => onMediaNewState status
  | .busMessage message => onBusMessage message
  | .clientConnected => onClientConnected
  | .clientClosed => onClientClosed

/-! ### Health -/

structure HealthStatus where
  rtspServerReady : Bool
  pipelineStatus : Bytes
  cameraStatus : Bytes
  startedAt : Bytes
  lastPipelineReadyAt : Bytes
  lastError : Bytes
  uptimeSeconds : ℤ
  rtspClients : UInt32

/-- The health of a server that is attached to the main loop, `uptimeSeconds` after its start. -/
def MediaServer.healthStatus (s : MediaServer T) (uptimeSeconds : ℤ) : HealthStatus where
  rtspServerReady := true
  pipelineStatus := s.pipelineStatus
  cameraStatus := s.cameraStatus
  startedAt := utcTimestamp s.startedAt
  lastPipelineReadyAt := utcTimestamp s.lastPipelineReadyAt
  lastError := s.lastError
  uptimeSeconds
  rtspClients := s.rtspClients

end Afterveda.Rail
