import Afterveda.Rail.ControlServer

/-!
# GStreamer's callbacks

Two machines over the callbacks of `media_server.cpp`.

* `Threads.machine`: the callbacks run on threads of their own, and a step is one section under the
  mutex of the server.  `on_media_unprepared` has two of them, one that reads the status and one
  that writes it.
* `Medias.machine`: the callbacks of many media objects, each with the life that gst-rtsp-server
  gives it.  Factories and media objects are numbered in the order in which they are made.
-/

namespace Afterveda.Rail

open CText

variable {T : Type} (points : MountPoints T)

/-! ### Sections -/

/-- The server, the calls of `on_media_unprepared` that have read the status and not yet written it,
and whether an error of the bus has been recorded that nothing has replaced since. -/
structure Threads (T : Type) where
  server : MediaServer T
  unpreparing : List {status : MediaStatus // status ≠ .error} := []
  recorded : Bool := false

inductive Threads.Event
  | mediaConfigure
  | mediaPrepared (now : ℤ)
  /-- The first section of `on_media_unprepared` for a media of the given status. -/
  | mediaUnprepared (status : MediaStatus)
  /-- The second section of one that is under way. -/
  | unpreparedWrites (i : ℕ)
  | mediaNewState (status : MediaStatus)
  | busMessage (message : BusMessage)
  | clientConnected
  | clientClosed
  | install (config : Config)
  /-- The end of an operation: `current_ = next`. -/
  | storeCurrent (next : Config)
  /-- A section that only reads: `health_status`, or a copy of `current_`. -/
  | read

def Threads.step (s : Threads T) : Threads.Event → Option (Threads T)
  | .mediaConfigure =>
    some { s with server := onMediaConfigure s.server, recorded := false }
  | .mediaPrepared now =>
    some { s with server := onMediaPrepared now s.server, recorded := false }
  | .mediaUnprepared status =>
    if h : status = .error then
      some { s with server := updatePipelineStatus (bytes "error") (bytes "error") s.server }
    else if s.server.pipelineStatus = bytes "error" then some s
    -- the mutex is free again before the status is written
    else some { s with unpreparing := s.unpreparing ++ [⟨status, h⟩] }
  | .unpreparedWrites i =>
    s.unpreparing[i]?.map fun status =>
      { s with
        server := updatePipelineStatus (pipelineStatusName status.1) (bytes "not_checked") s.server
        unpreparing := s.unpreparing.eraseIdx i }
  | .mediaNewState status => some { s with server := onMediaNewState status s.server }
  | .busMessage message =>
    some { s with server := onBusMessage message s.server, recorded := true }
  | .clientConnected => some { s with server := onClientConnected s.server }
  | .clientClosed => some { s with server := onClientClosed s.server }
  | .install config =>
    some { s with server := installFactory points config s.server, recorded := false }
  | .storeCurrent next => some { s with server := { s.server with current := next } }
  | .read => some s

/-- The server from its start. -/
def Threads.machine (config : Config) : Machine (Threads T) Threads.Event where
  init s := ∃ now, s = { server := MediaServer.start points config now }
  step := Threads.step points

/-! ### Media objects -/

/-- How far a media object has come. -/
inductive MediaPhase
  | configured
  | prepared
  | unprepared
  deriving DecidableEq

/-- A media object: the factory that made it, its phase, and whether it has reported an error. -/
structure Media where
  factory : ℕ
  phase : MediaPhase := .configured
  failed : Bool := false
  deriving DecidableEq

/-- The server, the number of factories installed so far, and the media objects in the order in
which they were configured. -/
structure Medias (T : Type) where
  server : MediaServer T
  factories : ℕ := 1
  medias : List Media := []

inductive Medias.Event
  | install (config : Config)
  /-- A media object of a factory is configured. -/
  | configure (factory : ℕ)
  | prepared (i : ℕ) (now : ℤ)
  | unprepared (i : ℕ) (status : MediaStatus)
  | newState (i : ℕ) (status : MediaStatus)
  | busMessage (i : ℕ) (message : BusMessage)
  deriving DecidableEq

/-- The media object an event comes from. -/
def Medias.Event.source : Medias.Event → Option ℕ
  | .prepared i _ | .unprepared i _ | .newState i _ | .busMessage i _ => some i
  | _ => none

/-- What an event does to its media object; `none` when the object has not come to it, or is past
it. -/
def Media.next (m : Media) : Medias.Event → Option Media
  | .prepared .. => if m.phase = .configured then some { m with phase := .prepared } else none
  | .unprepared .. => if m.phase ≠ .unprepared then some { m with phase := .unprepared } else none
  | .newState _ status =>
    if m.phase ≠ .unprepared then some { m with failed := m.failed || status = .error } else none
  | .busMessage .. => if m.phase ≠ .unprepared then some { m with failed := true } else none
  | _ => none

/-- What an event does to the server. -/
def Medias.Event.serve (e : Medias.Event) : MediaServer T → MediaServer T :=
  match e with
  | .install config => installFactory points config
  | .configure _ => onMediaConfigure
  | .prepared _ now => onMediaPrepared now
  | .unprepared _ status => onMediaUnprepared status
  | .newState _ status => onMediaNewState status
  | .busMessage _ message => onBusMessage message

def Medias.step (s : Medias T) (e : Medias.Event) : Option (Medias T) :=
  match e with
  | .install _ =>
    some { s with server := e.serve points s.server, factories := s.factories + 1 }
  | .configure factory =>
    -- also of a factory that is no longer mounted, by a client that came before
    if factory < s.factories then
      some { s with server := e.serve points s.server, medias := s.medias ++ [{ factory }] }
    else none
  | .prepared i _ | .unprepared i _ | .newState i _ | .busMessage i _ =>
    (s.medias[i]?.bind fun m => m.next e).map fun m =>
      { s with server := e.serve points s.server, medias := s.medias.set i m }

/-- The server from its start, which installs the first factory. -/
def Medias.machine (config : Config) : Machine (Medias T) Medias.Event where
  init s := ∃ now, s = { server := MediaServer.start points config now }
  step := Medias.step points

end Afterveda.Rail
