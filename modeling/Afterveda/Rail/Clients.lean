import Afterveda.Rail.Sections

/-!
# The clients of the RTSP server

gst-rtsp-server signals each client that connects and each one that is closed, and gives a client
that asks for the stream the media of the factory that it finds at the mount point; the client keeps
it, also when the factory is replaced.  `Clients.machine` puts such clients, in any number and any
order, beside the control thread, the main loop and the callbacks of `Sections.machine`.  An
operation closes the clients between `install_factory` and `current_ = next`.
-/

namespace Afterveda.Rail

open JsonGlib

variable {T : Type} (points : MountPoints T) (parse : Parser)

/-- A `GstRTSPClient`. -/
structure Client where
  /-- How many clients connected before it. -/
  id : ℕ
  /-- The factory of the media that it is served. -/
  source : Option Factory := none
  /-- `gst_rtsp_client_close` was called, and its signal `closed` is still to come. -/
  closing : Bool := false
  deriving DecidableEq

structure Clients (T : Type) where
  sections : Sections T
  /-- The operation that is under way has closed the clients. -/
  filtered : Bool := false
  clients : List Client := []
  /-- How many clients have connected. -/
  nextId : ℕ := 0

/-- Before `current_ = next`, with the factory installed. -/
def Main.isStoring : Main → Bool
  | .storing .. => true
  | _ => false

/-- The sections of `on_client_connected` and `on_client_closed`. -/
def Sections.Event.isClientSignal : Sections.Event → Bool
  | .callback .clientConnected | .callback .clientClosed => true
  | _ => false

def Sections.Event.isMainLoop : Sections.Event → Bool
  | .mainLoop => true
  | _ => false

/-- `close_rtsp_client`. -/
def closeRtspClient (client : Client) : Client := { client with closing := true }

inductive Clients.Event
  /-- A step of one of the threads of rail-media. -/
  | thread (e : Sections.Event)
  /-- `gst_rtsp_server_client_filter` with `close_rtsp_client`. -/
  | clientFilter
  | clientConnected
  /-- A client asks for the stream. -/
  | describe (i : ℕ)
  /-- A client is closed, by `close_rtsp_client` or by itself. -/
  | clientClosed (i : ℕ)

def Clients.step (s : Clients T) : Clients.Event → Option (Clients T)
  | .thread e =>
    -- `current_ = next` waits until the clients are closed
    if e.isClientSignal || (e.isMainLoop && s.sections.main.isStoring && !s.filtered) then none
    else
      (s.sections.step points parse e).map fun sections =>
        { s with sections, filtered := s.filtered && sections.main.isStoring }
  | .clientFilter =>
    if s.sections.main.isStoring && !s.filtered then
      some { s with filtered := true, clients := s.clients.map closeRtspClient }
    else none
  | .clientConnected =>
    (s.sections.step points parse (.callback .clientConnected)).map fun sections =>
      { s with sections, clients := s.clients ++ [{ id := s.nextId }], nextId := s.nextId + 1 }
  | .describe i =>
    s.clients[i]?.bind fun client =>
      if client.closing then none
      else
        let server := s.sections.shared.server
        let source := points.lookup server.mounts (CText.cString server.mount)
        some { s with clients := s.clients.set i { client with source } }
  | .clientClosed i =>
    if i < s.clients.length then
      (s.sections.step points parse (.callback .clientClosed)).map fun sections =>
        { s with sections, clients := s.clients.eraseIdx i }
    else none

def Clients.machine (config : Config) : Machine (Clients T) Clients.Event where
  init s := ∃ sections, (Sections.machine points parse config).init sections ∧ s = { sections }
  step := Clients.step points parse

def Clients.Event.isConnection : Clients.Event → Bool
  | .clientConnected => true
  | _ => false

/-- The counter of `MediaServer` can hold the clients that there are. -/
def Clients.Countable (s : Clients T) (e : Clients.Event) : Prop :=
  e.isConnection = true → s.clients.length + 1 < 2 ^ 32

instance (s : Clients T) (e : Clients.Event) : Decidable (s.Countable e) :=
  inferInstanceAs (Decidable (_ → _))

end Afterveda.Rail
