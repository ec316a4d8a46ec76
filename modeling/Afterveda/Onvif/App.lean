import Afterveda.Lib.Machine
import Afterveda.Onvif.Discovery

/-!
# The process of the ONVIF server

`run` of `core/app.cpp` starts a thread for WS-Discovery, serves HTTP on its own thread until
`g_running` falls or the port cannot be had, and then joins the other thread.  `App.machine` has the
two threads take their steps in any order, with signals in between; what the operating system
answers is part of an event.  What a request does is not looked at here.

A connection is served by the generated `soap_serve`, request after request, as long as the client
keeps it open and its counter lasts; `g_running` is looked at between connections only.  The
counter's start, `max_keep_alive` of a new gSOAP context, is a parameter.
-/

namespace Afterveda.Onvif

open CText

/-- How `run` ends: it returns 0, or throws an error. -/
abbrev Outcome : Type := Except Bytes Unit

inductive App.Event
  /-- `handle_signal`. -/
  | signal
  | launch
  | httpContext (ok : Bool)
  /-- The result of binding the HTTP port, `errno` where that fails. -/
  | httpBind (errno : Option ℤ)
  | httpCheck
  | select (ready : Bool)
  | accept (ok : Bool)
  /-- A request comes on the connection and is served; `keep` says that the connection is kept for
  another one. -/
  | request (keep : Bool)
  /-- No request comes: the client has closed the connection, or it failed. -/
  | hangUp
  /-- `g_running = false` at the end of `run`. -/
  | clear
  | join
  | discoveryContext (ok : Bool)
  | discoveryBind (ok : Bool)
  | hello (ctx : Bool)
  | discoveryCheck
  | probe (messageId relatesTo : Option CStr) (peer : Bool)
  | resolve
  /-- `soap_wsdd_listen` returns. -/
  | listened
  | bye (ctx : Bool)

/-- Where the thread of `run` is: before its start of the other thread, in `http_server`, or at the
end. -/
inductive HttpThread
  | launching
  | opening
  | binding
  /-- Before the test of `running`. -/
  | checking
  | selecting
  | accepting
  /-- In `soap_serve`, at `soap_begin_serve`, with the counter `keep_alive`. -/
  | serving (keepAlive : ℕ)
  | clearing (outcome : Outcome)
  | joining (outcome : Outcome)
  | finished (outcome : Outcome)
  deriving DecidableEq

/-- The counter of a connection, at the start of a turn of `soap_serve`. -/
def nextKeepAlive (maxKeepAlive keepAlive : ℕ) : ℕ :=
  if 0 < keepAlive ∧ 0 < maxKeepAlive then keepAlive - 1 else keepAlive

/-- `http_server`, and `run` around it; `ended` says that the other thread has ended. -/
def HttpThread.step (maxKeepAlive : ℕ) (running ended : Bool) :
    HttpThread → App.Event → Option HttpThread
  | .launching, .launch => some .opening
  | .opening, .httpContext ok =>
    some (if ok then .binding else .clearing (.error (bytes "failed to allocate gSOAP context")))
  | .binding, .httpBind none => some .checking
  | .binding, .httpBind (some errno) =>
    some (.clearing (.error (bytes "failed to bind ONVIF HTTP port: " ++ toDecimal errno)))
  | .checking, .httpCheck => some (if running then .selecting else .clearing (.ok ()))
  | .selecting, .select ready => some (if ready then .accepting else .checking)
  | .accepting, .accept ok =>
    some (if ok then .serving (nextKeepAlive maxKeepAlive (maxKeepAlive + 1)) else .checking)
  | .serving keepAlive, .request keep =>
    -- a request that fails, and a client that wants no other, end the loop as the counter does
    some (if keep ∧ keepAlive ≠ 0 then .serving (nextKeepAlive maxKeepAlive keepAlive)
      else .checking)
  | .serving _, .hangUp => some .checking
  | .clearing outcome, .clear => some (.joining outcome)
  | .joining outcome, .join => if ended then some (.finished outcome) else none
  | _, _ => none

/-- Where the thread of WS-Discovery is. -/
inductive DiscoveryThread
  | absent
  | opening
  | binding
  /-- Before `announce_discovery_hello`. -/
  | announcing
  | checking
  /-- In `soap_wsdd_listen`. -/
  | listening
  /-- Before `announce_discovery_bye`. -/
  | departing
  | ended
  deriving DecidableEq

/-- `discovery_server`; an error ends the thread and no more. -/
def DiscoveryThread.step (running : Bool) : DiscoveryThread → App.Event → Option DiscoveryThread
  | .opening, .discoveryContext ok => some (if ok then .binding else .ended)
  | .binding, .discoveryBind ok => some (if ok then .announcing else .ended)
  | .announcing, .hello _ => some .checking
  | .checking, .discoveryCheck => some (if running then .listening else .departing)
  | .listening, .probe .. => some .listening
  | .listening, .resolve => some .listening
  | .listening, .listened => some .checking
  | .departing, .bye _ => some .ended
  | _, _ => none

/-- The two threads and `g_running`. -/
structure App where
  running : Bool := true
  http : HttpThread := .launching
  discovery : DiscoveryThread := .absent
  deriving DecidableEq

def App.step (maxKeepAlive : ℕ) (s : App) (e : App.Event) : Option App :=
  match e with
  | .signal => some { s with running := false }
  | .launch =>
    (s.http.step maxKeepAlive s.running false e).map fun http =>
      { s with http, discovery := .opening }
  | .clear =>
    (s.http.step maxKeepAlive s.running false e).map fun http => { s with http, running := false }
  | .httpContext _ | .httpBind _ | .httpCheck | .select _ | .accept _ | .request _ | .hangUp
  | .join =>
    (s.http.step maxKeepAlive s.running (s.discovery = .ended) e).map fun http => { s with http }
  | .discoveryContext _ | .discoveryBind _ | .hello _ | .discoveryCheck | .probe .. | .resolve
  | .listened | .bye _ =>
    (s.discovery.step s.running e).map fun discovery => { s with discovery }

/-- The process from the time its signal handlers are set. -/
def App.machine (maxKeepAlive : ℕ) : Machine App App.Event where
  init s := s = {}
  step := App.step maxKeepAlive

/-- What an event has WS-Discovery send. -/
def App.Event.sent (config : Config) : App.Event → Option Message
  | .hello ctx => announceDiscoveryHello ctx config
  | .probe messageId relatesTo peer => wsddEventProbe messageId config relatesTo peer
  | .resolve => some (wsddEventResolve config)
  | .bye ctx => announceDiscoveryBye ctx config
  | _ => none

end Afterveda.Onvif
