import Afterveda.Onvif.Link

/-!
# The ONVIF server beside another client of rail-media

`Parties.machine` is rail-media with two parties that send it requests: the ONVIF server, which
handles one call at a time and waits for the answer to each of its requests, and a client that sends
requests of its own, which may arrive in any order.  rail-media handles one request after the other,
and every request and every answer arrives.
-/

namespace Afterveda.Onvif

open CText CNumber JsonGlib Rail Soap

variable {T : Type}

/-- What the ONVIF server is at; `seen` is the configuration of rail-media when the first request of
the change was handled. -/
inductive Progress
  /-- Waiting for a call. -/
  | idle
  | active (change : Change) (seen : Option Rail.Config) (rest : Service Unit)
  /-- A request is on its way to rail-media. -/
  | sent (change : Change) (seen : Option Rail.Config) (request : Request)
      (k : Option RailHttpResponse → Service Unit)
  /-- An answer is on its way back. -/
  | replied (change : Change) (seen : Option Rail.Config) (response : RailHttpResponse)
      (k : Option RailHttpResponse → Service Unit)

def Progress.isIdle : Progress → Bool
  | .idle => true
  | _ => false

/-- rail-media, the ONVIF server, the requests of the other client on their way, and the settings
that the requests accepted so far have named, in the order in which they were accepted. -/
structure Parties (T : Type) where
  server : MediaServer T
  onvif : Progress := .idle
  pending : List Request := []
  accepted : List Update := []

inductive Parties.Event
  /-- A call to the ONVIF server. -/
  | call (ctx : Context) (change : Change)
  /-- The ONVIF server goes on to its next request, or to the end of the call. -/
  | advance
  /-- rail-media handles the request of the ONVIF server. -/
  | serve (uptime : ℤ)
  /-- The answer arrives at the ONVIF server. -/
  | receive
  /-- The other client sends a request. -/
  | clientSend (request : Request)
  /-- rail-media handles one of these. -/
  | clientServe (uptime : ℤ) (i : ℕ)
  /-- A callback of rail-media. -/
  | callback (callback : Callback)

variable (points : MountPoints T) (parse : Parser) (precision : Precision)

/-- rail-media accepts a request of the ONVIF server that changes settings. -/
def accepts (uptime : ℤ) (request : Request) (server : MediaServer T) : Bool :=
  request.method = bytes "POST" &&
    (handleRequest points parse uptime request server).1.status = 200

def Parties.step (s : Parties T) : Parties.Event → Option (Parties T)
  | .call ctx change =>
    match s.onvif with
    | .idle => some { s with onvif := .active change none (change.service precision ctx) }
    | _ => none
  | .advance =>
    match s.onvif with
    | .active change seen (.call (.http method path body) k) =>
      some { s with onvif := .sent change seen ⟨method, path, body⟩ k }
    -- a change makes no other calls
    | .active _ _ (.call ..) => none
    | .active .. => some { s with onvif := .idle }
    | _ => none
  | .serve uptime =>
    match s.onvif with
    | .sent change seen request k =>
      let (response, server) := handleRequest points parse uptime request s.server
      some { s with
        server
        onvif := .replied change (seen.or (some s.server.current))
          ⟨response.status, response.body⟩ k
        accepted := if accepts points parse uptime request s.server then
          s.accepted ++ [change.update] else s.accepted }
    | _ => none
  | .receive =>
    match s.onvif with
    | .replied change seen response k =>
      some { s with onvif := .active change seen (k (some response)) }
    | _ => none
  | .clientSend request => some { s with pending := s.pending ++ [request] }
  | .clientServe uptime i =>
    s.pending[i]?.map fun request =>
      let (response, server) := handleRequest points parse uptime request s.server
      { s with
        server
        pending := s.pending.eraseIdx i
        accepted := if response.status = 200 then
          s.accepted ++ [request.update parse] else s.accepted }
  | .callback callback => some { s with server := onCallback callback s.server }

/-- The parties from any state of a rail-media started with `config`. -/
def Parties.machine (config : Rail.Config) : Machine (Parties T) Parties.Event where
  init s := ∃ es server, (Rail.machine points parse config).Reaches Machine.anyStep es server ∧
    s = { server }
  step := Parties.step points parse precision

end Afterveda.Onvif
