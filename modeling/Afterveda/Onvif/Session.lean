import Afterveda.Onvif.OsdStore
import Afterveda.Onvif.Soap.Service

/-!
# Sessions

`Session.machine` is the ONVIF server beside its rail-media: its events are SOAP calls of any kind,
with any header, one after the other, and GStreamer's callbacks between them.  What a session is
for is said by `Operation.update`, the settings of rail-media that the request of an operation
names, and `lastGiven`, the value the last successful call gave to a setting.  `serveAll` plays the
calls of a session on any host.
-/

namespace Afterveda.Onvif.Soap

open CText CNumber JsonGlib

variable {T : Type} (points : Rail.MountPoints T) (parse : Parser)

/-! ### Settings -/

/-- The settings that the request of an operation names. -/
def Operation.update : Operation → Rail.Update
  | .trtSetVideoEncoderConfiguration request => (Change.video request).update
  | .timgSetImagingSettings request => (Change.imaging request).update
  | .trtDeleteOsd request => (Change.deleteOsd request).update
  | .trtSetOsd request => { osdEnabled := some true, osdText := request.bind setText }
  | .trtCreateOsd request => { osdEnabled := some true, osdText := request.bind createText }
  | _ => {}

/-! ### Runs -/

inductive Session.Event
  /-- A SOAP call that ends with a response or with a fault; `other` is what the PTZ device, the
  clock and the network answer to it. -/
  | call (ctx : Context) (uptime : ℤ) (other : (c : Call) → c.Answer) (op : Operation) (ok : Bool)
  | callback (callback : Rail.Callback)

def Session.step (libm : Libm) (s : Rail.MediaServer T) :
    Session.Event → Option (Rail.MediaServer T)
  | .call ctx uptime other op ok =>
    let (result, t) := (serve libm ctx op).run (railHost points parse uptime other) s
    if result.isOk = ok then some t else none
  | .callback callback => some (Rail.onCallback callback s)

/-- The ONVIF server and rail-media started with a configuration. -/
def Session.machine (libm : Libm) (config : Rail.Config) :
    Machine (Rail.MediaServer T) Session.Event where
  init s := ∃ now, s = Rail.MediaServer.start points config now
  step := Session.step points parse libm

/-- The value that a successful call gave to a setting. -/
def Session.Event.gives (x : Rail.Setting) : Session.Event → Option x.Value
  | .call _ _ _ op true => x.given op.update
  | _ => none

/-- The value that the last successful call that named a setting gave it. -/
def Session.lastGiven (x : Rail.Setting) (es : List Session.Event) : Option x.Value :=
  (es.filterMap (Session.Event.gives x)).getLast?

/-! ### Any host -/

/-- The response or the fault of an operation. -/
abbrev Operation.Result (op : Operation) : Type := Except Fault op.Response

/-- Calls one after the other on a host: what each of them gives, and the state of the host after
them. -/
def serveAll {σ : Type} (libm : Libm) (host : (c : Call) → σ → c.Answer × σ) :
    List (Context × Operation) → σ → List (Σ op : Operation, op.Result) × σ
  | [], s => ([], s)
  | (ctx, op) :: calls, s =>
    let (result, t) := (serve libm ctx op).run host s
    let (results, u) := serveAll libm host calls t
    (⟨op, result⟩ :: results, u)

end Afterveda.Onvif.Soap
