import Afterveda.Onvif.Soap.Imaging
import Afterveda.Onvif.Soap.Media
import Afterveda.Onvif.Soap.Osd
import Afterveda.Rail.Settings

/-!
# The ONVIF server and rail-media together

`railHost` answers the HTTP calls of a service with rail-media's `handle_request`, `lossyHost` does
so over a connection on which the answer to a GET may be cut short, may be a failure, or may not
come at all.  A `Change` is one of the three operations that read settings of rail-media, put the
values of a request in, and send the result back; `Change.update` says which settings its request
names.
-/

namespace Afterveda.Onvif

open CText CNumber JsonGlib Rail Soap

variable {T : Type} (points : MountPoints T) (parse : Parser)

/-- rail-media as the host of a service, `uptime` seconds after its start; `other` answers the calls
that do not go to rail-media. -/
def railHost (uptime : ℤ) (other : (c : Call) → c.Answer) :
    (c : Call) → MediaServer T → c.Answer × MediaServer T
  | .http method path body, s =>
    let (response, t) := handleRequest points parse uptime ⟨method, path, body⟩ s
    (some ⟨response.status, response.body⟩, t)
  | c, s => (other c, s)

/-- A call to a server that asks for no credentials. -/
def openContext : Context := ⟨{}, none, 0, Calendar.getTime⟩

/-! ### A connection that loses answers -/

/-- What becomes of a GET: rail-media's own answer, the answer without the end of its body, a
response of failure, or no answer in time. -/
inductive GetOutcome
  | answered
  /-- The connection ends after this many bytes of the body. -/
  | cut (length : ℕ)
  | refused (response : {r : RailHttpResponse // r.ok = false})
  | lost

def GetOutcome.deliver (outcome : GetOutcome) (answer : Option RailHttpResponse) :
    Option RailHttpResponse :=
  match outcome with
  | .answered => answer
  | .cut length => answer.map fun response => ⟨response.status, response.body.take length⟩
  | .refused response => some response.1
  | .lost => none

/-- rail-media behind a connection: how many GETs there were, and the status of its answer to the
last POST. -/
structure Link (T : Type) where
  server : MediaServer T
  gets : ℕ := 0
  posted : Option ℤ := none

/-- The host of a service whose GETs end as `outcomes` says; every POST arrives, and its answer
comes back when `delivered`. -/
def lossyHost (uptime : ℤ) (other : (c : Call) → c.Answer) (outcomes : ℕ → GetOutcome)
    (delivered : Bool) : (c : Call) → Link T → c.Answer × Link T
  | .http method path body, l =>
    let (response, server) := handleRequest points parse uptime ⟨method, path, body⟩ l.server
    let answer : Option RailHttpResponse := some ⟨response.status, response.body⟩
    if method = bytes "GET" then
      ((outcomes l.gets).deliver answer, { l with server, gets := l.gets + 1 })
    else
      (if delivered then answer else none, { l with server, posted := some response.status })
  | c, l => (other c, l)

/-! ### Changes -/

/-- An operation that reads settings, changes some and sends them back, with its request. -/
inductive Change
  | video (request : Option TrtSetVideoEncoderConfiguration)
  | imaging (request : Option TimgSetImagingSettings)
  | deleteOsd (request : Option TrtDeleteOsd)

def Change.service (precision : Precision) (ctx : Context) : Change → Service Unit
  | .video request => trtSetVideoEncoderConfiguration ctx request
  | .imaging request => timgSetImagingSettings precision ctx request
  | .deleteOsd request => trtDeleteOsd ctx request

/-- The settings of rail-media a request names, and the values it gives them: a bitrate is clamped
into its range, and `DeleteOSD` switches the text off. -/
def Change.update : Change → Update
  | .video request =>
    let config := request.bind TrtSetVideoEncoderConfiguration.configuration
    let resolution := config.bind EncoderConfigurationRequest.resolution
    let rateControl := config.bind EncoderConfigurationRequest.rateControl
    { width := resolution.map VideoResolution.width
      height := resolution.map VideoResolution.height
      fps := rateControl.map RateControlRequest.frameRateLimit
      bitrateKbps :=
        rateControl.map fun rate => clamp rate.bitrateLimit kMinBitrateKbps kMaxBitrateKbps }
  | .imaging request =>
    let input := request.bind TimgSetImagingSettings.imagingSettings
    { brightness := input.bind ImagingSettings20.brightness
      contrast := input.bind ImagingSettings20.contrast
      colorSaturation := input.bind ImagingSettings20.colorSaturation }
  | .deleteOsd _ => { osdEnabled := some false }

end Afterveda.Onvif
