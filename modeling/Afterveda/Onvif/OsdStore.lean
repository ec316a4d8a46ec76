import Afterveda.Onvif.Link

/-!
# The OSD as an object of a store

`OsdStore` is what the OSD operations are for: a store that holds at most one OSD, under the token
`osd-main`.  `OsdStore.perform` is its answer to a request, `OsdStore.machine` its runs.

`OsdService.machine` is the service over rail-media: calls one after another, each with rail-media
as the host of its HTTP requests, and with other requests and callbacks between the calls and
between the requests of a call.
-/

namespace Afterveda.Onvif

open CText CNumber JsonGlib Rail Soap

/-! ### The store -/

/-- The text of the OSD, when there is one. -/
abbrev OsdStore := Option Bytes

/-- A request to one of the five operations. -/
inductive OsdCall
  | create (request : Option TrtCreateOsd)
  | set (request : Option TrtSetOsd)
  | delete (request : Option TrtDeleteOsd)
  | get (request : Option TrtGetOsd)
  | getAll (request : Option TrtGetOsds)

inductive OsdAnswer
  | created (token : Bytes)
  | done
  | osd (osd : OsdConfiguration)
  | osds (list : List OsdConfiguration)
  deriving DecidableEq

/-- The OSD with a text. -/
def osdObject (text : Bytes) : OsdConfiguration where
  token := bytes "osd-main"
  videoSourceConfigurationToken := kVideoSourceConfigToken
  type := bytes "Text"
  positionType := bytes "UpperLeft"
  textType := bytes "Plain"
  plainText := text

/-- The value is given, and it is the expected one. -/
def Names (value : Option CStr) (expected : Bytes) : Prop := value.map Subtype.val = some expected

instance (value : Option CStr) (expected : Bytes) : Decidable (Names value expected) :=
  inferInstanceAs (Decidable (_ = _))

/-- Where the value is given, it is the expected one. -/
def Permits (value : Option CStr) (expected : Bytes) : Prop := ∀ v ∈ value, v.val = expected

instance (value : Option CStr) (expected : Bytes) : Decidable (Permits value expected) :=
  Option.decidableForallMem _

/-- The text of an OSD that is a plain text for the one video source. -/
def plainTextOf (osd : OsdConfigurationRequest) : Option Bytes :=
  if Permits osd.videoSourceConfigurationToken kVideoSourceConfigToken ∧
      Permits osd.type (bytes "Text") ∧
      Permits (osd.textString.bind OsdTextRequest.type) (bytes "Plain") then
    (osd.textString.bind OsdTextRequest.plainText).map Subtype.val
  else none

/-- The text of a well-formed request to create an OSD: it names the video source. -/
def createText (request : TrtCreateOsd) : Option Bytes :=
  request.osd.bind fun osd =>
    if Names osd.videoSourceConfigurationToken kVideoSourceConfigToken then plainTextOf osd
    else none

/-- The text of a well-formed request to set an OSD: it names the OSD. -/
def setText (request : TrtSetOsd) : Option Bytes :=
  request.osd.bind fun osd => if Names osd.token (bytes "osd-main") then plainTextOf osd else none

/-- The store's answer to a request, none for a fault, and the store after it. -/
def OsdStore.perform (store : OsdStore) : OsdCall → Option OsdAnswer × OsdStore
  | .create request =>
    match request.bind createText with
    | some text =>
      if store = none ∧ text.length ≤ 128 then (some (.created (bytes "osd-main")), some text)
      else (none, store)
    | none => (none, store)
  | .set request =>
    match request.bind setText with
    | some text =>
      if store ≠ none ∧ text.length ≤ 128 then (some .done, some text)
      else (none, store)
    | none => (none, store)
  | .delete request =>
    if store ≠ none ∧ Names (request.bind TrtDeleteOsd.osdToken) (bytes "osd-main") then
      (some .done, none)
    else (none, store)
  | .get request =>
    if Names (request.bind TrtGetOsd.osdToken) (bytes "osd-main") then
      (store.map fun text => .osd (osdObject text), store)
    else (none, store)
  | .getAll request =>
    -- an empty token stands for none
    if request.isSome ∧
        (Names (request.bind TrtGetOsds.configurationToken) kVideoSourceConfigToken ∨
          Permits (request.bind TrtGetOsds.configurationToken) []) then
      (some (.osds (store.toList.map osdObject)), store)
    else (none, store)

/-- The store from a first content on; an event is a request with its answer. -/
def OsdStore.machine (first : OsdStore) : Machine OsdStore (OsdCall × Option OsdAnswer) where
  init store := store = first
  step store e := if (store.perform e.1).1 = e.2 then some (store.perform e.1).2 else none

/-- The text that a successful request to create or to set has given. -/
def OsdCall.written : OsdCall × Option OsdAnswer → Option Bytes
  | (.create request, some _) => request.bind createText
  | (.set request, some _) => request.bind setText
  | _ => none

/-- The text last given, and the first content where none was. -/
def lastWritten (first : OsdStore) (es : List (OsdCall × Option OsdAnswer)) : OsdStore :=
  (es.filterMap OsdCall.written).getLast?.or first

/-! ### The service -/

def OsdCall.service (ctx : Context) : OsdCall → Service OsdAnswer
  | .create request => do return .created (← trtCreateOsd ctx request)
  | .set request => do
    trtSetOsd ctx request
    return .done
  | .delete request => do
    trtDeleteOsd ctx request
    return .done
  | .get request => do return .osd (← trtGetOsd ctx request)
  | .getAll request => do return .osds (← trtGetOsds ctx request)

/-- What else happens to rail-media. -/
inductive OtherEvent
  | http (uptime : ℤ) (request : Request)
  | callback (callback : Callback)

/-- The event is a request that writes the OSD. -/
def OtherEvent.writesOsd : OtherEvent → Bool
  | .http _ request => request.route = .postOsd
  | .callback _ => false

variable {T : Type} (points : MountPoints T) (parse : Parser)

def OtherEvent.play (event : OtherEvent) (s : MediaServer T) : MediaServer T :=
  match event with
  | .http uptime request => (handleRequest points parse uptime request s).2
  | .callback c => onCallback c s

/-- Several of them, one after another. -/
def playAll (events : List OtherEvent) (s : MediaServer T) : MediaServer T :=
  events.foldl (fun s e => e.play points parse s) s

/-- rail-media, and what else happens to it before each of the next HTTP requests. -/
structure BusyRail (T : Type) where
  server : MediaServer T
  others : List (List OtherEvent)

/-- After the events before the next request. -/
def BusyRail.next (b : BusyRail T) : BusyRail T where
  server := playAll points parse (b.others.headD []) b.server
  others := b.others.tail

/-- rail-media as the host of a service, with other events before each request. -/
def busyHost (uptime : ℤ) (other : (c : Call) → c.Answer) :
    (c : Call) → BusyRail T → c.Answer × BusyRail T
  | c, b =>
    let next := b.next points parse
    let (answer, server) := railHost points parse uptime other c next.server
    (answer, ⟨server, next.others⟩)

inductive OsdService.Event
  /-- A call, with what else happens before each of its HTTP requests and the answer it got. -/
  | call (ctx : Context) (op : OsdCall) (uptime : ℤ) (others : List (List OtherEvent))
      (answer : Except Fault OsdAnswer)
  | other (event : OtherEvent)

namespace OsdService

/-- The caller is signed in, and nobody else writes the OSD. -/
def Allowed (_ : MediaServer T) : OsdService.Event → Prop
  | .call ctx _ _ others _ =>
    requireAuth ctx = .ok () ∧ ∀ batch ∈ others, ∀ e ∈ batch, e.writesOsd = false
  | .other e => e.writesOsd = false

instance (s : MediaServer T) : (e : OsdService.Event) → Decidable (Allowed s e)
  | .call .. => inferInstanceAs (Decidable (_ ∧ _))
  | .other _ => inferInstanceAs (Decidable (_ = _))

/-- What the caller sees of an event: the request and the answer, a fault as none. -/
def Event.visible : OsdService.Event → Option (OsdCall × Option OsdAnswer)
  | .call _ op _ _ answer => some (op, answer.toOption)
  | .other _ => none

def step (other : (c : Call) → c.Answer) (s : MediaServer T) :
    OsdService.Event → Option (MediaServer T)
  | .call ctx op uptime others answer =>
    let (result, b) := (op.service ctx).run (busyHost points parse uptime other) ⟨s, others⟩
    if result = answer then some b.server else none
  | .other e => some (e.play points parse s)

/-- The service over rail-media started with a configuration. -/
def machine (other : (c : Call) → c.Answer) (config : Rail.Config) :
    Machine (MediaServer T) OsdService.Event where
  init s := ∃ now, s = MediaServer.start points config now
  step := step points parse other

end OsdService

/-- The store that on-screen settings stand for: the text is the OSD while it is enabled. -/
def storeOf (config : Rail.Config) : OsdStore :=
  if config.osdEnabled then some config.osdText else none

end Afterveda.Onvif
