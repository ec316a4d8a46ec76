import Afterveda.Rail.MediaServer
import Afterveda.Lib.Machine

/-!
# From the control thread to the main loop

`switch_profile`, `set_video_config`, `set_imaging` and `set_osd` of `media_server.cpp` hand their
operation to the main loop in the same way: a request on the stack of the control thread, with a
mutex, a condition variable and a flag `done`, is posted with `g_idle_add`, and the control thread
waits until the callback has set the flag.  `HandOff.machine` has the two parties take their steps
in any order; a wait may end without a notification.
-/

namespace Afterveda.Rail

open CText CNumber

variable {T : Type} (points : MountPoints T)

/-- What is handed over: the fields of the four request records. -/
inductive Operation
  | switchProfile (profile : Bytes)
  | setVideoConfig (next : Config)
  | setImaging (brightness contrast colorSaturation : Double)
  | setOsd (enabled : Bool) (text : Bytes)
  deriving DecidableEq

/-- What the four callbacks call. -/
def Operation.applyNow : Operation → MediaServer T → (Bool × Bytes) × MediaServer T
  | .switchProfile profile => switchProfileNow points profile
  | .setVideoConfig next => setVideoConfigNow points next
  | .setImaging brightness contrast colorSaturation =>
    setImagingNow points brightness contrast colorSaturation
  | .setOsd enabled text => setOsdNow points enabled text

/-- Where the control thread is. -/
inductive Caller
  /-- The request is filled in and not yet posted. -/
  | posting
  | locking
  /-- In the predicate of `cv.wait`, with the mutex. -/
  | testing
  /-- Asleep in `cv.wait`, without the mutex. -/
  | waiting
  /-- Awake in `cv.wait`, about to take the mutex again. -/
  | woken
  /-- After `cv.wait`, with the mutex. -/
  | returning
  /-- The result is read and the mutex free again; the request is still there. -/
  | leaving (result : Bool × Bytes)
  /-- The function has returned and its request is destroyed. -/
  | gone (result : Bool × Bytes)
  deriving DecidableEq

/-- Where the callback on the main loop is. -/
inductive MainLoop
  /-- Nothing is posted. -/
  | absent
  | applying
  | storing (result : Bool × Bytes)
  | locking
  /-- About to set `done`, with the mutex. -/
  | setting
  /-- At the end of the block, with the mutex. -/
  | unlocking
  /-- Before `notify_one`, without the mutex. -/
  | notifying
  | finished
  deriving DecidableEq

inductive Party
  | caller
  | mainLoop
  deriving DecidableEq

/-- The server, the request and the two parties. -/
structure HandOff (T : Type) where
  server : MediaServer T
  operation : Operation
  done : Bool := false
  ok : Bool := false
  message : Bytes := []
  /-- Who holds the mutex. -/
  mutex : Option Party := none
  caller : Caller := .posting
  mainLoop : MainLoop := .absent

inductive HandOff.Event
  | post
  | lock
  | test
  /-- A wait ends without a notification. -/
  | spuriousWakeup
  | unlock
  | destroy
  | mainApply
  | mainStore
  | mainLock
  | mainSetDone
  | mainUnlock
  | mainNotify
  deriving DecidableEq

/-- The event is a step of the callback; each of them uses the request. -/
def HandOff.Event.ofMainLoop : HandOff.Event → Bool
  | .mainApply | .mainStore | .mainLock | .mainSetDone | .mainUnlock | .mainNotify => true
  | _ => false

def HandOff.step (s : HandOff T) (e : HandOff.Event) : Option (HandOff T) :=
  match e, s.caller, s.mainLoop with
  | .post, .posting, _ => some { s with caller := .locking, mainLoop := .applying }
  | .lock, .locking, _ | .lock, .woken, _ =>
    if s.mutex = none then some { s with caller := .testing, mutex := some .caller } else none
  | .test, .testing, _ =>
    if s.done then some { s with caller := .returning }
    -- the mutex is given back and the wait begins in one step
    else some { s with caller := .waiting, mutex := none }
  | .spuriousWakeup, .waiting, _ => some { s with caller := .woken }
  | .unlock, .returning, _ => some { s with caller := .leaving (s.ok, s.message), mutex := none }
  | .destroy, .leaving result, _ => some { s with caller := .gone result }
  | .mainApply, _, .applying =>
    let (result, server) := s.operation.applyNow points s.server
    some { s with server, mainLoop := .storing result }
  | .mainStore, _, .storing (ok, message) => some { s with ok, message, mainLoop := .locking }
  | .mainLock, _, .locking =>
    if s.mutex = none then some { s with mainLoop := .setting, mutex := some .mainLoop } else none
  | .mainSetDone, _, .setting => some { s with done := true, mainLoop := .unlocking }
  | .mainUnlock, _, .unlocking => some { s with mainLoop := .notifying, mutex := none }
  | .mainNotify, caller, .notifying =>
    some { s with mainLoop := .finished, caller := if caller = .waiting then .woken else caller }
  | _, _, _ => none

/-- A request for an operation, before it is posted. -/
def HandOff.machine (operation : Operation) (server : MediaServer T) :
    Machine (HandOff T) HandOff.Event where
  init s := s = { server, operation }
  step := HandOff.step points

end Afterveda.Rail
