import Afterveda.Lib.Machine
import Afterveda.Onvif.Soap.Ptz

/-!
# The PTZ service over the device

`ptzHost` answers the PTZ calls of a service with the functions of `ptz_device.cpp`.  Those that
leave the lock between two of their sections (`relative_move_ptz`, `home_ptz`,
`set_home_ptz_from_current`) are here as a whole, with the timers that fire in between.  `calls` is
the device over the calls of any number of requests.
-/

namespace Afterveda.Ptz

open CText CNumber Onvif Onvif.Soap

/-- What happens around a call: the device's answers, and the timers that fire between the sections.
-/
structure Surroundings where
  reply : ReadReply := {}
  outcome : WriteOutcome := .accepted
  timers : List (Timer × WriteOutcome) := []

/-- Timers that fire one after another. -/
def fireAll (config : Config) (timers : List (Timer × WriteOutcome)) (s : PtzState) : PtzState :=
  timers.foldl (fun s t => timerFires config t.1 t.2 s) s

variable (libm : Libm) (config : Config) (around : Surroundings)

def relativeMovePtz (x y : Double) (s : PtzState) : Bytes × PtzState :=
  match movePtzByAxes libm config x y around.reply s with
  | .error error => (error, s)
  | .ok position => writePtzPosition config position around.outcome (fireAll config around.timers s)

def homePtz (s : PtzState) : Bytes × PtzState :=
  writePtzPosition config (homePtzPosition s) around.outcome (fireAll config around.timers s)

def setHomePtzFromCurrent (s : PtzState) : Bytes × PtzState :=
  match readPtzPosition config around.reply s with
  | .error error => (error, s)
  | .ok position => ([], storeHome position (fireAll config around.timers s))

/-- The device as the host of a service; `other` answers the calls that are not for it. -/
def ptzHost (other : (c : Call) → c.Answer) :
    (c : Call) → PtzState → c.Answer × PtzState
  | .readPtzStatus, s => (readPtzStatus config around.reply s, s)
  | .continuousMovePtz x y timeoutMs, s =>
    let ((error, _), s) := continuousMovePtz libm config x y timeoutMs around.outcome s
    (error, s)
  | .relativeMovePtz x y, s => relativeMovePtz libm config around x y s
  | .stopPtz, s => stopPtz config around.outcome s
  | .homePtz, s => homePtz config around s
  | .setHomePtzFromCurrent, s => setHomePtzFromCurrent config around s
  | c, s => (other c, s)

/-! ### Histories -/

/-- What happens to the device: a call of some service, or a timer that fires in no call. -/
inductive Happening
  | call (c : Call) (around : Surroundings)
  | timer (timer : Timer) (outcome : WriteOutcome)

/-- The device under the calls of the services, one after the other, and any timers. -/
def calls (other : (c : Call) → c.Answer) : Machine PtzState Happening where
  init s := s = {}
  step s
    | .call c around => some (ptzHost libm config around other c s).2
    | .timer timer outcome => some (timerFires config timer outcome s)

end Afterveda.Ptz
