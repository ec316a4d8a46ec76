import Afterveda.Lib.CNumber
import Afterveda.Onvif.Config

/-!
# The PTZ device

The functions of `ptz/ptz_device.cpp` over the variables of that file (`PtzState`).  A function
whose body is one critical section of `g_command_mutex` is one function of the state here; where a
function does something outside the lock (`continuous_move_ptz` starts its timer, the absolute moves
read before they write) its parts are separate, and `Ptz.System` puts them together.

What the operating system answers is an argument: how the calls of one write end (`WriteOutcome`)
and what the calls of one status read return (`ReadReply`).  `PtzState.attempts` is a history
variable: the commands handed to the device so far, which nothing in the code reads.
-/

namespace Afterveda.Ptz

open CText CNumber Onvif

/-! ### Positions and commands -/

structure PtzPosition where
  pan : ℤ
  tilt : ℤ
  deriving DecidableEq, Repr

structure PtzStatus where
  position : PtzPosition
  panSpeed : ℤ
  tiltSpeed : ℤ
  deriving DecidableEq, Repr

def kPanMin : ℤ := 30
def kPanMax : ℤ := 150
def kTiltMin : ℤ := 0
def kTiltMax : ℤ := 160
def kHomePan : ℤ := 90
def kHomeTilt : ℤ := 45

def clampInt (value minValue maxValue : ℤ) : ℤ :=
  if value < minValue then minValue
  else if value > maxValue then maxValue
  else value

def clampPtzPosition (position : PtzPosition) : PtzPosition where
  pan := clampInt position.pan kPanMin kPanMax
  tilt := clampInt position.tilt kTiltMin kTiltMax

def positionWire (position : PtzPosition) : Bytes :=
  let position := clampPtzPosition position
  bytes "pan=" ++ toDecimal position.pan ++ bytes " tilt=" ++ toDecimal position.tilt ++ bytes "\n"

def speedWire (panSpeed tiltSpeed : ℤ) : Bytes :=
  bytes "pan_speed=" ++ toDecimal panSpeed ++ bytes " tilt_speed=" ++ toDecimal tiltSpeed ++
    bytes "\n"

/-- The commands the server sends to the device. -/
inductive Command
  | position (position : PtzPosition)
  | speed (panSpeed tiltSpeed : ℤ)
  | stop
  deriving DecidableEq, Repr

/-- The wire string of a command. -/
def Command.wire : Command → Bytes
  | .position target => positionWire target
  | .speed panSpeed tiltSpeed => speedWire panSpeed tiltSpeed
  | .stop => bytes "stop\n"

/-! ### The variables -/

/-- Who sent a command: the SOAP thread, or the timer started for the speed command that stands at
the given place among the attempts. -/
inductive Origin
  | client
  | timer (move : ℕ)
  deriving DecidableEq, Repr

/-- A command handed to `write_ptz_command_unlocked`, and whether the device took it, that is all
bytes of it. -/
structure Attempt where
  origin : Origin
  command : Command
  accepted : Bool
  deriving DecidableEq, Repr

/-- The variables of `ptz_device.cpp`, with the attempts so far as history. -/
structure PtzState where
  motionGeneration : UInt64 := 0
  dryRunPan : ℤ := kHomePan
  dryRunTilt : ℤ := kHomeTilt
  dryRunPanSpeed : ℤ := 0
  dryRunTiltSpeed : ℤ := 0
  homePosition : PtzPosition := ⟨kHomePan, kHomeTilt⟩
  attempts : List Attempt := []
  deriving DecidableEq

/-- `++g_motion_generation`. -/
def PtzState.bumpGeneration (s : PtzState) : PtzState :=
  { s with motionGeneration := s.motionGeneration + 1 }

/-- The simulated speeds after a command in dry-run mode. -/
def PtzState.setDryRunSpeed (s : PtzState) (panSpeed tiltSpeed : ℤ) : PtzState :=
  { s with dryRunPanSpeed := panSpeed, dryRunTiltSpeed := tiltSpeed }

/-- The simulated position after an absolute command in dry-run mode. -/
def PtzState.setDryRunPosition (s : PtzState) (position : PtzPosition) : PtzState :=
  { s with dryRunPan := position.pan, dryRunTilt := position.tilt }

/-! ### Writing -/

/-- The system calls on the device. -/
inductive DeviceCall
  | open
  | read
  | write
  | close
  deriving DecidableEq, Repr

/-- How the system calls of one command end: every byte taken and the device closed, or a call that
failed with the text of its `errno`. -/
inductive WriteOutcome
  | accepted
  | failed (call : DeviceCall) (reason : Bytes)
  deriving DecidableEq, Repr

/-- The device took all bytes; it is closed after the last of them, so also where that failed. -/
def WriteOutcome.taken : WriteOutcome → Bool
  | .accepted => true
  | .failed call _ => call = .close

/-- The text `ptz_device.cpp` reports for a failed call. -/
def deviceError (config : Config) (call : DeviceCall) (reason : Bytes) : Bytes :=
  match call with
  | .open => bytes "failed to open PTZ device " ++ config.ptzDevice ++ bytes ": " ++ reason
  | .read => bytes "failed to read PTZ position from " ++ config.ptzDevice ++ bytes ": " ++ reason
  | .write => bytes "failed to write PTZ command to " ++ config.ptzDevice ++ bytes ": " ++ reason
  | .close => bytes "failed to close PTZ device " ++ config.ptzDevice ++ bytes ": " ++ reason

/-- Hands a command to the device; the result is the error text, empty on success. -/
def writePtzCommandUnlocked (config : Config) (origin : Origin) (command : Command)
    (outcome : WriteOutcome) (s : PtzState) : Bytes × PtzState :=
  if config.ptzDryRun then
    ([], { s with attempts := s.attempts ++ [⟨origin, command, true⟩] })
  else
    match outcome with
    | .accepted => ([], { s with attempts := s.attempts ++ [⟨origin, command, true⟩] })
    | .failed call reason =>
      (deviceError config call reason,
        { s with attempts := s.attempts ++ [⟨origin, command, outcome.taken⟩] })

def writePtzPosition (config : Config) (position : PtzPosition) (outcome : WriteOutcome)
    (s : PtzState) : Bytes × PtzState :=
  let clamped := clampPtzPosition position
  let (error, s) :=
    writePtzCommandUnlocked config .client (.position clamped) outcome s.bumpGeneration
  if error = [] ∧ config.ptzDryRun then (error, (s.setDryRunPosition clamped).setDryRunSpeed 0 0)
  else (error, s)

def stopPtz (config : Config) (outcome : WriteOutcome) (s : PtzState) : Bytes × PtzState :=
  let (error, s) := writePtzCommandUnlocked config .client .stop outcome s.bumpGeneration
  if error = [] ∧ config.ptzDryRun then (error, s.setDryRunSpeed 0 0)
  else (error, s)

/-! ### Reading -/

/-- One `read` of the status: some bytes (none at the end of the text), or a failure. -/
inductive ReadCall
  | data (chunk : Bytes)
  | failed (reason : Bytes)
  deriving DecidableEq, Repr

/-- What the system calls of one status read return; `read` returns 0 once `reads` is used up. -/
structure ReadReply where
  openFailure : Option Bytes := none
  reads : List ReadCall := []
  closeFailure : Option Bytes := none
  deriving DecidableEq, Repr

/-- The loop of `read` calls: the text collected, or the failure's reason. -/
def readLoop : List ReadCall → Bytes → Except Bytes Bytes
  | [], response => .ok response
  | .failed reason :: _, _ => .error reason
  | .data chunk :: reads, response =>
    -- end of file, or the line is complete
    if chunk = [] then .ok response
    else if 10 ∈ response ++ chunk then .ok (response ++ chunk)
    else readLoop reads (response ++ chunk)

/-- The integer after the first occurrence of a marker. -/
def parseIntAfter (text marker : Bytes) : Option ℤ :=
  match find text marker with
  | none => none
  | some pos =>
    match strtol (text.drop (pos + marker.length)) with
    | none => none
    | some (value, _) => some (wrap32 value)

def parseStatusText (text : Bytes) : Option PtzStatus := do
  let pan ← parseIntAfter text (bytes "pan=")
  let tilt ← parseIntAfter text (bytes "tilt=")
  let panSpeed ← parseIntAfter text (bytes "pan_speed=")
  let tiltSpeed ← parseIntAfter text (bytes "tilt_speed=")
  return ⟨clampPtzPosition ⟨pan, tilt⟩, panSpeed, tiltSpeed⟩

def readPtzStatus (config : Config) (reply : ReadReply) (s : PtzState) : Except Bytes PtzStatus :=
  if config.ptzDryRun then
    .ok ⟨⟨s.dryRunPan, s.dryRunTilt⟩, s.dryRunPanSpeed, s.dryRunTiltSpeed⟩
  else
    match reply.openFailure with
    | some reason => .error (deviceError config .open reason)
    | none =>
      match readLoop reply.reads [] with
      | .error reason => .error (deviceError config .read reason)
      | .ok response =>
        match reply.closeFailure with
        | some reason => .error (deviceError config .close reason)
        | none =>
          match parseStatusText response with
          | none => .error (bytes "failed to parse PTZ status from " ++ config.ptzDevice ++
              bytes ": " ++ response)
          | some status => .ok status

def readPtzPosition (config : Config) (reply : ReadReply) (s : PtzState) :
    Except Bytes PtzPosition :=
  match readPtzStatus config reply s with
  | .error error => .error error
  | .ok status => .ok status.position

/-- The place of an angle in its range, as a coordinate from -1 to 1. -/
def angleToOnvif (value minValue maxValue : ℤ) : Double :=
  let midpoint : ℚ := (minValue + maxValue) / 2
  let halfRange : ℚ := (maxValue - minValue) / 2
  if halfRange = 0 then .finite 0
  else
    let normalized := (value - midpoint) / halfRange
    if normalized < -1 then .finite (-1)
    else if normalized > 1 then .finite 1
    else .finite normalized

def ptzPanToOnvif (pan : ℤ) : Double :=
  angleToOnvif (clampInt pan kPanMin kPanMax) kPanMin kPanMax

def ptzTiltToOnvif (tilt : ℤ) : Double :=
  angleToOnvif (clampInt tilt kTiltMin kTiltMax) kTiltMin kTiltMax

/-! ### Moving -/

/-- The size of a movement along an axis: the rounded share of the configured maximum, at least one
for a value other than zero, with the sign of the value. -/
def stepFromAxis (libm : Libm) (maximum : ℤ) (value : Double) : ℤ :=
  if value.isZero then 0
  else
    let size := wrap32 (lround libm (value.fabs.scale maximum))
    -- a value that rounds to nothing still moves by one
    let size := if size = 0 then 1 else size
    if value.lt 0 then wrap32 (-size) else size

def deltaFromAxis (libm : Libm) (config : Config) (value : Double) : ℤ :=
  stepFromAxis libm config.ptzStep value

def speedFromAxis (libm : Libm) (config : Config) (value : Double) : ℤ :=
  stepFromAxis libm config.ptzSpeed value

/-- The target of a relative move: the first half of `move_ptz_by_axes`, up to the write. -/
def movePtzByAxes (libm : Libm) (config : Config) (x y : Double) (reply : ReadReply)
    (s : PtzState) : Except Bytes PtzPosition :=
  match readPtzPosition config reply s with
  | .error error => .error error
  | .ok position =>
    let panDelta := deltaFromAxis libm config x
    let tiltDelta := deltaFromAxis libm config y
    .ok (clampPtzPosition
      ⟨wrap32 (position.pan + panDelta), wrap32 (position.tilt + tiltDelta)⟩)

/-- A detached timer thread: the captured generation and delay, and the place of its speed command
among the attempts (history). -/
structure Timer where
  generation : UInt64
  timeoutMs : ℤ
  move : ℕ
  deriving DecidableEq, Repr

/-- The critical section of `continuous_move_ptz`: the error text and the timer to start when there
is none. -/
def continuousMovePtz (libm : Libm) (config : Config) (x y : Double) (timeoutMs : ℤ)
    (outcome : WriteOutcome) (s : PtzState) : (Bytes × Timer) × PtzState :=
  let panSpeed := speedFromAxis libm config x
  let tiltSpeed := speedFromAxis libm config y
  -- the generation goes up before the outcome of the write is known
  let s := s.bumpGeneration
  let timer : Timer := ⟨s.motionGeneration, timeoutMs, s.attempts.length⟩
  let (error, s) := writePtzCommandUnlocked config .client (.speed panSpeed tiltSpeed) outcome s
  if error = [] ∧ config.ptzDryRun then ((error, timer), s.setDryRunSpeed panSpeed tiltSpeed)
  else ((error, timer), s)

/-- What a timer does once its delay is over. -/
def timerFires (config : Config) (timer : Timer) (outcome : WriteOutcome) (s : PtzState) :
    PtzState :=
  if s.motionGeneration ≠ timer.generation then s
  else
    let (error, s) := writePtzCommandUnlocked config (.timer timer.move) .stop outcome s
    if error = [] ∧ config.ptzDryRun then (s.setDryRunSpeed 0 0).bumpGeneration
    else s.bumpGeneration

def homePtzPosition (s : PtzState) : PtzPosition := s.homePosition

/-- The end of `set_home_ptz_from_current`, under `g_home_mutex`. -/
def storeHome (position : PtzPosition) (s : PtzState) : PtzState :=
  { s with homePosition := clampPtzPosition position }

end Afterveda.Ptz
