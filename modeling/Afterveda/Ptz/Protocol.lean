import Afterveda.Ptz.Device

/-!
# The protocol of the PTZ device

The device reads one command a line.  `PtzStatus.interpret` is what a line does to the position and
the speeds of the device, as the documentation of the protocol describes it, without motion over
time: `pan=P tilt=T` moves it there and ends every motion, `pan_speed=P tilt_speed=T` sets the
speeds, and `stop` ends every motion.
-/

namespace Afterveda.Ptz

open CText

/-- The text after a literal that it starts with. -/
def skipLiteral (literal text : Bytes) : Option Bytes :=
  if literal <+: text then some (text.drop literal.length) else none

/-- The two numbers of a line made of a first key, a number, a second key and a number. -/
def readPair (first second line : Bytes) : Option (ℤ × ℤ) := do
  let rest ← skipLiteral first line
  let (a, rest) ← strtol rest
  let rest ← skipLiteral second rest
  let (b, rest) ← strtol rest
  if rest = bytes "\n" then some (a, b) else none

/-- The state of the device after a line; a line of another form changes nothing. -/
def PtzStatus.interpret (status : PtzStatus) (line : Bytes) : PtzStatus :=
  match readPair (bytes "pan=") (bytes " tilt=") line with
  | some (pan, tilt) => ⟨⟨pan, tilt⟩, 0, 0⟩
  | none =>
    match readPair (bytes "pan_speed=") (bytes " tilt_speed=") line with
    | some (panSpeed, tiltSpeed) => { status with panSpeed, tiltSpeed }
    | none =>
      if line = bytes "stop\n" then { status with panSpeed := 0, tiltSpeed := 0 } else status

/-- The device at its start. -/
def initialStatus : PtzStatus := ⟨⟨90, 45⟩, 0, 0⟩

/-- The device after the lines of a log. -/
def interpretLog (log : List Bytes) : PtzStatus := log.foldl PtzStatus.interpret initialStatus

/-- The lines handed to the device so far. -/
def PtzState.log (s : PtzState) : List Bytes := s.attempts.map fun a => a.command.wire

end Afterveda.Ptz
