import Afterveda.Lib.Loop
import Afterveda.Ptz.Device

/-!
# The calls of a command

`write_ptz_command_unlocked` call by call: it opens the device, hands the wire string to `write`
until nothing of it remains, and closes the device.  `Ptz.Device` has the function by how it ends;
here is its loop, which may also go on, and what the device takes meanwhile.
-/

namespace Afterveda.Ptz

open CText Onvif

/-- What a `write` returns: how many bytes were taken, or -1, with the text of its `errno`. -/
inductive WriteResult
  | written (count : ℕ)
  | failed (reason : Bytes)
  deriving DecidableEq, Repr

/-- The bytes a `write` has taken. -/
def WriteResult.count : WriteResult → ℕ
  | .written count => count
  | .failed _ => 0

/-- The variables of the loop, the reason it was left for, and the bytes that the device has taken
so far (history). -/
structure WriteLoop where
  data : ℕ := 0
  remaining : ℕ
  failure : Option Bytes := none
  taken : Bytes := []
  deriving DecidableEq, Repr

/-- What a `write` is given: `remaining` bytes from `data` on. -/
def WriteLoop.buffer (wire : Bytes) (loop : WriteLoop) : Bytes :=
  (wire.drop loop.data).take loop.remaining

def writeLoop (wire : Bytes) : Loop WriteLoop WriteResult where
  goesOn loop := loop.failure.isNone && 0 < loop.remaining
  body loop result :=
    match result with
    | .failed reason => { loop with failure := some reason }
    -- 0 is no failure: the next turn asks for the same bytes again
    | .written written =>
      { loop with
        data := loop.data + written
        remaining := loop.remaining - written
        taken := loop.taken ++ (loop.buffer wire).take written }

/-- The loop after so many `write`s. -/
def loopAfter (wire : Bytes) (writes : ℕ → WriteResult) (calls : ℕ) : WriteLoop :=
  (writeLoop wire).after writes { remaining := wire.length } calls

/-- What the system calls of one command return, where a `write` returns -1 or a count from 0 to the
bytes that remain. -/
structure WriteReply (wire : Bytes) where
  openFailure : Option Bytes := none
  writes : ℕ → WriteResult
  closeFailure : Option Bytes := none
  bounded : ∀ calls count, (writeLoop wire).goesOn (loopAfter wire writes calls) = true →
    writes calls = .written count → count ≤ (loopAfter wire writes calls).remaining

variable {wire : Bytes}

/-- The loop of a command after so many `write`s. -/
def WriteReply.loop (reply : WriteReply wire) (calls : ℕ) : WriteLoop :=
  loopAfter wire reply.writes calls

/-- What the function returns after the loop, and `none` while it is in the loop. -/
def WriteReply.returned (config : Config) (reply : WriteReply wire) (loop : WriteLoop) :
    Option Bytes :=
  match loop.failure with
  -- the device is closed here too, and what `close` returns is not looked at
  | some reason => some (deviceError config .write reason)
  | none =>
    if 0 < loop.remaining then none
    else
      match reply.closeFailure with
      | some reason => some (deviceError config .close reason)
      | none => some []

/-- `write_ptz_command_unlocked`, up to so many `write`s: the error text once it has returned, and
the bytes that the device has taken. -/
def writePtzCommandCalls (config : Config) (wire : Bytes) (reply : WriteReply wire) (calls : ℕ) :
    Option Bytes × Bytes :=
  if config.ptzDryRun then (some [], [])
  else
    match reply.openFailure with
    | some reason => (some (deviceError config .open reason), [])
    | none => (reply.returned config (reply.loop calls), (reply.loop calls).taken)

end Afterveda.Ptz
