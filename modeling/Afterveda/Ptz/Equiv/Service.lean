import Afterveda.Onvif.Equiv.Changes
import Afterveda.Ptz.Link

/-!
# What the PTZ operations hand to the device

An operation that moves the camera makes its checks, hands one command to the device, and answers
with the error text of the command.  `Commanded` is all such an operation can do to the device, and
every operation of the service that calls `ptz_device.cpp` to change something has its lemma here.
-/

namespace Afterveda.Ptz

open CText CNumber Onvif Onvif.Soap

/-- What a request makes of the device: a fault of the checks leaves it as it is, and otherwise the
request succeeds exactly when the command does. -/
inductive Commanded {α : Type} (command : PtzState → Bytes × PtzState) (s : PtzState) :
    Except Fault α × PtzState → Prop
  | refused (fault : Fault) : Commanded command s (.error fault, s)
  | done (a : α) (h : (command s).1 = []) : Commanded command s (.ok a, (command s).2)
  | failed (fault : Fault) (h : (command s).1 ≠ []) :
    Commanded command s (.error fault, (command s).2)

/-- A request that succeeds has succeeded with its command. -/
theorem Commanded.of_ok {α : Type} {command : PtzState → Bytes × PtzState} {s t : PtzState} {a : α}
    {result : Except Fault α × PtzState} (h : Commanded command s result)
    (hresult : result = (.ok a, t)) : (command s).1 = [] ∧ t = (command s).2 := by
  cases h with
  | refused fault => cases hresult
  | done _ herror =>
    obtain ⟨-, rfl⟩ := Prod.mk.inj hresult
    exact ⟨herror, rfl⟩
  | failed fault => cases hresult

variable {libm : Libm} {config : Config} {around : Surroundings} {other : (c : Call) → c.Answer}
  {ctx : Context} {command : PtzState → Bytes × PtzState} {s : PtzState}

/-- A check comes before the command. -/
theorem commanded_bind {α : Type} {p : Service Unit} {next : Unit → Service α}
    {host : (c : Call) → PtzState → c.Answer × PtzState} (hp : ∃ result, p.run host s = (result, s))
    (hnext : Commanded command s ((next ()).run host s)) :
    Commanded command s ((p >>= next).run host s) := by
  obtain ⟨result, hp⟩ := hp
  rw [Prog.run_bind, hp]
  cases result with
  | error fault => exact .refused fault
  | ok u => exact hnext

theorem run_of_ends {p : Service Unit} (h : Ends p) {σ : Type}
    (host : (c : Call) → σ → c.Answer × σ) (x : σ) : ∃ result, p.run host x = (result, x) := by
  obtain ⟨result, rfl⟩ := h
  exact ⟨result, Prog.run_ofExcept host x result⟩

theorem ends_refuseZoom (vector : Option PtzVector) : Ends (refuseZoom vector) := by
  unfold refuseZoom
  split_ifs
  · exact ends_fail _
  · exact ends_done

/-- The check of the profile asks rail-media and leaves the device alone. -/
theorem run_validateProfileToken (token : Option CStr) : ∃ result,
    (validateProfileToken ctx token).run (ptzHost libm config around other) s = (result, s) := by
  unfold validateProfileToken
  dsimp only
  split_ifs
  · exact ⟨_, rfl⟩
  · rw [mediaModelFromConfig_eq, Prog.run_bind, getThen, Prog.run_call]
    dsimp only [ptzHost, Prog.run]
    split_ifs
    · exact ⟨_, rfl⟩
    · exact ⟨_, rfl⟩

/-- The error text of a command decides the answer. -/
theorem commanded_checkError {α : Type} {p : Service Bytes} {next : Bytes → Service α} {a : α}
    {host : (c : Call) → PtzState → c.Answer × PtzState}
    (hp : p.run host s = (.ok (command s).1, (command s).2))
    (hnext : ∀ error, next error = checkError error >>= fun _ => .done a) :
    Commanded command s ((p >>= next).run host s) := by
  rw [Prog.run_bind, hp]
  dsimp only
  rw [hnext, checkError]
  split_ifs with herror
  · exact .done a herror
  · exact .failed _ herror

/-! ### The operations -/

theorem checkError_eq (error : Bytes) :
    checkError error = checkError error >>= fun _ => .done () := by
  unfold checkError
  split_ifs
  · rfl
  · rfl

variable (ctx around other)

/-- A relative move is handed on with the axis values of the request as they are. -/
theorem commanded_tptzRelativeMove {request : Option TptzRelativeMove} {x y : Double}
    (hrequest : (request.bind TptzRelativeMove.translation).bind PtzVector.panTilt = some ⟨x, y⟩) :
    Commanded (relativeMovePtz libm config around x y) s
      ((tptzRelativeMove ctx request).run (ptzHost libm config around other) s) := by
  refine commanded_bind (run_of_ends (ends_authenticate ctx) _ s) ?_
  refine commanded_bind (run_validateProfileToken _) ?_
  refine commanded_bind (run_of_ends (ends_refuseZoom _) _ s) ?_
  rw [hrequest]
  exact commanded_checkError rfl checkError_eq

/-- So is a continuous move, with the timeout that was parsed. -/
theorem commanded_tptzContinuousMove {request : Option TptzContinuousMove} {x y : Double}
    (hrequest : (request.bind TptzContinuousMove.velocity).bind PtzVector.panTilt = some ⟨x, y⟩) :
    ∃ timeoutMs, Commanded
      (fun s => ((continuousMovePtz libm config x y timeoutMs around.outcome s).1.1,
        (continuousMovePtz libm config x y timeoutMs around.outcome s).2)) s
      ((tptzContinuousMove libm ctx request).run (ptzHost libm config around other) s) := by
  refine ⟨(parsePtzTimeoutMs libm (request.bind TptzContinuousMove.timeout)).getD 0, ?_⟩
  refine commanded_bind (run_of_ends (ends_authenticate ctx) _ s) ?_
  refine commanded_bind (run_validateProfileToken _) ?_
  refine commanded_bind (run_of_ends (ends_refuseZoom _) _ s) ?_
  rw [hrequest]
  dsimp only
  cases parsePtzTimeoutMs libm (request.bind TptzContinuousMove.timeout) with
  | none => exact .refused _
  | some timeoutMs => exact commanded_checkError rfl checkError_eq

end Afterveda.Ptz
