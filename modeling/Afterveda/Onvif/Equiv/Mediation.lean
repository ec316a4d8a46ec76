import Afterveda.Onvif.Soap.Service

/-!
# Mediation

Which operations check the message header before they do anything.

* `serve_eq_fail`: with a header that `require_auth` rejects, an operation other than
  `tptzGetServiceCapabilities` is the fault of `require_auth` and nothing else.
* `refuses_serve_iff`: such an operation ends with a fault on every host and leaves it as it was;
  `tptzGetServiceCapabilities`, which has no check, does not.
-/

namespace Afterveda.Onvif.Soap

open CText CNumber

variable {libm : Libm} {ctx : Context} {fault : Fault}

/-- A service that ends with a fault and leaves every host as it was: a host may keep a state of any
kind (the PTZ device, rail-media, the calls made so far) and answer any call in any way. -/
def Refuses {α : Type} (service : Service α) : Prop :=
  ∀ (σ : Type) (host : (c : Call) → σ → c.Answer × σ) (s : σ),
    ∃ fault, service.run host s = (.error fault, s)

theorem refuses_fail {α : Type} (fault : Fault) : Refuses (.fail fault : Service α) :=
  fun _ _ _ => ⟨fault, rfl⟩

/-- Nothing that follows a failed `require_auth` is run. -/
theorem authenticate_bind_of_rejected {α : Type} (h : requireAuth ctx = .error fault)
    (next : Unit → Service α) : (authenticate ctx >>= next) = .fail fault := by
  rw [authenticate, h]
  exact Prog.ofExcept_error_bind fault next

/-- Behind a rejected header an operation is a fault, unless it does not look at the header. -/
theorem serve_eq_fail (h : requireAuth ctx = .error fault) {op : Operation}
    (hop : op ≠ .tptzGetServiceCapabilities) : serve libm ctx op = .fail fault := by
  cases op with
  | tptzGetServiceCapabilities => exact absurd rfl hop
  -- every other operation is `authenticate ctx` followed by the rest of its body
  | _ => exact authenticate_bind_of_rejected h _

/-- **Mediation**: behind a rejected header an operation has no effect and gives a fault exactly
when it is not `tptzGetServiceCapabilities`. -/
theorem refuses_serve_iff (h : requireAuth ctx = .error fault) (op : Operation) :
    Refuses (serve libm ctx op) ↔ op ≠ .tptzGetServiceCapabilities := by
  constructor
  · rintro hrefuses rfl
    -- the operation makes no call, so any host shows its response
    obtain ⟨fault, hrun⟩ := hrefuses Unit (fun _ s => (default, s)) ()
    exact nomatch hrun
  · intro hop
    rw [serve_eq_fail h hop]
    exact refuses_fail fault

/-- A request for the presets, without a header, to a server that requires one. -/
theorem refuses_serve_iff_admin : ∃ ctx : Context, ctx.config.username = bytes "admin" ∧
    ctx.config.password = bytes "secret" ∧
      Refuses (serve ⟨fun _ => 0, .binary64⟩ ctx (.tptzGetPresets none)) := by
  let ctx : Context :=
    ⟨{ username := bytes "admin", password := bytes "secret" }, none, 0, Calendar.getTime⟩
  have hrejected : requireAuth ctx = .error authRequired := by decide +kernel
  exact ⟨ctx, rfl, rfl, (refuses_serve_iff hrejected (.tptzGetPresets none)).2 nofun⟩

/-- Without a header, a server that requires one gives its PTZ capabilities. -/
theorem tptzGetServiceCapabilities_unauthenticated : ∃ ctx : Context,
    ctx.config.username = bytes "admin" ∧ ctx.config.password = bytes "secret" ∧
      requireAuth ctx = .error authRequired ∧
        ¬Refuses (serve ⟨fun _ => 0, .binary64⟩ ctx .tptzGetServiceCapabilities) := by
  let ctx : Context :=
    ⟨{ username := bytes "admin", password := bytes "secret" }, none, 0, Calendar.getTime⟩
  refine ⟨ctx, rfl, rfl, by decide +kernel, fun hrefuses => ?_⟩
  obtain ⟨fault, hrun⟩ := hrefuses Unit (fun _ s => (default, s)) ()
  exact nomatch hrun

end Afterveda.Onvif.Soap
