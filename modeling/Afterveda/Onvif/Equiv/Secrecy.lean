import Afterveda.Onvif.Equiv.Auth
import Afterveda.Onvif.Session

/-!
# The password of the server

`require_auth` alone looks at the configured password: two servers that differ in nothing but their
password give the same responses and have the same effects, as long as they accept the same headers
(`serveAll_indistinct`).
-/

namespace Afterveda.Onvif.Soap

open CText CNumber

variable {libm : Libm} {σ : Type}

/-- The same server but for the password. -/
def SameButPassword (config config' : Config) : Prop :=
  ∃ password, config' = { config with password }

/-- A call to two servers that differ in their password: both accept it, or both reject it with one
and the same header. -/
structure Indistinct (ctx ctx' : Context) : Prop where
  config : SameButPassword ctx.config ctx'.config
  header : requireAuth ctx = .ok () ∧ requireAuth ctx' = .ok () ∨
    ctx.header = ctx'.header ∧ requireAuth ctx ≠ .ok () ∧ requireAuth ctx' ≠ .ok ()

theorem checkDigest_cases (ctx : Context) (token : UsernameToken) (password : Bytes) :
    checkDigest ctx token password = .ok () ∨
      checkDigest ctx token password = .error authFailed := by
  unfold checkDigest
  cases token.nonce.bind WsseEncodedString.item with
  | none => exact Or.inr rfl
  | some nonce =>
    cases token.created with
    | none => exact Or.inr rfl
    | some created =>
      dsimp only
      split_ifs
      · exact Or.inr rfl
      · exact Or.inr rfl
      · exact Or.inr rfl
      · exact Or.inl rfl

/-- A header is accepted, or rejected for a reason that does not depend on the password. -/
theorem requireAuth_cases (ctx : Context) : requireAuth ctx = .ok () ∨
    requireAuth ctx = .error (if ctx.usernameToken = none then authRequired else authFailed) := by
  unfold requireAuth
  split_ifs with hopen htoken
  · exact Or.inl rfl
  · rw [htoken]
    exact Or.inr rfl
  · obtain ⟨token, htoken⟩ := Option.ne_none_iff_exists'.mp htoken
    rw [htoken]
    dsimp only
    rcases token.username with _ | username
    · exact Or.inr rfl
    rcases token.password with _ | ⟨_ | password, type⟩
    · exact Or.inr rfl
    · exact Or.inr rfl
    dsimp only
    split_ifs
    · exact Or.inr rfl
    · exact checkDigest_cases ctx token password.val
    · exact Or.inr rfl
    · exact Or.inl rfl

/-- Both servers check the header with the same result. -/
theorem Indistinct.requireAuth_eq {ctx ctx' : Context} (h : Indistinct ctx ctx') :
    requireAuth ctx = requireAuth ctx' := by
  rcases h.header with ⟨hok, hok'⟩ | ⟨hheader, hrejected, hrejected'⟩
  · rw [hok, hok']
  · have htoken : ctx.usernameToken = ctx'.usernameToken := by
      rw [Context.usernameToken, Context.usernameToken, hheader]
    rw [(requireAuth_cases ctx).resolve_left hrejected,
      (requireAuth_cases ctx').resolve_left hrejected', htoken]

/-- Beyond the check of the header, no operation looks at the password. -/
theorem serve_indistinct {ctx ctx' : Context} (h : Indistinct ctx ctx') (op : Operation) :
    serve libm ctx op = serve libm ctx' op := by
  have hauth : authenticate ctx = authenticate ctx' := congrArg Prog.ofExcept h.requireAuth_eq
  obtain ⟨password, hconfig⟩ := h.config
  obtain ⟨config, header, now, getTime⟩ := ctx
  obtain ⟨config', header', now', getTime'⟩ := ctx'
  obtain rfl : config' = { config with password } := hconfig
  cases op with
  | tptzGetServiceCapabilities => rfl
  | _ => exact congrArg (· >>= _) hauth

/-- **Secrecy of the password**: two sessions of the same calls, with two servers that differ in
nothing but their password and accept the same calls, give the same responses and faults and leave
any host in the same state. -/
theorem serveAll_indistinct {calls calls' : List (Context × Operation)}
    (h : List.Forall₂ (fun a b => Indistinct a.1 b.1 ∧ a.2 = b.2) calls calls')
    (host : (c : Call) → σ → c.Answer × σ) (s : σ) :
    serveAll libm host calls s = serveAll libm host calls' s := by
  induction h generalizing s with
  | nil => rfl
  | @cons a b calls calls' hab _ ih =>
    obtain ⟨ctx, op⟩ := a
    obtain ⟨ctx', op'⟩ := b
    obtain ⟨hctx, rfl⟩ := hab
    rw [serveAll, serveAll, serve_indistinct hctx op]
    dsimp only
    rw [ih]

/-- A call to a server with a password, signed in with a plain password. -/
def passwordContext (password sent : CStr) : Context :=
  ⟨{ username := bytes "admin", password := password.val },
    some ⟨some ⟨some { username := some ⟨bytes "admin", by decide⟩,
                       password := some ⟨some sent, none⟩ }⟩⟩, 0, Calendar.getTime⟩

/-- One client signs in to two servers, each with its own password, and another with a wrong one. -/
theorem serveAll_indistinct_guess : ∃ one two wrong : CStr, one ≠ two ∧
    serveAll ⟨fun _ => 0, .binary64⟩ (fun _ s => (default, s))
        [(passwordContext one one, .tdsGetUsers), (passwordContext one wrong, .tptzGetNodes)] () =
      serveAll ⟨fun _ => 0, .binary64⟩ (fun _ s => (default, s))
        [(passwordContext two two, .tdsGetUsers), (passwordContext two wrong, .tptzGetNodes)]
        () := by
  let one : CStr := ⟨bytes "one", by decide⟩
  let two : CStr := ⟨bytes "two", by decide⟩
  let wrong : CStr := ⟨bytes "wrong", by decide⟩
  refine ⟨one, two, wrong, by decide, serveAll_indistinct ?_ _ _⟩
  have hfirst : Indistinct (passwordContext one one) (passwordContext two two) :=
    ⟨⟨bytes "two", rfl⟩, Or.inl ⟨by decide, by decide⟩⟩
  have hsecond : Indistinct (passwordContext one wrong) (passwordContext two wrong) :=
    ⟨⟨bytes "two", rfl⟩, Or.inr ⟨rfl, by decide, by decide⟩⟩
  exact .cons ⟨hfirst, rfl⟩ (.cons ⟨hsecond, rfl⟩ .nil)

end Afterveda.Onvif.Soap
