import Afterveda.Onvif.Equiv.Video
import Afterveda.Onvif.Soap.Service

/-!
# What an operation does to the world

Every operation of the server reads as it likes and makes at most one call that changes something,
which is its last (`serve_commits`).

* `serve_allOrNothing`: an operation that succeeds has made its one change and was told that it
  worked; one that ends with a fault has changed nothing, or was told that its change failed.
-/

namespace Afterveda.Onvif.Soap

open CText CNumber

/-! ### Calls -/

/-- The documents of rail-media that the services read. -/
def kReadPaths : List Bytes := [bytes "/profile", bytes "/imaging", bytes "/osd"]

/-- A call that changes nothing. -/
def ReadsOnly : Call → Prop
  | .http method path body => method = bytes "GET" ∧ path ∈ kReadPaths ∧ body = []
  | .time | .network | .readPtzStatus => True
  | _ => False

/-- The answer to a call that changes something says that it did. -/
def Succeeds : (c : Call) → c.Answer → Prop
  | .http .., response => ∃ r : RailHttpResponse, response = some r ∧ r.ok = true
  | .continuousMovePtz .., error | .relativeMovePtz .., error | .stopPtz, error | .homePtz, error
  | .setHomePtzFromCurrent, error => error = ([] : Bytes)
  | _, _ => True

def IsPost (path : Bytes) : Call → Prop
  | .http method p _ => method = bytes "POST" ∧ p = path
  | _ => False

/-- The calls with which an operation changes something. -/
def Operation.Makes (libm : Libm) : Operation → Call → Prop
  | .trtSetVideoEncoderConfiguration _ => IsPost (bytes "/config")
  | .trtSetOsd _ | .trtCreateOsd _ | .trtDeleteOsd _ => IsPost (bytes "/osd")
  | .timgSetImagingSettings _ => IsPost (bytes "/imaging")
  | .tptzSetPreset _ | .tptzSetHomePosition _ => (· = .setHomePtzFromCurrent)
  | .tptzGotoPreset _ | .tptzGotoHomePosition _ => (· = .homePtz)
  | .tptzStop _ => (· = .stopPtz)
  | .tptzContinuousMove request => fun c => ∃ velocity timeoutMs,
      (request.bind TptzContinuousMove.velocity).bind PtzVector.panTilt = some velocity ∧
      parsePtzTimeoutMs libm (request.bind TptzContinuousMove.timeout) = some timeoutMs ∧
      c = .continuousMovePtz velocity.x velocity.y timeoutMs
  | .tptzRelativeMove request => fun c => ∃ translation,
      (request.bind TptzRelativeMove.translation).bind PtzVector.panTilt = some translation ∧
      c = .relativeMovePtz translation.x translation.y
  | _ => fun _ => False

/-- The operation is one that has to change something. -/
def Operation.changes : Operation → Bool
  | .trtSetVideoEncoderConfiguration _ | .trtSetOsd _ | .trtCreateOsd _ | .trtDeleteOsd _
  | .timgSetImagingSettings _ | .tptzSetPreset _ | .tptzSetHomePosition _ | .tptzGotoPreset _
  | .tptzGotoHomePosition _ | .tptzContinuousMove _ | .tptzRelativeMove _ => true
  -- a stop of the zoom alone
  | .tptzStop request => (request.bind TptzStop.panTilt).getD true
  | _ => false

variable {α : Type} {libm : Libm} {ctx : Context}

/-- A service that only reads. -/
abbrev Quiet (p : Service α) : Prop := p.AllCalls ReadsOnly

/-! ### Services that only read -/

theorem quiet_of_ends {p : Service Unit} (h : Ends p) : Quiet p := by
  obtain ⟨result, rfl⟩ := h
  exact Prog.allCalls_ofExcept result

theorem quiet_authenticate (ctx : Context) : Quiet (authenticate ctx) :=
  Prog.allCalls_ofExcept _

theorem quiet_fail (fault : Fault) : Quiet (.fail fault : Service α) := trivial

theorem quiet_pure (a : α) : Quiet (pure a : Service α) := trivial

theorem quiet_ite {c : Prop} [Decidable c] {p q : Service α} (hp : Quiet p) (hq : Quiet q) :
    Quiet (if c then p else q) := by
  split_ifs
  · exact hp
  · exact hq

theorem quiet_getThen {path : Bytes} {k : Option RailHttpResponse → Service α}
    (hpath : path ∈ kReadPaths) (h : ∀ answer, Quiet (k answer)) : Quiet (getThen path k) :=
  ⟨⟨rfl, hpath, rfl⟩, h⟩

theorem quiet_mediaModelFromConfig (config : Config) : Quiet (mediaModelFromConfig config) := by
  rw [mediaModelFromConfig_eq]
  exact quiet_getThen (by decide) fun _ => trivial

theorem quiet_osdSettingsFromRail : Quiet osdSettingsFromRail := by
  rw [osdSettingsFromRail_eq]
  exact quiet_getThen (by decide) fun _ => trivial

theorem quiet_imagingSettingsFromRail (precision : Precision) :
    Quiet (imagingSettingsFromRail precision) := by
  rw [imagingSettingsFromRail_eq]
  exact quiet_getThen (by decide) fun _ => trivial

theorem quiet_requireProfileToken (model : MediaModel) (token missing : Bytes) :
    Quiet (requireProfileToken model token missing) :=
  quiet_of_ends (ends_requireProfileToken model token missing)

theorem quiet_optionalProfileToken (model : MediaModel) (token : Bytes) :
    Quiet (optionalProfileToken model token) := by
  unfold optionalProfileToken
  split_ifs <;> trivial

theorem quiet_validateProfileToken (ctx : Context) (value : Option CStr) :
    Quiet (validateProfileToken ctx value) := by
  unfold validateProfileToken
  dsimp only
  split_ifs
  · exact quiet_fail _
  · refine Prog.allCalls_bind (quiet_mediaModelFromConfig _) fun model => ?_
    split_ifs <;> trivial

theorem quiet_refuseZoom (vector : Option PtzVector) : Quiet (refuseZoom vector) := by
  unfold refuseZoom
  split_ifs <;> trivial

theorem quiet_requireToken (value : Option CStr) (expected : Bytes) :
    Quiet (requireToken value expected) := by
  unfold requireToken
  split_ifs <;> trivial

theorem quiet_validateToken (token : Option CStr) (expected missing : Bytes) :
    Quiet (validateToken token expected missing) := by
  unfold validateToken
  split_ifs <;> trivial

theorem quiet_validateConfigurationToken (token : Option CStr) (required : Bool) :
    Quiet (validateConfigurationToken token required) := by
  unfold validateConfigurationToken
  split_ifs
  · trivial
  · exact quiet_validateToken _ _ _

theorem quiet_validateVideoSourceToken (token : Option CStr) :
    Quiet (validateVideoSourceToken token) :=
  quiet_of_ends (ends_validateVideoSourceToken token)

theorem quiet_requireSetting (value : Option Double) (invalid : Bytes) :
    Quiet (requireSetting value invalid) :=
  quiet_of_ends (ends_requireSetting value invalid)

theorem quiet_validateOsdConfiguration (osd : OsdConfigurationRequest) (token config : Bool) :
    Quiet (validateOsdConfiguration osd token config) := by
  unfold validateOsdConfiguration
  refine quiet_ite (Prog.allCalls_bind (quiet_validateToken _ _ _) fun _ => ?_) ?_
  all_goals
    refine quiet_ite (quiet_fail _) (quiet_ite (quiet_fail _) (quiet_ite (quiet_fail _) ?_))
    rcases osd.textString with _ | ⟨type, _ | plainText⟩
    · exact quiet_fail _
    · exact quiet_fail _
    · exact quiet_ite (quiet_fail _) (quiet_pure _)

/-! ### Services that commit -/

/-- The error text of a call decides how the service ends. -/
theorem checkError_decides {c : Call} {r : c.Answer} {error : Bytes}
    (h : Succeeds c r ↔ error = []) :
    (Succeeds c r ∧ ∃ a, checkError error = .done a) ∨
      (¬Succeeds c r ∧ ∃ fault, checkError error = .fail fault) := by
  unfold checkError
  split_ifs with herror
  · exact Or.inl ⟨h.mpr herror, (), rfl⟩
  · exact Or.inr ⟨mt h.mp herror, _, rfl⟩

section Setters

variable {Q : Call → Prop} {silent : Prop}

theorem commits_post {path body : Bytes} (hc : Q (.http (bytes "POST") path body))
    {unavailable rejected : Bytes} (hunavailable : unavailable ≠ []) (hrejected : rejected ≠ []) :
    (postThen path body fun answer =>
      checkError (setterError unavailable rejected answer)).Commits
        ReadsOnly Q Succeeds silent := by
  refine .last hc fun answer => checkError_decides ?_
  cases answer with
  | none => exact iff_of_false (fun ⟨r, hr, _⟩ => nomatch hr) hunavailable
  | some response =>
    rw [setterError_eq_nil hrejected]
    exact ⟨fun ⟨r, hr, hok⟩ => Option.some.inj hr ▸ hok, fun hok => ⟨response, rfl, hok⟩⟩

theorem commits_setVideoConfig {profile : VideoProfile}
    (hc : Q (.http (bytes "POST") (bytes "/config") (videoConfigBody profile))) :
    (setVideoConfig profile >>= checkError).Commits ReadsOnly Q Succeeds silent := by
  rw [setVideoConfig_eq]
  exact commits_post hc (by decide) (by decide)

theorem commits_setImagingSettings {settings : ImageSettings}
    (hc : Q (.http (bytes "POST") (bytes "/imaging") (imagingBody settings))) :
    (setImagingSettings settings >>= checkError).Commits ReadsOnly Q Succeeds silent := by
  rw [setImagingSettings_eq]
  exact commits_post hc (by decide) (by decide)

theorem commits_setOsd {enabled : Bool} {text : Bytes}
    (hc : Q (.http (bytes "POST") (bytes "/osd") (osdBody ⟨enabled, text⟩))) :
    (setOsd enabled text).Commits ReadsOnly Q Succeeds silent := by
  rw [setOsd_eq]
  refine .quiet ⟨rfl, by decide⟩ fun _ => ?_
  rw [setOsdSettings_eq]
  exact commits_post hc (by decide) (by decide)

end Setters

/-- The operations that only read. -/
theorem quiet_serve {op : Operation} (h : op.changes = false) (hstop : ∀ r, op ≠ .tptzStop r) :
    Quiet (serve libm ctx op) := by
  cases op with
  | tptzGetServiceCapabilities => exact quiet_pure _
  | tdsGetCapabilities | tdsGetServices | tdsGetDeviceInformation | tdsGetScopes | tdsGetHostname
  | tdsGetUsers | tdsGetServiceCapabilities | trtGetServiceCapabilities | tr2GetServiceCapabilities
  | tptzGetNodes | tptzGetConfigurations | timgGetServiceCapabilities =>
    exact Prog.allCalls_bind (quiet_authenticate ctx) fun _ => quiet_pure _
  | tdsGetSystemDateAndTime | tdsGetNetworkInterfaces =>
    exact Prog.allCalls_bind (quiet_authenticate ctx) fun _ =>
      Prog.allCalls_bind (Prog.allCalls_perform trivial) fun _ => quiet_pure _
  | trtGetProfiles | trtGetVideoSources | trtGetVideoSourceConfigurations
  | trtGetVideoEncoderConfigurations =>
    exact Prog.allCalls_bind (quiet_authenticate ctx) fun _ =>
      Prog.allCalls_bind (quiet_mediaModelFromConfig _) fun _ => quiet_pure _
  | trtGetProfile request =>
    exact Prog.allCalls_bind (quiet_authenticate ctx) fun _ =>
      Prog.allCalls_bind (quiet_mediaModelFromConfig _) fun _ =>
        Prog.allCalls_bind (quiet_requireProfileToken _ _ _) fun _ => quiet_pure _
  | trtGetVideoEncoderConfiguration request =>
    exact Prog.allCalls_bind (quiet_authenticate ctx) fun _ =>
      Prog.allCalls_bind (quiet_mediaModelFromConfig _) fun _ =>
        Prog.allCalls_bind (quiet_requireProfileToken _ _ _) fun _ => quiet_pure _
  | trtGetStreamUri request =>
    refine Prog.allCalls_bind (quiet_authenticate ctx) fun _ => quiet_ite (quiet_fail _) ?_
    exact Prog.allCalls_bind (quiet_mediaModelFromConfig _) fun _ =>
      Prog.allCalls_bind (quiet_requireProfileToken _ _ _) fun _ => quiet_pure _
  | tr2GetStreamUri request =>
    refine Prog.allCalls_bind (quiet_authenticate ctx) fun _ => quiet_ite (quiet_fail _) ?_
    exact Prog.allCalls_bind (quiet_mediaModelFromConfig _) fun _ =>
      Prog.allCalls_bind (quiet_requireProfileToken _ _ _) fun _ => quiet_pure _
  | trtGetVideoSourceConfiguration request =>
    refine Prog.allCalls_bind (quiet_authenticate ctx) fun _ =>
      quiet_ite (quiet_fail _) (quiet_ite (quiet_fail _) ?_)
    exact Prog.allCalls_bind (quiet_mediaModelFromConfig _) fun _ => quiet_pure _
  | trtGetVideoSourceConfigurationOptions request =>
    refine Prog.allCalls_bind (quiet_authenticate ctx) fun _ =>
      Prog.allCalls_bind (quiet_mediaModelFromConfig _) fun _ => quiet_ite (quiet_fail _) ?_
    exact Prog.allCalls_bind (quiet_optionalProfileToken _ _) fun _ => quiet_pure _
  | trtGetVideoEncoderConfigurationOptions request =>
    exact Prog.allCalls_bind (quiet_authenticate ctx) fun _ =>
      Prog.allCalls_bind (quiet_mediaModelFromConfig _) fun _ =>
        Prog.allCalls_bind (quiet_optionalProfileToken _ _) fun _ =>
          Prog.allCalls_bind (quiet_optionalProfileToken _ _) fun _ => quiet_pure _
  | tr2GetProfiles request =>
    exact Prog.allCalls_bind (quiet_authenticate ctx) fun _ =>
      Prog.allCalls_bind (quiet_mediaModelFromConfig _) fun _ =>
        Prog.allCalls_bind (quiet_optionalProfileToken _ _) fun _ => quiet_pure _
  | trtGetOsds request =>
    refine Prog.allCalls_bind (quiet_authenticate ctx) fun _ => ?_
    cases request with
    | none => exact quiet_fail _
    | some request =>
      exact Prog.allCalls_bind (quiet_validateConfigurationToken _ _) fun _ =>
        Prog.allCalls_bind quiet_osdSettingsFromRail fun _ => quiet_pure _
  | trtGetOsd request =>
    refine Prog.allCalls_bind (quiet_authenticate ctx) fun _ => ?_
    cases request with
    | none => exact quiet_fail _
    | some request =>
      exact Prog.allCalls_bind (quiet_validateToken _ _ _) fun _ =>
        Prog.allCalls_bind quiet_osdSettingsFromRail fun _ =>
          quiet_ite (quiet_pure _) (quiet_fail _)
  | trtGetOsdOptions request =>
    refine Prog.allCalls_bind (quiet_authenticate ctx) fun _ => ?_
    cases request with
    | none => exact quiet_fail _
    | some request =>
      exact Prog.allCalls_bind (quiet_validateConfigurationToken _ _) fun _ => quiet_pure _
  | tptzGetNode request =>
    exact Prog.allCalls_bind (quiet_authenticate ctx) fun _ =>
      Prog.allCalls_bind (quiet_requireToken _ _) fun _ => quiet_pure _
  | tptzGetConfiguration request =>
    exact Prog.allCalls_bind (quiet_authenticate ctx) fun _ =>
      Prog.allCalls_bind (quiet_requireToken _ _) fun _ => quiet_pure _
  | tptzGetConfigurationOptions request =>
    exact Prog.allCalls_bind (quiet_authenticate ctx) fun _ =>
      Prog.allCalls_bind (quiet_requireToken _ _) fun _ => quiet_pure _
  | tptzGetPresets request =>
    exact Prog.allCalls_bind (quiet_authenticate ctx) fun _ =>
      Prog.allCalls_bind (quiet_validateProfileToken _ _) fun _ => quiet_pure _
  | tptzGetStatus request =>
    refine Prog.allCalls_bind (quiet_authenticate ctx) fun _ =>
      Prog.allCalls_bind (quiet_validateProfileToken _ _) fun _ =>
        Prog.allCalls_bind (Prog.allCalls_perform trivial) fun status => ?_
    cases status with
    | error fault => exact quiet_fail _
    | ok status => exact Prog.allCalls_bind (Prog.allCalls_perform trivial) fun _ => quiet_pure _
  | timgGetOptions request =>
    refine Prog.allCalls_bind (quiet_authenticate ctx) fun _ => ?_
    cases request with
    | none => exact quiet_fail _
    | some request =>
      exact Prog.allCalls_bind (quiet_validateVideoSourceToken _) fun _ => quiet_pure _
  | timgGetImagingSettings request =>
    refine Prog.allCalls_bind (quiet_authenticate ctx) fun _ => ?_
    cases request with
    | none => exact quiet_fail _
    | some request =>
      exact Prog.allCalls_bind (quiet_validateVideoSourceToken _) fun _ =>
        Prog.allCalls_bind (quiet_imagingSettingsFromRail _) fun _ => quiet_pure _
  | tptzStop request => exact absurd rfl (hstop request)
  | _ => cases h

/-- Every operation makes its change with the last of its calls. -/
theorem serve_commits (op : Operation) :
    (serve libm ctx op).Commits ReadsOnly (op.Makes libm) Succeeds (op.changes = false) := by
  cases op with
  | trtSetVideoEncoderConfiguration request =>
    refine (quiet_authenticate ctx).bind_commits fun _ =>
      (quiet_mediaModelFromConfig _).bind_commits fun model => ?_
    rcases videoRest_cases request model with ⟨fault, hfail⟩ | ⟨next, -, hsend⟩
    · show (videoRest request model).Commits _ _ _ _
      exact hfail ▸ .fail fault
    · show (videoRest request model).Commits _ _ _ _
      exact hsend ▸ commits_setVideoConfig ⟨rfl, rfl⟩
  | trtSetOsd request =>
    refine (quiet_authenticate ctx).bind_commits fun _ => ?_
    cases request.bind TrtSetOsd.osd with
    | none => exact .fail _
    | some osd =>
      refine (quiet_validateOsdConfiguration osd _ _).bind_commits fun text =>
        quiet_osdSettingsFromRail.bind_commits fun current => ?_
      cases current.enabled with
      | false => exact .fail _
      | true => exact commits_setOsd ⟨rfl, rfl⟩
  | trtCreateOsd request =>
    refine (quiet_authenticate ctx).bind_commits fun _ => ?_
    cases request.bind TrtCreateOsd.osd with
    | none => exact .fail _
    | some osd =>
      refine (quiet_validateOsdConfiguration osd _ _).bind_commits fun text =>
        quiet_osdSettingsFromRail.bind_commits fun current => ?_
      cases current.enabled with
      | true => exact .fail _
      | false => exact (commits_setOsd ⟨rfl, rfl⟩).bind_pure fun _ => kOsdToken
  | trtDeleteOsd request =>
    refine (quiet_authenticate ctx).bind_commits fun _ => ?_
    cases request with
    | none => exact .fail _
    | some request =>
      refine (quiet_validateToken _ _ _).bind_commits fun _ =>
        quiet_osdSettingsFromRail.bind_commits fun current => ?_
      cases current.enabled with
      | false => exact .fail _
      | true => exact commits_setOsd ⟨rfl, rfl⟩
  | timgSetImagingSettings request =>
    refine (quiet_authenticate ctx).bind_commits fun _ => ?_
    cases request with
    | none => exact .fail _
    | some request =>
      refine (quiet_validateVideoSourceToken _).bind_commits fun _ => ?_
      cases request.imagingSettings with
      | none => exact .fail _
      | some input =>
        refine (quiet_requireSetting _ _).bind_commits fun _ =>
          (quiet_requireSetting _ _).bind_commits fun _ =>
            (quiet_requireSetting _ _).bind_commits fun _ => ?_
        split_ifs
        · exact .fail _
        · exact (quiet_imagingSettingsFromRail _).bind_commits fun settings =>
            commits_setImagingSettings ⟨rfl, rfl⟩
  | tptzSetPreset request =>
    refine (quiet_authenticate ctx).bind_commits fun _ =>
      (quiet_validateProfileToken _ _).bind_commits fun _ => ?_
    dsimp only
    split_ifs
    · exact .fail _
    · have hset : (Prog.perform Call.setHomePtzFromCurrent >>= checkError).Commits ReadsOnly
          (· = .setHomePtzFromCurrent) Succeeds (true = false) :=
        .last rfl fun _ => checkError_decides Iff.rfl
      exact hset.bind_pure fun _ => bytes "home"
  | tptzSetHomePosition request =>
    exact (quiet_authenticate ctx).bind_commits fun _ =>
      (quiet_validateProfileToken _ _).bind_commits fun _ =>
        .last rfl fun _ => checkError_decides Iff.rfl
  | tptzGotoPreset request =>
    refine (quiet_authenticate ctx).bind_commits fun _ =>
      (quiet_validateProfileToken _ _).bind_commits fun _ => ?_
    dsimp only
    split_ifs
    · exact .fail _
    · exact (quiet_refuseZoom _).bind_commits fun _ =>
        .last rfl fun _ => checkError_decides Iff.rfl
  | tptzGotoHomePosition request =>
    exact (quiet_authenticate ctx).bind_commits fun _ =>
      (quiet_validateProfileToken _ _).bind_commits fun _ =>
        (quiet_refuseZoom _).bind_commits fun _ =>
          .last rfl fun _ => checkError_decides Iff.rfl
  | tptzStop request =>
    refine (quiet_authenticate ctx).bind_commits fun _ =>
      (quiet_validateProfileToken _ _).bind_commits fun _ => ?_
    show Prog.Commits _ _ _ ((request.bind TptzStop.panTilt).getD true = false) _
    cases (request.bind TptzStop.panTilt).getD true with
    | false => exact .done () rfl
    | true => exact .last rfl fun _ => checkError_decides Iff.rfl
  | tptzContinuousMove request =>
    refine (quiet_authenticate ctx).bind_commits fun _ =>
      (quiet_validateProfileToken _ _).bind_commits fun _ =>
        (quiet_refuseZoom _).bind_commits fun _ => ?_
    cases hvelocity : (request.bind TptzContinuousMove.velocity).bind PtzVector.panTilt with
    | none => exact .fail _
    | some velocity =>
      dsimp only
      cases htimeout : parsePtzTimeoutMs libm (request.bind TptzContinuousMove.timeout) with
      | none => exact .fail _
      | some timeoutMs =>
        exact .last ⟨velocity, timeoutMs, hvelocity, htimeout, rfl⟩ fun _ =>
          checkError_decides Iff.rfl
  | tptzRelativeMove request =>
    refine (quiet_authenticate ctx).bind_commits fun _ =>
      (quiet_validateProfileToken _ _).bind_commits fun _ =>
        (quiet_refuseZoom _).bind_commits fun _ => ?_
    cases htranslation : (request.bind TptzRelativeMove.translation).bind PtzVector.panTilt with
    | none => exact .fail _
    | some translation =>
      exact .last ⟨translation, htranslation, rfl⟩ fun _ => checkError_decides Iff.rfl
  -- the other operations read and end
  | _ => exact (quiet_serve rfl fun _ h => by cases h).commits rfl

/-- **All or nothing**: on a host whose reading calls leave what is looked at as it is, an operation
either leaves it, and then it is one that only reads or it ends with a fault; or it makes one of its
calls in a state that looks like the first, changes nothing after it, and succeeds exactly when that
call did. -/
theorem serve_allOrNothing {σ γ : Type} (host : (c : Call) → σ → c.Answer × σ) (view : σ → γ)
    (hreads : ∀ c s, ReadsOnly c → view (host c s).2 = view s) (op : Operation) (s : σ) :
    (view ((serve libm ctx op).run host s).2 = view s ∧
        (op.changes = false ∨ ∃ fault, ((serve libm ctx op).run host s).1 = .error fault)) ∨
      ∃ c u, op.Makes libm c ∧ view u = view s ∧
        ((serve libm ctx op).run host s).2 = (host c u).2 ∧
        ((∃ response, ((serve libm ctx op).run host s).1 = .ok response) ↔
          Succeeds c (host c u).1) :=
  (serve_commits op).run_cases view hreads s

/-- Reading leaves rail-media as it is. -/
theorem railHost_of_readsOnly {T : Type} {points : Rail.MountPoints T} {parse : JsonGlib.Parser}
    {uptime : ℤ} {other : (c : Call) → c.Answer} (c : Call) (s : Rail.MediaServer T)
    (h : ReadsOnly c) : (railHost points parse uptime other c s).2 = s := by
  cases c with
  | http method path body =>
    obtain rfl : method = bytes "GET" := h.1
    exact handleRequest_get_snd points parse uptime path body s
  | _ => rfl

/-- rail-media behind the services. -/
abbrev plainHost := railHost Rail.mountTable JsonGlib.flatParser 0 fun _ => default

/-- A request for another size on rail-media has made its POST. -/
theorem serve_allOrNothing_size : ∃ c u, IsPost (bytes "/config") c ∧ u = plainServer ∧
    (plainHost c u).2.current.width = 640 := by
  let op : Operation := .trtSetVideoEncoderConfiguration (some sizeRequest)
  let libm : Libm := ⟨fun _ => 0, .binary64⟩
  have hwidth : ((serve libm openContext op).run plainHost plainServer).2.current.width = 640 := by
    decide +kernel
  have hcases :=
    @serve_allOrNothing libm openContext _ _ plainHost id railHost_of_readsOnly op plainServer
  generalize (serve libm openContext op).run plainHost plainServer = run at hwidth hcases
  rcases hcases with ⟨hsame, -⟩ | ⟨c, u, hc, hu, hend, -⟩
  · rw [show run.2 = plainServer from hsame] at hwidth
    exact absurd hwidth (by decide +kernel)
  · exact ⟨c, u, hc, hu, hend ▸ hwidth⟩

end Afterveda.Onvif.Soap
