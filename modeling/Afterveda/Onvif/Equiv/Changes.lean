import Afterveda.Onvif.Equiv.RailClient
import Afterveda.Onvif.Link

/-!
# What a change sends

The three operations of `Change` have one shape (`service_reads`): a first GET, and then, with the
settings read from its answer, either a fault or one POST (`Sends`).  The POST names the settings of
the request, printed, over those that were read (`Change.posted`).
-/

namespace Afterveda.Onvif

open CText CNumber JsonGlib Rail Soap

variable {T : Type} {points : MountPoints T} {parse : Parser} {precision : Precision}

/-! ### Programs that only check -/

/-- A program without calls. -/
def Ends (p : Service Unit) : Prop := ∃ result, p = .ofExcept result

theorem ends_fail (fault : Fault) : Ends (.fail fault) := ⟨.error fault, rfl⟩

theorem ends_done : Ends (.done ()) := ⟨.ok (), rfl⟩

theorem ends_authenticate (ctx : Context) : Ends (authenticate ctx) := ⟨requireAuth ctx, rfl⟩

theorem ends_checkError (error : Bytes) : Ends (checkError error) := by
  unfold checkError
  split_ifs
  · exact ends_done
  · exact ends_fail _

theorem ends_requireProfileToken (model : MediaModel) (token missing : Bytes) :
    Ends (requireProfileToken model token missing) := by
  unfold requireProfileToken
  split_ifs
  · exact ends_fail _
  · exact ends_fail _
  · exact ends_done

theorem ends_validateVideoSourceToken (token : Option CStr) :
    Ends (validateVideoSourceToken token) := by
  unfold validateVideoSourceToken
  split_ifs
  · exact ends_fail _
  · exact ends_fail _
  · exact ends_done

theorem ends_validateOsdToken (token : Option CStr) : Ends (validateOsdToken token) := by
  unfold validateOsdToken validateToken
  split_ifs
  · exact ends_fail _
  · exact ends_fail _
  · exact ends_done

/-- A check either ends the program or lets it go on. -/
theorem Ends.bind_cases {p : Service Unit} (hp : Ends p) (next : Unit → Service Unit) :
    (∃ fault, (p >>= next) = .fail fault) ∨ p = .done () ∧ (p >>= next) = next () := by
  obtain ⟨result, rfl⟩ := hp
  cases result with
  | error fault => exact Or.inl ⟨fault, rfl⟩
  | ok u => exact Or.inr ⟨rfl, rfl⟩

theorem requireSetting_done {value : Option Double} {invalid : Bytes}
    (h : requireSetting value invalid = .done ()) : ∀ x ∈ value, IsLevel x := by
  unfold requireSetting at h
  split_ifs at h with hvalid
  · rintro x rfl
    unfold validSetting at hvalid
    cases x with
    | finite q =>
      simp only [Bool.and_eq_true] at hvalid
      refine ⟨q, rfl, ?_, ?_⟩
      · exact of_decide_eq_true hvalid.1.2
      · exact of_decide_eq_true hvalid.2
    | inf negative => cases hvalid
    | nan => cases hvalid

theorem ends_requireSetting (value : Option Double) (invalid : Bytes) :
    Ends (requireSetting value invalid) := by
  unfold requireSetting
  split_ifs
  · exact ends_done
  · exact ends_fail _

/-! ### What is read -/

/-- What `http_request` makes of an answer. -/
def bodyOf (answer : Option RailHttpResponse) : Option Bytes :=
  (answer.filter RailHttpResponse.ok).map RailHttpResponse.body

def videoRead (answer : Option RailHttpResponse) : VideoProfile :=
  let profile : VideoProfile := { token := bytes "main", name := bytes "main" }
  match bodyOf answer with
  | none => profile
  | some current => profile.read current

def imagingRead (precision : Precision) (answer : Option RailHttpResponse) : ImageSettings :=
  match bodyOf answer with
  | none => {}
  | some current => ({} : ImageSettings).read precision current

def osdRead (answer : Option RailHttpResponse) : OsdSettings :=
  match bodyOf answer with
  | none => {}
  | some current => ({} : OsdSettings).read current

/-- A GET, and what is done with its answer. -/
def getThen {α : Type} (path : Bytes) (k : Option RailHttpResponse → Service α) : Service α :=
  .call (.http (bytes "GET") path []) k

/-- A POST, and what is done with its answer. -/
def postThen {α : Type} (path body : Bytes) (k : Option RailHttpResponse → Service α) : Service α :=
  .call (.http (bytes "POST") path body) k

theorem mediaModelFromConfig_eq (config : Config) : mediaModelFromConfig config =
    getThen (bytes "/profile") fun answer => .done ⟨[videoRead answer], config.rtspUri⟩ := by
  show Prog.call _ _ = Prog.call _ _
  congr 1
  funext answer
  show (Prog.bind (match bodyOf answer with | none => _ | some current => _) _) = _
  unfold videoRead
  cases bodyOf answer <;> rfl

theorem imagingSettingsFromRail_eq : imagingSettingsFromRail precision =
    getThen (bytes "/imaging") fun answer => .done (imagingRead precision answer) := by
  show Prog.call _ _ = Prog.call _ _
  congr 1
  funext answer
  show (match bodyOf answer with | none => _ | some current => _) = _
  unfold imagingRead
  cases bodyOf answer <;> rfl

theorem osdSettingsFromRail_eq : osdSettingsFromRail =
    getThen (bytes "/osd") fun answer => .done (osdRead answer) := by
  show Prog.call _ _ = Prog.call _ _
  congr 1
  funext answer
  show (match bodyOf answer with | none => _ | some current => _) = _
  unfold osdRead
  cases bodyOf answer <;> rfl

/-! ### What is sent -/

/-- Where the settings of a change are read. -/
def Change.path : Change → Bytes
  | .video _ => bytes "/profile"
  | .imaging _ => bytes "/imaging"
  | .deleteOsd _ => bytes "/osd"

/-- The settings that an answer gives. -/
def Change.readBack (precision : Precision) (answer : Option RailHttpResponse) : Change → Update
  | .video _ => (videoRead answer).update
  | .imaging _ => (imagingRead precision answer).update precision
  | .deleteOsd _ => (osdRead answer).update

/-- The settings that an answer gives are ones that rail-media can store. -/
def Change.Readable (precision : Precision) (answer : Option RailHttpResponse) : Change → Prop
  | .video _ => (videoRead answer).Sound
  | .imaging _ => (imagingRead precision answer).Sound
  | .deleteOsd _ => 0 ∉ (osdRead answer).text

/-- Values as they arrive at rail-media. -/
def printed (precision : Precision) (u : Update) : Update :=
  { u with
    brightness := u.brightness.map precision.reread
    contrast := u.contrast.map precision.reread
    colorSaturation := u.colorSaturation.map precision.reread }

/-- What a change sends after it got an answer. -/
def Change.posted (precision : Precision) (change : Change) (answer : Option RailHttpResponse) :
    Update :=
  (printed precision change.update).orElse (change.readBack precision answer)

variable (points parse) in
/-- A program that asks, and at its end sends `posted` to rail-media or nothing. -/
inductive Sends (posted : Update) : Service Unit → Prop
  | ends {p : Service Unit} (h : Ends p) : Sends posted p
  | get {path : Bytes} {k : Option RailHttpResponse → Service Unit}
      (h : ∀ answer, Sends posted (k answer)) : Sends posted (getThen path k)
  | post {path body : Bytes} {k : Option RailHttpResponse → Service Unit}
      (hupdate : ∀ (s : MediaServer T) (uptime : ℤ), Stored s.current →
        (handleRequest points parse uptime ⟨bytes "POST", path, body⟩ s).1.status = 200 →
          (⟨bytes "POST", path, body⟩ : Request).update parse = posted)
      (hk : ∀ answer, Ends (k answer)) :
      Sends posted (postThen path body k)

theorem sends_fail {posted : Update} (fault : Fault) :
    Sends points parse posted (.fail fault) :=
  .ends (ends_fail fault)

/-! ### Video settings -/

/-- Whatever the token, the profile is the only one. -/
theorem profileForToken_single (profile : VideoProfile) (uri token : Bytes) :
    profileForToken ⟨[profile], uri⟩ token = profile := by
  unfold profileForToken
  cases hnamed : [profile].find? (·.named (profileTokenFromEncoderToken token)) with
  | some found => exact List.mem_singleton.mp (List.mem_of_find?_eq_some hnamed)
  | none =>
    dsimp only
    cases hmain : [profile].find? (·.token = bytes "main") with
    | some found => exact List.mem_singleton.mp (List.mem_of_find?_eq_some hmain)
    | none => rfl

/-- A candidate is the current profile with the requested settings in it, and within the checks. -/
theorem videoConfigFromEncoderRequest_some {profile next : VideoProfile} {uri token : Bytes}
    {request : Option TrtSetVideoEncoderConfiguration}
    (hnext : videoConfigFromEncoderRequest ⟨[profile], uri⟩ request token = some next) :
    next.update = (Change.video request).update.orElse profile.update ∧
      supportedResolution next.width next.height = true ∧ next.fps = kSupportedFrameRate := by
  unfold videoConfigFromEncoderRequest at hnext
  unfold Change.update
  cases hconfig : request.bind TrtSetVideoEncoderConfiguration.configuration with
  | none =>
    rw [hconfig] at hnext
    cases hnext
  | some config =>
    rw [hconfig] at hnext
    dsimp only at hnext
    rw [profileForToken_single] at hnext
    split_ifs at hnext with hencoding hnothing hunsupported
    obtain rfl := Option.some.inj hnext
    rw [not_or, not_not, Bool.not_eq_true', Bool.not_eq_false] at hunsupported
    refine ⟨?_, hunsupported⟩
    dsimp only
    rw [hconfig]
    -- each half of the candidate is the requested one where it is given, else the current one
    obtain ⟨_, _, resolution, rateControl⟩ := config
    cases resolution <;> cases rateControl <;> rfl

theorem supportedResolution_iff {width height : ℤ} : supportedResolution width height = true ↔
    width = 640 ∧ height = 360 ∨ width = 1280 ∧ height = 720 ∨ width = 1920 ∧ height = 1080 := by
  simp only [supportedResolution, kSupportedResolutions, List.any_cons, List.any_nil,
    Bool.or_eq_true, Bool.and_eq_true, decide_eq_true_eq, Bool.false_eq_true, or_false]
  omega

theorem clamp_mem (value : ℤ) :
    800 ≤ clamp value kMinBitrateKbps kMaxBitrateKbps ∧
      clamp value kMinBitrateKbps kMaxBitrateKbps ≤ 5000 := by
  unfold clamp kMinBitrateKbps kMaxBitrateKbps
  split_ifs <;> omega

/-- The bitrate of a candidate: a clamped one, or the current one. -/
theorem candidate_bitrate {profile next : VideoProfile}
    {request : Option TrtSetVideoEncoderConfiguration}
    (hupdate : next.update = (Change.video request).update.orElse profile.update) :
    (Change.video request).update.bitrateKbps = none ∧ next.bitrateKbps = profile.bitrateKbps ∨
      (Change.video request).update.bitrateKbps = some next.bitrateKbps ∧
        800 ≤ next.bitrateKbps ∧ next.bitrateKbps ≤ 5000 := by
  have hbitrate := congrArg Update.bitrateKbps hupdate
  rw [show ∀ u v : Update, (u.orElse v).bitrateKbps = u.bitrateKbps.or v.bitrateKbps from
    fun _ _ => rfl] at hbitrate
  cases hgiven : (Change.video request).update.bitrateKbps with
  | none =>
    rw [hgiven] at hbitrate
    exact Or.inl ⟨rfl, Option.some.inj hbitrate⟩
  | some bitrate =>
    rw [hgiven] at hbitrate
    obtain rfl : next.bitrateKbps = bitrate := Option.some.inj hbitrate
    right
    refine ⟨rfl, ?_⟩
    obtain ⟨rate, -, hrate⟩ := Option.map_eq_some_iff.mp hgiven
    rw [← hrate]
    exact clamp_mem rate.bitrateLimit

theorem candidate_sound {profile next : VideoProfile} (hp : profile.Sound)
    {request : Option TrtSetVideoEncoderConfiguration}
    (hupdate : next.update = (Change.video request).update.orElse profile.update)
    (hsize : supportedResolution next.width next.height = true)
    (hfps : next.fps = kSupportedFrameRate) : next.Sound := by
  have hsize := supportedResolution_iff.mp hsize
  have hbitrate : IsInt32 next.bitrateKbps := by
    rcases candidate_bitrate hupdate with ⟨-, h⟩ | ⟨-, h⟩
    · rw [h]
      exact hp.bitrateKbps
    · unfold IsInt32
      omega
  unfold kSupportedFrameRate at hfps
  constructor
  · unfold IsInt32
    omega
  · unfold IsInt32
    omega
  · unfold IsInt32
    omega
  · exact hbitrate

theorem setVideoConfig_eq (profile : VideoProfile) : (setVideoConfig profile >>= checkError) =
    postThen (bytes "/config") (videoConfigBody profile) fun answer =>
      checkError (setterError (bytes "rail-media video config control is unavailable")
        (bytes "rail-media rejected video config") answer) := rfl

theorem sends_setVideoConfig (hparse : Reads precision parse) {profile : VideoProfile}
    (h : profile.Sound) :
    Sends points parse profile.update (setVideoConfig profile >>= checkError) := by
  rw [setVideoConfig_eq]
  exact .post (fun _ _ _ _ => update_configRequest hparse h) fun _ => ends_checkError _

/-- What follows the read of the video settings. -/
def videoRest (request : Option TrtSetVideoEncoderConfiguration) (model : MediaModel) :
    Service Unit := do
  let token := encoderRequestProfileToken request
  requireProfileToken model token (bytes "Missing video encoder configuration token")
  match videoConfigFromEncoderRequest model request token with
  | none =>
    Prog.fail (soapSenderFault (bytes
      "Unsupported video encoder configuration; use H264, 640x360/1280x720/1920x1080, and 30 fps"))
  | some next =>
    let fault ← setVideoConfig next
    checkError fault

/-- A fault, or the candidate sent. -/
theorem videoRest_cases (request : Option TrtSetVideoEncoderConfiguration) (model : MediaModel) :
    (∃ fault, videoRest request model = .fail fault) ∨
      ∃ next, videoConfigFromEncoderRequest model request (encoderRequestProfileToken request) =
          some next ∧ videoRest request model = (setVideoConfig next >>= checkError) := by
  unfold videoRest
  rcases (ends_requireProfileToken model (encoderRequestProfileToken request)
    (bytes "Missing video encoder configuration token")).bind_cases _ with hfail | ⟨-, hgo⟩
  · exact Or.inl hfail
  · dsimp only
    rw [hgo]
    cases videoConfigFromEncoderRequest model request (encoderRequestProfileToken request) with
    | none => exact Or.inl ⟨_, rfl⟩
    | some next => exact Or.inr ⟨next, rfl, rfl⟩

theorem trtSetVideoEncoderConfiguration_cases (ctx : Context)
    (request : Option TrtSetVideoEncoderConfiguration) :
    (∃ fault, trtSetVideoEncoderConfiguration ctx request = .fail fault) ∨
      trtSetVideoEncoderConfiguration ctx request =
        getThen (bytes "/profile") fun answer =>
          videoRest request ⟨[videoRead answer], ctx.config.rtspUri⟩ := by
  rcases (ends_authenticate ctx).bind_cases (fun _ =>
    mediaModelFromConfig ctx.config >>= videoRest request) with hfail | ⟨-, hgo⟩
  · exact Or.inl hfail
  · right
    refine Eq.trans hgo ?_
    rw [mediaModelFromConfig_eq]
    rfl

/-! ### Image settings -/

theorem setImagingSettings_eq (settings : ImageSettings) :
    (setImagingSettings settings >>= checkError) =
      postThen (bytes "/imaging") (imagingBody settings) fun answer =>
        checkError (setterError (bytes "rail-media imaging control is unavailable")
          (bytes "rail-media rejected imaging settings") answer) := rfl

theorem sends_setImagingSettings (hparse : Reads precision parse) {settings : ImageSettings}
    (h : settings.Sound) :
    Sends points parse (settings.update precision)
      (setImagingSettings settings >>= checkError) := by
  rw [setImagingSettings_eq]
  exact .post (fun _ _ _ _ => update_imagingRequest hparse h) fun _ => ends_checkError _

/-- The levels of a request. -/
structure ImagingInput (request : Option TimgSetImagingSettings) (input : ImagingSettings20) :
    Prop where
  given : request.bind TimgSetImagingSettings.imagingSettings = some input
  brightness : ∀ x ∈ input.brightness, IsLevel x
  contrast : ∀ x ∈ input.contrast, IsLevel x
  colorSaturation : ∀ x ∈ input.colorSaturation, IsLevel x

theorem timgSetImagingSettings_cases (ctx : Context) (request : Option TimgSetImagingSettings) :
    (∃ fault, timgSetImagingSettings precision ctx request = .fail fault) ∨
      ∃ input, ImagingInput request input ∧
        timgSetImagingSettings precision ctx request =
          getThen (bytes "/imaging") fun answer =>
            setImagingSettings (input.over (imagingRead precision answer)) >>= checkError := by
  unfold timgSetImagingSettings
  rcases (ends_authenticate ctx).bind_cases _ with hfail | ⟨-, hgo⟩
  · exact Or.inl hfail
  rw [hgo]
  cases request with
  | none => exact Or.inl ⟨_, rfl⟩
  | some request =>
    dsimp only
    rcases (ends_validateVideoSourceToken request.videoSourceToken).bind_cases _ with
      hfail | ⟨-, hgo⟩
    · exact Or.inl hfail
    rw [hgo]
    cases hinput : request.imagingSettings with
    | none => exact Or.inl ⟨_, rfl⟩
    | some input =>
      dsimp only
      rcases (ends_requireSetting input.brightness _).bind_cases _ with hfail | ⟨hbrightness, hgo⟩
      · exact Or.inl hfail
      rw [hgo]
      rcases (ends_requireSetting input.contrast _).bind_cases _ with hfail | ⟨hcontrast, hgo⟩
      · exact Or.inl hfail
      rw [hgo]
      rcases (ends_requireSetting input.colorSaturation _).bind_cases _ with
        hfail | ⟨hsaturation, hgo⟩
      · exact Or.inl hfail
      rw [hgo]
      split_ifs
      · exact Or.inl ⟨_, rfl⟩
      · refine Or.inr ⟨input, ⟨hinput, requireSetting_done hbrightness,
          requireSetting_done hcontrast, requireSetting_done hsaturation⟩, ?_⟩
        rw [imagingSettingsFromRail_eq]
        rfl

/-- Levels over levels are levels. -/
theorem over_sound {request : Option TimgSetImagingSettings} {input : ImagingSettings20}
    (hinput : ImagingInput request input) {settings : ImageSettings} (h : settings.Sound) :
    (input.over settings).Sound := by
  have hlevel : ∀ {given : Option Double} {x : Double}, (∀ y ∈ given, IsLevel y) → IsLevel x →
      IsLevel (given.getD x) := by
    intro given x hgiven hx
    cases given with
    | none => exact hx
    | some y => exact hgiven y rfl
  exact ⟨hlevel hinput.brightness h.brightness, hlevel hinput.contrast h.contrast,
    hlevel hinput.colorSaturation h.colorSaturation⟩

theorem over_update {request : Option TimgSetImagingSettings} {input : ImagingSettings20}
    (hinput : ImagingInput request input) (settings : ImageSettings) :
    (input.over settings).update precision =
      (printed precision (Change.imaging request).update).orElse (settings.update precision) := by
  unfold Change.update
  dsimp only
  rw [hinput.given]
  obtain ⟨brightness, contrast, saturation⟩ := input
  cases brightness <;> cases contrast <;> cases saturation <;> rfl

/-! ### The on-screen text -/

/-- rail-media refuses a POST of text that json-glib refuses. -/
theorem status_osdRequest_unparsed {settings : OsdSettings}
    (h : parseJsonObject parse (osdBody settings) = none) (s : MediaServer T) (uptime : ℤ) :
    (handleRequest points parse uptime (osdRequest settings) s).1.status = 400 := by
  have hroute : (osdRequest settings).route = .postOsd := rfl
  have hbody : (osdRequest settings).body = osdBody settings := rfl
  rw [handleRequest, hroute, hbody]
  dsimp only
  rw [osdFromJson, h]

theorem setOsdSettings_eq (settings : OsdSettings) :
    (setOsdSettings settings >>= checkError) =
      postThen (bytes "/osd") (osdBody settings) fun answer =>
        checkError (setterError (bytes "rail-media osd control is unavailable")
          (bytes "rail-media rejected osd settings") answer) := rfl

theorem sends_setOsdSettings (hparse : Reads precision parse) (settings : OsdSettings)
    (htext : 0 ∉ settings.text) :
    Sends points parse settings.update (setOsdSettings settings >>= checkError) := by
  rw [setOsdSettings_eq]
  refine .post (fun s uptime _ hstatus => ?_) fun _ => ends_checkError _
  rcases update_osdRequest hparse htext with hrefused | hupdate
  · have h400 : (400 : ℤ) = 200 := (status_osdRequest_unparsed hrefused s uptime).symm.trans hstatus
    exact absurd h400 (by decide)
  · exact hupdate

/-- `set_osd` reads the settings once more and then replaces all of them. -/
theorem setOsd_eq (enabled : Bool) (text : Bytes) : setOsd enabled text =
    getThen (bytes "/osd") fun _ => setOsdSettings ⟨enabled, text⟩ >>= checkError := by
  unfold setOsd
  rw [osdSettingsFromRail_eq]
  rfl

theorem trtDeleteOsd_cases (ctx : Context) (request : Option TrtDeleteOsd) :
    (∃ fault, trtDeleteOsd ctx request = .fail fault) ∨
      ∃ fault, trtDeleteOsd ctx request =
        getThen (bytes "/osd") fun answer =>
          if (osdRead answer).enabled then setOsd false (osdRead answer).text else .fail fault := by
  unfold trtDeleteOsd
  rcases (ends_authenticate ctx).bind_cases _ with hfail | ⟨-, hgo⟩
  · exact Or.inl hfail
  rw [hgo]
  cases request with
  | none => exact Or.inl ⟨_, rfl⟩
  | some request =>
    dsimp only
    rcases (ends_validateOsdToken request.osdToken).bind_cases _ with hfail | ⟨-, hgo⟩
    · exact Or.inl hfail
    rw [hgo, osdSettingsFromRail_eq]
    exact Or.inr ⟨_, rfl⟩

/-! ### Every change -/

variable (points) in
/-- A change asks once for the settings at its path, and sends what it read with the settings of its
request put in. -/
theorem service_reads (hparse : Reads precision parse) (ctx : Context) (change : Change) :
    Ends (change.service precision ctx) ∨
      ∃ k, change.service precision ctx = getThen change.path k ∧
        ∀ answer, change.Readable precision answer →
          Sends points parse (change.posted precision answer) (k answer) := by
  cases change with
  | video request =>
    rcases trtSetVideoEncoderConfiguration_cases ctx request with ⟨fault, hfail⟩ | hcall
    · exact Or.inl ⟨.error fault, hfail⟩
    · refine Or.inr ⟨_, hcall, fun answer hread => ?_⟩
      rcases videoRest_cases request ⟨[videoRead answer], ctx.config.rtspUri⟩ with
        ⟨fault, hfail⟩ | ⟨next, hnext, hsend⟩
      · exact hfail ▸ sends_fail fault
      · obtain ⟨hupdate, hsize, hfps⟩ := videoConfigFromEncoderRequest_some hnext
        have hposted : (Change.video request).posted precision answer = next.update :=
          hupdate.symm
        rw [hposted, hsend]
        exact sends_setVideoConfig hparse (candidate_sound hread hupdate hsize hfps)
  | imaging request =>
    rcases timgSetImagingSettings_cases ctx request with ⟨fault, hfail⟩ | ⟨input, hinput, hcall⟩
    · exact Or.inl ⟨.error fault, hfail⟩
    · refine Or.inr ⟨_, hcall, fun answer hread => ?_⟩
      rw [Change.posted, show (Change.imaging request).readBack precision answer =
        (imagingRead precision answer).update precision from rfl, ← over_update hinput]
      exact sends_setImagingSettings hparse (over_sound hinput hread)
  | deleteOsd request =>
    rcases trtDeleteOsd_cases ctx request with ⟨fault, hfail⟩ | ⟨fault, hcall⟩
    · exact Or.inl ⟨.error fault, hfail⟩
    · refine Or.inr ⟨_, hcall, fun answer hread => ?_⟩
      show Sends points parse _ (if (osdRead answer).enabled then _ else _)
      split_ifs
      · rw [setOsd_eq]
        exact .get fun _ => sends_setOsdSettings hparse ⟨false, (osdRead answer).text⟩ hread
      · exact sends_fail fault

/-! ### Answers of rail-media -/

/-- The document at the path of a change. -/
def Change.document (config : Rail.Config) : Change → Bytes
  | .video _ => profileJson config
  | .imaging _ => imagingJson config
  | .deleteOsd _ => osdJson config

/-- rail-media's answer to the first GET of a change. -/
def Change.answer (change : Change) (config : Rail.Config) : Option RailHttpResponse :=
  some ⟨200, change.document config⟩

theorem handleRequest_get (change : Change) (uptime : ℤ) (s : MediaServer T) :
    handleRequest points parse uptime ⟨bytes "GET", change.path, []⟩ s =
      (⟨200, change.document s.current⟩, s) := by
  cases change <;> rfl

variable (points parse) in
/-- A GET changes nothing. -/
theorem handleRequest_get_snd (uptime : ℤ) (path body : Bytes) (s : MediaServer T) :
    (handleRequest points parse uptime ⟨bytes "GET", path, body⟩ s).2 = s := by
  have hpost : bytes "GET" ≠ bytes "POST" := by decide
  have hroute : (⟨bytes "GET", path, body⟩ : Request).route ∈
      [Route.getHealth, .getProfiles, .getPresets, .getProfile, .getImaging, .getOsd,
        .notFound] := by
    unfold Request.route
    rw [if_pos rfl]
    split_ifs <;> decide
  unfold handleRequest
  simp only [List.mem_cons, List.not_mem_nil, or_false] at hroute
  rcases hroute with h | h | h | h | h | h | h <;> rw [h]

/-- The configuration with its image settings printed and read. -/
def rounded (precision : Precision) (config : Rail.Config) : Rail.Config :=
  { config with
    brightness := precision.reread config.brightness
    contrast := precision.reread config.contrast
    colorSaturation := precision.reread config.colorSaturation }

/-- The built-in settings the client goes on with when it reads none. -/
def Change.fallback : Change → Update
  | .video _ => { width := some 1280, height := some 720, fps := some 30, bitrateKbps := some 2500 }
  | .imaging _ =>
    { brightness := some (.finite 50), contrast := some (.finite 50),
      colorSaturation := some (.finite 50) }
  | .deleteOsd _ => { osdEnabled := some true, osdText := some (bytes "Afterveda") }

theorem videoRead_answer {config : Rail.Config} (h : Stored config) :
    videoRead (some ⟨200, profileJson config⟩) = profileOf config :=
  read_profileJson h rfl rfl

theorem imagingRead_answer {config : Rail.Config} (h : Stored config) :
    imagingRead precision (some ⟨200, imagingJson config⟩) = imagingOf precision config :=
  read_imagingJson h {}

theorem osdRead_answer (config : Rail.Config) :
    osdRead (some ⟨200, osdJson config⟩) = osdOf config :=
  read_osdJson config {}

theorem readable_answer {config : Rail.Config} (h : Stored config) (change : Change) :
    change.Readable precision (change.answer config) := by
  cases change with
  | video request =>
    rw [Change.Readable, Change.answer, Change.document, videoRead_answer h]
    exact profileOf_sound h
  | imaging request =>
    rw [Change.Readable, Change.answer, Change.document, imagingRead_answer h]
    exact imagingOf_sound h
  | deleteOsd request =>
    rw [Change.Readable, Change.answer, Change.document, osdRead_answer]
    exact h.osdText.1

/-- A GET that is answered gives the settings of rail-media, printed. -/
theorem given_readBack_answer {config : Rail.Config} (h : Stored config) (change : Change)
    (x : Setting) : x.given (change.readBack precision (change.answer config)) =
      (x.given change.fallback).map fun _ => x.get (rounded precision config) := by
  cases change with
  | video request =>
    rw [Change.readBack, Change.answer, Change.document, videoRead_answer h]
    cases x <;> rfl
  | imaging request =>
    have htwice : (imagingOf precision config).update precision = (⟨config.brightness,
        config.contrast, config.colorSaturation⟩ : ImageSettings).update precision := by
      simp only [imagingOf, ImageSettings.update, reread_reread]
    rw [Change.readBack, Change.answer, Change.document, imagingRead_answer h, htwice]
    cases x <;> rfl
  | deleteOsd request =>
    have htext : (osdOf config).update =
        { osdEnabled := some config.osdEnabled, osdText := some config.osdText } := by
      rw [OsdSettings.update, osdOf, cString_of_notMem h.osdText.1]
    rw [Change.readBack, Change.answer, Change.document, osdRead_answer, htext]
    cases x <;> rfl

/-- A GET that fails gives the built-in settings. -/
theorem readBack_failed {answer : Option RailHttpResponse} (h : bodyOf answer = none)
    (change : Change) :
    change.readBack precision answer = change.fallback ∧ change.Readable precision answer := by
  have hlevel : IsLevel (.finite 50) := ⟨50, rfl, by norm_num, by norm_num⟩
  cases change with
  | video request =>
    have hread : videoRead answer = { token := bytes "main", name := bytes "main" } := by
      rw [videoRead, h]
    refine ⟨by rw [Change.readBack, hread]; rfl, ?_⟩
    rw [Change.Readable, hread]
    constructor <;> decide
  | imaging request =>
    have hread : imagingRead precision answer = {} := by
      rw [imagingRead, h]
    have hfifty : precision.reread (.finite 50) = .finite 50 := by
      cases precision <;> decide +kernel
    refine ⟨?_, ?_⟩
    · rw [Change.readBack, hread, Change.fallback, ImageSettings.update, hfifty]
    · rw [Change.Readable, hread]
      exact ⟨hlevel, hlevel, hlevel⟩
  | deleteOsd request =>
    have hread : osdRead answer = {} := by
      rw [osdRead, h]
    have htext : cString (bytes "Afterveda") = bytes "Afterveda" := by decide
    refine ⟨?_, ?_⟩
    · rw [Change.readBack, hread, OsdSettings.update, htext]
      rfl
    · rw [Change.Readable, hread]
      decide

end Afterveda.Onvif
