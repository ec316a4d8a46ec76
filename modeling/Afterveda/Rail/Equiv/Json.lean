import Afterveda.Lib.Json
import Afterveda.Rail.Equiv.Settings

/-!
# The documents of rail-media as JSON

The documents that `control_server.cpp` and `media_server.cpp` assemble are flat objects in one of
two layouts (`errorJson_eq`, `profileJson_eq`, `osdJson_eq`, `healthResponse_body`).  `/health`
writes its status without escaping it; `shown_of_reaches` says that it is always one of a few names.

`answer_of_handleRequest` lists which document answers which request.
-/

namespace Afterveda.Rail

open CText CNumber Json Calendar
open JsonGlib (Parser)

variable {T : Type} {points : MountPoints T} {parse : Parser}

/-! ### Layouts -/

/-- A line for each member. -/
def linesLayout : Layout where
  margin := bytes "\n  "
  gap := bytes " "
  last := bytes "\n"
  after := bytes "\n"
  margin_space := by decide
  gap_space := by decide
  last_space := by decide
  after_space := by decide

/-- One line. -/
def lineLayout : Layout where
  margin := []
  gap := []
  last := []
  after := bytes "\n"
  margin_space := space_nil
  gap_space := space_nil
  last_space := space_nil
  after_space := by decide

def errorMembers (message : Bytes) : List (Bytes × Scalar) := [(bytes "error", .string message)]

def profileMembers (config : Config) : List (Bytes × Scalar) :=
  [(bytes "profile", .string config.profile), (bytes "width", .int config.width),
    (bytes "height", .int config.height), (bytes "fps", .int config.fps),
    (bytes "bitrate_kbps", .int config.bitrateKbps), (bytes "encoder", .string config.encoder)]

theorem errorJson_eq (message : Bytes) :
    errorJson message = lineLayout.print (errorMembers message) := by
  simp only [errorJson, Layout.print, Layout.members, Layout.member, errorMembers,
    Scalar.text_string, quoted, List.append_assoc, List.cons_append]
  rfl

theorem profileJson_eq (config : Config) :
    profileJson config = linesLayout.print (profileMembers config) := by
  simp only [Layout.print, Layout.members, Layout.member, profileMembers, Scalar.text_string,
    Scalar.text_int, quoted,
    List.append_assoc, List.cons_append]
  rfl

theorem osdJson_eq (config : Config) : osdJson config =
    linesLayout.print (osdMembers .boolean .string config.osdEnabled config.osdText) := by
  simp only [Layout.print, Layout.members, Layout.member, osdMembers, Scalar.text_string,
    Scalar.text_boolean, quoted,
    List.append_assoc, List.cons_append]
  rfl

/-! ### Health -/

/-- The status at the top of `/health`. -/
def HealthStatus.overall (health : HealthStatus) : Bytes :=
  if !health.rtspServerReady || health.pipelineStatus = bytes "error" then bytes "error"
  else if health.pipelineStatus = bytes "ready" then bytes "ok"
  else health.pipelineStatus

/-- A text, or `null` for an empty one. -/
def nullable (value : Bytes) : Scalar := if value = [] then .null else .string value

def healthMembers (health : HealthStatus) (config : Config) : List (Bytes × Scalar) :=
  [(bytes "status", .string health.overall),
    (bytes "rtsp_server",
      .string (if health.rtspServerReady then bytes "ready" else bytes "error")),
    (bytes "pipeline", .string health.pipelineStatus),
    (bytes "camera", .string health.cameraStatus), (bytes "profile", .string config.profile),
    (bytes "resolution",
      .string (toDecimal config.width ++ (bytes "x" ++ toDecimal config.height))),
    (bytes "fps", .int config.fps), (bytes "bitrate_kbps", .int config.bitrateKbps),
    (bytes "rtsp_clients", .int health.rtspClients.toNat),
    (bytes "uptime_seconds", .int health.uptimeSeconds),
    (bytes "started_at", .string health.startedAt),
    (bytes "last_pipeline_ready_at", nullable health.lastPipelineReadyAt),
    (bytes "last_error", nullable health.lastError)]

theorem nullable_text (value : Bytes) : (nullable value).text = nullableJson value := by
  unfold nullable nullableJson
  split_ifs
  · rfl
  · rw [Scalar.text_string, quoted, List.append_assoc]
    rfl

set_option maxRecDepth 4096 in
/-- The document of `/health`, where the status needs no escape. -/
theorem healthResponse_body {health : HealthStatus} (hstatus : Printable health.overall)
    (config : Config) :
    (healthResponse health config).body = linesLayout.print (healthMembers health config) := by
  have hserver : Printable (if health.rtspServerReady then bytes "ready" else bytes "error") := by
    split_ifs <;> decide
  have hx : Printable (bytes "x") := by decide
  have hresolution := (printable_toDecimal config.width).append
    (hx.append (printable_toDecimal config.height))
  simp only [Layout.print, Layout.members, Layout.member, healthMembers, Scalar.text_string,
    Scalar.text_int, nullable_text, quoted, hstatus.backslashEscape, hserver.backslashEscape,
    hresolution.backslashEscape, healthResponse, List.append_assoc, List.cons_append]
  rfl

/-- The names a pipeline and a camera are reported under need no escape. -/
structure Shown (s : MediaServer T) : Prop where
  pipeline : Printable s.pipelineStatus
  camera : Printable s.cameraStatus

theorem shown_updatePipelineStatus {pipelineStatus cameraStatus : Bytes}
    (hpipeline : Printable pipelineStatus) (hcamera : Printable cameraStatus) (s : MediaServer T) :
    Shown (updatePipelineStatus pipelineStatus cameraStatus s) :=
  ⟨hpipeline, hcamera⟩

theorem shown_installFactory (config : Config) (s : MediaServer T) :
    Shown (installFactory points config s) where
  pipeline := show Printable (bytes "idle") by decide
  camera := show Printable (bytes "not_checked") by decide

theorem shown_commit (next : Config) (s : MediaServer T) : Shown (commit points next s) := by
  obtain ⟨hpipeline, hcamera⟩ : Shown (installFactory points next s) := shown_installFactory next s
  exact ⟨hpipeline, hcamera⟩

theorem printable_pipelineStatusName (status : MediaStatus) :
    Printable (pipelineStatusName status) := by
  cases status <;> decide

theorem Shown.onCallback {s : MediaServer T} (h : Shown s) (callback : Callback) :
    Shown (onCallback callback s) := by
  cases callback with
  | mediaConfigure => exact shown_updatePipelineStatus (by decide) (by decide) s
  | mediaPrepared now =>
    exact ⟨show Printable (bytes "ready") by decide, show Printable (bytes "ok") by decide⟩
  | mediaUnprepared status =>
    dsimp only [Rail.onCallback]
    unfold onMediaUnprepared
    split_ifs
    · exact shown_updatePipelineStatus (by decide) (by decide) s
    · exact h
    · exact shown_updatePipelineStatus (printable_pipelineStatusName status) (by decide) s
  | mediaNewState status =>
    dsimp only [Rail.onCallback]
    unfold onMediaNewState
    split_ifs
    · exact shown_updatePipelineStatus (by decide) (by decide) s
    · exact h
  | busMessage message =>
    exact ⟨show Printable (bytes "error") by decide, show Printable (bytes "error") by decide⟩
  | clientConnected => exact ⟨h.pipeline, h.camera⟩
  | clientClosed =>
    dsimp only [Rail.onCallback]
    unfold onClientClosed
    split_ifs
    · exact ⟨h.pipeline, h.camera⟩
    · exact h

theorem shown_step {s t : MediaServer T} {e : Event} (hs : Shown s)
    (hprofile : s.current.profile = bytes "main") (h : step points parse s e = some t) :
    Shown t := by
  obtain ⟨callback, rfl, rfl⟩ | ⟨uptime, request, rfl, rfl⟩ := step_cases h
  · exact hs.onCallback callback
  · rcases handleRequest_spec uptime request hprofile with
      ⟨-, -, hstate⟩ | ⟨-, hstate⟩ | ⟨-, -, hstate⟩
    · rwa [hstate]
    · rwa [hstate]
    · rw [hstate]
      exact shown_commit _ s

theorem shown_of_reaches {config : Config} {es : List Event} {s : MediaServer T}
    (h : (machine points parse config).Reaches Machine.anyStep es s) : Shown s := by
  induction h with
  | start hs =>
    obtain ⟨now, rfl⟩ := hs
    exact shown_installFactory _ _
  | next h _ hstep ih => exact shown_step ih (reaches_profile h) hstep

theorem printable_utcTimestamp (value : ℤ) : Printable (utcTimestamp value) := by
  have htwo : ∀ n : ℤ, Printable (twoDigits n) := by
    intro n
    unfold twoDigits
    split_ifs
    · have hzero : Printable [48] := by decide
      exact hzero.append (printable_toDecimal n)
    · exact printable_toDecimal n
  unfold utcTimestamp
  split_ifs
  · decide
  · unfold formatUtc
    refine Printable.append (Printable.append (Printable.append (Printable.append (Printable.append
      (Printable.append (Printable.append (Printable.append (Printable.append (Printable.append
        (Printable.append ?_ ?_) ?_) ?_) ?_) ?_) ?_) ?_) ?_) ?_) ?_) ?_
    · exact printable_toDecimal _
    · decide
    · exact htwo _
    · decide
    · exact htwo _
    · decide
    · exact htwo _
    · decide
    · exact htwo _
    · decide
    · exact htwo _
    · decide

theorem Shown.overall {s : MediaServer T} (h : Shown s) (uptime : ℤ) :
    Printable (s.healthStatus uptime).overall := by
  unfold HealthStatus.overall
  split_ifs
  · decide
  · decide
  · exact h.pipeline

/-! ### The documents -/

/-- A document rail-media assembles; `/health` is that of a server that has run. -/
inductive Document (points : MountPoints T) (parse : Parser)
  | error (message : Bytes)
  | profile (config : Config)
  | osd (config : Config)
  | health {config : Config} {es : List Event} {s : MediaServer T}
      (h : (machine points parse config).Reaches Machine.anyStep es s) (uptime : ℤ)

namespace Document

def text : Document points parse → Bytes
  | .error message => errorJson message
  | .profile config => profileJson config
  | .osd config => osdJson config
  | .health (s := s) _ uptime => (healthResponse (s.healthStatus uptime) s.current).body

/-- What the document is to denote. -/
def value : Document points parse → Value
  | .error message => objectOf (errorMembers message)
  | .profile config => objectOf (profileMembers config)
  | .osd config => objectOf (osdMembers .boolean .string config.osdEnabled config.osdText)
  | .health (s := s) _ uptime => objectOf (healthMembers (s.healthStatus uptime) s.current)

/-- The strings it is given. -/
def strings : Document points parse → List Bytes
  | .error message => [message]
  | .profile config => [config.profile, config.encoder]
  | .osd config => [config.osdText]
  | .health (s := s) _ _ => [s.lastError]

end Document

theorem mem_strings_nullable {value v : Bytes} :
    v ∈ (nullable value).strings ↔ value ≠ [] ∧ v = value := by
  unfold nullable
  split_ifs with hvalue
  · simp [Scalar.strings, hvalue]
  · simp [Scalar.strings, hvalue]

/-- Every string of `/health` but the last error is printable. -/
theorem printable_or_lastError {config : Config} {es : List Event} {s : MediaServer T}
    (h : (machine points parse config).Reaches Machine.anyStep es s) (uptime : ℤ) :
    ∀ v ∈ stringsOf (healthMembers (s.healthStatus uptime) s.current),
      Printable v ∨ v = s.lastError := by
  have hshown := shown_of_reaches h
  have hready : Printable (bytes "ready") := by decide
  have hprofile : Printable s.current.profile := by rw [reaches_profile h]; decide
  have hx : Printable (bytes "x") := by decide
  have hresolution := (printable_toDecimal s.current.width).append
    (hx.append (printable_toDecimal s.current.height))
  unfold stringsOf
  rw [List.forall_mem_flatMap]
  intro m hm v hv
  simp only [healthMembers, List.mem_cons, List.not_mem_nil, or_false] at hm
  rcases hm with rfl | rfl | rfl | rfl | rfl | rfl | rfl | rfl | rfl | rfl | rfl | rfl | rfl
  · exact Or.inl (List.mem_singleton.mp hv ▸ hshown.overall uptime)
  · exact Or.inl (List.mem_singleton.mp hv ▸ hready)
  · exact Or.inl (List.mem_singleton.mp hv ▸ hshown.pipeline)
  · exact Or.inl (List.mem_singleton.mp hv ▸ hshown.camera)
  · exact Or.inl (List.mem_singleton.mp hv ▸ hprofile)
  · exact Or.inl (List.mem_singleton.mp hv ▸ hresolution)
  · cases hv
  · cases hv
  · cases hv
  · cases hv
  · exact Or.inl (List.mem_singleton.mp hv ▸ printable_utcTimestamp _)
  · exact Or.inl ((mem_strings_nullable.mp hv).2 ▸ printable_utcTimestamp _)
  · exact Or.inr (mem_strings_nullable.mp hv).2

theorem lastError_mem_stringsOf (s : MediaServer T) (uptime : ℤ) (hne : s.lastError ≠ []) :
    s.lastError ∈ stringsOf (healthMembers (s.healthStatus uptime) s.current) := by
  refine List.mem_flatMap.mpr ⟨(bytes "last_error", nullable s.lastError), ?_, ?_⟩
  · simp [healthMembers, MediaServer.healthStatus]
  · exact mem_strings_nullable.mpr ⟨hne, rfl⟩

/-- `/health` denotes its members exactly when the last error has no control character. -/
theorem isText_healthResponse_iff {config : Config} {es : List Event} {s : MediaServer T}
    (h : (machine points parse config).Reaches Machine.anyStep es s) (uptime : ℤ)
    (hutf8 : Utf8 s.lastError) :
    IsText (healthResponse (s.healthStatus uptime) s.current).body
      (objectOf (healthMembers (s.healthStatus uptime) s.current)) ↔ NoControl s.lastError := by
  have hstrings := printable_or_lastError h uptime
  have hnames : PlainNames (healthMembers (s.healthStatus uptime) s.current) := by
    show ∀ name ∈ [bytes "status", bytes "rtsp_server", bytes "pipeline", bytes "camera",
      bytes "profile", bytes "resolution", bytes "fps", bytes "bitrate_kbps", bytes "rtsp_clients",
      bytes "uptime_seconds", bytes "started_at", bytes "last_pipeline_ready_at",
      bytes "last_error"], Printable name
    decide
  have hall : ∀ v ∈ stringsOf (healthMembers (s.healthStatus uptime) s.current), Utf8 v := by
    intro v hv
    rcases hstrings v hv with hprintable | rfl
    · exact hprintable.utf8
    · exact hutf8
  have hne : healthMembers (s.healthStatus uptime) s.current ≠ [] := List.cons_ne_nil _ _
  rw [healthResponse_body ((shown_of_reaches h).overall uptime),
    linesLayout.isText_print_iff hne hnames hall]
  constructor
  · intro hcontrol
    by_cases hnone : s.lastError = []
    · rw [hnone]
      exact List.forall_mem_nil _
    · exact hcontrol _ (lastError_mem_stringsOf s uptime hnone)
  · intro hcontrol v hv
    rcases hstrings v hv with hprintable | rfl
    · exact hprintable.noControl
    · exact hcontrol

/-- A document denotes what it is given exactly when that has no control character. -/
theorem Document.isText_iff (d : Document points parse) (hutf8 : ∀ v ∈ d.strings, Utf8 v) :
    IsText d.text d.value ↔ ∀ v ∈ d.strings, NoControl v := by
  cases d with
  | error message =>
    have hnames : PlainNames (errorMembers message) := by
      show ∀ name ∈ [bytes "error"], Printable name
      decide
    show IsText (errorJson message) _ ↔ _
    rw [errorJson_eq]
    exact lineLayout.isText_print_iff (List.cons_ne_nil _ _) hnames hutf8
  | profile config =>
    have hnames : PlainNames (profileMembers config) := by
      show ∀ name ∈ [bytes "profile", bytes "width", bytes "height", bytes "fps",
        bytes "bitrate_kbps", bytes "encoder"], Printable name
      decide
    show IsText (profileJson config) _ ↔ _
    rw [profileJson_eq]
    exact linesLayout.isText_print_iff (List.cons_ne_nil _ _) hnames hutf8
  | osd config =>
    have hnames : PlainNames (osdMembers .boolean .string config.osdEnabled config.osdText) := by
      show ∀ name ∈ [bytes "enabled", bytes "text"], Printable name
      decide
    show IsText (osdJson config) _ ↔ _
    rw [osdJson_eq]
    exact linesLayout.isText_print_iff (List.cons_ne_nil _ _) hnames hutf8
  | health h uptime =>
    have hiff := isText_healthResponse_iff h uptime (hutf8 _ (List.mem_singleton_self _))
    exact hiff.trans List.forall_mem_singleton.symm

/-! ### Which document answers which request -/

/-- Every error is an error document. -/
def ErrorsPrinted {α : Type} (x : Except Bytes α) : Prop :=
  ∀ e, x = .error e → ∃ message, e = errorJson message

theorem ErrorsPrinted.bind {α β : Type} {x : Except Bytes α} {f : α → Except Bytes β}
    (hx : ErrorsPrinted x) (hf : ∀ a, ErrorsPrinted (f a)) : ErrorsPrinted (x >>= f) := by
  intro e he
  cases x with
  | error e' =>
    obtain rfl := Except.error.inj he
    exact hx e' rfl
  | ok a => exact hf a e he

theorem errorsPrinted_ok {α : Type} (a : α) : ErrorsPrinted (.ok a) := by
  intro e he
  cases he

theorem errorsPrinted_literal {α : Type} {body : Bytes} (message : Bytes)
    (hbody : body = errorJson message) : ErrorsPrinted (.error body : Except Bytes α) := by
  intro e he
  obtain rfl := Except.error.inj he
  exact ⟨message, hbody⟩

theorem errorsPrinted_checkMember {α : Type} {name : Bytes} (hname : Printable name)
    (member : Member α) : ErrorsPrinted (checkMember name member) := by
  have hinvalid : Printable (bytes "invalid ") := by decide
  cases member with
  | error u =>
    refine errorsPrinted_literal (bytes "invalid " ++ name) ?_
    rw [errorJson, jsonEscape, (hinvalid.append hname).backslashEscape]
    simp only [List.append_assoc]
    rfl
  | ok value => exact errorsPrinted_ok value

theorem errorsPrinted_videoConfigFromJson (body : Bytes) (current : Config) :
    ErrorsPrinted (videoConfigFromJson parse body current) := by
  unfold videoConfigFromJson
  cases parseJsonObject parse body with
  | none => exact errorsPrinted_literal (bytes "bad video config json") (by decide)
  | some object =>
    refine (errorsPrinted_checkMember (by decide) _).bind fun width => ?_
    refine (errorsPrinted_checkMember (by decide) _).bind fun height => ?_
    refine (errorsPrinted_checkMember (by decide) _).bind fun fps => ?_
    refine (errorsPrinted_checkMember (by decide) _).bind fun bitrate => ?_
    split_ifs
    · exact errorsPrinted_literal (bytes "no video config values") (by decide)
    · exact errorsPrinted_ok _

theorem errorsPrinted_imagingFromJson (body : Bytes) (current : Config) :
    ErrorsPrinted (imagingFromJson parse body current) := by
  unfold imagingFromJson
  cases parseJsonObject parse body with
  | none => exact errorsPrinted_literal (bytes "bad imaging json") (by decide)
  | some object =>
    refine (errorsPrinted_checkMember (by decide) _).bind fun brightness => ?_
    refine (errorsPrinted_checkMember (by decide) _).bind fun contrast => ?_
    refine (errorsPrinted_checkMember (by decide) _).bind fun saturation => ?_
    split_ifs
    · exact errorsPrinted_literal (bytes "no imaging values") (by decide)
    · exact errorsPrinted_ok _

theorem errorsPrinted_osdFromJson (body : Bytes) (current : Config) :
    ErrorsPrinted (osdFromJson parse body current) := by
  unfold osdFromJson
  cases parseJsonObject parse body with
  | none => exact errorsPrinted_literal (bytes "bad osd json") (by decide)
  | some object =>
    refine (errorsPrinted_checkMember (by decide) _).bind fun enabled => ?_
    refine (errorsPrinted_checkMember (by decide) _).bind fun text => ?_
    split_ifs
    · exact errorsPrinted_literal (bytes "no osd values") (by decide)
    · exact errorsPrinted_ok _

/-- Every answer is a document, but the lists of profiles and presets and the image settings. -/
theorem answer_of_handleRequest {config : Config} {es : List Event} {s : MediaServer T}
    (h : (machine points parse config).Reaches Machine.anyStep es s) (uptime : ℤ)
    (request : Request) :
    request.route ∈ [.getProfiles, .getPresets, .getImaging] ∨
      (request.route = .postImaging ∧
        (handleRequest points parse uptime request s).1.status = 200) ∨
      ∃ d : Document points parse,
        (handleRequest points parse uptime request s).1.body = d.text := by
  unfold handleRequest
  cases request.route with
  | getProfiles | getPresets | getImaging => exact Or.inl (by decide)
  | getHealth => exact Or.inr (Or.inr ⟨.health h uptime, rfl⟩)
  | getProfile => exact Or.inr (Or.inr ⟨.profile s.current, rfl⟩)
  | getOsd => exact Or.inr (Or.inr ⟨.osd s.current, rfl⟩)
  | postConfig =>
    refine Or.inr (Or.inr ?_)
    dsimp only
    cases hnext : videoConfigFromJson parse request.body s.current with
    | error e =>
      obtain ⟨message, rfl⟩ := errorsPrinted_videoConfigFromJson _ _ e hnext
      exact ⟨.error message, rfl⟩
    | ok next =>
      dsimp only [respond]
      unfold setVideoConfigNow
      split_ifs
      · exact ⟨.error _, rfl⟩
      · exact ⟨.error _, rfl⟩
      · exact ⟨.error _, rfl⟩
      · exact ⟨.profile next, rfl⟩
  | postPreset name =>
    refine Or.inr (Or.inr ?_)
    dsimp only [respond]
    unfold switchProfileNow
    cases findProfile name with
    | none => exact ⟨.error _, rfl⟩
    | some profile => exact ⟨.profile _, rfl⟩
  | postImaging =>
    dsimp only
    cases hnext : imagingFromJson parse request.body s.current with
    | error e =>
      obtain ⟨message, rfl⟩ := errorsPrinted_imagingFromJson _ _ e hnext
      exact Or.inr (Or.inr ⟨.error message, rfl⟩)
    | ok next => exact Or.inr (Or.inl ⟨rfl, rfl⟩)
  | postOsd =>
    refine Or.inr (Or.inr ?_)
    dsimp only
    cases hnext : osdFromJson parse request.body s.current with
    | error e =>
      obtain ⟨message, rfl⟩ := errorsPrinted_osdFromJson _ _ e hnext
      exact ⟨.error message, rfl⟩
    | ok next =>
      dsimp only [respond]
      unfold setOsdNow
      split_ifs
      · exact ⟨.error _, rfl⟩
      · exact ⟨.osd _, rfl⟩
  | notFound =>
    have hbody : bytes "\x7b\"error\":\"not found\"\x7d\n" = errorJson (bytes "not found") := by
      decide
    exact Or.inr (Or.inr ⟨.error (bytes "not found"), hbody⟩)

end Afterveda.Rail
