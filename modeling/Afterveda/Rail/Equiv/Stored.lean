import Afterveda.Rail.Equiv.Mounts

/-!
# What rail-media stores

The values a configuration of rail-media can hold, from any accepted command line and after any
requests (`stored_of_reaches`): integers are C integers, the three image settings lie between 0
and 100, the OSD text is a C string of at most 128 bytes.  `stored_handleRequest` is the step.
-/

namespace Afterveda.Rail

open CText CNumber JsonGlib

variable {T : Type} {points : MountPoints T} {parse : Parser}

/-- A value of an image setting. -/
def IsLevel (x : Double) : Prop := ∃ q : ℚ, x = .finite q ∧ 0 ≤ q ∧ q ≤ 100

/-- The values rail-media stores. -/
structure Stored (config : Config) : Prop where
  profile : config.profile = bytes "main"
  encoder : config.encoder = bytes "v4l2" ∨ config.encoder = bytes "x264"
  width : IsInt32 config.width
  height : IsInt32 config.height
  fps : IsInt32 config.fps
  bitrateKbps : IsInt32 config.bitrateKbps
  brightness : IsLevel config.brightness
  contrast : IsLevel config.contrast
  colorSaturation : IsLevel config.colorSaturation
  osdText : 0 ∉ config.osdText ∧ config.osdText.length ≤ 128

theorem stored_start {config : Config} (h : Accepted config) (now : ℤ) :
    Stored (MediaServer.start points config now).current := by
  have hlevel : IsLevel (.finite 50) := ⟨50, rfl, by norm_num, by norm_num⟩
  rw [start_current]
  exact {
    profile := rfl
    encoder := h.encoder
    width := h.width
    height := h.height
    fps := h.fps
    bitrateKbps := h.bitrateKbps
    brightness := h.brightness ▸ hlevel
    contrast := h.contrast ▸ hlevel
    colorSaturation := h.colorSaturation ▸ hlevel
    osdText := h.osdText }

/-! ### Values of requests -/

theorem isLevel_of_doubleValue {node : JsonNode} {x : Double} (h : doubleValue node = some x) :
    IsLevel x := by
  unfold doubleValue at h
  split at h
  · rename_i parsed _
    split_ifs at h with hrange
    obtain rfl := Option.some.inj h
    rw [not_or, not_lt, not_lt] at hrange
    exact ⟨parsed, rfl, hrange.1, hrange.2⟩
  · cases h

/-- A value that a reader of a member returns is one that the value's reader returned. -/
theorem readJson_mem {α : Type} {value : JsonNode → Option α} {members : List (Bytes × JsonNode)}
    {key : Bytes} {y : α} (h : readJson value members key = .ok (some y)) :
    ∃ node, value node = some y := by
  unfold readJson at h
  cases hget : getMember members key with
  | none =>
    rw [hget] at h
    cases h
  | some node =>
    rw [hget] at h
    dsimp only at h
    cases hvalue : value node with
    | none =>
      rw [hvalue] at h
      cases h
    | some x =>
      rw [hvalue] at h
      obtain rfl := Option.some.inj (Except.ok.inj h)
      exact ⟨node, hvalue⟩

/-- What stands for a level: the one that a request gives, or else the stored one. -/
theorem isLevel_getD {members : List (Bytes × JsonNode)} {key : Bytes} {given : Option Double}
    (h : readJsonDouble members key = .ok given) (x : Double) :
    IsLevel (given.getD x) ∨ given.getD x = x := by
  cases given with
  | none => exact Or.inr rfl
  | some y =>
    obtain ⟨node, hnode⟩ := readJson_mem h
    exact Or.inl (isLevel_of_doubleValue hnode)

/-- The levels of a body are levels, where they are not those of the current configuration. -/
theorem imagingFromJson_levels {body : Bytes} {current next : Config}
    (h : imagingFromJson parse body current = .ok next) :
    (IsLevel next.brightness ∨ next.brightness = current.brightness) ∧
      (IsLevel next.contrast ∨ next.contrast = current.contrast) ∧
      (IsLevel next.colorSaturation ∨ next.colorSaturation = current.colorSaturation) := by
  obtain ⟨members, brightness, contrast, saturation, -, hbrightness, hcontrast, hsaturation, rfl⟩ :=
    imagingFromJson_members h
  exact ⟨isLevel_getD hbrightness _, isLevel_getD hcontrast _, isLevel_getD hsaturation _⟩

/-- What the dynamic check lets through. -/
theorem supportedDynamicVideoConfig_iff {config : Config} :
    supportedDynamicVideoConfig config = true ↔
      (config.width = 640 ∧ config.height = 360 ∨ config.width = 1280 ∧ config.height = 720 ∨
        config.width = 1920 ∧ config.height = 1080) ∧
      config.fps = 30 ∧ 800 ≤ config.bitrateKbps ∧ config.bitrateKbps ≤ 5000 := by
  unfold supportedDynamicVideoConfig
  simp only [decide_eq_true_eq]

/-- With a known encoder the dynamic check decides. -/
theorem setVideoConfigNow_iff {next : Config} {s : MediaServer T}
    (hencoder : next.encoder = bytes "v4l2" ∨ next.encoder = bytes "x264") :
    (setVideoConfigNow points next s).1.1 = true ↔ supportedDynamicVideoConfig next = true := by
  unfold setVideoConfigNow
  split_ifs with hpositive hunsupported hknown
  · -- what the dynamic check lets through is positive
    refine ⟨False.elim, fun h => ?_⟩
    have hrange := supportedDynamicVideoConfig_iff.mp h
    omega
  · simp [hunsupported]
  · rcases hencoder with h | h
    · exact absurd h hknown.1
    · exact absurd h hknown.2
  · exact ⟨fun _ => Bool.of_not_eq_false hunsupported, fun _ => rfl⟩

/-- The answer made of an operation's result is a success exactly when the operation succeeded. -/
theorem respond_status {S : Type} {failure : ℤ} (hfailure : failure ≠ 200)
    (result : (Bool × Bytes) × S) :
    (respond failure result).1.status = 200 ↔ result.1.1 = true := by
  cases hok : result.1.1 with
  | true => simp [respond, hok]
  | false => simp [respond, hok, hfailure]

/-! ### Requests -/

/-- The statuses rail-media answers with. -/
def kStatuses : List ℤ := [200, 400, 404, 500, 503]

theorem respond_status_mem {S : Type} {failure : ℤ} (hfailure : failure ∈ kStatuses)
    (result : (Bool × Bytes) × S) : (respond failure result).1.status ∈ kStatuses := by
  unfold respond
  split_ifs
  · show (200 : ℤ) ∈ kStatuses
    decide
  · exact hfailure

variable (points parse) in
theorem handleRequest_status (uptime : ℤ) (request : Request) (s : MediaServer T) :
    (handleRequest points parse uptime request s).1.status ∈ kStatuses := by
  have hok : (200 : ℤ) ∈ kStatuses := by decide
  have hbad : (400 : ℤ) ∈ kStatuses := by decide
  have hmissing : (404 : ℤ) ∈ kStatuses := by decide
  have hfailed : (500 : ℤ) ∈ kStatuses := by decide
  unfold handleRequest
  cases request.route with
  | getHealth =>
    dsimp only [healthResponse]
    split_ifs <;> decide
  | getProfiles | getPresets | getProfile | getImaging | getOsd => exact hok
  | postConfig =>
    dsimp only
    cases videoConfigFromJson parse request.body s.current with
    | error e => exact hbad
    | ok next => exact respond_status_mem hfailed _
  | postPreset name => exact respond_status_mem hmissing _
  | postImaging =>
    dsimp only
    cases imagingFromJson parse request.body s.current with
    | error e => exact hbad
    | ok next => exact respond_status_mem hfailed _
  | postOsd =>
    dsimp only
    cases osdFromJson parse request.body s.current with
    | error e => exact hbad
    | ok next => exact respond_status_mem hfailed _
  | notFound => exact hmissing

variable (points parse) in
/-- Among them only 200 is a success. -/
theorem handleRequest_ok_iff (uptime : ℤ) (request : Request) (s : MediaServer T) :
    200 ≤ (handleRequest points parse uptime request s).1.status ∧
      (handleRequest points parse uptime request s).1.status < 300 ↔
        (handleRequest points parse uptime request s).1.status = 200 := by
  have hmem := handleRequest_status points parse uptime request s
  simp only [kStatuses, List.mem_cons, List.not_mem_nil, or_false] at hmem
  omega

/-- What a request can make of the configuration: it keeps it, or sets video values that the dynamic
check lets through, the values of a preset, levels, or a text that is short enough. -/
inductive Commits (current : Config) : Config → Prop
  | kept : Commits current current
  | video {width height fps bitrateKbps : ℤ}
      (hsupported : supportedDynamicVideoConfig
        { current with width, height, fps, bitrateKbps, profile := bytes "main" } = true) :
      Commits current { current with width, height, fps, bitrateKbps, profile := bytes "main" }
  | preset {name : Bytes} {profile : Profile} (hfind : findProfile name = some profile) :
      Commits current { applyProfile current profile with profile := bytes "main" }
  | imaging {brightness contrast colorSaturation : Double}
      (hbrightness : IsLevel brightness ∨ brightness = current.brightness)
      (hcontrast : IsLevel contrast ∨ contrast = current.contrast)
      (hsaturation : IsLevel colorSaturation ∨ colorSaturation = current.colorSaturation) :
      Commits current { current with brightness, contrast, colorSaturation }
  | osd {osdEnabled : Bool} {osdText : Bytes} (hlength : osdText.length ≤ 128)
      (htext : 0 ∉ osdText ∨ osdText = current.osdText) :
      Commits current { current with osdEnabled, osdText }

variable (points parse) in
theorem commits_handleRequest (uptime : ℤ) (request : Request) (s : MediaServer T) :
    Commits s.current (handleRequest points parse uptime request s).2.current := by
  unfold handleRequest
  cases request.route with
  | postConfig =>
    dsimp only
    cases hnext : videoConfigFromJson parse request.body s.current with
    | error e => exact .kept
    | ok next =>
      obtain ⟨members, -, rfl⟩ := videoConfigFromJson_ok hnext
      dsimp only [respond]
      unfold setVideoConfigNow
      split_ifs with hpositive hsupported hknown
      · exact .kept
      · exact .kept
      · exact .kept
      · exact .video (Bool.of_not_eq_false hsupported)
  | postPreset name =>
    dsimp only [respond]
    unfold switchProfileNow
    cases hfind : findProfile name with
    | none => exact .kept
    | some profile => exact .preset hfind
  | postImaging =>
    dsimp only
    cases hnext : imagingFromJson parse request.body s.current with
    | error e => exact .kept
    | ok next =>
      obtain ⟨hbrightness, hcontrast, hsaturation⟩ := imagingFromJson_levels hnext
      exact .imaging hbrightness hcontrast hsaturation
  | postOsd =>
    dsimp only
    cases hnext : osdFromJson parse request.body s.current with
    | error e => exact .kept
    | ok next =>
      obtain ⟨members, -, rfl⟩ := osdFromJson_ok hnext
      dsimp only [respond]
      unfold setOsdNow
      split_ifs with hlength
      · exact .kept
      · refine .osd (not_lt.mp hlength) ?_
        -- a text that the request gives is a C string
        show 0 ∉ (osdUpdate members).osdText.getD s.current.osdText ∨
          (osdUpdate members).osdText.getD s.current.osdText = s.current.osdText
        cases htext : (osdUpdate members).osdText with
        | none => exact Or.inr rfl
        | some text => exact Or.inl (notMem_osdUpdate htext)
  | _ => exact .kept

theorem Stored.commits {current next : Config} (h : Stored current) (hnext : Commits current next) :
    Stored next := by
  cases hnext with
  | kept => exact h
  | video hsupported =>
    obtain ⟨hsize, hfps, hlow, hhigh⟩ := supportedDynamicVideoConfig_iff.mp hsupported
    dsimp only at hsize hfps hlow hhigh
    refine { h with profile := rfl, width := ?_, height := ?_, fps := ?_, bitrateKbps := ?_ }
    all_goals
      unfold IsInt32
      dsimp only
      omega
  | preset hfind =>
    obtain ⟨hwidth, hheight, hfps, hbitrate, hencoder⟩ := findProfile_sound hfind
    exact { h with
      profile := rfl
      encoder := Or.inl hencoder
      width := hwidth
      height := hheight
      fps := hfps
      bitrateKbps := hbitrate }
  | imaging hbrightness hcontrast hsaturation =>
    exact { h with
      brightness := hbrightness.elim id fun heq => heq ▸ h.brightness
      contrast := hcontrast.elim id fun heq => heq ▸ h.contrast
      colorSaturation := hsaturation.elim id fun heq => heq ▸ h.colorSaturation }
  | osd hlength htext =>
    exact { h with osdText := ⟨htext.elim id fun heq => heq ▸ h.osdText.1, hlength⟩ }

theorem stored_handleRequest (uptime : ℤ) (request : Request) {s : MediaServer T}
    (h : Stored s.current) : Stored (handleRequest points parse uptime request s).2.current :=
  h.commits (commits_handleRequest points parse uptime request s)

/-! ### Runs -/

/-- What a step makes of the configuration. -/
theorem commits_step {s t : MediaServer T} {e : Event} (h : step points parse s e = some t) :
    Commits s.current t.current := by
  obtain ⟨callback, rfl, rfl⟩ | ⟨uptime, request, rfl, rfl⟩ := step_cases h
  · rw [onCallback_current]
    exact .kept
  · exact commits_handleRequest points parse uptime request s

/-- In every run from an accepted command line. -/
theorem stored_of_reaches {argv : List CStr} {config : Config}
    (hargs : parseArgs argv = .ok config) {es : List Event} {s : MediaServer T}
    (h : (machine points parse config).Reaches Machine.anyStep es s) : Stored s.current := by
  refine h.invariant (I := fun s => Stored s.current) ?_ ?_
  · rintro _ ⟨now, rfl⟩
    exact stored_start (accepted_of_parseArgs hargs) now
  · intro s e t hs _ hstep
    exact hs.commits (commits_step hstep)

end Afterveda.Rail
