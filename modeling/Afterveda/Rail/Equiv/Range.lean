import Afterveda.Rail.Equiv.Stored

/-!
# The range of the configuration

`Valid` says which configurations rail-media works with.  From a valid one every request leads to a
valid one (`valid_of_reaches`), whichever way its values came in.  The video settings are in the
supported set once a request has set them, and stay there (`supported_of_setsVideo`), and the values
of the `videobalance` element that a valid configuration gives are in the element's ranges
(`Valid.balance`).
-/

namespace Afterveda.Rail

open CText CNumber JsonGlib

variable {T : Type} {points : MountPoints T} {parse : Parser}

/-- The configurations rail-media works with. -/
structure Valid (config : Config) : Prop where
  profile : config.profile = bytes "main"
  encoder : config.encoder = bytes "v4l2" ∨ config.encoder = bytes "x264"
  width : 0 < config.width
  height : 0 < config.height
  fps : 0 < config.fps
  bitrateKbps : 0 < config.bitrateKbps
  brightness : IsLevel config.brightness
  contrast : IsLevel config.contrast
  colorSaturation : IsLevel config.colorSaturation
  osdText : config.osdText.length ≤ 128

/-- The video settings are ones that can be set while the server runs. -/
def Supported (config : Config) : Prop := supportedDynamicVideoConfig config = true

/-! ### One request -/

theorem findProfile_supported {name : Bytes} {profile : Profile}
    (h : findProfile name = some profile) (current : Config) :
    Supported { applyProfile current profile with profile := bytes "main" } := by
  have hvalues : ∀ p ∈ kProfiles,
      (p.width = 640 ∧ p.height = 360 ∨ p.width = 1280 ∧ p.height = 720 ∨
        p.width = 1920 ∧ p.height = 1080) ∧ p.fps = 30 ∧ 800 ≤ p.bitrateKbps ∧
        p.bitrateKbps ≤ 5000 := by
    decide
  exact supportedDynamicVideoConfig_iff.mpr (hvalues profile (List.mem_of_find?_eq_some h))

/-- Supported video settings are positive. -/
theorem Supported.pos {config : Config} (h : Supported config) :
    0 < config.width ∧ 0 < config.height ∧ 0 < config.fps ∧ 0 < config.bitrateKbps := by
  obtain ⟨hsize, hfps, hlow, -⟩ := supportedDynamicVideoConfig_iff.mp h
  omega

theorem Valid.commits {current next : Config} (h : Valid current) (hnext : Commits current next) :
    Valid next := by
  cases hnext with
  | kept => exact h
  | video hsupported =>
    obtain ⟨hwidth, hheight, hfps, hbitrate⟩ := Supported.pos hsupported
    exact { h with
      profile := rfl
      width := hwidth
      height := hheight
      fps := hfps
      bitrateKbps := hbitrate }
  | preset hfind =>
    obtain ⟨-, -, -, -, hencoder⟩ := findProfile_sound hfind
    obtain ⟨hwidth, hheight, hfps, hbitrate⟩ := (findProfile_supported hfind current).pos
    exact { h with
      profile := rfl
      encoder := Or.inl hencoder
      width := hwidth
      height := hheight
      fps := hfps
      bitrateKbps := hbitrate }
  | imaging hbrightness hcontrast hsaturation =>
    exact { h with
      brightness := hbrightness.elim id fun heq => heq ▸ h.brightness
      contrast := hcontrast.elim id fun heq => heq ▸ h.contrast
      colorSaturation := hsaturation.elim id fun heq => heq ▸ h.colorSaturation }
  | osd hlength _ => exact { h with osdText := hlength }

theorem Supported.commits {current next : Config} (h : Supported current)
    (hnext : Commits current next) : Supported next := by
  cases hnext with
  | kept => exact h
  | video hsupported => exact hsupported
  | preset hfind => exact findProfile_supported hfind current
  | imaging _ _ _ => exact h
  | osd _ _ => exact h

/-- The request sets the video settings: a configuration or a preset. -/
def Request.setsVideo (request : Request) : Bool :=
  match request.route with
  | .postConfig | .postPreset _ => true
  | _ => false

/-- A success of such a request leaves supported video settings. -/
theorem supported_handleRequest (uptime : ℤ) {request : Request} {s : MediaServer T}
    (hsets : request.setsVideo = true)
    (hstatus : (handleRequest points parse uptime request s).1.status = 200) :
    Supported (handleRequest points parse uptime request s).2.current := by
  unfold Request.setsVideo at hsets
  unfold handleRequest at hstatus ⊢
  cases hroute : request.route with
  | postConfig =>
    rw [hroute] at hstatus
    dsimp only at hstatus ⊢
    cases hnext : videoConfigFromJson parse request.body s.current with
    | error e =>
      rw [hnext] at hstatus
      exact absurd (show (400 : ℤ) = 200 from hstatus) (by decide)
    | ok next =>
      rw [hnext] at hstatus
      -- success means that every check of `set_video_config_now` was passed
      have hok := (respond_status (show (500 : ℤ) ≠ 200 by decide) _).mp hstatus
      dsimp only [respond]
      unfold setVideoConfigNow at hok ⊢
      split_ifs at hok ⊢ with hpositive hsupported hknown
      exact Bool.of_not_eq_false hsupported
  | postPreset name =>
    rw [hroute] at hstatus
    dsimp only at hstatus ⊢
    have hok := (respond_status (show (404 : ℤ) ≠ 200 by decide) _).mp hstatus
    dsimp only [respond]
    unfold switchProfileNow at hok ⊢
    cases hfind : findProfile name with
    | none =>
      rw [hfind] at hok
      cases hok
    | some profile => exact findProfile_supported hfind s.current
  | _ =>
    -- no other request sets the video
    rw [hroute] at hsets
    cases hsets

/-! ### Runs -/

theorem valid_of_reaches {config : Config} (hconfig : Valid config) {es : List Event}
    {s : MediaServer T} (h : (machine points parse config).Reaches Machine.anyStep es s) :
    Valid s.current := by
  refine h.invariant (I := fun s => Valid s.current) ?_ ?_
  · rintro _ ⟨now, rfl⟩
    exact { hconfig with profile := rfl }
  · intro s e t hs _ hstep
    exact hs.commits (commits_step hstep)

/-- Supported video settings stay supported. -/
theorem supported_run {config : Config} {es : List Event} {s t : MediaServer T}
    (h : (machine points parse config).run s es = some t) (hs : Supported s.current) :
    Supported t.current := by
  induction es generalizing s with
  | nil =>
    obtain rfl := Option.some.inj h
    exact hs
  | cons e es ih =>
    rw [Machine.run_cons, Option.bind_eq_some_iff] at h
    obtain ⟨u, hstep, hrun⟩ := h
    exact ih hrun (hs.commits (commits_step hstep))

/-- The event is a successful request that sets the video settings. -/
def Event.setsVideo : Event → Bool
  | .exchange _ request response => request.setsVideo && response.status = 200
  | .callback _ => false

/-- The first such event leads into the supported set, and the run stays there. -/
theorem supported_of_setsVideo {config : Config} {es : List Event} {s : MediaServer T}
    (h : (machine points parse config).Reaches Machine.anyStep es s)
    (hsets : ∃ e ∈ es, e.setsVideo = true) : Supported s.current := by
  induction h with
  | start hs =>
    obtain ⟨e, he, -⟩ := hsets
    cases he
  | @next es s t e _ _ hstep ih =>
    obtain ⟨e', he', hsets⟩ := hsets
    rcases List.mem_append.mp he' with he' | he'
    · exact (ih ⟨e', he', hsets⟩).commits (commits_step hstep)
    · obtain rfl := List.mem_singleton.mp he'
      cases e' with
      | callback callback => cases hsets
      | exchange uptime request response =>
        rw [Event.setsVideo, Bool.and_eq_true, decide_eq_true_eq] at hsets
        simp only [machine, step] at hstep
        split_ifs at hstep with hresponse
        obtain rfl := Option.some.inj hstep
        exact supported_handleRequest uptime hsets.1 (by rw [hresponse]; exact hsets.2)

/-! ### The picture -/

/-- A number within bounds. -/
def Between (low high : ℚ) (x : Double) : Prop := ∃ q : ℚ, x = .finite q ∧ low ≤ q ∧ q ≤ high

theorem between_balanceBrightness {x : Double} (h : IsLevel x) :
    Between (-1) 1 (balanceBrightness x) := by
  obtain ⟨q, rfl, h0, h100⟩ := h
  exact ⟨(q - 50) / 50, rfl, by linarith, by linarith⟩

theorem between_balanceMultiplier {x : Double} (h : IsLevel x) :
    Between 0 2 (balanceMultiplier x) := by
  obtain ⟨q, rfl, h0, h100⟩ := h
  exact ⟨q / 50, rfl, by linarith, by linarith⟩

/-- The values of the `videobalance` element are in its ranges. -/
theorem Valid.balance {config : Config} (h : Valid config) :
    Between (-1) 1 (balanceBrightness config.brightness) ∧
      Between 0 2 (balanceMultiplier config.contrast) ∧
      Between 0 2 (balanceMultiplier config.colorSaturation) :=
  ⟨between_balanceBrightness h.brightness, between_balanceMultiplier h.contrast,
    between_balanceMultiplier h.colorSaturation⟩

/-- **The range of the configuration**: in every run from a valid configuration the current one is
valid; its video settings are supported once a request has set them, and from then on; and the
values of the `videobalance` element are in its ranges. -/
theorem range_of_reaches {config : Config} (hconfig : Valid config) {es : List Event}
    {s : MediaServer T} (h : (machine points parse config).Reaches Machine.anyStep es s) :
    Valid s.current ∧
      (∀ es' t, (machine points parse config).run s es' = some t → Supported s.current →
        Supported t.current) ∧
      ((∃ e ∈ es, e.setsVideo = true) → Supported s.current) ∧
      Between (-1) 1 (balanceBrightness s.current.brightness) ∧
      Between 0 2 (balanceMultiplier s.current.contrast) ∧
      Between 0 2 (balanceMultiplier s.current.colorSaturation) := by
  have hvalid := valid_of_reaches hconfig h
  exact ⟨hvalid, fun es' t hrun hs => supported_run hrun hs, supported_of_setsVideo h,
    hvalid.balance⟩

/-- A valid configuration whose bitrate is not in the supported set. -/
def fastConfig : Config := { bitrateKbps := 6000, encoder := bytes "x264" }

theorem valid_fastConfig : Valid fastConfig := by
  have hlevel : IsLevel (.finite 50) := ⟨50, rfl, by norm_num, by norm_num⟩
  exact {
    profile := rfl
    encoder := Or.inr rfl
    width := by decide
    height := by decide
    fps := by decide
    bitrateKbps := by decide
    brightness := hlevel
    contrast := hlevel
    colorSaturation := hlevel
    osdText := by decide }

/-- It enters the set with the first preset. -/
theorem range_of_reaches_preset : ∃ es s,
    (machine mountTable flatParser fastConfig).Reaches Machine.anyStep es s ∧
      ¬Supported fastConfig ∧ Supported s.current ∧ s.current.bitrateKbps = 800 := by
  let s₀ : MediaServer (List (Bytes × Factory)) := MediaServer.start mountTable fastConfig 0
  let low : Request := ⟨bytes "POST", bytes "/preset/low", []⟩
  let r := handleRequest mountTable flatParser 0 low s₀
  have hinit : (machine mountTable flatParser fastConfig).init s₀ := ⟨0, rfl⟩
  have hrun : (machine mountTable flatParser fastConfig).run s₀ [.exchange 0 low r.1] =
      some r.2 := by
    simp only [Machine.run, machine, step, if_pos, Option.bind_some, r]
  have hreaches := Machine.reaches_of_run hinit hrun
  have hsets : ∃ e ∈ [Event.exchange 0 low r.1], e.setsVideo = true :=
    ⟨_, List.mem_singleton.mpr rfl, by decide +kernel⟩
  refine ⟨_, _, hreaches, ?_, (range_of_reaches valid_fastConfig hreaches).2.2.1 hsets, ?_⟩
  · unfold Supported
    decide
  · decide +kernel

end Afterveda.Rail
