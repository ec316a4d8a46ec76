import Afterveda.Rail.Equiv.Settings

/-!
# The mounted pipeline

The factory served at the mount point is always the one made of the current configuration:
`mounted_of_reaches`.  Every operation installs the factory of the configuration it then commits, so
one fact about `commit` carries the invariant `Mounted` over a run.  What the command line is
checked for (`Accepted`) makes the mount path absolute and keeps NUL bytes out of the launch text,
which gst-rtsp-server takes as a C string.
-/

namespace Afterveda.Rail

open CText CNumber JsonGlib

variable {T : Type} {points : MountPoints T} {parse : Parser}

/-! ### Accepted command lines -/

/-- What holds of the variables of `parse_args` at each argument. -/
structure Options.Sound (o : Options) : Prop where
  mount : 0 ∉ o.config.mount
  osdText : 0 ∉ o.config.osdText
  width : ∀ n ∈ o.width, IsInt32 n
  height : ∀ n ∈ o.height, IsInt32 n
  fps : ∀ n ∈ o.fps, IsInt32 n
  bitrateKbps : ∀ n ∈ o.bitrateKbps, IsInt32 n
  brightness : o.config.brightness = .finite 50
  contrast : o.config.contrast = .finite 50
  colorSaturation : o.config.colorSaturation = .finite 50

/-- What holds of a configuration `parse_args` returns. -/
structure Accepted (config : Config) : Prop where
  mount : config.mount.head? = some 47 ∧ 0 ∉ config.mount
  encoder : config.encoder = bytes "v4l2" ∨ config.encoder = bytes "x264"
  osdText : 0 ∉ config.osdText ∧ config.osdText.length ≤ 128
  width : IsInt32 config.width
  height : IsInt32 config.height
  fps : IsInt32 config.fps
  bitrateKbps : IsInt32 config.bitrateKbps
  brightness : config.brightness = .finite 50
  contrast : config.contrast = .finite 50
  colorSaturation : config.colorSaturation = .finite 50

theorem parseInt_ok {value name : Bytes} {n : ℤ} (h : parseInt value name = .ok n) :
    IsInt32 n := by
  unfold parseInt at h
  split at h
  · split_ifs at h
    obtain rfl := Except.ok.inj h
    exact isInt32_wrap32 _
  · cases h

theorem ValueOption.set_sound {option : ValueOption} {arg value : Bytes} {o o' : Options}
    (hvalue : 0 ∉ value) (ho : o.Sound) (h : option.set arg value o = .ok o') : o'.Sound := by
  have hnumber : ∀ {f : ℤ → Options}, (parseInt value arg).map f = .ok o' →
      ∃ n, IsInt32 n ∧ f n = o' := by
    intro f hf
    obtain ⟨n, hn, heq⟩ := Except.exists_of_map_eq_ok hf
    exact ⟨n, parseInt_ok hn, heq⟩
  cases option with
  | width =>
    obtain ⟨n, hn, rfl⟩ := hnumber h
    exact { ho with width := by rintro _ ⟨⟩; exact hn }
  | height =>
    obtain ⟨n, hn, rfl⟩ := hnumber h
    exact { ho with height := by rintro _ ⟨⟩; exact hn }
  | fps =>
    obtain ⟨n, hn, rfl⟩ := hnumber h
    exact { ho with fps := by rintro _ ⟨⟩; exact hn }
  | bitrateKbps =>
    obtain ⟨n, hn, rfl⟩ := hnumber h
    exact { ho with bitrateKbps := by rintro _ ⟨⟩; exact hn }
  | mount =>
    obtain rfl := Except.ok.inj h
    exact { ho with mount := hvalue }
  | osdText =>
    obtain rfl := Except.ok.inj h
    exact { ho with osdText := hvalue }
  | _ =>
    obtain rfl := Except.ok.inj h
    exact { ho with }

theorem readOptions_sound {args : List Bytes} {o o' : Options} (hargs : ∀ arg ∈ args, 0 ∉ arg)
    (ho : o.Sound) (h : readOptions args o = .ok o') : o'.Sound := by
  fun_induction readOptions args o with
  | case1 o =>
    -- the end of the arguments
    obtain rfl := Except.ok.inj h
    exact ho
  | case5 arg o _ option _ value rest o₁ hset ih =>
    -- an option with a value it takes
    have hvalue : 0 ∉ value := hargs value (by simp)
    refine ih (fun x hx => hargs x (by simp [hx])) (option.set_sound hvalue ho hset) h
  | case6 o rest _ _ ih =>
    -- `--no-osd`
    exact ih (fun x hx => hargs x (by simp [hx])) { ho with } h
  | _ => cases h

theorem Options.sound_default : ({} : Options).Sound where
  mount := by decide
  osdText := by decide
  width := by simp
  height := by simp
  fps := by simp
  bitrateKbps := by simp
  brightness := rfl
  contrast := rfl
  colorSaturation := rfl

/-- What holds of a preset. -/
theorem findProfile_sound {name : Bytes} {profile : Profile} (h : findProfile name = some profile) :
    IsInt32 profile.width ∧ IsInt32 profile.height ∧ IsInt32 profile.fps ∧
      IsInt32 profile.bitrateKbps ∧ profile.encoder = bytes "v4l2" := by
  have hvalues : ∀ p ∈ kProfiles, IsInt32 p.width ∧ IsInt32 p.height ∧ IsInt32 p.fps ∧
      IsInt32 p.bitrateKbps ∧ p.encoder = bytes "v4l2" := by decide
  exact hvalues profile (List.mem_of_find?_eq_some h)

theorem complaint_none {o : Options} {config : Config} (h : o.complaint config = none) :
    config.mount.head? = some 47 ∧
      (config.encoder = bytes "v4l2" ∨ config.encoder = bytes "x264") ∧
      config.osdText.length ≤ 128 := by
  unfold Options.complaint at h
  split_ifs at h with hmount hhost hencoder hrealm hpair hempty htext
  refine ⟨not_not.mp hmount, ?_, not_lt.mp htext⟩
  rwa [← not_ne_iff, ← not_ne_iff, ← not_and_or]

/-- How an accepted command line was read. -/
theorem exists_of_parseArgs {argv : List CStr} {config : Config} (h : parseArgs argv = .ok config) :
    ∃ o profile, readOptions (argv.map Subtype.val) {} = .ok o ∧
      findProfile o.profileName = some profile ∧ o.complaint config = none ∧
      config = o.override (applyProfile o.config profile) := by
  obtain ⟨o, hread, h⟩ := Except.exists_of_bind_eq_ok h
  unfold Options.finish at h
  cases hfind : findProfile o.profileName with
  | none => rw [hfind] at h; cases h
  | some profile =>
    rw [hfind] at h
    dsimp only at h
    cases hcomplaint : o.complaint (o.override (applyProfile o.config profile)) with
    | some message => rw [hcomplaint] at h; cases h
    | none =>
      rw [hcomplaint] at h
      obtain rfl := Except.ok.inj h
      exact ⟨o, profile, hread, hfind, hcomplaint, rfl⟩

theorem accepted_of_parseArgs {argv : List CStr} {config : Config}
    (h : parseArgs argv = .ok config) : Accepted config := by
  obtain ⟨o, profile, hread, hfind, hcomplaint, rfl⟩ := exists_of_parseArgs h
  have ho : o.Sound := by
    refine readOptions_sound ?_ Options.sound_default hread
    intro arg harg
    obtain ⟨s, -, rfl⟩ := List.mem_map.mp harg
    exact s.2
  obtain ⟨hmount, hencoder, htext⟩ := complaint_none hcomplaint
  obtain ⟨hwidth, hheight, hfps, hbitrate, -⟩ := findProfile_sound hfind
  have hgetD : ∀ {n : Option ℤ} {d : ℤ}, (∀ m ∈ n, IsInt32 m) → IsInt32 d → IsInt32 (n.getD d) := by
    intro n d hn hd
    cases n with
    | none => exact hd
    | some m => exact hn m rfl
  exact {
    mount := ⟨hmount, ho.mount⟩
    encoder := hencoder
    osdText := ⟨ho.osdText, htext⟩
    width := hgetD ho.width hwidth
    height := hgetD ho.height hheight
    fps := hgetD ho.fps hfps
    bitrateKbps := hgetD ho.bitrateKbps hbitrate
    brightness := ho.brightness
    contrast := ho.contrast
    colorSaturation := ho.colorSaturation }

/-! ### Launch text -/

theorem notMem_toDecimal (n : ℤ) : 0 ∉ toDecimal n := by
  intro h
  rcases mem_toDecimal h with h | h <;> exact absurd h (by decide)

theorem notMem_formatDouble (x : Double) : 0 ∉ formatDouble x := by
  intro h
  rcases mem_formatDouble h with h | h <;> exact absurd h (by decide)

theorem notMem_gstString {value : Bytes} (h : 0 ∉ value) : 0 ∉ gstString value := by
  intro hmem
  rw [gstString, List.mem_append, List.mem_append] at hmem
  rcases hmem with (hmem | hmem) | hmem
  · exact absurd hmem (by decide)
  · rcases mem_backslashEscape hmem with hmem | hmem
    · exact h hmem
    · exact absurd hmem (by decide)
  · exact absurd hmem (by decide)

/-- A launch text without NUL bytes, for an OSD text without them. -/
theorem notMem_buildLaunchPipeline {config : Config} (h : 0 ∉ config.osdText) :
    0 ∉ buildLaunchPipeline config := by
  have hosd : 0 ∉ osdPipeline config := by
    unfold osdPipeline
    split_ifs
    · simp
    · simp only [List.mem_append, notMem_gstString h, or_false]
      decide
  have hencoder : 0 ∉ encoderPipeline config := by
    unfold encoderPipeline
    split_ifs
    · simp only [List.mem_append, notMem_toDecimal, or_false]
      decide
    · simp only [List.mem_append, notMem_toDecimal, or_false]
      decide
  have hbalance : 0 ∉ videoBalancePipeline config := by
    simp only [videoBalancePipeline, List.mem_append, notMem_formatDouble, or_false]
    decide
  simp only [buildLaunchPipeline, List.mem_append, notMem_toDecimal, hosd, hencoder, hbalance,
    or_false]
  decide

/-! ### Runs -/

/-- The factory of the current configuration is the one mounted, and what decides over the path, the
viewer role and the launch text is as it was at the start. -/
structure Mounted (points : MountPoints T) (config : Config) (s : MediaServer T) : Prop where
  mount : s.mount = config.mount
  rtspUser : s.current.rtspUser = config.rtspUser
  rtspPassword : s.current.rtspPassword = config.rtspPassword
  osdText : 0 ∉ s.current.osdText
  factory : points.lookup s.mounts (cString s.mount) = some (createFactory s.current)

theorem head?_cString {s : Bytes} (h : s.head? = some 47) : (cString s).head? = some 47 := by
  cases s with
  | nil => cases h
  | cons c s =>
    obtain rfl := Option.some.inj h
    rfl

theorem mounted_commit (hpoints : points.Replaces) {config next : Config} {s : MediaServer T}
    (hpath : config.mount.head? = some 47) (hmount : s.mount = config.mount)
    (huser : next.rtspUser = config.rtspUser) (hpassword : next.rtspPassword = config.rtspPassword)
    (htext : 0 ∉ next.osdText) : Mounted points config (commit points next s) where
  mount := hmount
  rtspUser := huser
  rtspPassword := hpassword
  osdText := htext
  factory := hpoints _ _ _ (head?_cString (hmount ▸ hpath))

/-- A text a member gives is a C string. -/
theorem notMem_osdUpdate {members : List (Bytes × JsonNode)} {text : Bytes}
    (h : (osdUpdate members).osdText = some text) : 0 ∉ text := by
  obtain ⟨node, -, htext⟩ := Option.bind_eq_some_iff.mp h
  cases node with
  | string s =>
    obtain rfl := Option.some.inj htext
    exact notMem_cString s
  | _ => cases htext

theorem notMem_update_osdText {request : Request} {text : Bytes}
    (h : (request.update parse).osdText = some text) : 0 ∉ text := by
  unfold Request.update at h
  cases hroute : request.route with
  -- only `POST /osd` names the text
  | postOsd =>
    rw [hroute] at h
    dsimp only at h
    cases hobject : parseJsonObject parse request.body with
    | none => rw [hobject] at h; cases h
    | some members => rw [hobject] at h; exact notMem_osdUpdate h
  | postConfig | postImaging =>
    rw [hroute] at h
    dsimp only at h
    cases hobject : parseJsonObject parse request.body with
    | none => rw [hobject] at h; cases h
    | some members => rw [hobject] at h; cases h
  | postPreset name =>
    rw [hroute] at h
    dsimp only at h
    cases hprofile : findProfile name with
    | none => rw [hprofile] at h; cases h
    | some profile => rw [hprofile] at h; cases h
  | _ => rw [hroute] at h; cases h

theorem mounted_step (hpoints : points.Replaces) {config : Config} {s t : MediaServer T} {e : Event}
    (hpath : config.mount.head? = some 47) (hprofile : s.current.profile = bytes "main")
    (hs : Mounted points config s) (h : step points parse s e = some t) :
    Mounted points config t := by
  obtain ⟨callback, rfl, rfl⟩ | ⟨uptime, request, rfl, rfl⟩ := step_cases h
  · obtain ⟨-, hmounts, hmount⟩ := onCallback_frame callback s
    constructor
    · rw [hmount, hs.mount]
    · rw [onCallback_current, hs.rtspUser]
    · rw [onCallback_current, hs.rtspPassword]
    · rw [onCallback_current]
      exact hs.osdText
    · rw [onCallback_current, hmounts, hmount]
      exact hs.factory
  · -- only a commit installs a factory, and it installs that of the configuration it commits
    rcases handleRequest_spec uptime request hprofile with
      ⟨-, -, hstate⟩ | ⟨-, hstate⟩ | ⟨-, hnext, hstate⟩
    · rw [hstate]
      exact hs
    · rw [hstate]
      exact hs
    · rw [hstate, hnext]
      refine mounted_commit hpoints hpath hs.mount hs.rtspUser hs.rtspPassword ?_
      show 0 ∉ (request.update parse).osdText.getD s.current.osdText
      cases htext : (request.update parse).osdText with
      | none => exact hs.osdText
      | some text => exact notMem_update_osdText htext

theorem mounted_start (hpoints : points.Replaces) {config : Config} (hconfig : Accepted config)
    (now : ℤ) : Mounted points config (MediaServer.start points config now) where
  mount := rfl
  rtspUser := rfl
  rtspPassword := rfl
  osdText := hconfig.osdText.1
  factory := hpoints _ _ _ (head?_cString hconfig.mount.1)

theorem reaches_mounted (hpoints : points.Replaces) {config : Config} (hconfig : Accepted config)
    {es : List Event} {s : MediaServer T}
    (h : (machine points parse config).Reaches Machine.anyStep es s) : Mounted points config s := by
  induction h with
  | start hs =>
    obtain ⟨now, rfl⟩ := hs
    exact mounted_start hpoints hconfig now
  | next h _ hstep ih => exact mounted_step hpoints hconfig.mount.1 (reaches_profile h) ih hstep

/-- In every run from an accepted command line, the factory at the mount point launches the pipeline
of the current configuration, and carries the viewer role exactly when the server was started with a
user and a password. -/
theorem mounted_of_reaches (hpoints : points.Replaces) {argv : List CStr} {config : Config}
    (hargs : parseArgs argv = .ok config) {es : List Event} {s : MediaServer T}
    (h : (machine points parse config).Reaches Machine.anyStep es s) :
    ∃ factory, points.lookup s.mounts s.mount = some factory ∧
      factory.launch = buildLaunchPipeline s.current ∧
      (kRtspViewerRole ∈ factory.roles ↔ config.rtspUser ≠ [] ∧ config.rtspPassword ≠ []) := by
  have hconfig := accepted_of_parseArgs hargs
  have hs := reaches_mounted hpoints hconfig h
  have hmount : cString s.mount = s.mount := cString_of_notMem (hs.mount ▸ hconfig.mount.2)
  have hfactory := hs.factory
  rw [hmount] at hfactory
  refine ⟨createFactory s.current, hfactory, ?_, ?_⟩
  · exact cString_of_notMem (notMem_buildLaunchPipeline hs.osdText)
  · have hrole : kRtspViewerRole ∈ (createFactory s.current).roles ↔
        rtspAuthEnabled s.current = true := by
      unfold createFactory
      split_ifs with henabled <;> simp [henabled]
    rw [hrole, rtspAuthEnabled, hs.rtspUser, hs.rtspPassword]
    simp

/-- The arguments `--rtsp-user viewer --rtsp-password secret`. -/
def viewerArgs : List CStr :=
  [⟨bytes "--rtsp-user", by decide⟩, ⟨bytes "viewer", by decide⟩,
    ⟨bytes "--rtsp-password", by decide⟩, ⟨bytes "secret", by decide⟩]

/-- A server with a viewer, asked for the low preset and then for an empty OSD text. -/
theorem mounted_of_reaches_viewer :
    ∃ es s,
      (machine mountTable flatParser
        { rtspUser := bytes "viewer", rtspPassword := bytes "secret" }).Reaches
          Machine.anyStep es s ∧
      es.length = 2 ∧
      ∃ factory, mountTable.lookup s.mounts s.mount = some factory ∧
        factory.launch = buildLaunchPipeline s.current ∧ kRtspViewerRole ∈ factory.roles := by
  have hargs : parseArgs viewerArgs =
      .ok { rtspUser := bytes "viewer", rtspPassword := bytes "secret" } := by decide
  let s₀ : MediaServer (List (Bytes × Factory)) :=
    MediaServer.start mountTable
      { rtspUser := bytes "viewer", rtspPassword := bytes "secret" } 1000
  let low : Request := ⟨bytes "POST", bytes "/preset/low", []⟩
  let osd : Request := ⟨bytes "POST", bytes "/osd", bytes "\x7b\"text\":\"\"\x7d"⟩
  let r₁ := handleRequest mountTable flatParser 0 low s₀
  let r₂ := handleRequest mountTable flatParser 0 osd r₁.2
  have hinit : (machine mountTable flatParser
      { rtspUser := bytes "viewer", rtspPassword := bytes "secret" }).init s₀ := ⟨1000, rfl⟩
  have hrun : (machine mountTable flatParser
      { rtspUser := bytes "viewer", rtspPassword := bytes "secret" }).run s₀
      [.exchange 0 low r₁.1, .exchange 0 osd r₂.1] = some r₂.2 := by
    simp only [Machine.run, machine, step, if_pos, Option.bind_some, r₁, r₂]
  have hreaches := Machine.reaches_of_run hinit hrun
  obtain ⟨factory, hlookup, hlaunch, hrole⟩ :=
    mounted_of_reaches replaces_mountTable hargs hreaches
  exact ⟨_, _, hreaches, rfl, factory, hlookup, hlaunch, hrole.mpr (by decide)⟩

end Afterveda.Rail
