import Afterveda.Rail.Equiv.Stored

/-!
# The encoder over a run

A preset sets the encoder together with the resolution and the rates, and every preset names `v4l2`.
`encoderKept_iff` says in which runs rail-media keeps the encoder it was started with, in its
configuration and in the pipeline it serves: those that started with `v4l2`, and those in which no
preset was asked for.

The encoder of a pipeline is read off its launch text: it is the element after the last queue
(`launchedElement`).
-/

namespace Afterveda.Rail

open CText CNumber JsonGlib

variable {T : Type} {points : MountPoints T} {parse : Parser}

/-! ### The encoder of a pipeline -/

/-- The name of the element after the last queue of a launch text. -/
def launchedElement (launch : Bytes) : Option Bytes :=
  (afterLast (bytes "! queue ! ") launch).map fun rest => rest.takeWhile (· ≠ 32)

/-- The element that encodes for an encoder setting. -/
def encoderElement (encoder : Bytes) : Bytes :=
  if encoder = bytes "v4l2" then bytes "v4l2h264enc" else bytes "x264enc"

theorem takeWhile_name {name : Bytes} (h : 32 ∉ name) (s : Bytes) :
    (name ++ 32 :: s).takeWhile (· ≠ 32) = name := by
  have hname : ∀ c ∈ name, decide (c ≠ 32) = true := by
    intro c hc
    have hne : c ≠ 32 := fun heq => h (heq ▸ hc)
    simpa using hne
  rw [List.takeWhile_append_of_pos hname, List.takeWhile_cons_of_neg (by simp), List.append_nil]

theorem apart_queue_toDecimal (n : ℤ) : Apart (bytes "! queue ! ") (toDecimal n) := by
  show Apart (33 :: bytes " queue ! ") (toDecimal n)
  apply apart_of_forall_ne
  rintro c hc rfl
  rcases mem_toDecimal hc with h | h <;> exact absurd h (by decide)

/-- What follows the last queue of a launch text. -/
theorem launchedElement_of_apart {pre rest : Bytes} (name : Bytes) (hname : 32 ∉ name)
    (h : Apart (bytes "! queue ! ") (bytes " queue ! " ++ (name ++ 32 :: rest))) :
    launchedElement (pre ++ (bytes "! queue ! " ++ (name ++ 32 :: rest))) = some name := by
  have hlast : afterLast (bytes "! queue ! ") (bytes "! queue ! " ++ (name ++ 32 :: rest)) =
      some (name ++ 32 :: rest) :=
    afterLast_here h
  rw [launchedElement, afterLast_append hlast, Option.map_some, takeWhile_name hname]

/-- The pipeline of a configuration runs the element of its encoder. -/
theorem launchedElement_buildLaunchPipeline (config : Config) :
    launchedElement (buildLaunchPipeline config) = some (encoderElement config.encoder) := by
  obtain ⟨pre, hlaunch⟩ : ∃ pre, buildLaunchPipeline config = pre ++ bytes "! queue ! " ++
      encoderPipeline config ++ bytes " ! rtph264pay config-interval=1 name=pay0 pt=96 )" :=
    ⟨_, rfl⟩
  rw [hlaunch, encoderElement, encoderPipeline]
  by_cases hv4l2 : config.encoder = bytes "v4l2"
  · rw [if_pos hv4l2, if_pos hv4l2]
    have hapart : Apart (bytes "! queue ! ") (bytes " queue ! " ++
        (bytes "v4l2h264enc extra-controls=\"controls,repeat_sequence_header=1,video_bitrate=" ++
          (toDecimal (wrap32 (config.bitrateKbps * 1000)) ++
            (bytes "\" ! video/x-h264,level=(string)4 ! h264parse" ++
              bytes " ! rtph264pay config-interval=1 name=pay0 pt=96 )")))) := by
      rw [← List.append_assoc]
      exact Apart.append (by decide) ((apart_queue_toDecimal _).append (by decide))
    simp only [List.append_assoc]
    exact launchedElement_of_apart (bytes "v4l2h264enc") (by decide) hapart
  · rw [if_neg hv4l2, if_neg hv4l2]
    have hapart : Apart (bytes "! queue ! ") (bytes " queue ! " ++
        (bytes "x264enc bitrate=" ++ (toDecimal config.bitrateKbps ++
          (bytes " speed-preset=ultrafast tune=zerolatency key-int-max=" ++
            (toDecimal (wrap32 (config.fps * 2)) ++
              (bytes " threads=1 ! h264parse config-interval=1" ++
                bytes " ! rtph264pay config-interval=1 name=pay0 pt=96 )")))))) := by
      rw [← List.append_assoc]
      exact Apart.append (by decide) ((apart_queue_toDecimal _).append
        (Apart.append (by decide) ((apart_queue_toDecimal _).append (by decide))))
    simp only [List.append_assoc]
    exact launchedElement_of_apart (bytes "x264enc") (by decide) hapart

/-! ### Presets -/

/-- The preset that a request asks for, when there is one of that name. -/
def Request.preset (request : Request) : Option Profile :=
  match request.route with
  | .postPreset name => findProfile name
  | _ => none

/-- The event is a request for a preset that there is. -/
def Event.appliesPreset : Event → Bool
  | .exchange _ request _ => request.preset.isSome
  | .callback _ => false

variable (points parse) in
/-- A request for a preset gives the values of the preset to the configuration. -/
theorem handleRequest_preset (uptime : ℤ) {request : Request} {profile : Profile}
    (hpreset : request.preset = some profile) (s : MediaServer T) :
    profile ∈ kProfiles ∧ (handleRequest points parse uptime request s).2.current =
      { applyProfile s.current profile with profile := bytes "main" } := by
  unfold Request.preset at hpreset
  unfold handleRequest
  cases hroute : request.route with
  | postPreset name =>
    rw [hroute] at hpreset
    dsimp only at hpreset
    refine ⟨List.mem_of_find?_eq_some hpreset, ?_⟩
    dsimp only [respond]
    rw [switchProfileNow, hpreset]
    rfl
  | _ =>
    rw [hroute] at hpreset
    cases hpreset

theorem encoder_kProfiles : ∀ profile ∈ kProfiles, profile.encoder = bytes "v4l2" := by
  decide

/-- Only presets name the encoder. -/
theorem update_encoder {request : Request} (hpreset : request.preset = none) :
    (request.update parse).encoder = none := by
  unfold Request.preset at hpreset
  unfold Request.update
  cases hroute : request.route with
  | postPreset name =>
    rw [hroute] at hpreset
    dsimp only at hpreset ⊢
    rw [hpreset]
    rfl
  | postConfig | postImaging | postOsd =>
    dsimp only
    cases parseJsonObject parse request.body <;> rfl
  | _ => rfl

theorem step_encoder {s t : MediaServer T} {e : Event} (h : step points parse s e = some t)
    (hprofile : s.current.profile = bytes "main") :
    t.current.encoder = if e.appliesPreset then bytes "v4l2" else s.current.encoder := by
  obtain ⟨callback, rfl, rfl⟩ | ⟨uptime, request, rfl, rfl⟩ := step_cases h
  · -- callbacks leave the configuration alone
    rw [onCallback_current]
    rfl
  · rw [Event.appliesPreset]
    cases hpreset : request.preset with
    | some profile =>
      -- the preset is taken over whole, with its encoder
      obtain ⟨hmem, hcurrent⟩ := handleRequest_preset points parse uptime hpreset s
      rw [hcurrent]
      exact encoder_kProfiles profile hmem
    | none =>
      rw [handleRequest_current uptime request hprofile]
      show (if _ then _ else _ : Update).encoder.getD s.current.encoder = s.current.encoder
      split_ifs
      · rw [update_encoder hpreset]
        rfl
      · rfl

/-- The encoder is that of the presets once one was asked for, and until then that of the start. -/
theorem reaches_encoder {config : Config} {es : List Event} {s : MediaServer T}
    (h : (machine points parse config).Reaches Machine.anyStep es s) :
    s.current.encoder = if es.any Event.appliesPreset then bytes "v4l2" else config.encoder := by
  induction h with
  | start hs =>
    obtain ⟨now, rfl⟩ := hs
    rfl
  | @next es s t e h _ hstep ih =>
    rw [step_encoder hstep (reaches_profile h), ih, List.any_append]
    cases hpreset : e.appliesPreset with
    | true => simp [hpreset]
    | false => simp [hpreset]

/-! ### The encoder that was selected -/

/-- The configuration and the mounted pipeline have the encoder of the start. -/
def EncoderKept (points : MountPoints T) (config : Config) (s : MediaServer T) : Prop :=
  s.current.encoder = config.encoder ∧
    ∃ factory, points.lookup s.mounts s.mount = some factory ∧
      launchedElement factory.launch = some (encoderElement config.encoder)

/-- The settings that a preset is for. -/
def Setting.isVideo : Setting → Bool
  | .width | .height | .fps | .bitrateKbps => true
  | _ => false

/-- A preset keeps the other settings exactly when the encoder is already that of the presets. -/
theorem preset_keeps_iff (uptime : ℤ) {request : Request} (hpreset : request.preset.isSome = true)
    {s : MediaServer T} :
    (∀ x : Setting, x.isVideo = false →
      x.get (handleRequest points parse uptime request s).2.current = x.get s.current) ↔
        s.current.encoder = bytes "v4l2" := by
  obtain ⟨profile, hprofile⟩ := Option.isSome_iff_exists.mp hpreset
  obtain ⟨hmem, hcurrent⟩ := handleRequest_preset points parse uptime hprofile s
  have hencoder := encoder_kProfiles profile hmem
  rw [hcurrent]
  constructor
  · intro hkeeps
    exact (hkeeps .encoder rfl).symm.trans hencoder
  · intro hv4l2 x hx
    cases x with
    | width | height | fps | bitrateKbps => cases hx
    | encoder => exact hencoder.trans hv4l2.symm
    | _ => rfl

/-- **The encoder**: rail-media keeps the encoder it was started with exactly when that is `v4l2` or
no preset was asked for, and a preset changes no more than the resolution and the rates exactly when
the encoder is `v4l2`. -/
theorem encoderKept_iff (hpoints : points.Replaces) {argv : List CStr} {config : Config}
    (hargs : parseArgs argv = .ok config) {es : List Event} {s : MediaServer T}
    (h : (machine points parse config).Reaches Machine.anyStep es s) :
    (EncoderKept points config s ↔
      config.encoder = bytes "v4l2" ∨ ∀ e ∈ es, e.appliesPreset = false) ∧
    ∀ uptime request, request.preset.isSome = true →
      ((∀ x : Setting, x.isVideo = false →
        x.get (handleRequest points parse uptime request s).2.current = x.get s.current) ↔
          s.current.encoder = bytes "v4l2") := by
  refine ⟨?_, fun uptime request hpreset => preset_keeps_iff uptime hpreset⟩
  obtain ⟨factory, hlookup, hlaunch, -⟩ := mounted_of_reaches hpoints hargs h
  have hencoder := reaches_encoder h
  have hany : es.any Event.appliesPreset = false ↔ ∀ e ∈ es, e.appliesPreset = false := by
    simp
  rw [← hany]
  constructor
  · rintro ⟨hkept, -⟩
    rw [hkept] at hencoder
    cases hpreset : es.any Event.appliesPreset with
    | true =>
      rw [hpreset] at hencoder
      exact Or.inl hencoder
    | false => exact Or.inr rfl
  · intro hstart
    have hkept : s.current.encoder = config.encoder := by
      rw [hencoder]
      rcases hstart with hstart | hstart
      · rw [hstart, ite_self]
      · rw [hstart, if_neg Bool.false_ne_true]
    refine ⟨hkept, factory, hlookup, ?_⟩
    rw [hlaunch, launchedElement_buildLaunchPipeline, hkept]

/-- The arguments `--encoder x264`. -/
def softwareArgs : List CStr := [⟨bytes "--encoder", by decide⟩, ⟨bytes "x264", by decide⟩]

/-- The configuration of these arguments. -/
def softwareConfig : Config := { encoder := bytes "x264" }

theorem parseArgs_softwareArgs : parseArgs softwareArgs = .ok softwareConfig := by decide

/-- rail-media started with them. -/
def softwareServer : MediaServer (List (Bytes × Factory)) :=
  MediaServer.start mountTable softwareConfig 0

/-- A request for the low preset. -/
def lowPreset : Request := ⟨bytes "POST", bytes "/preset/low", []⟩

/-- The low preset, asked of that server. -/
def presetRun : List Event :=
  [.exchange 0 lowPreset (handleRequest mountTable flatParser 0 lowPreset softwareServer).1]

theorem reaches_presetRun :
    (machine mountTable flatParser softwareConfig).Reaches Machine.anyStep presetRun
      (handleRequest mountTable flatParser 0 lowPreset softwareServer).2 := by
  refine Machine.reaches_of_run (s := softwareServer) ⟨0, rfl⟩ ?_
  simp only [presetRun, Machine.run, machine, step, ↓reduceIte, Option.bind_some]

/-- A request for a new resolution and bitrate. -/
def sizeUpdate : Request :=
  ⟨bytes "POST", bytes "/config",
    bytes "\x7b\"width\":640,\"height\":360,\"bitrate_kbps\":1200\x7d"⟩

/-- That server is asked for them, and for the low preset afterwards. -/
theorem encoderKept_iff_software :
    ∃ es s, (machine mountTable flatParser softwareConfig).Reaches Machine.anyStep es s ∧
      s.current.width = 640 ∧ s.current.bitrateKbps = 1200 ∧
      EncoderKept mountTable softwareConfig s ∧
      ¬∀ x : Setting, x.isVideo = false →
        x.get (handleRequest mountTable flatParser 0 lowPreset s).2.current = x.get s.current := by
  let r := handleRequest mountTable flatParser 0 sizeUpdate softwareServer
  have hrun : (machine mountTable flatParser softwareConfig).run softwareServer
      [.exchange 0 sizeUpdate r.1] = some r.2 := by
    simp only [Machine.run, machine, step, ↓reduceIte, Option.bind_some, r]
  have hinit : (machine mountTable flatParser softwareConfig).init softwareServer := ⟨0, rfl⟩
  have hreaches := Machine.reaches_of_run hinit hrun
  have hiff := encoderKept_iff replaces_mountTable parseArgs_softwareArgs hreaches
  have hpresets : ∀ e ∈ [Event.exchange 0 sizeUpdate r.1], e.appliesPreset = false := by
    intro e he
    obtain rfl := List.mem_singleton.mp he
    decide +kernel
  have hupdate : lastUpdate flatParser [.exchange 0 sizeUpdate r.1] =
      { width := some 640, height := some 360, bitrateKbps := some 1200 } := by
    decide +kernel
  have hcurrent : r.2.current =
      { softwareConfig with width := 640, height := 360, bitrateKbps := 1200 } := by
    rw [reaches_current hreaches, hupdate]
    decide
  refine ⟨_, _, hreaches, ?_, ?_, hiff.1.mpr (Or.inr hpresets), ?_⟩
  · rw [hcurrent]
  · rw [hcurrent]
  -- the encoder is still x264, so the preset changes it
  · rw [hiff.2 0 lowPreset (by decide), hcurrent]
    decide

/-- The preset puts the hardware encoder in its place. -/
theorem not_encoderKept_preset :
    ¬∀ (argv : List CStr) (config : Config) (es : List Event)
      (s : MediaServer (List (Bytes × Factory))), parseArgs argv = .ok config →
      (machine mountTable flatParser config).Reaches Machine.anyStep es s →
        EncoderKept mountTable config s := by
  intro hall
  have hkept := (hall _ _ _ _ parseArgs_softwareArgs reaches_presetRun).1
  have hcurrent :
      (handleRequest mountTable flatParser 0 lowPreset softwareServer).2.current.encoder =
        bytes "v4l2" := by
    decide +kernel
  rw [hcurrent] at hkept
  exact absurd hkept (by decide)

end Afterveda.Rail
