import Afterveda.Lib.Result
import Afterveda.Rail.Settings

/-!
# The configuration is the store of settings

`handleRequest_spec` says all a request can do: answered with 200 it commits the configuration with
the settings it names changed, answered with anything else it changes nothing.  From it
`current_eq_lastUpdate` follows by induction on the run: the current configuration is the start-up
configuration with every setting at the last value a successful request gave it.
-/

namespace Afterveda.Rail

open CText CNumber JsonGlib

variable {T : Type} {points : MountPoints T} {parse : Parser}

/-! ### Members -/

/-- A reader that succeeds gives what the member gives. -/
theorem readJson_eq {α : Type} {value value' : JsonNode → Option α}
    {members : List (Bytes × JsonNode)} {name : String} {x : Option α}
    (hvalue : ∀ node y, value node = some y → value' node = some y)
    (h : readJson value members (bytes name) = .ok x) : x = given value' members name := by
  unfold readJson at h
  unfold given
  cases hget : getMember members (bytes name) with
  | none =>
    rw [hget] at h
    obtain rfl := Except.ok.inj h
    rfl
  | some node =>
    rw [hget] at h
    dsimp only at h
    cases hv : value node with
    | none => rw [hv] at h; cases h
    | some y =>
      rw [hv] at h
      obtain rfl := Except.ok.inj h
      exact (hvalue node y hv).symm

theorem checkMember_ok {α : Type} {name : Bytes} {member : Member α} {x : Option α}
    (h : checkMember name member = .ok x) : member = .ok x := by
  cases member with
  | error e => cases h
  | ok y => simpa [checkMember, Except.mapError] using h

theorem integerOf_of_intValue (node : JsonNode) (n : ℤ) (h : intValue node = some n) :
    integerOf node = some n := by
  cases node with
  | int raw =>
    simp only [intValue] at h
    split_ifs at h
    exact h
  | double x =>
    cases x with
    | finite raw =>
      simp only [intValue] at h
      split_ifs at h with hraw
      rw [not_or, not_or, not_not] at hraw
      rw [integerOf, if_pos hraw.2.2]
      exact h
    | _ => cases h
  | _ => cases h

theorem getDouble_of_doubleValue (node : JsonNode) (x : Double) (h : doubleValue node = some x) :
    node.getDouble = some x := by
  unfold doubleValue at h
  split at h
  · rename_i parsed hget
    split_ifs at h
    rw [hget]
    exact h
  · cases h

theorem booleanOf_of_boolValue (node : JsonNode) (b : Bool) (h : boolValue node = some b) :
    booleanOf node = some b := by
  cases node with
  | boolean c => exact h
  | _ => cases h

theorem textOf_of_stringValue (node : JsonNode) (s : Bytes) (h : stringValue node = some s) :
    textOf node = some s := by
  cases node with
  | string parsed =>
    simp only [stringValue] at h
    split_ifs at h
    exact h
  | _ => cases h

/-! ### Bodies -/

theorem videoConfigFromJson_ok {body : Bytes} {current next : Config}
    (h : videoConfigFromJson parse body current = .ok next) :
    ∃ members, parseJsonObject parse body = some members ∧
      next = { (videoUpdate members).apply current with profile := bytes "main" } := by
  unfold videoConfigFromJson at h
  cases hobject : parseJsonObject parse body with
  | none => rw [hobject] at h; cases h
  | some members =>
    rw [hobject] at h
    obtain ⟨width, hwidth, h⟩ := Except.exists_of_bind_eq_ok h
    obtain ⟨height, hheight, h⟩ := Except.exists_of_bind_eq_ok h
    obtain ⟨fps, hfps, h⟩ := Except.exists_of_bind_eq_ok h
    obtain ⟨bitrate, hbitrate, h⟩ := Except.exists_of_bind_eq_ok h
    have hw := readJson_eq integerOf_of_intValue (checkMember_ok hwidth)
    have hh := readJson_eq integerOf_of_intValue (checkMember_ok hheight)
    have hf := readJson_eq integerOf_of_intValue (checkMember_ok hfps)
    have hb := readJson_eq integerOf_of_intValue (checkMember_ok hbitrate)
    split_ifs at h
    obtain rfl := Except.ok.inj h
    refine ⟨members, rfl, ?_⟩
    simp only [hw, hh, hf, hb, Update.apply, videoUpdate, Option.getD_none]

/-- The members an imaging body was read from. -/
theorem imagingFromJson_members {body : Bytes} {current next : Config}
    (h : imagingFromJson parse body current = .ok next) :
    ∃ members brightness contrast saturation, parseJsonObject parse body = some members ∧
      readJsonDouble members (bytes "brightness") = .ok brightness ∧
      readJsonDouble members (bytes "contrast") = .ok contrast ∧
      readJsonDouble members (bytes "color_saturation") = .ok saturation ∧
      next = { current with
        brightness := brightness.getD current.brightness
        contrast := contrast.getD current.contrast
        colorSaturation := saturation.getD current.colorSaturation } := by
  unfold imagingFromJson at h
  cases hobject : parseJsonObject parse body with
  | none => rw [hobject] at h; cases h
  | some members =>
    rw [hobject] at h
    obtain ⟨brightness, hbrightness, h⟩ := Except.exists_of_bind_eq_ok h
    obtain ⟨contrast, hcontrast, h⟩ := Except.exists_of_bind_eq_ok h
    obtain ⟨saturation, hsaturation, h⟩ := Except.exists_of_bind_eq_ok h
    split_ifs at h
    exact ⟨members, brightness, contrast, saturation, rfl, checkMember_ok hbrightness,
      checkMember_ok hcontrast, checkMember_ok hsaturation, (Except.ok.inj h).symm⟩

theorem imagingFromJson_ok {body : Bytes} {current next : Config}
    (h : imagingFromJson parse body current = .ok next) :
    ∃ members, parseJsonObject parse body = some members ∧
      next = (imagingUpdate members).apply current := by
  obtain ⟨members, brightness, contrast, saturation, hobject, hbrightness, hcontrast, hsaturation,
    rfl⟩ := imagingFromJson_members h
  have hb := readJson_eq getDouble_of_doubleValue hbrightness
  have hc := readJson_eq getDouble_of_doubleValue hcontrast
  have hs := readJson_eq getDouble_of_doubleValue hsaturation
  refine ⟨members, hobject, ?_⟩
  simp only [hb, hc, hs, Update.apply, imagingUpdate, Option.getD_none]

theorem osdFromJson_ok {body : Bytes} {current next : Config}
    (h : osdFromJson parse body current = .ok next) :
    ∃ members, parseJsonObject parse body = some members ∧
      next = (osdUpdate members).apply current := by
  unfold osdFromJson at h
  cases hobject : parseJsonObject parse body with
  | none => rw [hobject] at h; cases h
  | some members =>
    rw [hobject] at h
    obtain ⟨enabled, henabled, h⟩ := Except.exists_of_bind_eq_ok h
    obtain ⟨text, htext, h⟩ := Except.exists_of_bind_eq_ok h
    have he := readJson_eq booleanOf_of_boolValue (checkMember_ok henabled)
    have ht := readJson_eq textOf_of_stringValue (checkMember_ok htext)
    split_ifs at h
    obtain rfl := Except.ok.inj h
    refine ⟨members, rfl, ?_⟩
    simp only [he, ht, Update.apply, osdUpdate, Option.getD_none]

/-! ### Requests -/

@[simp] theorem apply_empty (config : Config) : ({} : Update).apply config = config := rfl

/-- All a request can do: nothing, or commit the configuration with the settings it names changed.
It is answered with 200 exactly when it commits or names nothing. -/
inductive Outcome (points : MountPoints T) (parse : Parser) (request : Request)
    (s : MediaServer T) (result : Response × MediaServer T) : Prop
  /-- A successful request that names no setting. -/
  | read (hstatus : result.1.status = 200) (hupdate : request.update parse = {})
      (hstate : result.2 = s)
  /-- A request answered with an error. -/
  | refused (hstatus : result.1.status ≠ 200) (hstate : result.2 = s)
  /-- A successful request that names settings. -/
  | committed {next : Config} (hstatus : result.1.status = 200)
      (hnext : next = { (request.update parse).apply s.current with profile := bytes "main" })
      (hstate : result.2 = commit points next s)

/-- What the result of an operation says of the state: it committed, or it changed nothing. -/
def Settles (points : MountPoints T) (next : Config) (s : MediaServer T)
    (result : (Bool × Bytes) × MediaServer T) : Prop :=
  (result.1.1 = true ∧ result.2 = commit points next s) ∨ (result.1.1 = false ∧ result.2 = s)

theorem Settles.outcome {request : Request} {s : MediaServer T} {next : Config}
    {result : (Bool × Bytes) × MediaServer T} (h : Settles points next s result) {failure : ℤ}
    (hfailure : failure ≠ 200)
    (hnext : next = { (request.update parse).apply s.current with profile := bytes "main" }) :
    Outcome points parse request s (respond failure result) := by
  unfold respond
  rcases h with ⟨hok, hstate⟩ | ⟨hok, hstate⟩
  · rw [hok, hstate, if_pos rfl]
    exact .committed rfl hnext rfl
  · rw [hok, hstate, if_neg Bool.false_ne_true]
    exact .refused hfailure rfl

theorem settles_setVideoConfigNow (next : Config) (s : MediaServer T) :
    Settles points next s (setVideoConfigNow points next s) := by
  unfold setVideoConfigNow
  split_ifs
  · exact Or.inr ⟨rfl, rfl⟩
  · exact Or.inr ⟨rfl, rfl⟩
  · exact Or.inr ⟨rfl, rfl⟩
  · exact Or.inl ⟨rfl, rfl⟩

theorem settles_switchProfileNow (name : Bytes) (s : MediaServer T) :
    Settles points
      { (((findProfile name).map presetUpdate).getD {}).apply s.current with
        profile := bytes "main" } s (switchProfileNow points name s) := by
  unfold switchProfileNow
  cases findProfile name with
  | none => exact Or.inr ⟨rfl, rfl⟩
  | some profile => exact Or.inl ⟨rfl, rfl⟩

theorem settles_setOsdNow (enabled : Bool) (text : Bytes) (s : MediaServer T) :
    Settles points { s.current with osdEnabled := enabled, osdText := text } s
      (setOsdNow points enabled text s) := by
  unfold setOsdNow
  split_ifs
  · exact Or.inr ⟨rfl, rfl⟩
  · exact Or.inl ⟨rfl, rfl⟩

theorem handleRequest_spec (uptime : ℤ) (request : Request) {s : MediaServer T}
    (hprofile : s.current.profile = bytes "main") :
    Outcome points parse request s (handleRequest points parse uptime request s) := by
  have hbad : (400 : ℤ) ≠ 200 := by decide
  have hmissing : (404 : ℤ) ≠ 200 := by decide
  have hfailed : (500 : ℤ) ≠ 200 := by decide
  have hupdate : request.update parse = request.update parse := rfl
  unfold handleRequest
  conv_rhs at hupdate => unfold Request.update
  cases hroute : request.route with
  | getHealth =>
    -- a health check may answer 503, and it changes nothing either way
    rw [hroute] at hupdate
    by_cases hstatus : (healthResponse (s.healthStatus uptime) s.current).status = 200
    · exact .read hstatus hupdate rfl
    · exact .refused hstatus rfl
  | getProfiles | getPresets | getProfile | getImaging | getOsd =>
    rw [hroute] at hupdate
    exact .read rfl hupdate rfl
  | postConfig =>
    rw [hroute] at hupdate
    dsimp only at hupdate ⊢
    cases hnext : videoConfigFromJson parse request.body s.current with
    | error e => exact .refused hbad rfl
    | ok next =>
      obtain ⟨members, hmembers, rfl⟩ := videoConfigFromJson_ok hnext
      rw [hmembers] at hupdate
      exact (settles_setVideoConfigNow _ s).outcome hfailed (by rw [hupdate]; rfl)
  | postPreset name =>
    rw [hroute] at hupdate
    exact (settles_switchProfileNow name s).outcome hmissing (by rw [hupdate])
  | postImaging =>
    -- levels in range are always taken
    rw [hroute] at hupdate
    dsimp only at hupdate ⊢
    cases hnext : imagingFromJson parse request.body s.current with
    | error e => exact .refused hbad rfl
    | ok next =>
      obtain ⟨members, hmembers, rfl⟩ := imagingFromJson_ok hnext
      rw [hmembers] at hupdate
      refine .committed rfl ?_ rfl
      rw [hupdate, ← hprofile]
      rfl
  | postOsd =>
    rw [hroute] at hupdate
    dsimp only at hupdate ⊢
    cases hnext : osdFromJson parse request.body s.current with
    | error e => exact .refused hbad rfl
    | ok next =>
      obtain ⟨members, hmembers, rfl⟩ := osdFromJson_ok hnext
      rw [hmembers] at hupdate
      refine (settles_setOsdNow _ _ s).outcome hfailed ?_
      rw [hupdate, ← hprofile]
      rfl
  | notFound => exact .refused hmissing rfl

/-! ### Runs -/

theorem start_current (config : Config) (now : ℤ) :
    (MediaServer.start points config now).current = { config with profile := bytes "main" } := rfl

/-- A callback changes nothing but the reported status. -/
theorem onCallback_frame (callback : Callback) (s : MediaServer T) :
    (onCallback callback s).current = s.current ∧ (onCallback callback s).mounts = s.mounts ∧
      (onCallback callback s).mount = s.mount := by
  cases callback with
  | mediaUnprepared status =>
    simp only [onCallback, onMediaUnprepared]
    split_ifs <;> exact ⟨rfl, rfl, rfl⟩
  | mediaNewState status =>
    simp only [onCallback, onMediaNewState]
    split_ifs <;> exact ⟨rfl, rfl, rfl⟩
  | clientClosed =>
    simp only [onCallback, onClientClosed]
    split_ifs <;> exact ⟨rfl, rfl, rfl⟩
  | _ => exact ⟨rfl, rfl, rfl⟩

@[simp] theorem onCallback_current (callback : Callback) (s : MediaServer T) :
    (onCallback callback s).current = s.current :=
  (onCallback_frame callback s).1

/-- The settings an event names successfully. -/
def Event.update (parse : Parser) : Event → Update
  | .exchange _ request response => if response.status = 200 then request.update parse else {}
  | .callback _ => {}

theorem handleRequest_current (uptime : ℤ) (request : Request) {s : MediaServer T}
    (hprofile : s.current.profile = bytes "main") :
    (handleRequest points parse uptime request s).2.current =
      (if (handleRequest points parse uptime request s).1.status = 200 then request.update parse
        else {}).apply s.current := by
  rcases handleRequest_spec uptime request hprofile with
    ⟨hstatus, hupdate, hstate⟩ | ⟨hstatus, hstate⟩ | ⟨hstatus, hnext, hstate⟩
  · rw [hstate, if_pos hstatus, hupdate, apply_empty]
  · rw [hstate, if_neg hstatus, apply_empty]
  · rw [hstate, if_pos hstatus, commit, hnext, ← hprofile]
    rfl

/-- What a step can be: a callback, or a request with its answer. -/
theorem step_cases {s t : MediaServer T} {e : Event} (h : step points parse s e = some t) :
    (∃ callback, e = .callback callback ∧ t = onCallback callback s) ∨
      ∃ uptime request,
        e = .exchange uptime request (handleRequest points parse uptime request s).1 ∧
          t = (handleRequest points parse uptime request s).2 := by
  cases e with
  | callback callback => exact Or.inl ⟨callback, rfl, (Option.some.inj h).symm⟩
  | exchange uptime request response =>
    simp only [step] at h
    split_ifs at h with hresponse
    exact Or.inr ⟨uptime, request, by rw [hresponse], (Option.some.inj h).symm⟩

theorem step_current {s t : MediaServer T} {e : Event} (h : step points parse s e = some t)
    (hprofile : s.current.profile = bytes "main") :
    t.current = (e.update parse).apply s.current := by
  obtain ⟨callback, rfl, rfl⟩ | ⟨uptime, request, rfl, rfl⟩ := step_cases h
  · exact onCallback_current callback s
  · exact handleRequest_current uptime request hprofile

/-- An update over another: the later value of each setting. -/
def Update.orElse (u v : Update) : Update where
  width := u.width.or v.width
  height := u.height.or v.height
  fps := u.fps.or v.fps
  bitrateKbps := u.bitrateKbps.or v.bitrateKbps
  encoder := u.encoder.or v.encoder
  brightness := u.brightness.or v.brightness
  contrast := u.contrast.or v.contrast
  colorSaturation := u.colorSaturation.or v.colorSaturation
  osdEnabled := u.osdEnabled.or v.osdEnabled
  osdText := u.osdText.or v.osdText

theorem apply_orElse (u v : Update) (config : Config) :
    (u.orElse v).apply config = u.apply (v.apply config) := by
  simp only [Update.orElse, Update.apply, Option.getD_or]

theorem Setting.given_orElse (x : Setting) (u v : Update) :
    x.given (u.orElse v) = (x.given u).or (x.given v) := by
  cases x <;> rfl

theorem Setting.onlyGiven_append_of_none {x : Setting} {u : Update} (h : x.given u = none)
    (us : List Update) : x.onlyGiven (us ++ [u]) = x.onlyGiven us := by
  unfold Setting.onlyGiven
  rw [List.filterMap_append, List.filterMap_cons_none h, List.filterMap_nil, List.append_nil]

/-- An update gives the only value of a setting when it is the first that names it. -/
theorem Setting.mem_onlyGiven_append {x : Setting} {u : Update} {w : x.Value}
    (h : x.given u = some w) {us : List Update} {v : x.Value} :
    v ∈ x.onlyGiven (us ++ [u]) ↔ us.filterMap x.given = [] ∧ w = v := by
  unfold Setting.onlyGiven
  rw [List.filterMap_append, List.filterMap_cons_some h, List.filterMap_nil]
  cases us.filterMap x.given with
  | nil => simp
  | cons w' ws => cases ws <;> simp

theorem lastGiven_snoc {α : Type} (setting : Update → Option α) (hnone : setting {} = none)
    (es : List Event) (e : Event) :
    lastGiven parse setting (es ++ [e]) =
      (setting (e.update parse)).or (lastGiven parse setting es) := by
  have hgives : e.gives parse setting = setting (e.update parse) := by
    cases e with
    | callback callback => exact hnone.symm
    | exchange uptime request response =>
      simp only [Event.gives, Event.update]
      split_ifs
      · rfl
      · exact hnone.symm
  unfold lastGiven
  rw [List.filterMap_append, List.filterMap_cons, hgives]
  cases setting (e.update parse) with
  | none => simp
  | some x => simp

theorem lastUpdate_snoc (es : List Event) (e : Event) :
    lastUpdate parse (es ++ [e]) = (e.update parse).orElse (lastUpdate parse es) := by
  simp only [lastUpdate, Update.orElse, lastGiven_snoc Update.width rfl,
    lastGiven_snoc Update.height rfl, lastGiven_snoc Update.fps rfl,
    lastGiven_snoc Update.bitrateKbps rfl, lastGiven_snoc Update.encoder rfl,
    lastGiven_snoc Update.brightness rfl, lastGiven_snoc Update.contrast rfl,
    lastGiven_snoc Update.colorSaturation rfl, lastGiven_snoc Update.osdEnabled rfl,
    lastGiven_snoc Update.osdText rfl]

theorem reaches_current {config : Config} {es : List Event} {s : MediaServer T}
    (h : (machine points parse config).Reaches Machine.anyStep es s) :
    s.current = (lastUpdate parse es).apply { config with profile := bytes "main" } := by
  induction h with
  | start hs =>
    obtain ⟨now, rfl⟩ := hs
    rfl
  | next _ _ hstep ih =>
    rw [step_current hstep (by rw [ih]; rfl), ih, lastUpdate_snoc, apply_orElse]

theorem reaches_profile {config : Config} {es : List Event} {s : MediaServer T}
    (h : (machine points parse config).Reaches Machine.anyStep es s) :
    s.current.profile = bytes "main" := by
  rw [reaches_current h]
  rfl

/-- In every run, the current configuration is the start-up configuration with each setting at the
value the last successful request that named it gave it, and a request answered with anything but
200 leaves it as it is. -/
theorem current_eq_lastUpdate {config : Config} {es : List Event} {s : MediaServer T}
    (h : (machine points parse config).Reaches Machine.anyStep es s) :
    s.current = (lastUpdate parse es).apply { config with profile := bytes "main" } ∧
      ∀ uptime request, (handleRequest points parse uptime request s).1.status ≠ 200 →
        (handleRequest points parse uptime request s).2.current = s.current := by
  refine ⟨reaches_current h, fun uptime request hstatus => ?_⟩
  rw [handleRequest_current uptime request (reaches_profile h), if_neg hstatus, apply_empty]

/-- A server asked for a new resolution, then for a bad brightness beside a good contrast. -/
theorem current_eq_lastUpdate_resolution :
    ∃ es s, (machine mountTable flatParser {}).Reaches Machine.anyStep es s ∧
      s.current = { width := 640, height := 360 } := by
  let s₀ : MediaServer (List (Bytes × Factory)) := MediaServer.start mountTable {} 0
  let resolution : Request :=
    ⟨bytes "POST", bytes "/config", bytes "\x7b\"width\":640,\"height\":360\x7d"⟩
  let imaging : Request :=
    ⟨bytes "POST", bytes "/imaging", bytes "\x7b\"contrast\":70,\"brightness\":101\x7d"⟩
  let r₁ := handleRequest mountTable flatParser 0 resolution s₀
  let r₂ := handleRequest mountTable flatParser 0 imaging r₁.2
  have hinit : (machine mountTable flatParser {}).init s₀ := ⟨0, rfl⟩
  have hrun : (machine mountTable flatParser {}).run s₀
      [.exchange 0 resolution r₁.1, .exchange 0 imaging r₂.1] = some r₂.2 := by
    simp only [Machine.run, machine, step, if_pos, Option.bind_some, r₁, r₂]
  have hreaches := Machine.reaches_of_run hinit hrun
  have hupdate : lastUpdate flatParser [.exchange 0 resolution r₁.1, .exchange 0 imaging r₂.1] =
      { width := some 640, height := some 360 } := by
    decide +kernel
  refine ⟨_, _, hreaches, ?_⟩
  rw [(current_eq_lastUpdate hreaches).1, hupdate]
  decide

end Afterveda.Rail
