import Afterveda.Lib.Result
import Afterveda.Lib.Xml
import Afterveda.Onvif.Discovery

/-!
# Scopes

WS-Discovery announces the scopes of the camera as one list, `GetScopes` gives two of them as
items.  Both are built from the name and the hardware id of the command line.  `scopes_iff` says
when the two agree: when neither holds white space, at which the list is taken apart.
-/

namespace Afterveda.Onvif

open CText Xml Soap

/-! ### The command line -/

/-- The texts of a configuration. -/
def Config.texts (config : Config) : List Bytes :=
  [config.deviceName, config.manufacturer, config.model, config.firmware, config.serial,
    config.hardwareId, config.xaddrHost, config.rtspUri, config.railControlUrl, config.ptzDevice,
    config.username, config.password]

namespace CommandLine

/-- What the values of the command line leave in a configuration. -/
structure Sound (config : Config) : Prop where
  texts : ∀ text ∈ config.texts, 0 ∉ text
  onvifPort : 1 ≤ config.onvifPort ∧ config.onvifPort ≤ 65535
  ptzStep : 1 ≤ config.ptzStep ∧ config.ptzStep ≤ 65535
  ptzSpeed : 1 ≤ config.ptzSpeed ∧ config.ptzSpeed ≤ 65535

theorem parseInt_ok {value option : Bytes} {n : ℤ} (h : parseInt value option = .ok n) :
    1 ≤ n ∧ n ≤ 65535 := by
  unfold parseInt at h
  split at h
  · split_ifs at h with hrange
    obtain rfl := Except.ok.inj h
    omega
  · cases h

theorem ValueOption.set_sound {option : ValueOption} {arg value : Bytes} {config config' : Config}
    (hvalue : 0 ∉ value) (hc : Sound config) (h : option.set arg value config = .ok config') :
    Sound config' := by
  have htexts := hc.texts
  cases option with
  | onvifPort =>
    obtain ⟨n, hn, rfl⟩ := Except.exists_of_map_eq_ok h
    exact { hc with onvifPort := parseInt_ok hn }
  | ptzStep =>
    obtain ⟨n, hn, rfl⟩ := Except.exists_of_map_eq_ok h
    exact { hc with ptzStep := parseInt_ok hn }
  | ptzSpeed =>
    obtain ⟨n, hn, rfl⟩ := Except.exists_of_map_eq_ok h
    exact { hc with ptzSpeed := parseInt_ok hn }
  | _ =>
    obtain rfl := Except.ok.inj h
    refine { hc with texts := ?_ }
    simp only [Config.texts, List.forall_mem_cons] at htexts ⊢
    simp [htexts, hvalue]

theorem readOptions_sound {args : List Bytes} {config config' : Config}
    (hargs : ∀ arg ∈ args, 0 ∉ arg) (hc : Sound config)
    (h : readOptions args config = .ok config') :
    Sound config' := by
  fun_induction readOptions args config with
  | case1 config =>
    -- the end of the arguments
    obtain rfl := Except.ok.inj h
    exact hc
  | case5 arg config _ option _ value rest config₁ hset ih =>
    -- an option with a value it takes
    have hvalue : 0 ∉ value := hargs value (by simp)
    exact ih (fun x hx => hargs x (by simp [hx])) (option.set_sound hvalue hc hset) h
  | case6 config rest _ _ ih =>
    -- `--ptz-dry-run`
    exact ih (fun x hx => hargs x (by simp [hx])) { hc with } h
  | _ => cases h

theorem sound_default : Sound {} where
  texts := by
    intro text htext
    have hall : ({} : Config).texts.all fun text => 0 ∉ text := by decide
    simpa using List.all_eq_true.mp hall text htext
  onvifPort := by decide
  ptzStep := by decide
  ptzSpeed := by decide

/-- What every configuration of a command line keeps. -/
theorem sound_of_parseArgs {argv : List CStr} {config : Config} (h : parseArgs argv = .ok config) :
    Sound config := by
  obtain ⟨config', hread, hrest⟩ := Except.exists_of_bind_eq_ok h
  have hargs : ∀ arg ∈ argv.map Subtype.val, 0 ∉ arg := by
    intro arg harg
    obtain ⟨a, -, rfl⟩ := List.mem_map.mp harg
    exact a.2
  have hsound := readOptions_sound hargs sound_default hread
  cases hcomplaint : complaint config' with
  | some message => rw [hcomplaint] at hrest; cases hrest
  | none =>
    rw [hcomplaint] at hrest
    obtain rfl := Except.ok.inj hrest
    exact hsound

end CommandLine

/-! ### The two lists -/

/-- The scopes that discovery means to announce. -/
def announcedScopes (config : Config) : List Bytes :=
  [bytes "onvif://www.onvif.org/name/" ++ config.deviceName,
    bytes "onvif://www.onvif.org/hardware/" ++ config.hardwareId,
    bytes "onvif://www.onvif.org/type/video_encoder",
    bytes "onvif://www.onvif.org/type/NetworkVideoTransmitter",
    bytes "onvif://www.onvif.org/location/country/Korea"]

/-- Discovery announces five scopes, and those of `GetScopes` are among them. -/
def ScopesAgree (config : Config) : Prop :=
  (items (discoveryScopes config)).length = 5 ∧
    ∀ scope ∈ fillScopesResponse config, scope.scopeItem ∈ items (discoveryScopes config)

theorem items_discoveryScopes {config : Config}
    (hname : ∀ c ∈ config.deviceName, isXmlSpace c = false)
    (hhardware : ∀ c ∈ config.hardwareId, isXmlSpace c = false) :
    items (discoveryScopes config) = announcedScopes config := by
  have hplain : ∀ s : String, (bytes s).all (isXmlSpace · = false) = true →
      ∀ c ∈ bytes s, isXmlSpace c = false := fun s => List.all_iff_forall_prop.mp
  have hhardwareId : bytes " onvif://www.onvif.org/hardware/" =
      32 :: bytes "onvif://www.onvif.org/hardware/" := by decide
  have hencoder : bytes " onvif://www.onvif.org/type/video_encoder" =
      32 :: bytes "onvif://www.onvif.org/type/video_encoder" := by decide
  have htransmitter : bytes " onvif://www.onvif.org/type/NetworkVideoTransmitter" =
      32 :: bytes "onvif://www.onvif.org/type/NetworkVideoTransmitter" := by decide
  have hcountry : bytes " onvif://www.onvif.org/location/country/Korea" =
      32 :: bytes "onvif://www.onvif.org/location/country/Korea" := by decide
  have hsplit : discoveryScopes config =
      (bytes "onvif://www.onvif.org/name/" ++ config.deviceName) ++
        32 :: ((bytes "onvif://www.onvif.org/hardware/" ++ config.hardwareId) ++
        32 :: (bytes "onvif://www.onvif.org/type/video_encoder" ++
        32 :: (bytes "onvif://www.onvif.org/type/NetworkVideoTransmitter" ++
        32 :: bytes "onvif://www.onvif.org/location/country/Korea"))) := by
    simp only [discoveryScopes, hhardwareId, hencoder, htransmitter, hcountry, List.append_assoc,
      List.cons_append]
  have hne : ∀ {a : Bytes}, a ≠ [] → ∀ b : Bytes, a ++ b ≠ [] := fun h b =>
    List.append_ne_nil_of_left_ne_nil h b
  rw [hsplit, items_append_cons (List.forall_mem_append.mpr ⟨hplain _ (by decide), hname⟩)
      (hne (by decide) _) rfl,
    items_append_cons (List.forall_mem_append.mpr ⟨hplain _ (by decide), hhardware⟩)
      (hne (by decide) _) rfl,
    items_append_cons (hplain _ (by decide)) (by decide) rfl,
    items_append_cons (hplain _ (by decide)) (by decide) rfl,
    items_eq_singleton (hplain _ (by decide)) (by decide)]
  rfl

/-- The items of `GetScopes`, whole because an argument holds no NUL. -/
theorem mem_fillScopesResponse {config : Config} (h : CommandLine.Sound config) (scope : Scope) :
    scope ∈ fillScopesResponse config ↔
      scope = ⟨bytes "Fixed", bytes "onvif://www.onvif.org/name/" ++ config.deviceName⟩ ∨
      scope = ⟨bytes "Fixed", bytes "onvif://www.onvif.org/hardware/" ++ config.hardwareId⟩ := by
  have hname : 0 ∉ bytes "onvif://www.onvif.org/name/" ++ config.deviceName := by
    rw [List.mem_append, not_or]
    exact ⟨by decide, h.texts _ (by simp [Config.texts])⟩
  have hhardware : 0 ∉ bytes "onvif://www.onvif.org/hardware/" ++ config.hardwareId := by
    rw [List.mem_append, not_or]
    exact ⟨by decide, h.texts _ (by simp [Config.texts])⟩
  rw [fillScopesResponse, List.map_cons, List.map_singleton, cString_of_notMem hname,
    cString_of_notMem hhardware, List.mem_cons, List.mem_singleton]

/-- The scopes that discovery announces and those of `GetScopes` agree exactly when the name and the
hardware id hold no white space. -/
theorem scopes_iff {argv : List CStr} {config : Config}
    (h : CommandLine.parseArgs argv = .ok config) :
    ScopesAgree config ↔ ∀ c ∈ config.deviceName ++ config.hardwareId, isXmlSpace c = false := by
  have hmem := mem_fillScopesResponse (CommandLine.sound_of_parseArgs h)
  constructor
  · rintro ⟨-, hitems⟩ c hc
    -- an item of a list holds no white space
    rcases List.mem_append.mp hc with hc | hc
    · exact noSpace_of_mem_items (hitems _ ((hmem _).mpr (Or.inl rfl))) c
        (List.mem_append_right _ hc)
    · exact noSpace_of_mem_items (hitems _ ((hmem _).mpr (Or.inr rfl))) c
        (List.mem_append_right _ hc)
  · intro hspace
    have hitems := items_discoveryScopes (fun c hc => hspace c (List.mem_append_left _ hc))
      fun c hc => hspace c (List.mem_append_right _ hc)
    rw [ScopesAgree, hitems]
    refine ⟨rfl, fun scope hscope => ?_⟩
    rcases (hmem scope).mp hscope with rfl | rfl
    · exact List.mem_cons_self ..
    · exact List.mem_cons_of_mem _ (List.mem_cons_self ..)

/-- `--device-name lobby-camera --hardware-id AR0234/2`: names that the list of scopes can hold. -/
theorem scopes_iff_lobby : ∃ config, CommandLine.parseArgs
      [⟨bytes "--device-name", by decide⟩, ⟨bytes "lobby-camera", by decide⟩,
        ⟨bytes "--hardware-id", by decide⟩, ⟨bytes "AR0234/2", by decide⟩] = .ok config ∧
    config.deviceName = bytes "lobby-camera" ∧ config.hardwareId = bytes "AR0234/2" ∧
    ScopesAgree config := by
  have hargs : CommandLine.parseArgs
      [⟨bytes "--device-name", by decide⟩, ⟨bytes "lobby-camera", by decide⟩,
        ⟨bytes "--hardware-id", by decide⟩, ⟨bytes "AR0234/2", by decide⟩] =
      .ok { deviceName := bytes "lobby-camera", hardwareId := bytes "AR0234/2" } := by
    decide
  exact ⟨_, hargs, rfl, rfl, (scopes_iff hargs).mpr (List.all_iff_forall_prop.mp (by decide))⟩

/-- `--device-name "my camera"`, which is announced as two scopes. -/
theorem not_scopesAgree_blank :
    CommandLine.parseArgs [⟨bytes "--device-name", by decide⟩, ⟨bytes "my camera", by decide⟩] =
        .ok { deviceName := bytes "my camera" } ∧
      (items (discoveryScopes { deviceName := bytes "my camera" })).length = 6 ∧
      ¬ScopesAgree { deviceName := bytes "my camera" } := by
  have hlength : (items (discoveryScopes { deviceName := bytes "my camera" })).length = 6 := by
    decide
  refine ⟨by decide, hlength, fun h => ?_⟩
  have hfive := h.1
  rw [hlength] at hfive
  cases hfive

end Afterveda.Onvif
