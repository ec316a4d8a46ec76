import Afterveda.Onvif.MediaModel
import Afterveda.Rail.Equiv.Stored

/-!
# The two ends of the control API

What the client of the ONVIF server reads in rail-media's documents is what rail-media stores
(`read_profileJson`, `read_imagingJson`, `read_osdJson`), and a body the client writes names the
settings it was made of (`update_configRequest`, `update_imagingRequest`, `update_osdRequest`).
Integers and texts come through unchanged, image settings with six significant digits, as they are
read again (`Precision.reread`).
-/

namespace Afterveda.Onvif

open CText CNumber JsonGlib Rail

variable {T : Type} {points : MountPoints T} {parse : Parser} {precision : Precision}

/-! ### Markers -/

/-- Text apart from the marker is skipped. -/
theorem afterMarker_skip {key pre : Bytes} (h : Apart (jsonMarker key) pre) (s : Bytes) :
    afterMarker (pre ++ s) key = afterMarker s key := by
  unfold afterMarker
  rw [find_append h, Option.map_map]
  congr 1
  funext pos
  show (pre ++ s).drop (pos + pre.length + _) = s.drop (pos + _)
  rw [show pos + pre.length + (jsonMarker key).length =
    pre.length + (pos + (jsonMarker key).length) by omega, ← List.drop_drop, List.drop_left]

/-- The marker is found in the literal that holds it. -/
theorem afterMarker_here {key lit pre post : Bytes} (hlit : lit = pre ++ (jsonMarker key ++ post))
    (h : Apart (jsonMarker key) pre) (s : Bytes) :
    afterMarker (lit ++ s) key = some (post ++ s) := by
  rw [hlit, List.append_assoc, afterMarker_skip h, List.append_assoc]
  unfold afterMarker
  rw [find_here, Option.map_some, Nat.zero_add, List.drop_left]

theorem apart_formatDouble (needle : Bytes) (x : Double) :
    Apart (34 :: needle) (formatDouble x) := by
  apply apart_of_forall_ne
  rintro c hc rfl
  rcases mem_formatDouble hc with h | h <;> exact absurd h (by decide)

/-! ### Values -/

theorem jsonInt_eq {json key : Bytes} {n : ℤ} (hn : IsInt32 n)
    (h : ∃ rest, afterMarker json key = some ([32] ++ (toDecimal n ++ rest)) ∧ NoDigitHead rest)
    (fallback : ℤ) : jsonInt json key fallback = n := by
  obtain ⟨rest, h, hrest⟩ := h
  have hlong : -2 ^ 63 ≤ n ∧ n < 2 ^ 63 := by
    unfold IsInt32 at hn
    omega
  rw [jsonInt, h, Option.bind_some, List.singleton_append, strtol_space (by decide),
    strtol_toDecimal n hlong hrest]
  exact wrap32_of_isInt32 hn

/-- Printing and reading keeps a level in its range. -/
theorem isLevel_reread {x : Double} (h : IsLevel x) : IsLevel (precision.reread x) := by
  obtain ⟨q, rfl, h0, h100⟩ := h
  obtain ⟨hlow, hhigh⟩ := round6_mem (k := 2) h0 (by norm_num; exact h100)
  norm_num at hhigh
  have hbound : |round6 q| < 2 ^ 53 := by
    rw [abs_of_nonneg hlow]
    linarith
  refine ⟨precision.round (round6 q), rfl, ?_, ?_⟩
  · exact_mod_cast intCast_le_round precision (n := 0) hbound (by exact_mod_cast hlow)
  · exact_mod_cast round_le_intCast precision (n := 100) hbound (by exact_mod_cast hhigh)

theorem abs_round6_lt {q : ℚ} (h : IsLevel (.finite q)) : |round6 q| < 2 ^ 53 := by
  obtain ⟨r, hr, h0, h100⟩ := h
  obtain rfl := Double.finite.inj hr
  obtain ⟨hlow, hhigh⟩ := round6_mem (k := 2) h0 (by norm_num; exact h100)
  norm_num at hhigh
  rw [abs_of_nonneg hlow]
  linarith

theorem jsonDouble_eq {json key : Bytes} {x : Double} (hx : IsLevel x)
    (h : ∃ rest, afterMarker json key = some (formatDouble x ++ rest) ∧ NumberEnd rest)
    (fallback : Double) : jsonDouble precision json key fallback = precision.reread x := by
  obtain ⟨rest, h, hrest⟩ := h
  obtain ⟨q, rfl, -⟩ := id hx
  rw [jsonDouble, h, Option.bind_some,
    strtod_formatDouble (lt_doubleBound (abs_round6_lt hx)) hrest]
  rfl

theorem jsonBool_eq {json key rest : Bytes} {b fallback : Bool}
    (h : afterMarker json key =
      some ([32] ++ ((if b then bytes "true" else bytes "false") ++ rest))) :
    jsonBool json key fallback = b := by
  rw [jsonBool, h]
  cases b with
  | true => exact if_pos (List.prefix_append _ _)
  | false =>
    have hne : ¬bytes "true" <+: bytes "false" ++ rest := by
      intro hpre
      exact absurd (List.cons_prefix_cons.mp hpre).1 (by decide)
    exact (if_neg hne).trans (if_pos (List.prefix_append _ _))

theorem jsonString_eq {json key value rest fallback : Bytes}
    (h : afterMarker json key = some ([32, 34] ++ (backslashEscape value ++ 34 :: rest))) :
    jsonString json key fallback = value := by
  have hapart : Apart [34] [32] := by decide
  have hfind : find ([32, 34] ++ (backslashEscape value ++ 34 :: rest)) [34] = some 1 :=
    find_at hapart _
  have hread : readQuoted (([32, 34] ++ (backslashEscape value ++ 34 :: rest)).drop (1 + 1)) =
      some (value, rest) :=
    readQuoted_backslashEscape value rest
  rw [jsonString, h]
  dsimp only
  rw [hfind]
  dsimp only
  rw [hread]

/-! ### Documents -/

/-- The video settings of a configuration as a profile of the media model. -/
def profileOf (config : Rail.Config) : VideoProfile where
  token := bytes "main"
  name := bytes "main"
  width := config.width
  height := config.height
  fps := config.fps
  bitrateKbps := config.bitrateKbps

/-- The name of the profile ends in a quote and is skipped together with the text before it. -/
theorem profileJson_main {config : Rail.Config} (h : config.profile = bytes "main") :
    profileJson config =
      (bytes "\x7b\n  \"profile\": \"" ++ Rail.jsonEscape (bytes "main")) ++
        (bytes "\",\n  \"width\": " ++ (toDecimal config.width ++
        (bytes ",\n  \"height\": " ++ (toDecimal config.height ++
        (bytes ",\n  \"fps\": " ++ (toDecimal config.fps ++
        (bytes ",\n  \"bitrate_kbps\": " ++ (toDecimal config.bitrateKbps ++
        (bytes ",\n  \"encoder\": \"" ++
          (Rail.jsonEscape config.encoder ++ bytes "\"\n\x7d\n")))))))))) := by
  rw [profileJson, h, ← List.append_assoc]

theorem afterMarker_width {config : Rail.Config} (h : config.profile = bytes "main") :
    ∃ rest, afterMarker (profileJson config) (bytes "width") =
      some ([32] ++ (toDecimal config.width ++ rest)) ∧ NoDigitHead rest := by
  rw [profileJson_main h, afterMarker_skip (by decide), afterMarker_here (show
    bytes "\",\n  \"width\": " = bytes "\",\n  " ++ (jsonMarker (bytes "width") ++ [32]) by decide)
    (by decide)]
  exact ⟨_, rfl, NoDigitHead.append (by decide) (by decide) _⟩

theorem afterMarker_height {config : Rail.Config} (h : config.profile = bytes "main") :
    ∃ rest, afterMarker (profileJson config) (bytes "height") =
      some ([32] ++ (toDecimal config.height ++ rest)) ∧ NoDigitHead rest := by
  rw [profileJson_main h, afterMarker_skip (by decide), afterMarker_skip (by decide),
    afterMarker_skip (apart_toDecimal _ _), afterMarker_here (show
    bytes ",\n  \"height\": " = bytes ",\n  " ++ (jsonMarker (bytes "height") ++ [32]) by decide)
    (by decide)]
  exact ⟨_, rfl, NoDigitHead.append (by decide) (by decide) _⟩

theorem afterMarker_fps {config : Rail.Config} (h : config.profile = bytes "main") :
    ∃ rest, afterMarker (profileJson config) (bytes "fps") =
      some ([32] ++ (toDecimal config.fps ++ rest)) ∧ NoDigitHead rest := by
  rw [profileJson_main h, afterMarker_skip (by decide), afterMarker_skip (by decide),
    afterMarker_skip (apart_toDecimal _ _), afterMarker_skip (by decide),
    afterMarker_skip (apart_toDecimal _ _), afterMarker_here (show
    bytes ",\n  \"fps\": " = bytes ",\n  " ++ (jsonMarker (bytes "fps") ++ [32]) by decide)
    (by decide)]
  exact ⟨_, rfl, NoDigitHead.append (by decide) (by decide) _⟩

theorem afterMarker_bitrateKbps {config : Rail.Config} (h : config.profile = bytes "main") :
    ∃ rest, afterMarker (profileJson config) (bytes "bitrate_kbps") =
      some ([32] ++ (toDecimal config.bitrateKbps ++ rest)) ∧ NoDigitHead rest := by
  rw [profileJson_main h, afterMarker_skip (by decide), afterMarker_skip (by decide),
    afterMarker_skip (apart_toDecimal _ _), afterMarker_skip (by decide),
    afterMarker_skip (apart_toDecimal _ _), afterMarker_skip (by decide),
    afterMarker_skip (apart_toDecimal _ _), afterMarker_here (show
    bytes ",\n  \"bitrate_kbps\": " =
      bytes ",\n  " ++ (jsonMarker (bytes "bitrate_kbps") ++ [32]) by decide) (by decide)]
  exact ⟨_, rfl, NoDigitHead.append (by decide) (by decide) _⟩

theorem read_profileJson {config : Rail.Config} (h : Stored config) {profile : VideoProfile}
    (htoken : profile.token = bytes "main") (hname : profile.name = bytes "main") :
    profile.read (profileJson config) = profileOf config := by
  rw [VideoProfile.read, jsonInt_eq h.width (afterMarker_width h.profile),
    jsonInt_eq h.height (afterMarker_height h.profile),
    jsonInt_eq h.fps (afterMarker_fps h.profile),
    jsonInt_eq h.bitrateKbps (afterMarker_bitrateKbps h.profile), htoken, hname]
  rfl

/-- The image settings of a configuration as they are read from its document. -/
def imagingOf (precision : Precision) (config : Rail.Config) : ImageSettings where
  brightness := precision.reread config.brightness
  contrast := precision.reread config.contrast
  colorSaturation := precision.reread config.colorSaturation

theorem afterMarker_brightness (config : Rail.Config) :
    ∃ rest, afterMarker (imagingJson config) (bytes "brightness") =
      some (formatDouble config.brightness ++ rest) ∧ NumberEnd rest := by
  rw [imagingJson, afterMarker_here (show bytes "\x7b\"brightness\":" =
    bytes "\x7b" ++ (jsonMarker (bytes "brightness") ++ []) by decide) (by decide)]
  exact ⟨_, rfl, NumberEnd.append (by decide) (by decide) _⟩

theorem afterMarker_contrast (config : Rail.Config) :
    ∃ rest, afterMarker (imagingJson config) (bytes "contrast") =
      some (formatDouble config.contrast ++ rest) ∧ NumberEnd rest := by
  rw [imagingJson, afterMarker_skip (by decide), afterMarker_skip (apart_formatDouble _ _),
    afterMarker_here (show bytes ",\"contrast\":" =
      bytes "," ++ (jsonMarker (bytes "contrast") ++ []) by decide) (by decide)]
  exact ⟨_, rfl, NumberEnd.append (by decide) (by decide) _⟩

theorem afterMarker_colorSaturation (config : Rail.Config) :
    ∃ rest, afterMarker (imagingJson config) (bytes "color_saturation") =
      some (formatDouble config.colorSaturation ++ rest) ∧ NumberEnd rest := by
  rw [imagingJson, afterMarker_skip (by decide), afterMarker_skip (apart_formatDouble _ _),
    afterMarker_skip (by decide), afterMarker_skip (apart_formatDouble _ _),
    afterMarker_here (show bytes ",\"color_saturation\":" =
      bytes "," ++ (jsonMarker (bytes "color_saturation") ++ []) by decide) (by decide)]
  exact ⟨_, rfl, by decide⟩

theorem read_imagingJson {config : Rail.Config} (h : Stored config) (settings : ImageSettings) :
    settings.read precision (imagingJson config) = imagingOf precision config := by
  rw [ImageSettings.read, jsonDouble_eq h.brightness (afterMarker_brightness config),
    jsonDouble_eq h.contrast (afterMarker_contrast config),
    jsonDouble_eq h.colorSaturation (afterMarker_colorSaturation config)]
  rfl

/-- The on-screen text of a configuration. -/
def osdOf (config : Rail.Config) : OsdSettings where
  enabled := config.osdEnabled
  text := config.osdText

/-- A flag holds no quote, so it holds no marker. -/
theorem apart_flag (needle : Bytes) (b : Bool) :
    Apart (34 :: needle) (if b then bytes "true" else bytes "false") := by
  apply apart_of_forall_ne
  rintro c hc rfl
  cases b <;> exact absurd hc (by decide)

theorem afterMarker_enabled (config : Rail.Config) :
    afterMarker (osdJson config) (bytes "enabled") =
      some ([32] ++ ((if config.osdEnabled then bytes "true" else bytes "false") ++
        (bytes ",\n  \"text\": \"" ++
          (Rail.jsonEscape config.osdText ++ bytes "\"\n\x7d\n")))) := by
  rw [osdJson, afterMarker_here (show bytes "\x7b\n  \"enabled\": " =
    bytes "\x7b\n  " ++ (jsonMarker (bytes "enabled") ++ [32]) by decide) (by decide)]

/-- The key of the text stands before the text, so the first occurrence of its marker is the key,
whatever the text holds. -/
theorem afterMarker_text (config : Rail.Config) :
    afterMarker (osdJson config) (bytes "text") =
      some ([32, 34] ++ (backslashEscape config.osdText ++ 34 :: bytes "\n\x7d\n")) := by
  rw [osdJson, afterMarker_skip (by decide), afterMarker_skip (apart_flag _ _),
    afterMarker_here (show bytes ",\n  \"text\": \"" =
      bytes ",\n  " ++ (jsonMarker (bytes "text") ++ [32, 34]) by decide) (by decide)]
  rfl

theorem read_osdJson (config : Rail.Config) (settings : OsdSettings) :
    settings.read (osdJson config) = osdOf config := by
  rw [OsdSettings.read, jsonBool_eq (afterMarker_enabled config),
    jsonString_eq (afterMarker_text config)]
  rfl

/-- **The document of the OSD**: whatever the text holds and whatever the fallbacks are, the readers
of the client get the flag and the text the document was made of. -/
theorem readers_osdJson (config : Rail.Config) (enabled fallback : Bool) (text other : Bytes) :
    jsonBool (osdJson { config with osdEnabled := enabled, osdText := text }) (bytes "enabled")
        fallback = enabled ∧
      jsonString (osdJson { config with osdEnabled := enabled, osdText := text }) (bytes "text")
        other = text := by
  constructor
  · exact jsonBool_eq (afterMarker_enabled _)
  · exact jsonString_eq (afterMarker_text _)

/-- A text that looks like the members of the document. -/
example :
    jsonString (osdJson { osdText := bytes "\"enabled\":false,\"text\":\"\\" }) (bytes "text") [] =
      bytes "\"enabled\":false,\"text\":\"\\" := by
  decide

/-! ### Bodies -/

/-- The members of the body `set_video_config` sends. -/
def VideoProfile.members (profile : VideoProfile) : List (Bytes × Scalar) :=
  [(bytes "width", .int profile.width), (bytes "height", .int profile.height),
    (bytes "fps", .int profile.fps), (bytes "bitrate_kbps", .int profile.bitrateKbps)]

/-- The members of the body `set_imaging_settings` sends. -/
def imagingMembers (brightness contrast saturation : ℚ) : List (Bytes × Scalar) :=
  [(bytes "brightness", .real brightness), (bytes "contrast", .real contrast),
    (bytes "color_saturation", .real saturation)]

/-- The members of the body `set_osd_settings` sends. -/
def OsdSettings.members (settings : OsdSettings) : List (Bytes × Scalar) :=
  osdMembers .boolean .string settings.enabled settings.text

theorem videoConfigBody_eq (profile : VideoProfile) :
    videoConfigBody profile = objectText profile.members := by
  simp only [videoConfigBody, VideoProfile.members, objectText, membersText, memberText,
    Scalar.text, List.append_assoc, List.cons_append]
  rfl

theorem imagingBody_eq (b c d : ℚ) :
    imagingBody ⟨.finite b, .finite c, .finite d⟩ = objectText (imagingMembers b c d) := by
  simp only [imagingBody, imagingMembers, objectText, membersText, memberText, Scalar.text,
    List.append_assoc, List.cons_append]
  rfl

theorem osdBody_eq (settings : OsdSettings) : osdBody settings = objectText settings.members := by
  simp only [osdBody, OsdSettings.members, osdMembers, objectText, membersText, memberText,
    Scalar.text, List.append_assoc, List.cons_append]
  rfl

/-- The members of a parsed object are those of the list. -/
def Holds (precision : Precision) (ms : List (Bytes × Scalar)) (members : List (Bytes × JsonNode)) :
    Prop :=
  ∀ name, match ms.lookup name with
    | none => getMember members name = none
    | some v => ∃ node, getMember members name = some node ∧ v.Denotes precision node

/-- What json-glib makes of a flat object: it may refuse it for its strings only. -/
theorem parseJsonObject_objectText (hparse : Reads precision parse) {ms : List (Bytes × Scalar)}
    (hne : ms ≠ []) (hplain : ∀ m ∈ ms, PlainMember m) (hnodup : (ms.map Prod.fst).Nodup) :
    (parseJsonObject parse (objectText ms) = none ∧ ∃ m ∈ ms, m.2.isString = true) ∨
      ∃ members, parseJsonObject parse (objectText ms) = some members ∧
        Holds precision ms members := by
  unfold parseJsonObject
  cases hread : parse (objectText ms) with
  | none =>
    left
    refine ⟨rfl, ?_⟩
    by_contra hstring
    refine hparse.accepts ms hne hplain (fun m hm => ?_) hread
    exact Bool.of_not_eq_true fun h => hstring ⟨m, hm, h⟩
  | some node =>
    right
    obtain ⟨members, rfl, hmembers⟩ := hparse.faithful ms node hne hplain hnodup hread
    exact ⟨members, rfl, getMember_of_forall₂ hmembers⟩

section Given

variable {ms : List (Bytes × Scalar)} {members : List (Bytes × JsonNode)}
    (h : Holds precision ms members)
  {name : String}

include h

theorem Holds.getMember {key : Bytes} {v : Scalar} (hkey : ms.lookup key = some v) :
    ∃ node, getMember members key = some node ∧ v.Denotes precision node := by
  have hnode := h key
  rw [hkey] at hnode
  exact hnode

theorem Holds.given_int {n : ℤ} (hname : ms.lookup (bytes name) = some (.int n)) :
    given integerOf members name = some n := by
  obtain ⟨node, hget, rfl⟩ := h.getMember hname
  rw [given, hget]
  rfl

theorem Holds.given_real {q : ℚ} (hname : ms.lookup (bytes name) = some (.real q)) :
    given JsonNode.getDouble members name = some (precision.reread (.finite q)) := by
  obtain ⟨node, hget, hdenotes⟩ := h.getMember hname
  rw [given, hget]
  exact hdenotes

theorem Holds.given_boolean {b : Bool} (hname : ms.lookup (bytes name) = some (.boolean b)) :
    given booleanOf members name = some b := by
  obtain ⟨node, hget, rfl⟩ := h.getMember hname
  rw [given, hget]
  rfl

theorem Holds.given_string {text : Bytes} (hname : ms.lookup (bytes name) = some (.string text)) :
    given textOf members name = some (cString text) := by
  obtain ⟨node, hget, rfl⟩ := h.getMember hname
  rw [given, hget]
  rfl

end Given

/-! ### Requests -/

/-- What `set_video_config` sends. -/
def configRequest (profile : VideoProfile) : Request :=
  ⟨bytes "POST", bytes "/config", videoConfigBody profile⟩

/-- What `set_imaging_settings` sends. -/
def imagingRequest (settings : ImageSettings) : Request :=
  ⟨bytes "POST", bytes "/imaging", imagingBody settings⟩

/-- What `set_osd_settings` sends. -/
def osdRequest (settings : OsdSettings) : Request :=
  ⟨bytes "POST", bytes "/osd", osdBody settings⟩

/-- The settings of rail-media that a profile stands for. -/
def VideoProfile.update (profile : VideoProfile) : Update where
  width := some profile.width
  height := some profile.height
  fps := some profile.fps
  bitrateKbps := some profile.bitrateKbps

/-- The settings of rail-media that image settings stand for once they are printed and read. -/
def ImageSettings.update (precision : Precision) (settings : ImageSettings) : Update where
  brightness := some (precision.reread settings.brightness)
  contrast := some (precision.reread settings.contrast)
  colorSaturation := some (precision.reread settings.colorSaturation)

/-- The settings of rail-media that an on-screen text stands for. -/
def OsdSettings.update (settings : OsdSettings) : Update where
  osdEnabled := some settings.enabled
  osdText := some (cString settings.text)

/-- The numbers of a profile are C integers. -/
structure VideoProfile.Sound (profile : VideoProfile) : Prop where
  width : IsInt32 profile.width
  height : IsInt32 profile.height
  fps : IsInt32 profile.fps
  bitrateKbps : IsInt32 profile.bitrateKbps

/-- The image settings are levels. -/
structure ImageSettings.Sound (settings : ImageSettings) : Prop where
  brightness : IsLevel settings.brightness
  contrast : IsLevel settings.contrast
  colorSaturation : IsLevel settings.colorSaturation

theorem plainName_member : ∀ name ∈ ["width", "height", "fps", "bitrate_kbps", "brightness",
    "contrast", "color_saturation", "enabled", "text"], PlainName (bytes name) := by decide

theorem VideoProfile.plain_members {profile : VideoProfile} (h : profile.Sound) :
    ∀ m ∈ profile.members, PlainMember m := by
  simp only [VideoProfile.members, List.forall_mem_cons]
  exact ⟨⟨plainName_member "width" (by decide), h.width⟩,
    ⟨plainName_member "height" (by decide), h.height⟩,
    ⟨plainName_member "fps" (by decide), h.fps⟩,
    ⟨plainName_member "bitrate_kbps" (by decide), h.bitrateKbps⟩, List.forall_mem_nil _⟩

theorem plain_imagingMembers {b c d : ℚ} (hb : IsLevel (.finite b)) (hc : IsLevel (.finite c))
    (hd : IsLevel (.finite d)) : ∀ m ∈ imagingMembers b c d, PlainMember m := by
  simp only [imagingMembers, List.forall_mem_cons]
  exact ⟨⟨plainName_member "brightness" (by decide), abs_round6_lt hb⟩,
    ⟨plainName_member "contrast" (by decide), abs_round6_lt hc⟩,
    ⟨plainName_member "color_saturation" (by decide), abs_round6_lt hd⟩, List.forall_mem_nil _⟩

theorem OsdSettings.plain_members {settings : OsdSettings} (h : 0 ∉ settings.text) :
    ∀ m ∈ settings.members, PlainMember m := by
  simp only [OsdSettings.members, osdMembers, List.forall_mem_cons]
  exact ⟨⟨plainName_member "enabled" (by decide), trivial⟩,
    ⟨plainName_member "text" (by decide), h⟩, List.forall_mem_nil _⟩

/-- An object of numbers is read. -/
theorem parseJsonObject_numbers (hparse : Reads precision parse) {ms : List (Bytes × Scalar)}
    (hne : ms ≠ []) (hplain : ∀ m ∈ ms, PlainMember m) (hnodup : (ms.map Prod.fst).Nodup)
    (hnumbers : ∀ m ∈ ms, m.2.isString = false) :
    ∃ members, parseJsonObject parse (objectText ms) = some members ∧
      Holds precision ms members := by
  rcases parseJsonObject_objectText hparse hne hplain hnodup with ⟨-, m, hm, hstring⟩ | h
  · rw [hnumbers m hm] at hstring
    cases hstring
  · exact h

theorem parseJsonObject_videoConfigBody (hparse : Reads precision parse) {profile : VideoProfile}
    (h : profile.Sound) : ∃ members,
      parseJsonObject parse (videoConfigBody profile) = some members ∧
        Holds precision profile.members members := by
  rw [videoConfigBody_eq]
  refine parseJsonObject_numbers hparse (List.cons_ne_nil _ _) (VideoProfile.plain_members h) ?_ ?_
  · show [bytes "width", bytes "height", bytes "fps", bytes "bitrate_kbps"].Nodup
    decide
  · simp [VideoProfile.members, Scalar.isString]

theorem Holds.videoUpdate {profile : VideoProfile} {members : List (Bytes × JsonNode)}
    (h : Holds precision profile.members members) : videoUpdate members = profile.update := by
  rw [Rail.videoUpdate, h.given_int rfl, h.given_int rfl, h.given_int rfl, h.given_int rfl]
  rfl

theorem update_configRequest (hparse : Reads precision parse) {profile : VideoProfile}
    (h : profile.Sound) :
    (configRequest profile).update parse = profile.update := by
  obtain ⟨members, hobject, hmembers⟩ := parseJsonObject_videoConfigBody hparse h
  have hroute : (configRequest profile).route = .postConfig := rfl
  rw [Request.update, hroute]
  show ((parseJsonObject parse (videoConfigBody profile)).map videoUpdate).getD {} = _
  rw [hobject, Option.map_some, Option.getD_some, hmembers.videoUpdate]

theorem update_imagingRequest (hparse : Reads precision parse) {settings : ImageSettings}
    (h : settings.Sound) : (imagingRequest settings).update parse = settings.update precision := by
  obtain ⟨brightness, contrast, saturation⟩ := settings
  obtain ⟨hb, hc, hd⟩ := h
  obtain ⟨b, rfl, -⟩ := id hb
  obtain ⟨c, rfl, -⟩ := id hc
  obtain ⟨d, rfl, -⟩ := id hd
  have hroute : (imagingRequest ⟨.finite b, .finite c, .finite d⟩).route = .postImaging := rfl
  have hne : imagingMembers b c d ≠ [] := List.cons_ne_nil _ _
  obtain ⟨members, hobject, hmembers⟩ := parseJsonObject_numbers hparse hne
    (plain_imagingMembers hb hc hd)
    (show [bytes "brightness", bytes "contrast", bytes "color_saturation"].Nodup by decide)
    (by simp [imagingMembers, Scalar.isString])
  rw [Request.update, hroute]
  show ((parseJsonObject parse (imagingBody ⟨.finite b, .finite c, .finite d⟩)).map
    imagingUpdate).getD {} = _
  rw [imagingBody_eq, hobject, Option.map_some, Option.getD_some, imagingUpdate,
    hmembers.given_real rfl, hmembers.given_real rfl, hmembers.given_real rfl]
  rfl

/-- A text json-glib refuses names nothing. -/
theorem update_osdRequest (hparse : Reads precision parse) {settings : OsdSettings}
    (htext : 0 ∉ settings.text) :
    parseJsonObject parse (osdBody settings) = none ∨
      (osdRequest settings).update parse = settings.update := by
  have hroute : (osdRequest settings).route = .postOsd := rfl
  have hnodup : (settings.members.map Prod.fst).Nodup :=
    show [bytes "enabled", bytes "text"].Nodup by decide
  rw [Request.update, hroute]
  show _ ∨ ((parseJsonObject parse (osdBody settings)).map osdUpdate).getD {} = _
  rw [osdBody_eq]
  have hne : settings.members ≠ [] := List.cons_ne_nil _ _
  rcases parseJsonObject_objectText hparse hne (OsdSettings.plain_members htext) hnodup with
    ⟨hrefused, -⟩ | ⟨members, hobject, hmembers⟩
  · exact Or.inl hrefused
  · right
    rw [hobject, Option.map_some, Option.getD_some, osdUpdate, hmembers.given_boolean rfl,
      hmembers.given_string rfl]
    rfl

/-! ### What rail-media accepts -/

theorem profileOf_sound {config : Rail.Config} (h : Stored config) : (profileOf config).Sound :=
  ⟨h.width, h.height, h.fps, h.bitrateKbps⟩

theorem imagingOf_sound {config : Rail.Config} (h : Stored config) :
    (imagingOf precision config).Sound :=
  ⟨isLevel_reread h.brightness, isLevel_reread h.contrast, isLevel_reread h.colorSaturation⟩

/-- A positive integer is one that rail-media reads. -/
theorem Holds.readJsonInt {ms : List (Bytes × Scalar)} {members : List (Bytes × JsonNode)}
    (h : Holds precision ms members) {name : Bytes} {n : ℤ} (hname : ms.lookup name = some (.int n))
    (hpos : 0 < n) (hn : IsInt32 n) : readJsonInt members name = .ok (some n) := by
  obtain ⟨node, hget, rfl⟩ := h.getMember hname
  have hrange : ¬(n ≤ 0 ∨ 2 ^ 31 - 1 < n) := by
    unfold IsInt32 at hn
    omega
  simp only [Rail.readJsonInt, readJson, hget, intValue, if_neg hrange]

/-- The configuration that the video settings of a profile lead to. -/
theorem videoConfigFromJson_videoConfigBody (hparse : Reads precision parse)
    {profile : VideoProfile}
    (h : profile.Sound) (hpos : 0 < profile.width ∧ 0 < profile.height ∧ 0 < profile.fps ∧
      0 < profile.bitrateKbps) (current : Rail.Config) :
    videoConfigFromJson parse (videoConfigBody profile) current =
      .ok { profile.update.apply current with profile := bytes "main" } := by
  obtain ⟨members, hobject, hmembers⟩ := parseJsonObject_videoConfigBody hparse h
  obtain ⟨hwidth, hheight, hfps, hbitrate⟩ := hpos
  have hw : readJsonInt members (bytes "width") = .ok (some profile.width) :=
    hmembers.readJsonInt rfl hwidth h.width
  have hh : readJsonInt members (bytes "height") = .ok (some profile.height) :=
    hmembers.readJsonInt rfl hheight h.height
  have hf : readJsonInt members (bytes "fps") = .ok (some profile.fps) :=
    hmembers.readJsonInt rfl hfps h.fps
  have hb : readJsonInt members (bytes "bitrate_kbps") = .ok (some profile.bitrateKbps) :=
    hmembers.readJsonInt rfl hbitrate h.bitrateKbps
  rw [videoConfigFromJson, hobject]
  dsimp only
  rw [hw, hh, hf, hb]
  rfl

variable (points) in
/-- rail-media accepts the video settings of a profile exactly when they are in its dynamic range.
-/
theorem status_configRequest (hparse : Reads precision parse) {profile : VideoProfile}
    (h : profile.Sound) {s : MediaServer T} (hs : Stored s.current) (uptime : ℤ) :
    (handleRequest points parse uptime (configRequest profile) s).1.status = 200 ↔
      supportedDynamicVideoConfig (profile.update.apply s.current) = true := by
  have hroute : (configRequest profile).route = .postConfig := rfl
  have hbody : (configRequest profile).body = videoConfigBody profile := rfl
  let next : Rail.Config := { profile.update.apply s.current with profile := bytes "main" }
  have hdecides : (respond 500 (setVideoConfigNow points next s)).1.status = 200 ↔
      supportedDynamicVideoConfig (profile.update.apply s.current) = true :=
    (respond_status (by decide) _).trans (setVideoConfigNow_iff hs.encoder)
  rw [handleRequest, hroute, hbody]
  dsimp only
  constructor
  · -- an accepted body was read, and what was read are the settings of the profile
    intro hstatus
    cases hnext : videoConfigFromJson parse (videoConfigBody profile) s.current with
    | error e =>
      rw [hnext] at hstatus
      exact absurd (show (400 : ℤ) = 200 from hstatus) (by decide)
    | ok next =>
      rw [hnext] at hstatus
      obtain ⟨members, hobject, hmembers⟩ := parseJsonObject_videoConfigBody hparse h
      obtain ⟨members', hobject', rfl⟩ := videoConfigFromJson_ok hnext
      obtain rfl := Option.some.inj (hobject.symm.trans hobject')
      rw [hmembers.videoUpdate] at hstatus
      exact hdecides.mp hstatus
  · -- settings in the range are positive, as the reader of the body wants them
    intro hrange
    have hpos : 0 < profile.width ∧ 0 < profile.height ∧ 0 < profile.fps ∧
        0 < profile.bitrateKbps := by
      obtain ⟨hsize, hfps, hlow, hhigh⟩ := supportedDynamicVideoConfig_iff.mp hrange
      simp only [Update.apply, VideoProfile.update, Option.getD_some] at hsize hfps hlow hhigh
      omega
    rw [videoConfigFromJson_videoConfigBody hparse h hpos]
    exact hdecides.mpr hrange

end Afterveda.Onvif
