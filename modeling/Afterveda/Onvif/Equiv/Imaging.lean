import Afterveda.Onvif.Equiv.Video

/-!
# Setting the image and reading it back

`SetImagingSettings` sends three levels to rail-media, those of the request and the others as it
read them, and `GetImagingSettings` reads all three.  On the way every level is printed with six
significant digits and read again.  `imaging_set_then_get` says what is left of the law that a set
level is read back: it holds for the levels with no more digits.
-/

namespace Afterveda.Onvif

open CText CNumber JsonGlib Rail Soap

variable {T : Type} {points : MountPoints T} {parse : Parser} {precision : Precision} {uptime : ℤ}
  {other : (c : Call) → c.Answer}

/-! ### rail-media takes every level -/

theorem Holds.readJsonDouble {ms : List (Bytes × Scalar)} {members : List (Bytes × JsonNode)}
    (h : Holds precision ms members) {name : Bytes} {q : ℚ}
    (hname : ms.lookup name = some (.real q)) (hlevel : IsLevel (.finite q)) :
    Rail.readJsonDouble members name = .ok (some (precision.reread (.finite q))) := by
  obtain ⟨node, hget, hdenotes⟩ := h.getMember hname
  have hreread : IsLevel (precision.reread (.finite q)) := isLevel_reread hlevel
  obtain ⟨r, hr, hlow, hhigh⟩ := hreread
  have hdouble : node.getDouble = some (.finite r) := hdenotes.trans (congrArg some hr)
  have hvalue : doubleValue node = some (.finite r) := by
    rw [doubleValue, hdouble]
    exact if_neg (not_or.mpr ⟨not_lt.mpr hlow, not_lt.mpr hhigh⟩)
  rw [hr]
  simp only [Rail.readJsonDouble, readJson, hget, hvalue]

/-- The configuration that image settings lead to. -/
theorem imagingFromJson_imagingBody (hparse : Reads precision parse) {settings : ImageSettings}
    (h : settings.Sound) (current : Rail.Config) :
    imagingFromJson parse (imagingBody settings) current =
      .ok ((settings.update precision).apply current) := by
  obtain ⟨brightness, contrast, saturation⟩ := settings
  obtain ⟨hb, hc, hd⟩ := h
  obtain ⟨b, rfl, -⟩ := id hb
  obtain ⟨c, rfl, -⟩ := id hc
  obtain ⟨d, rfl, -⟩ := id hd
  obtain ⟨members, hobject, hmembers⟩ := parseJsonObject_numbers hparse
    (show imagingMembers b c d ≠ [] from List.cons_ne_nil _ _) (plain_imagingMembers hb hc hd)
    (show [bytes "brightness", bytes "contrast", bytes "color_saturation"].Nodup by decide)
    (by simp [imagingMembers, Scalar.isString])
  have hbrightness : Rail.readJsonDouble members (bytes "brightness") = _ :=
    hmembers.readJsonDouble rfl hb
  have hcontrast : Rail.readJsonDouble members (bytes "contrast") = _ :=
    hmembers.readJsonDouble rfl hc
  have hsaturation : Rail.readJsonDouble members (bytes "color_saturation") = _ :=
    hmembers.readJsonDouble rfl hd
  rw [imagingBody_eq, imagingFromJson, hobject]
  dsimp only
  rw [hbrightness, hcontrast, hsaturation]
  rfl

variable (points uptime) in
/-- rail-media accepts image settings and stores them as they were printed. -/
theorem handleRequest_imagingRequest (hparse : Reads precision parse) {settings : ImageSettings}
    (h : settings.Sound) {s : MediaServer T} (hs : Stored s.current) :
    (handleRequest points parse uptime (imagingRequest settings) s).1.status = 200 ∧
      (handleRequest points parse uptime (imagingRequest settings) s).2.current =
        (settings.update precision).apply s.current := by
  have hroute : (imagingRequest settings).route = .postImaging := rfl
  have hbody : (imagingRequest settings).body = imagingBody settings := rfl
  have hstatus : (handleRequest points parse uptime (imagingRequest settings) s).1.status =
      200 := by
    rw [handleRequest, hroute, hbody]
    dsimp only
    rw [imagingFromJson_imagingBody hparse h]
    rfl
  refine ⟨hstatus, ?_⟩
  rw [handleRequest_current uptime _ hs.profile, if_pos hstatus, update_imagingRequest hparse h]

/-! ### The two operations -/

theorem run_setImagingSettings (hparse : Reads precision parse) {settings : ImageSettings}
    (h : settings.Sound) {s : MediaServer T} (hs : Stored s.current) :
    (setImagingSettings settings >>= checkError).run (railHost points parse uptime other) s =
      (.ok (), (handleRequest points parse uptime (imagingRequest settings) s).2) := by
  have hstatus : (handleRequest points parse uptime (imagingRequest settings) s).1.status = 200 :=
    (handleRequest_imagingRequest points uptime hparse h hs).1
  obtain ⟨error, hset, herror⟩ : ∃ error,
      (setImagingSettings settings).run (railHost points parse uptime other) s =
        (.ok error, (handleRequest points parse uptime (imagingRequest settings) s).2) ∧
      error = [] := by
    refine ⟨_, rfl, (setterError_eq_nil (by decide) _).mpr ?_⟩
    rw [RailHttpResponse.ok, Bool.and_eq_true, decide_eq_true_eq, decide_eq_true_eq]
    exact (handleRequest_ok_iff points parse uptime (imagingRequest settings) s).mpr hstatus
  rw [Prog.run_bind, hset, herror]
  rfl

theorem validateVideoSourceToken_done {token : CStr} (h : token.val = kVideoSourceToken) :
    validateVideoSourceToken (some token) = .done () := by
  have hvalue : stringValue (some token) = kVideoSourceToken := h
  rw [validateVideoSourceToken, hvalue, if_neg (by decide), if_neg (not_not.mpr rfl)]
  rfl

theorem requireSetting_of_isLevel {value : Option Double} (h : ∀ x ∈ value, IsLevel x)
    (invalid : Bytes) : requireSetting value invalid = .done () := by
  have hvalid : validSetting value = true := by
    cases value with
    | none => rfl
    | some x =>
      obtain ⟨q, rfl, hlow, hhigh⟩ := h x rfl
      show (true && decide (0 ≤ q) && decide (q ≤ 100)) = true
      simp [hlow, hhigh]
  rw [requireSetting, if_pos hvalid]
  rfl

/-- What `GetImagingSettings` answers while rail-media has a configuration. -/
theorem run_timgGetImagingSettings {ctx : Context} (hauth : requireAuth ctx = .ok ()) {token : CStr}
    (htoken : token.val = kVideoSourceToken) {s : MediaServer T} (hs : Stored s.current) :
    (timgGetImagingSettings precision ctx (some ⟨some token⟩)).run
        (railHost points parse uptime other) s =
      (.ok (fillSettingsResponse (imagingOf precision s.current)), s) := by
  have hread : (imagingSettingsFromRail precision).run (railHost points parse uptime other) s =
      (.ok (imagingOf precision s.current), s) := by
    rw [imagingSettingsFromRail_eq]
    refine (run_getThen_rail (.imaging none) _ s).trans ?_
    rw [Change.answer, Change.document, imagingRead_answer hs]
    rfl
  have hcheck := validateVideoSourceToken_done htoken
  show (authenticate ctx >>= fun _ => validateVideoSourceToken (some token) >>= fun _ =>
    imagingSettingsFromRail precision >>= fun settings =>
      return fillSettingsResponse settings).run _ s = _
  rw [authenticate, hauth, hcheck]
  show (imagingSettingsFromRail precision >>= fun settings =>
    return fillSettingsResponse settings).run _ s = _
  rw [Prog.run_bind, hread]
  rfl

/-- A request that gives levels, at least one. -/
structure GivesLevels (input : ImagingSettings20) : Prop where
  brightness : ∀ x ∈ input.brightness, IsLevel x
  contrast : ∀ x ∈ input.contrast, IsLevel x
  colorSaturation : ∀ x ∈ input.colorSaturation, IsLevel x
  some_given : ¬(input.brightness.isNone ∧ input.contrast.isNone ∧ input.colorSaturation.isNone)

/-- `SetImagingSettings` sends the given levels and the others as it read them, and succeeds. -/
theorem run_timgSetImagingSettings (hparse : Reads precision parse) {ctx : Context}
    (hauth : requireAuth ctx = .ok ()) {token : CStr} (htoken : token.val = kVideoSourceToken)
    {input : ImagingSettings20} (hinput : GivesLevels input) {s : MediaServer T}
    (hs : Stored s.current) :
    ∃ t, (timgSetImagingSettings precision ctx (some ⟨some token, some input⟩)).run
        (railHost points parse uptime other) s = (.ok (), t) ∧
      t.current =
        ((input.over (imagingOf precision s.current)).update precision).apply s.current ∧
          Stored t.current := by
  have hcall : timgSetImagingSettings precision ctx (some ⟨some token, some input⟩) =
      getThen (bytes "/imaging") fun answer =>
        setImagingSettings (input.over (imagingRead precision answer)) >>= checkError := by
    unfold timgSetImagingSettings
    dsimp only
    rw [authenticate, hauth, validateVideoSourceToken_done htoken,
      requireSetting_of_isLevel hinput.brightness, requireSetting_of_isLevel hinput.contrast,
      requireSetting_of_isLevel hinput.colorSaturation, if_neg hinput.some_given,
      imagingSettingsFromRail_eq]
    rfl
  -- the posted levels are the given ones and, for the others, those just read
  have hsound : (input.over (imagingOf precision s.current)).Sound :=
    over_sound (show ImagingInput (some ⟨some token, some input⟩) input from
      ⟨rfl, hinput.brightness, hinput.contrast, hinput.colorSaturation⟩) (imagingOf_sound hs)
  have hstored := handleRequest_imagingRequest points uptime hparse hsound hs
  refine ⟨_, ?_, hstored.2, stored_handleRequest uptime _ hs⟩
  rw [hcall]
  refine (run_getThen_rail (.imaging none) _ s).trans ?_
  rw [Change.answer, Change.document, imagingRead_answer hs]
  exact run_setImagingSettings hparse hsound hs

/-! ### Set then get -/

/-- The three levels by name. -/
inductive Level
  | brightness
  | contrast
  | colorSaturation
  deriving DecidableEq

/-- A level of a request or of an answer. -/
def Level.of (settings : ImagingSettings20) : Level → Option Double
  | .brightness => settings.brightness
  | .contrast => settings.contrast
  | .colorSaturation => settings.colorSaturation

/-- A level that rail-media has stored. -/
def Level.stored (config : Rail.Config) : Level → Double
  | .brightness => config.brightness
  | .contrast => config.contrast
  | .colorSaturation => config.colorSaturation

/-- The value is a decimal number of at most six significant digits. -/
def FewDigits : Double → Prop
  | .finite q => SixDigits q
  | _ => False

/-- Where numbers are exact, a level is printed as it is exactly when it has no more than six
digits. -/
theorem reread_eq_self_iff {v : Double} (h : IsLevel v) :
    Precision.exact.reread v = v ↔ FewDigits v := by
  obtain ⟨q, rfl, hlow, -⟩ := h
  show Double.finite (round6 q) = .finite q ↔ SixDigits q
  rw [← round6_eq_self_iff hlow]
  exact ⟨Double.finite.inj, congrArg _⟩

theorem Level.isLevel_stored {config : Rail.Config} (h : Stored config) (x : Level) :
    IsLevel (x.stored config) := by
  cases x with
  | brightness => exact h.brightness
  | contrast => exact h.contrast
  | colorSaturation => exact h.colorSaturation

theorem GivesLevels.isLevel {input : ImagingSettings20} (h : GivesLevels input) (x : Level)
    {v : Double} (hv : v ∈ x.of input) : IsLevel v := by
  cases x with
  | brightness => exact h.brightness v hv
  | contrast => exact h.contrast v hv
  | colorSaturation => exact h.colorSaturation v hv

/-- What is answered shows a stored level with six digits. -/
theorem Level.of_fillSettingsResponse (config : Rail.Config) (x : Level) :
    x.of (fillSettingsResponse (imagingOf precision config)) =
      some (precision.reread (x.stored config)) := by
  cases x <;> rfl

/-- What is stored by a request, and shown: the given level, or else the one before, with six
digits. -/
theorem Level.stored_update (input : ImagingSettings20) (config : Rail.Config) (x : Level) :
    precision.reread
        (x.stored (((input.over (imagingOf precision config)).update precision).apply config)) =
      precision.reread ((x.of input).getD (x.stored config)) := by
  have hprinted : ∀ (given : Option Double) (v : Double),
      precision.reread (precision.reread (given.getD (precision.reread v))) =
        precision.reread (given.getD v) := by
    intro given v
    cases given with
    | none => simp only [Option.getD_none, reread_reread]
    | some w => simp only [Option.getD_some, reread_reread]
  cases x with
  | brightness => exact hprinted input.brightness config.brightness
  | contrast => exact hprinted input.contrast config.contrast
  | colorSaturation => exact hprinted input.colorSaturation config.colorSaturation

variable (uptime other) in
/-- **Imaging set then get**: a request that gives levels is accepted, and the following
`GetImagingSettings` answers the given levels and for the others those that rail-media had, exactly
when all of these have at most six significant digits.  Beside the given levels it answers what it
answered before, whatever their digits. -/
theorem imaging_set_then_get (hparse : Reads .exact parse) {argv : List CStr} {start : Rail.Config}
    (hargs : parseArgs argv = .ok start) {es : List Event} {s : MediaServer T}
    (hreaches : (machine points parse start).Reaches Machine.anyStep es s) {ctx : Context}
    (hauth : requireAuth ctx = .ok ()) {token : CStr} (htoken : token.val = kVideoSourceToken)
    {input : ImagingSettings20} (hinput : GivesLevels input) :
    ∃ t before after,
      (timgSetImagingSettings .exact ctx (some ⟨some token, some input⟩)).run
        (railHost points parse uptime other) s = (.ok (), t) ∧
      (timgGetImagingSettings .exact ctx (some ⟨some token⟩)).run
        (railHost points parse uptime other) s = (.ok before, s) ∧
      (timgGetImagingSettings .exact ctx (some ⟨some token⟩)).run
        (railHost points parse uptime other) t = (.ok after, t) ∧
      ((∀ x : Level, x.of after = some ((x.of input).getD (x.stored s.current))) ↔
        ∀ x : Level, FewDigits ((x.of input).getD (x.stored s.current))) ∧
      ((∀ x : Level, x.of after = (x.of input).or (x.of before)) ↔
        ∀ x : Level, ∀ v ∈ x.of input, FewDigits v) := by
  have hs := stored_of_reaches hargs hreaches
  obtain ⟨t, hset, hcurrent, ht⟩ := run_timgSetImagingSettings hparse hauth htoken hinput hs
  refine ⟨t, _, _, hset, run_timgGetImagingSettings hauth htoken hs,
    run_timgGetImagingSettings hauth htoken ht, ?_, ?_⟩
  -- in both parts level by level: what is shown has six digits, so the digits of the levels decide
  · refine forall_congr' fun x => ?_
    have hlevel : IsLevel ((x.of input).getD (x.stored s.current)) := by
      cases hgiven : x.of input with
      | none => exact x.isLevel_stored hs
      | some v => exact hinput.isLevel x hgiven
    rw [Level.of_fillSettingsResponse, hcurrent, Level.stored_update,
      ← reread_eq_self_iff hlevel]
    exact ⟨Option.some.inj, congrArg some⟩
  · refine forall_congr' fun x => ?_
    rw [Level.of_fillSettingsResponse, Level.of_fillSettingsResponse, hcurrent, Level.stored_update]
    cases hgiven : x.of input with
    | none => simp
    | some v =>
      have hlevel := hinput.isLevel x hgiven
      rw [Option.getD_some, Option.some_or, Option.some.injEq, reread_eq_self_iff hlevel]
      simp

theorem notMem_source : 0 ∉ bytes "picam-source" := by decide

/-- The token of the one video source. -/
def sourceToken : CStr := ⟨bytes "picam-source", notMem_source⟩

/-- A request for a brightness. -/
def brightnessRequest (q : ℚ) : TimgSetImagingSettings where
  videoSourceToken := some sourceToken
  imagingSettings := some { brightness := some (.finite q) }

/-- A brightness of 62.5 is read back. -/
theorem imaging_set_then_get_half : ∃ t after,
    (timgSetImagingSettings .exact openContext (some (brightnessRequest (125 / 2)))).run
        (railHost mountTable (flatObject .exact) 0 fun _ => default) plainServer = (.ok (), t) ∧
      (timgGetImagingSettings .exact openContext (some ⟨some sourceToken⟩)).run
        (railHost mountTable (flatObject .exact) 0 fun _ => default) t = (.ok after, t) ∧
      after.brightness = some (.finite (125 / 2)) := by
  have hinput : GivesLevels { brightness := some (.finite (125 / 2)) } := by
    refine ⟨?_, nofun, nofun, by decide⟩
    rintro x ⟨⟩
    exact ⟨125 / 2, rfl, by norm_num, by norm_num⟩
  obtain ⟨t, before, after, hset, -, hget, -, hkept⟩ := imaging_set_then_get 0
    (fun _ => default) (reads_flatObject .exact) parseArgs_nil (reaches_plainServer _)
    (show requireAuth openContext = .ok () by rfl)
    (show sourceToken.val = kVideoSourceToken by rfl) hinput
  refine ⟨t, after, hset, hget, hkept.mpr ?_ .brightness⟩
  intro x v hv
  cases x with
  | brightness =>
    obtain rfl := Option.some.inj hv
    exact ⟨625, -1, by norm_num, by norm_num⟩
  | contrast => cases hv
  | colorSaturation => cases hv

/-- What is answered after a request for a brightness to rail-media started without arguments. -/
def brightnessRun (q : ℚ) : Except Fault Unit × Except Fault ImagingSettings20 :=
  let set := (timgSetImagingSettings .exact openContext (some (brightnessRequest q))).run
    (railHost mountTable (flatObject .exact) 0 fun _ => default) plainServer
  let get := (timgGetImagingSettings .exact openContext (some ⟨some sourceToken⟩)).run
    (railHost mountTable (flatObject .exact) 0 fun _ => default) set.2
  (set.1, get.1)

/-- A brightness of seven digits is accepted and read back as another number. -/
theorem brightness_rounded : (brightnessRun (3333333 / 100000)).1 = .ok () ∧
    (brightnessRun (3333333 / 100000)).2 =
      .ok ⟨some (.finite (333333 / 10000)), some (.finite 50), some (.finite 50)⟩ := by
  constructor
  · decide +kernel
  · decide +kernel

end Afterveda.Onvif
