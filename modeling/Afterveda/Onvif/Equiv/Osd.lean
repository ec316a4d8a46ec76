import Afterveda.Onvif.Equiv.Video
import Afterveda.Onvif.OsdStore

/-!
# The OSD service is a store

`osdService_refines`: every run of the OSD service over rail-media shows as a run of `OsdStore`,
whatever else happens to rail-media, as long as nobody else writes the OSD.

The step is `performs_service`: one call does what the store does (`Performs`).  rail-media's two
answers behind it are `busyHost_get` and `handleRequest_osdRequest`.
-/

namespace Afterveda.Onvif

open CText CNumber JsonGlib Rail Soap

variable {T : Type} {points : MountPoints T} {parse : Parser}

/-- json-glib decodes the body posted to `/osd` with these settings to the values it was built
from. -/
def Decodes (parse : Parser) (settings : OsdSettings) : Prop :=
  ∃ members,
    parse (osdBody settings) = some (.object members) ∧
    getMember members (bytes "enabled") = some (.boolean settings.enabled) ∧
    getMember members (bytes "text") = some (.string settings.text)

/-- It does so for all settings. -/
def DecodesOsd (parse : Parser) : Prop :=
  ∀ settings : OsdSettings, 0 ∉ settings.text → Decodes parse settings

/-- The reader of flat objects does. -/
theorem decodesOsd_flatParser : DecodesOsd flatParser := by
  intro settings htext
  refine ⟨settings.members.map fun m => (m.1, m.2.node .binary64), ?_, rfl, rfl⟩
  rw [osdBody_eq]
  exact flatObject_objectText (List.cons_ne_nil _ _) (OsdSettings.plain_members htext)

/-! ### What rail-media answers -/

/-- The configuration with other on-screen settings. -/
def OsdSettings.put (settings : OsdSettings) (config : Rail.Config) : Rail.Config :=
  { config with osdEnabled := settings.enabled, osdText := settings.text }

/-- A posted body is read to the settings it was built from, or refused for its length. -/
theorem osdFromJson_osdBody {settings : OsdSettings} (hdecodes : Decodes parse settings)
    (htext : 0 ∉ settings.text) (current : Rail.Config) :
    osdFromJson parse (osdBody settings) current =
      if settings.text.length ≤ 128 then .ok (settings.put current)
      else .error (bytes "\x7b\"error\":\"invalid text\"\x7d\n") := by
  obtain ⟨members, hparse, henabled, hmember⟩ := hdecodes
  have hobject : parseJsonObject parse (osdBody settings) = some members := by
    rw [parseJsonObject, hparse]
  have hread : readJsonBool members (bytes "enabled") = .ok (some settings.enabled) := by
    simp only [readJsonBool, readJson, henabled, boolValue]
  rw [osdFromJson, hobject]
  dsimp only
  rw [hread]
  split_ifs with hlength
  · have hstring : readJsonString members (bytes "text") = .ok (some settings.text) := by
      simp only [readJsonString, readJson, hmember, Rail.stringValue, cString_of_notMem htext,
        hlength, if_true]
    rw [hstring]
    rfl
  · have hstring : readJsonString members (bytes "text") = .error () := by
      simp only [readJsonString, readJson, hmember, Rail.stringValue, cString_of_notMem htext,
        hlength, if_false]
    rw [hstring]
    rfl

variable (points) in
/-- rail-media takes a posted text of at most 128 bytes, and refuses any other without a change. -/
theorem handleRequest_osdRequest {settings : OsdSettings} (hdecodes : Decodes parse settings)
    (htext : 0 ∉ settings.text) (uptime : ℤ) (s : MediaServer T) :
    handleRequest points parse uptime (osdRequest settings) s =
      if settings.text.length ≤ 128 then
        (⟨200, osdJson (settings.put s.current)⟩, commit points (settings.put s.current) s)
      else (⟨400, bytes "\x7b\"error\":\"invalid text\"\x7d\n"⟩, s) := by
  have hroute : (osdRequest settings).route = .postOsd := rfl
  have hbody : (osdRequest settings).body = osdBody settings := rfl
  rw [handleRequest, hroute, hbody]
  dsimp only
  rw [osdFromJson_osdBody hdecodes htext]
  split_ifs with hlength
  · have hshort : ¬128 < settings.text.length := not_lt.mpr hlength
    dsimp only [OsdSettings.put]
    rw [setOsdNow, if_neg hshort]
    rfl
  · rfl

/-! ### Other events -/

variable (parse) in
/-- A request that does not write the OSD names none of its settings. -/
theorem update_osd {request : Request} (h : request.route ≠ .postOsd) :
    (request.update parse).osdEnabled = none ∧ (request.update parse).osdText = none := by
  unfold Request.update
  cases hroute : request.route with
  | postOsd => exact absurd hroute h
  | postConfig | postImaging =>
    dsimp only
    cases parseJsonObject parse request.body <;> exact ⟨rfl, rfl⟩
  | postPreset name =>
    dsimp only
    cases findProfile name <;> exact ⟨rfl, rfl⟩
  | _ => exact ⟨rfl, rfl⟩

variable (points parse) in
/-- An event that does not write the OSD keeps it, and what is stored stays sound. -/
theorem play_frame {e : OtherEvent} (he : e.writesOsd = false) {s : MediaServer T}
    (hs : Stored s.current) :
    Stored (e.play points parse s).current ∧
      osdOf (e.play points parse s).current = osdOf s.current := by
  cases e with
  | callback c =>
    show Stored (onCallback c s).current ∧ osdOf (onCallback c s).current = _
    rw [onCallback_current]
    exact ⟨hs, rfl⟩
  | http uptime request =>
    refine ⟨stored_handleRequest uptime request hs, ?_⟩
    obtain ⟨henabled, htext⟩ := update_osd parse (of_decide_eq_false he)
    show osdOf (handleRequest points parse uptime request s).2.current = _
    rw [handleRequest_current uptime request hs.profile]
    split_ifs
    · rw [osdOf, Update.apply, henabled, htext]
      rfl
    · rfl

variable (points parse) in
theorem playAll_frame {events : List OtherEvent} (hevents : ∀ e ∈ events, e.writesOsd = false)
    {s : MediaServer T} (hs : Stored s.current) :
    Stored (playAll points parse events s).current ∧
      osdOf (playAll points parse events s).current = osdOf s.current := by
  induction events generalizing s with
  | nil => exact ⟨hs, rfl⟩
  | cons e events ih =>
    obtain ⟨hstored, hosd⟩ := play_frame points parse
      (hevents e (List.mem_cons_self ..)) hs
    obtain ⟨hstored', hosd'⟩ := ih (fun x hx => hevents x (List.mem_cons_of_mem _ hx)) hstored
    exact ⟨hstored', hosd'.trans hosd⟩

/-! ### rail-media beside a call -/

/-- What is stored is sound, and none of the events to come writes the OSD. -/
structure BusyRail.Sound (b : BusyRail T) : Prop where
  stored : Stored b.server.current
  others : ∀ batch ∈ b.others, ∀ e ∈ batch, e.writesOsd = false

variable (points parse) in
theorem BusyRail.Sound.next {b : BusyRail T} (h : b.Sound) :
    (b.next points parse).Sound ∧
      osdOf (b.next points parse).server.current = osdOf b.server.current := by
  obtain ⟨server, others⟩ := b
  cases others with
  | nil => exact ⟨⟨h.stored, h.others⟩, rfl⟩
  | cons batch others =>
    obtain ⟨hstored, hosd⟩ :=
      playAll_frame points parse (h.others batch (List.mem_cons_self ..)) h.stored
    exact ⟨⟨hstored, fun x hx => h.others x (List.mem_cons_of_mem _ hx)⟩, hosd⟩

variable (points parse) in
/-- Nothing but other events has happened. -/
def Idles (b c : BusyRail T) : Prop :=
  ∃ n, c = ⟨playAll points parse (b.others.take n).flatten b.server, b.others.drop n⟩

theorem idles_refl (b : BusyRail T) : Idles points parse b b := ⟨0, rfl⟩

theorem idles_of_next {b c : BusyRail T} (h : Idles points parse (b.next points parse) c) :
    Idles points parse b c := by
  obtain ⟨n, rfl⟩ := h
  obtain ⟨server, others⟩ := b
  cases others with
  | nil => exact ⟨0, by simp [BusyRail.next, playAll]⟩
  | cons batch others =>
    refine ⟨n + 1, ?_⟩
    simp only [BusyRail.next, playAll, List.headD_cons, List.tail_cons, List.take_succ_cons,
      List.flatten_cons, List.foldl_append, List.drop_succ_cons]

variable {uptime : ℤ} {other : (c : Call) → c.Answer}

/-- A GET of the settings, with rail-media's answer. -/
theorem busyHost_get (b : BusyRail T) :
    busyHost points parse uptime other (.http (bytes "GET") (bytes "/osd") []) b =
      (some ⟨200, osdJson (b.next points parse).server.current⟩, b.next points parse) :=
  rfl

theorem busyHost_post (settings : OsdSettings) (b : BusyRail T) :
    busyHost points parse uptime other (.http (bytes "POST") (bytes "/osd") (osdBody settings)) b =
      (some ⟨(handleRequest points parse uptime (osdRequest settings)
            (b.next points parse).server).1.status,
          (handleRequest points parse uptime (osdRequest settings)
            (b.next points parse).server).1.body⟩,
        ⟨(handleRequest points parse uptime (osdRequest settings) (b.next points parse).server).2,
          (b.next points parse).others⟩) :=
  rfl

/-! ### One call -/

variable (points parse uptime other) in
/-- A program does what the store does: it ends with the store's answer, and leaves what the store
leaves.  After a fault nothing but other events has happened. -/
def Performs (b : BusyRail T) (expected : Option OsdAnswer × OsdStore) (p : Service OsdAnswer) :
    Prop :=
  ∃ result c, p.run (busyHost points parse uptime other) b = (result, c) ∧
    Stored c.server.current ∧ expected = (result.toOption, storeOf c.server.current) ∧
    (result.toOption = none → Idles points parse b c)

theorem performs_fail {b : BusyRail T} (hb : b.Sound) {store : OsdStore}
    (hstore : storeOf b.server.current = store) (fault : Fault) :
    Performs points parse uptime other b (none, store) (.fail fault) := by
  subst hstore
  exact ⟨.error fault, b, rfl, hb.stored, rfl, fun _ => idles_refl b⟩

theorem performs_done {b : BusyRail T} (hb : b.Sound) {store : OsdStore}
    (hstore : storeOf b.server.current = store) (answer : OsdAnswer) :
    Performs points parse uptime other b (some answer, store) (.done answer) := by
  subst hstore
  exact ⟨.ok answer, b, rfl, hb.stored, rfl, nofun⟩

theorem storeOf_congr {c d : Rail.Config} (h : osdOf c = osdOf d) : storeOf c = storeOf d := by
  obtain ⟨henabled, htext⟩ := OsdSettings.mk.inj h
  rw [storeOf, storeOf, henabled, htext]

/-- Reading the settings gives those of rail-media, which are the same when the program goes on. -/
theorem performs_getThen {e : OsdStore → Option OsdAnswer × OsdStore}
    {k : OsdSettings → Service OsdAnswer} {b : BusyRail T} (hb : b.Sound)
    (h : ∀ c : BusyRail T, c.Sound →
      Performs points parse uptime other c (e (storeOf c.server.current))
        (k (osdOf c.server.current))) :
    Performs points parse uptime other b (e (storeOf b.server.current))
      (getThen (bytes "/osd") fun answer => k (osdRead answer)) := by
  obtain ⟨hnext, hosd⟩ := hb.next points parse
  obtain ⟨result, c, hrun, hstored, hexpected, hidle⟩ := h _ hnext
  rw [storeOf_congr hosd] at hexpected
  refine ⟨result, c, ?_, hstored, hexpected, fun hfault => idles_of_next (hidle hfault)⟩
  rw [getThen, Prog.run_call, busyHost_get]
  dsimp only
  rw [osdRead_answer, hrun]

/-- The answer and the store where the settings are replaced: a text of at most 128 bytes is taken,
any other is a fault. -/
def replaced (enabled : Bool) (text : Bytes) (answer : OsdAnswer) (store : OsdStore) :
    Option OsdAnswer × OsdStore :=
  if text.length ≤ 128 then (some answer, if enabled then some text else none) else (none, store)

variable (points uptime other) in
/-- Posting the settings replaces them. -/
theorem performs_post {b : BusyRail T} (hb : b.Sound) {enabled : Bool} {text : Bytes}
    (hdecodes : Decodes parse ⟨enabled, text⟩) (htext : 0 ∉ text) (answer : OsdAnswer) :
    Performs points parse uptime other b (replaced enabled text answer (storeOf b.server.current))
      ((setOsdSettings ⟨enabled, text⟩ >>= checkError) >>= fun _ => pure answer) := by
  obtain ⟨hnext, hosd⟩ := hb.next points parse
  let settings : OsdSettings := ⟨enabled, text⟩
  have hhandle :=
    handleRequest_osdRequest points hdecodes (show 0 ∉ settings.text from htext) uptime
      (b.next points parse).server
  have hstored : Stored (handleRequest points parse uptime (osdRequest settings)
      (b.next points parse).server).2.current := stored_handleRequest uptime _ hnext.stored
  have hrun : ((setOsdSettings settings >>= checkError) >>= fun _ => pure answer).run
      (busyHost points parse uptime other) b = _ := Prog.run_call ..
  rw [busyHost_post] at hrun
  unfold replaced
  by_cases hlength : text.length ≤ 128
  · rw [if_pos hlength] at hhandle ⊢
    rw [hhandle] at hstored hrun
    exact ⟨.ok answer, _, hrun, hstored, rfl, nofun⟩
  · rw [if_neg hlength] at hhandle ⊢
    rw [hhandle] at hstored hrun
    refine ⟨.error _, _, hrun, hstored, ?_, fun _ => idles_of_next (idles_refl _)⟩
    rw [← storeOf_congr hosd]
    rfl

variable (points uptime other) in
/-- `set_osd` does the same after another read, whose values it does not use. -/
theorem performs_setOsd {b : BusyRail T} (hb : b.Sound) {enabled : Bool} {text : Bytes}
    (hdecodes : Decodes parse ⟨enabled, text⟩) (htext : 0 ∉ text) (answer : OsdAnswer) :
    Performs points parse uptime other b (replaced enabled text answer (storeOf b.server.current))
      (setOsd enabled text >>= fun _ => pure answer) := by
  rw [setOsd_eq]
  exact performs_getThen (e := replaced enabled text answer)
    (k := fun _ => (setOsdSettings ⟨enabled, text⟩ >>= checkError) >>= fun _ => pure answer) hb
    fun c hc => performs_post points uptime other hc hdecodes htext answer

/-! ### Checks of requests -/

theorem stringValue_eq_iff {value : Option CStr} {expected : Bytes} (hne : expected ≠ []) :
    stringValue value = expected ↔ Names value expected := by
  unfold stringValue Names
  cases value with
  | none => simp [hne.symm]
  | some v => simp

/-- A check without calls, that lets through what `P` says. -/
def Checks (P : Prop) (p : Service Unit) : Prop :=
  ∃ result : Except Fault Unit, p = .ofExcept result ∧ (result = .ok () ↔ P)

theorem Checks.done_of {P : Prop} {p : Service Unit} (h : Checks P p) (hP : P) : p = .done () := by
  obtain ⟨result, hp, hresult⟩ := h
  rw [hp, hresult.mpr hP]
  rfl

theorem Checks.fail_of {P : Prop} {p : Service Unit} (h : Checks P p) (hP : ¬P) :
    ∃ fault, p = .fail fault := by
  obtain ⟨result, hp, hresult⟩ := h
  cases result with
  | error fault => exact ⟨fault, hp⟩
  | ok _ => exact absurd (hresult.mp rfl) hP

/-- The token check lets the expected token through, and nothing else. -/
theorem checks_validateToken {token : Option CStr} {expected : Bytes} (hne : expected ≠ [])
    (missing : Bytes) : Checks (Names token expected) (validateToken token expected missing) := by
  rw [← stringValue_eq_iff hne]
  unfold validateToken
  split_ifs with hempty hother
  · exact ⟨.error _, rfl, by simp [hempty, hne.symm]⟩
  · exact ⟨.error _, rfl, by simp [hother]⟩
  · exact ⟨.ok (), rfl, by simp [not_not.mp hother]⟩

theorem checks_validateOsdToken (token : Option CStr) :
    Checks (Names token kOsdToken) (validateOsdToken token) :=
  checks_validateToken (by decide) _

theorem stringValue_eq_nil_iff {value : Option CStr} :
    stringValue value = [] ↔ Permits value [] := by
  unfold stringValue Permits
  cases value <;> simp

/-- Where it is not required, the token of the video source may be left out or empty. -/
theorem checks_validateConfigurationToken (token : Option CStr) :
    Checks (Names token kVideoSourceConfigToken ∨ Permits token [])
      (validateConfigurationToken token false) := by
  unfold validateConfigurationToken
  split_ifs with hempty
  · exact ⟨.ok (), rfl, by simp [stringValue_eq_nil_iff.mp hempty.1]⟩
  · have hgiven : ¬Permits token [] := fun h => hempty ⟨stringValue_eq_nil_iff.mpr h, rfl⟩
    rw [or_iff_left hgiven]
    exact checks_validateToken (by decide) _

theorem differs_eq_false_iff {value : Option CStr} {expected : Bytes} :
    differs value expected = false ↔ Permits value expected := by
  unfold differs Permits stringValue
  cases value <;> simp

theorem plainTextOf_eq_none {osd : OsdConfigurationRequest}
    (h : ¬(Permits osd.videoSourceConfigurationToken kVideoSourceConfigToken ∧
      Permits osd.type (bytes "Text") ∧
      Permits (osd.textString.bind OsdTextRequest.type) (bytes "Plain"))) :
    plainTextOf osd = none := if_neg h

/-- Without the check of the OSD's token: the text is there when the video source is, where it has
to be. -/
theorem validateOsdConfiguration_false (osd : OsdConfigurationRequest)
    (requireConfigurationToken : Bool) :
    ∃ result : Except Fault Bytes,
      validateOsdConfiguration osd false requireConfigurationToken = .ofExcept result ∧
      result.toOption =
        if requireConfigurationToken ∧ stringValue osd.videoSourceConfigurationToken = [] then none
        else plainTextOf osd := by
  have hstart : validateOsdConfiguration osd false requireConfigurationToken = _ := rfl
  conv_rhs at hstart => simp only [validateOsdConfiguration, Bool.false_eq_true, if_false]
  rw [hstart]
  split_ifs with hmissing hsource htype
  · exact ⟨.error _, rfl, rfl⟩
  · have hnot : ¬Permits osd.videoSourceConfigurationToken kVideoSourceConfigToken := fun h =>
      Bool.false_ne_true ((differs_eq_false_iff.mpr h).symm.trans hsource)
    exact ⟨.error _, rfl, (plainTextOf_eq_none fun h => hnot h.1).symm⟩
  · have hnot : ¬Permits osd.type (bytes "Text") := fun h =>
      Bool.false_ne_true ((differs_eq_false_iff.mpr h).symm.trans htype)
    exact ⟨.error _, rfl, (plainTextOf_eq_none fun h => hnot h.2.1).symm⟩
  · have hpermits : Permits osd.videoSourceConfigurationToken kVideoSourceConfigToken ∧
        Permits osd.type (bytes "Text") :=
      ⟨differs_eq_false_iff.mp (Bool.eq_false_of_not_eq_true hsource),
        differs_eq_false_iff.mp (Bool.eq_false_of_not_eq_true htype)⟩
    unfold plainTextOf
    cases htextString : osd.textString with
    | none => exact ⟨.error _, rfl, (ite_self none).symm⟩
    | some textString =>
      obtain ⟨type, plainText⟩ := textString
      cases plainText with
      | none => exact ⟨.error _, rfl, (ite_self none).symm⟩
      | some text =>
        dsimp only [Option.bind_some]
        split_ifs with hplain hall hall
        · exact absurd hplain (by rw [differs_eq_false_iff.mpr hall.2.2]; decide)
        · exact ⟨.error _, rfl, rfl⟩
        · exact ⟨.ok text.val, rfl, rfl⟩
        · have htype := differs_eq_false_iff.mp (Bool.eq_false_of_not_eq_true hplain)
          exact absurd ⟨hpermits.1, hpermits.2, htype⟩ hall

/-- The checks of a request to create an OSD. -/
theorem validateOsdConfiguration_create (osd : OsdConfigurationRequest) :
    ∃ result : Except Fault Bytes,
      validateOsdConfiguration osd false true = .ofExcept result ∧
      result.toOption = createText ⟨some osd⟩ := by
  obtain ⟨result, hresult, htext⟩ := validateOsdConfiguration_false osd true
  refine ⟨result, hresult, htext.trans ?_⟩
  have hne : kVideoSourceConfigToken ≠ [] := by decide
  rw [createText, Option.bind_some]
  by_cases hnames : Names osd.videoSourceConfigurationToken kVideoSourceConfigToken
  · have hvalue := (stringValue_eq_iff hne).mpr hnames
    rw [if_pos hnames, if_neg fun h => hne (hvalue.symm.trans h.2)]
  · rw [if_neg hnames]
    split_ifs with hmissing
    · rfl
    · -- a token that is not empty and not the expected one is not permitted
      refine plainTextOf_eq_none fun hpermits => ?_
      cases hsource : osd.videoSourceConfigurationToken with
      | none => exact hmissing ⟨rfl, by rw [hsource]; rfl⟩
      | some v =>
        have hv : v.val = kVideoSourceConfigToken := hpermits.1 v hsource
        exact hnames (by rw [hsource, Names, Option.map_some, hv])

/-- The checks of a request to set an OSD. -/
theorem validateOsdConfiguration_set (osd : OsdConfigurationRequest) :
    ∃ result : Except Fault Bytes,
      validateOsdConfiguration osd true false = .ofExcept result ∧
      result.toOption = setText ⟨some osd⟩ := by
  have hstart : validateOsdConfiguration osd true false =
      validateOsdToken osd.token >>= fun _ => validateOsdConfiguration osd false false := rfl
  rw [setText, Option.bind_some, hstart]
  by_cases hnames : Names osd.token kOsdToken
  · obtain ⟨result, hresult, htext⟩ := validateOsdConfiguration_false osd false
    refine ⟨result, ?_, ?_⟩
    · rw [(checks_validateOsdToken osd.token).done_of hnames]
      exact hresult
    · rw [htext, if_neg (by simp)]
      exact (if_pos hnames).symm
  · obtain ⟨fault, hfail⟩ := (checks_validateOsdToken osd.token).fail_of hnames
    refine ⟨.error fault, ?_, (if_neg hnames).symm⟩
    rw [hfail]
    rfl

theorem notMem_plainTextOf {osd : OsdConfigurationRequest} {text : Bytes}
    (h : plainTextOf osd = some text) : 0 ∉ text := by
  unfold plainTextOf at h
  split_ifs at h
  obtain ⟨v, -, rfl⟩ := Option.map_eq_some_iff.mp h
  exact v.property

theorem notMem_createText {request : TrtCreateOsd} {text : Bytes}
    (h : createText request = some text) :
    0 ∉ text := by
  obtain ⟨osd, -, htext⟩ := Option.bind_eq_some_iff.mp h
  split_ifs at htext
  exact notMem_plainTextOf htext

theorem notMem_setText {request : TrtSetOsd} {text : Bytes} (h : setText request = some text) :
    0 ∉ text := by
  obtain ⟨osd, -, htext⟩ := Option.bind_eq_some_iff.mp h
  split_ifs at htext
  exact notMem_plainTextOf htext

/-! ### The five operations -/

theorem authenticate_done {ctx : Context} (hauth : requireAuth ctx = .ok ()) :
    authenticate ctx = .done () := by
  rw [authenticate, hauth]
  rfl

/-- A check, and a program after it: where the check fails, the store answers with a fault. -/
theorem performs_check {P : Prop} {check : Service Unit} (hcheck : Checks P check)
    {expected : Option OsdAnswer × OsdStore} {k : Unit → Service OsdAnswer} {b : BusyRail T}
    (hb : b.Sound) (hfault : ¬P → expected = (none, storeOf b.server.current))
    (hgo : P → Performs points parse uptime other b expected (k ())) :
    Performs points parse uptime other b expected (check >>= k) := by
  by_cases hP : P
  · rw [hcheck.done_of hP]
    exact hgo hP
  · obtain ⟨fault, hfail⟩ := hcheck.fail_of hP
    rw [hfail, hfault hP]
    exact performs_fail hb rfl fault

/-- A result that is an error is a fault, and the program goes on with any other. -/
theorem performs_ofExcept {result : Except Fault Bytes} {expected : Option OsdAnswer × OsdStore}
    {k : Bytes → Service OsdAnswer} {b : BusyRail T} (hb : b.Sound)
    (hfault : result.toOption = none → expected = (none, storeOf b.server.current))
    (hgo : ∀ text, result.toOption = some text →
      Performs points parse uptime other b expected (k text)) :
    Performs points parse uptime other b expected (.ofExcept result >>= k) := by
  cases result with
  | error fault =>
    rw [hfault rfl]
    exact performs_fail hb rfl fault
  | ok text => exact hgo text rfl

/-- What is shown of an enabled text is the OSD. -/
theorem fillOsd_eq {text : Bytes} (htext : 0 ∉ text) (enabled : Bool) :
    fillOsd ⟨enabled, text⟩ = osdObject text := by
  rw [fillOsd, osdObject, cString_of_notMem htext]
  rfl

/-- A program that reads the settings finds the OSD, or finds that there is none. -/
theorem performs_read {e : OsdStore → Option OsdAnswer × OsdStore}
    {k : OsdSettings → Service OsdAnswer} {b : BusyRail T} (hb : b.Sound)
    (hpresent : ∀ (c : BusyRail T) (text : Bytes), c.Sound → storeOf c.server.current = some text →
      0 ∉ text ∧ text.length ≤ 128 →
        Performs points parse uptime other c (e (some text)) (k ⟨true, text⟩))
    (habsent : ∀ (c : BusyRail T) (text : Bytes), c.Sound → storeOf c.server.current = none →
      Performs points parse uptime other c (e none) (k ⟨false, text⟩)) :
    Performs points parse uptime other b (e (storeOf b.server.current))
      (osdSettingsFromRail >>= k) := by
  rw [osdSettingsFromRail_eq]
  refine performs_getThen (e := e) (k := k) hb fun c hc => ?_
  unfold osdOf
  cases henabled : c.server.current.osdEnabled with
  | true =>
    have hstore : storeOf c.server.current = some c.server.current.osdText := if_pos henabled
    rw [hstore]
    exact hpresent c _ hc hstore hc.stored.osdText
  | false =>
    have hstore : storeOf c.server.current = none := if_neg (Bool.eq_false_iff.mp henabled)
    rw [hstore]
    exact habsent c _ hc hstore

section Operations

variable {ctx : Context} (hauth : requireAuth ctx = .ok ()) {b : BusyRail T} (hb : b.Sound)

include hauth hb

theorem performs_get (request : Option TrtGetOsd) :
    Performs points parse uptime other b ((storeOf b.server.current).perform (.get request))
      ((OsdCall.get request).service ctx) := by
  unfold OsdCall.service trtGetOsd
  rw [authenticate_done hauth]
  cases request with
  | none => exact performs_fail hb rfl _
  | some request =>
    show Performs points parse uptime other b _ (validateOsdToken request.osdToken >>= _ >>= _)
    rw [Prog.bind_assoc]
    refine performs_check (checks_validateOsdToken request.osdToken) hb
      (fun hnames => if_neg hnames) fun hnames => ?_
    have hperform : ∀ store : OsdStore, store.perform (.get (some request)) =
        (store.map fun text => .osd (osdObject text), store) := fun store => if_pos hnames
    rw [Prog.bind_assoc]
    refine performs_read (e := fun store => store.perform (.get (some request))) hb ?_ ?_
    · intro c text hc hstore htext
      rw [hperform, fillOsd_eq htext.1]
      exact performs_done hc hstore _
    · intro c text hc hstore
      rw [hperform]
      exact performs_fail hc hstore _

theorem performs_getAll (request : Option TrtGetOsds) :
    Performs points parse uptime other b ((storeOf b.server.current).perform (.getAll request))
      ((OsdCall.getAll request).service ctx) := by
  unfold OsdCall.service trtGetOsds
  rw [authenticate_done hauth]
  cases request with
  | none => exact performs_fail hb rfl _
  | some request =>
    have hperform : ∀ store : OsdStore, store.perform (.getAll (some request)) =
        if Names request.configurationToken kVideoSourceConfigToken ∨
            Permits request.configurationToken [] then
          (some (.osds (store.toList.map osdObject)), store)
        else (none, store) := by
      intro store
      simp [OsdStore.perform]
    show Performs points parse uptime other b _
      (validateConfigurationToken request.configurationToken false >>= _ >>= _)
    rw [Prog.bind_assoc]
    refine performs_check (checks_validateConfigurationToken request.configurationToken) hb ?_
      fun htoken => ?_
    · intro htoken
      rw [hperform, if_neg htoken]
    rw [Prog.bind_assoc]
    refine performs_read (e := fun store => store.perform (.getAll (some request))) hb ?_ ?_
    · intro c text hc hstore hstored
      rw [hperform, if_pos htoken, fillOsd_eq hstored.1]
      exact performs_done hc hstore _
    · intro c text hc hstore
      rw [hperform, if_pos htoken]
      exact performs_done hc hstore _

theorem performs_delete (hdecodes : DecodesOsd parse) (request : Option TrtDeleteOsd) :
    Performs points parse uptime other b ((storeOf b.server.current).perform (.delete request))
      ((OsdCall.delete request).service ctx) := by
  unfold OsdCall.service trtDeleteOsd
  rw [authenticate_done hauth]
  cases request with
  | none =>
    have hperform : (storeOf b.server.current).perform (.delete none) =
        (none, storeOf b.server.current) := if_neg fun h => nomatch h.2
    rw [hperform]
    exact performs_fail hb rfl _
  | some request =>
    show Performs points parse uptime other b _ (validateOsdToken request.osdToken >>= _ >>= _)
    rw [Prog.bind_assoc]
    refine performs_check (checks_validateOsdToken request.osdToken) hb
      (fun hnames => if_neg fun h => hnames h.2) fun hnames => ?_
    have hperform : ∀ store : OsdStore, store ≠ none → store.perform (.delete (some request)) =
        (some .done, none) := fun store hne => if_pos ⟨hne, hnames⟩
    rw [Prog.bind_assoc]
    refine performs_read (e := fun store => store.perform (.delete (some request))) hb ?_ ?_
    · -- the stored text is posted back, and it is short enough
      intro c text hc hstore htext
      have hset := performs_setOsd points uptime other hc (hdecodes ⟨false, text⟩ htext.1) htext.1
        .done
      rw [replaced, if_pos htext.2] at hset
      rw [hperform _ (Option.some_ne_none text)]
      exact hset
    · intro c text hc hstore
      exact performs_fail hc hstore _

theorem performs_create (request : Option TrtCreateOsd)
    (hdecodes : ∀ text, request.bind createText = some text → Decodes parse ⟨true, text⟩) :
    Performs points parse uptime other b ((storeOf b.server.current).perform (.create request))
      ((OsdCall.create request).service ctx) := by
  unfold OsdCall.service trtCreateOsd
  rw [authenticate_done hauth]
  obtain _ | ⟨_ | osd⟩ := request
  · exact performs_fail hb rfl _
  · exact performs_fail hb rfl _
  obtain ⟨result, hresult, htext⟩ := validateOsdConfiguration_create osd
  have hperform : ∀ store : OsdStore, store.perform (.create (some ⟨some osd⟩)) =
      (result.toOption.map fun text =>
        if store = none ∧ text.length ≤ 128 then (some (OsdAnswer.created kOsdToken), some text)
        else (none, store)).getD (none, store) := by
    intro store
    rw [htext]
    cases hgiven : createText ⟨some osd⟩ <;>
      simp only [OsdStore.perform, Option.bind_some, hgiven] <;> rfl
  show Performs points parse uptime other b _ (validateOsdConfiguration osd false true >>= _ >>= _)
  rw [hresult, Prog.bind_assoc]
  refine performs_ofExcept hb (fun hnone => ?_) fun text hsome => ?_
  · rw [hperform, hnone]
    rfl
  rw [Prog.bind_assoc]
  refine performs_read (e := fun store => store.perform (.create (some ⟨some osd⟩))) hb ?_ ?_
  · intro c current hc hstore _
    rw [hperform, hsome, Option.map_some, Option.getD_some,
      if_neg fun h => Option.some_ne_none current h.1]
    exact performs_fail hc hstore _
  · intro c _ hc hstore
    have hset := performs_setOsd points uptime other hc (hdecodes _ (htext.symm.trans hsome))
      (notMem_createText (htext.symm.trans hsome)) (.created kOsdToken)
    rw [replaced, hstore] at hset
    rw [hperform, hsome, if_neg Bool.false_ne_true, Prog.bind_assoc]
    simp only [Option.map_some, Option.getD_some, true_and]
    exact hset

theorem performs_set (request : Option TrtSetOsd)
    (hdecodes : ∀ text, request.bind setText = some text → Decodes parse ⟨true, text⟩) :
    Performs points parse uptime other b ((storeOf b.server.current).perform (.set request))
      ((OsdCall.set request).service ctx) := by
  unfold OsdCall.service trtSetOsd
  rw [authenticate_done hauth]
  obtain _ | ⟨_ | osd⟩ := request
  · exact performs_fail hb rfl _
  · exact performs_fail hb rfl _
  obtain ⟨result, hresult, htext⟩ := validateOsdConfiguration_set osd
  have hperform : ∀ store : OsdStore, store.perform (.set (some ⟨some osd⟩)) =
      (result.toOption.map fun text => if store ≠ none ∧ text.length ≤ 128
        then (some OsdAnswer.done, some text) else (none, store)).getD (none, store) := by
    intro store
    rw [htext]
    cases hgiven : setText ⟨some osd⟩ <;>
      simp only [OsdStore.perform, Option.bind_some, hgiven] <;> rfl
  show Performs points parse uptime other b _ (validateOsdConfiguration osd true false >>= _ >>= _)
  rw [hresult, Prog.bind_assoc]
  refine performs_ofExcept hb (fun hnone => ?_) fun text hsome => ?_
  · rw [hperform, hnone]
    rfl
  rw [Prog.bind_assoc]
  refine performs_read (e := fun store => store.perform (.set (some ⟨some osd⟩))) hb ?_ ?_
  · intro c current hc hstore _
    have hset := performs_setOsd points uptime other hc (hdecodes _ (htext.symm.trans hsome))
      (notMem_setText (htext.symm.trans hsome)) .done
    rw [replaced, hstore] at hset
    rw [hperform, hsome, if_pos rfl]
    simp only [Option.map_some, Option.getD_some, ne_eq, reduceCtorEq, not_false_eq_true, true_and]
    exact hset
  · intro c _ hc hstore
    rw [hperform, hsome, Option.map_some, Option.getD_some, if_neg fun h => h.1 rfl]
    exact performs_fail hc hstore _

variable (points uptime other) in
/-- One call does what the store does. -/
theorem performs_service (hdecodes : DecodesOsd parse) (op : OsdCall) :
    Performs points parse uptime other b ((storeOf b.server.current).perform op)
      (op.service ctx) := by
  cases op with
  | create request =>
    refine performs_create hauth hb request fun text htext => ?_
    obtain ⟨r, -, hr⟩ := Option.bind_eq_some_iff.mp htext
    exact hdecodes ⟨true, text⟩ (notMem_createText hr)
  | set request =>
    refine performs_set hauth hb request fun text htext => ?_
    obtain ⟨r, -, hr⟩ := Option.bind_eq_some_iff.mp htext
    exact hdecodes ⟨true, text⟩ (notMem_setText hr)
  | delete request => exact performs_delete hauth hb hdecodes request
  | get request => exact performs_get hauth hb request
  | getAll request => exact performs_getAll hauth hb request

end Operations

/-! ### The store's text -/

/-- What a store holds after a request is what the request gave, or what was there before it and the
request gave nothing. -/
theorem perform_eq_some {store : OsdStore} {op : OsdCall} {text : Bytes}
    (h : (store.perform op).2 = some text) :
    OsdCall.written (op, (store.perform op).1) = some text ∨
      OsdCall.written (op, (store.perform op).1) = none ∧ store = some text := by
  cases op with
  | create request | set request =>
    simp only [OsdStore.perform] at h ⊢
    split at h
    next given hgiven =>
      split_ifs at h ⊢
      · exact Or.inl (hgiven.trans h)
      · exact Or.inr ⟨rfl, h⟩
    next => exact Or.inr ⟨rfl, h⟩
  | delete request =>
    simp only [OsdStore.perform] at h
    split_ifs at h
    exact Or.inr ⟨rfl, h⟩
  | get request | getAll request =>
    simp only [OsdStore.perform] at h
    split_ifs at h <;> exact Or.inr ⟨rfl, h⟩

/-- In every run of the store the text that is there is the one last given. -/
theorem lastWritten_of_reaches {first store : OsdStore} {es : List (OsdCall × Option OsdAnswer)}
    (h : (OsdStore.machine first).Reaches Machine.anyStep es store) {text : Bytes}
    (hstore : store = some text) : lastWritten first es = some text := by
  induction h generalizing text with
  | start hs => exact (hs.symm.trans hstore : first = some text)
  | @next es store next e _ _ hstep ih =>
    obtain ⟨op, answer⟩ := e
    obtain ⟨rfl, hnext⟩ : (store.perform op).1 = answer ∧ (store.perform op).2 = next := by
      simpa [OsdStore.machine] using hstep
    rw [lastWritten, List.filterMap_append]
    rcases perform_eq_some (hnext.trans hstore) with hgiven | ⟨hgiven, hbefore⟩
    · rw [List.filterMap_cons_some hgiven, List.getLast?_append]
      rfl
    · rw [List.filterMap_cons_none hgiven, List.filterMap_nil, List.append_nil]
      exact ih hbefore

/-! ### Runs -/

namespace OsdService

/-- An allowed call does what the store does, and after a fault nothing but other events has
happened. -/
theorem step_call (hdecodes : DecodesOsd parse) {s t : MediaServer T} (hs : Stored s.current)
    {ctx : Context} {op : OsdCall} {others : List (List OtherEvent)}
    {answer : Except Fault OsdAnswer} (hok : Allowed s (.call ctx op uptime others answer))
    (hstep : step points parse other s (.call ctx op uptime others answer) = some t) :
    Stored t.current ∧
      (storeOf s.current).perform op = (answer.toOption, storeOf t.current) ∧
      (answer.toOption = none → ∃ n, t = playAll points parse (others.take n).flatten s) := by
  obtain ⟨result, c, hrun, hstored, hperform, hidle⟩ :=
    performs_service points uptime other hok.1 (b := ⟨s, others⟩) ⟨hs, hok.2⟩ hdecodes op
  simp only [step, hrun] at hstep
  split_ifs at hstep with hresult
  subst hresult
  obtain rfl := Option.some.inj hstep
  refine ⟨hstored, hperform, fun hfault => ?_⟩
  obtain ⟨n, hn⟩ := hidle hfault
  exact ⟨n, by rw [hn]⟩

variable (other) in
theorem step_other {s t : MediaServer T} (hs : Stored s.current) {e : OtherEvent}
    (hok : Allowed s (.other e)) (hstep : step points parse other s (.other e) = some t) :
    Stored t.current ∧ storeOf t.current = storeOf s.current := by
  obtain rfl := Option.some.inj hstep
  obtain ⟨hstored, hosd⟩ := play_frame points parse hok hs
  exact ⟨hstored, storeOf_congr hosd⟩

end OsdService

/-- Every run of the OSD service shows as a run of the store that starts with the start-up text, and
what is there is the text last given.  Each further call is answered, and one that faults leaves
rail-media as the other events do. -/
theorem osdService_refines (hdecodes : DecodesOsd parse) {argv : List CStr} {config : Rail.Config}
    (hargs : parseArgs argv = .ok config) {es : List OsdService.Event} {s : MediaServer T}
    (h : (OsdService.machine points parse other config).Reaches OsdService.Allowed es s) :
    (OsdStore.machine (storeOf config)).Reaches Machine.anyStep
      (es.filterMap OsdService.Event.visible)
        (storeOf s.current) ∧
      (∀ text, storeOf s.current = some text →
        lastWritten (storeOf config) (es.filterMap OsdService.Event.visible) = some text) ∧
      ∀ (ctx : Context) (op : OsdCall) (uptime : ℤ) (others : List (List OtherEvent)),
        requireAuth ctx = .ok () → (∀ batch ∈ others, ∀ e ∈ batch, e.writesOsd = false) →
          ∃ answer t,
            OsdService.step points parse other s (.call ctx op uptime others answer) = some t ∧
            (storeOf s.current).perform op = (answer.toOption, storeOf t.current) ∧
            ∀ fault, answer = .error fault →
              ∃ n, t = playAll points parse (others.take n).flatten s := by
  -- the simulation: the start, the invariant, the visible steps and the invisible ones
  obtain ⟨hstored, hreach⟩ := Machine.Reaches.simulates (A := OsdStore.machine (storeOf config))
    (I := fun s => Stored s.current) (fun s => storeOf s.current) OsdService.Event.visible h
    (by
      rintro s ⟨now, rfl⟩
      refine ⟨stored_start (accepted_of_parseArgs hargs) now, ?_⟩
      show storeOf (MediaServer.start points config now).current = storeOf config
      rw [start_current]
      rfl)
    (by
      intro s e t hs hok hstep
      cases e with
      | call => exact (OsdService.step_call hdecodes hs hok hstep).1
      | other e => exact (OsdService.step_other other hs hok hstep).1)
    (by
      intro s e t d hs hok hstep hvisible
      cases e with
      | call ctx op uptime others answer =>
        obtain rfl := Option.some.inj hvisible
        have hperform := (OsdService.step_call hdecodes hs hok hstep).2.1
        show (if ((storeOf s.current).perform op).1 = answer.toOption
          then some ((storeOf s.current).perform op).2 else none) = _
        rw [hperform, if_pos rfl]
      | other e => cases hvisible)
    (by
      intro s e t hs hok hstep hvisible
      cases e with
      | call => cases hvisible
      | other e => exact (OsdService.step_other other hs hok hstep).2)
  refine ⟨hreach, fun text htext => lastWritten_of_reaches hreach htext, ?_⟩
  intro ctx op uptime others hauth hothers
  -- the answer the service gives is the one the step is labelled with
  let answered := (op.service ctx).run (busyHost points parse uptime other) ⟨s, others⟩
  have hstep : OsdService.step points parse other s (.call ctx op uptime others answered.1) =
      some answered.2.server := if_pos rfl
  obtain ⟨-, hperform, hfault⟩ := OsdService.step_call hdecodes hstored ⟨hauth, hothers⟩ hstep
  refine ⟨answered.1, answered.2.server, hstep, hperform, fun fault h => hfault ?_⟩
  rw [h]
  rfl

/-- A text with quotes, a backslash and what looks like a member of an object. -/
def gateText : Bytes := bytes "\\gate \"1\", \"text\":\"x"

def gateOsd : OsdConfigurationRequest where
  videoSourceConfigurationToken := some ⟨kVideoSourceConfigToken, by decide⟩
  textString := some ⟨none, some ⟨gateText, by decide⟩⟩

/-- The start-up OSD is in the way of a second one.  It is deleted, and somebody sets the contrast
before the new one is posted. -/
def gateRun : List OsdService.Event :=
  let token : Option CStr := some ⟨bytes "osd-main", by decide⟩
  let contrast : OtherEvent :=
    .http 0 ⟨bytes "POST", bytes "/imaging", bytes "\x7b\"contrast\":70\x7d"⟩
  [.call openContext (.create (some ⟨some gateOsd⟩)) 0 []
      (.error (soapSenderFault (bytes "Maximum number of OSDs reached"))),
    .call openContext (.delete (some ⟨token⟩)) 0 [] (.ok .done),
    .call openContext (.create (some ⟨some gateOsd⟩)) 0 [[], [contrast]]
      (.ok (.created (bytes "osd-main"))),
    .call openContext (.get (some ⟨token⟩)) 0 [] (.ok (.osd (osdObject gateText)))]

def plainService : Machine (MediaServer (List (Bytes × Factory))) OsdService.Event :=
  OsdService.machine mountTable flatParser (fun _ => default) {}

theorem init_plainServer : plainService.init plainServer := ⟨0, rfl⟩

theorem osdService_refines_gate : ∃ s,
    plainService.Reaches OsdService.Allowed gateRun s ∧ s.current.contrast = .finite 70 ∧
      (OsdStore.machine (some (bytes "Afterveda"))).Reaches Machine.anyStep
        (gateRun.filterMap OsdService.Event.visible) (some gateText) ∧
      lastWritten (some (bytes "Afterveda")) (gateRun.filterMap OsdService.Event.visible) =
        some gateText := by
  have hallows : plainService.Allows OsdService.Allowed plainServer gateRun := by decide +kernel
  have hend : (plainService.run plainServer gateRun).map
      (fun s => (s.current.contrast, storeOf s.current)) = some (.finite 70, some gateText) := by
    decide +kernel
  obtain ⟨s, hreaches, hs⟩ := Machine.exists_reaches init_plainServer hallows hend
  obtain ⟨hcontrast, hstore⟩ := Prod.mk.inj hs
  obtain ⟨hstores, hlast, -⟩ := osdService_refines decodesOsd_flatParser parseArgs_nil hreaches
  rw [hstore] at hstores
  exact ⟨s, hreaches, hcontrast, hstores, hlast gateText hstore⟩

end Afterveda.Onvif
