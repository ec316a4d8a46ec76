import Afterveda.Onvif.Equiv.Effects
import Afterveda.Onvif.Equiv.Osd
import Afterveda.Onvif.Session

/-!
# The ONVIF server as a store of settings

`serve_settles` says what one SOAP call of any kind makes of rail-media: a fault leaves it exactly
as it was, and a response comes with the settings that the request named.

* `session_settings`: after any session every setting shows the value that the last successful call
  that named it gave it, and its start-up value where there was none; a call that faults changes
  nothing.
-/

namespace Afterveda.Onvif.Soap

open CText CNumber JsonGlib

variable {T : Type} {points : Rail.MountPoints T} {parse : Parser} {uptime : ℤ}
  {other : (c : Call) → c.Answer} {precision : Precision} {libm : Libm} {ctx : Context} {α β : Type}

/-! ### Shown values -/

/-- A value as rail-media's documents show it. -/
def shown (precision : Precision) : (x : Rail.Setting) → x.Value → x.Value
  | .brightness, v | .contrast, v | .colorSaturation, v => precision.reread v
  | .width, v | .height, v | .fps, v | .bitrateKbps, v => v
  | .encoder, v | .osdText, v => v
  | .osdEnabled, v => v

theorem get_rounded (x : Rail.Setting) (config : Rail.Config) :
    x.get (rounded precision config) = shown precision x (x.get config) := by
  cases x <;> rfl

theorem shown_shown (x : Rail.Setting) (v : x.Value) :
    shown precision x (shown precision x v) = shown precision x v := by
  cases x with
  | brightness | contrast | colorSaturation => exact reread_reread precision v
  | _ => rfl

theorem given_printed (x : Rail.Setting) (u : Rail.Update) :
    x.given (printed precision u) = (x.given u).map (shown precision x) := by
  cases x with
  | brightness | contrast | colorSaturation => rfl
  | _ => exact Option.map_id'.symm

/-! ### A call that sets settings -/

/-- A POST to rail-media that, where it is accepted, names `posted`. -/
def Puts (parse : Parser) (posted : Rail.Update) : Call → Prop
  | .http method path body => method = bytes "POST" ∧
      ∀ {T : Type} (points : Rail.MountPoints T) (s : Rail.MediaServer T) (uptime : ℤ),
        Rail.Stored s.current →
        (Rail.handleRequest points parse uptime ⟨bytes "POST", path, body⟩ s).1.status = 200 →
          (⟨bytes "POST", path, body⟩ : Rail.Request).update parse = posted
  | _ => False

/-- rail-media's answers of success are those with the status 200. -/
theorem succeeds_iff {method path body : Bytes} {s : Rail.MediaServer T} :
    Succeeds (.http method path body)
        (some ⟨(Rail.handleRequest points parse uptime ⟨method, path, body⟩ s).1.status,
          (Rail.handleRequest points parse uptime ⟨method, path, body⟩ s).1.body⟩) ↔
      (Rail.handleRequest points parse uptime ⟨method, path, body⟩ s).1.status = 200 := by
  rw [← Rail.handleRequest_ok_iff]
  constructor
  · rintro ⟨r, hr, hok⟩
    obtain rfl := Option.some.inj hr
    simpa [RailHttpResponse.ok] using hok
  · intro hok
    exact ⟨_, rfl, by simpa [RailHttpResponse.ok] using hok⟩

/-- A request that is refused changes nothing. -/
theorem refused_state {request : Rail.Request} {s : Rail.MediaServer T}
    (h : (Rail.handleRequest points parse uptime request s).1.status ≠ 200)
    (hprofile : s.current.profile = bytes "main") :
    (Rail.handleRequest points parse uptime request s).2 = s := by
  rcases Rail.handleRequest_spec uptime request hprofile with
    ⟨hstatus, -, -⟩ | ⟨-, hstate⟩ | ⟨hstatus, -, -⟩
  · exact absurd hstatus h
  · exact hstate
  · exact absurd hstatus h

/-- A program that puts settings into rail-media has done so when it gives a value, and has changed
nothing when it ends with a fault. -/
theorem run_puts {posted : Rail.Update} {p : Service α} {s : Rail.MediaServer T}
    (hp : p.Commits ReadsOnly (Puts parse posted) Succeeds False) (hs : Rail.Stored s.current) :
    (∃ a, (p.run (railHost points parse uptime other) s).1 = .ok a ∧
      (p.run (railHost points parse uptime other) s).2.current = posted.apply s.current) ∨
    ∃ fault, p.run (railHost points parse uptime other) s = (.error fault, s) := by
  rcases hp.run_cases id (fun c s hc => railHost_of_readsOnly c s hc) s with
    ⟨hsame, hfault⟩ | ⟨c, u, hc, hu, hend, hok⟩
  · obtain ⟨fault, hfault⟩ := hfault.resolve_left not_false
    exact Or.inr ⟨fault, Prod.ext hfault hsame⟩
  · obtain rfl : u = s := hu
    cases c with
    | http method path body =>
      obtain ⟨rfl, hupdate⟩ := hc
      have hstate : (p.run (railHost points parse uptime other) u).2 =
          (Rail.handleRequest points parse uptime ⟨bytes "POST", path, body⟩ u).2 := hend
      have hcurrent := @Rail.handleRequest_current _ points parse uptime ⟨bytes "POST", path, body⟩
        u hs.profile
      have hstatus : Succeeds (.http (bytes "POST") path body)
            (railHost points parse uptime other (.http (bytes "POST") path body) u).1 ↔
          (Rail.handleRequest points parse uptime ⟨bytes "POST", path, body⟩ u).1.status = 200 := by
        rw [← succeeds_iff]
        rfl
      rw [hstatus] at hok
      by_cases h200 :
          (Rail.handleRequest points parse uptime ⟨bytes "POST", path, body⟩ u).1.status = 200
      · obtain ⟨a, ha⟩ := hok.mpr h200
        rw [if_pos h200, hupdate points u uptime hs h200] at hcurrent
        exact Or.inl ⟨a, ha, by rw [hstate, hcurrent]⟩
      · right
        cases hresult : (p.run (railHost points parse uptime other) u).1 with
        | ok a => exact absurd (hok.mp ⟨a, hresult⟩) h200
        | error fault =>
          exact ⟨fault, Prod.ext hresult (hstate.trans (refused_state h200 hs.profile))⟩
    | _ => cases hc

/-! ### What each setter puts -/

theorem puts_config (hparse : Reads precision parse) {profile : VideoProfile} (h : profile.Sound) :
    Puts parse profile.update (.http (bytes "POST") (bytes "/config") (videoConfigBody profile)) :=
  ⟨rfl, fun _ _ _ _ _ => update_configRequest hparse h⟩

theorem puts_imaging (hparse : Reads precision parse) {settings : ImageSettings}
    (h : settings.Sound) :
    Puts parse (settings.update precision)
      (.http (bytes "POST") (bytes "/imaging") (imagingBody settings)) :=
  ⟨rfl, fun _ _ _ _ _ => update_imagingRequest hparse h⟩

theorem puts_osd (hparse : Reads precision parse) (settings : OsdSettings)
    (htext : 0 ∉ settings.text) :
    Puts parse settings.update (.http (bytes "POST") (bytes "/osd") (osdBody settings)) := by
  refine ⟨rfl, fun points s uptime _ hstatus => ?_⟩
  rcases update_osdRequest hparse htext with hrefused | hupdate
  · have h400 : (400 : ℤ) = 200 := (status_osdRequest_unparsed hrefused s uptime).symm.trans hstatus
    exact absurd h400 (by decide)
  · exact hupdate

/-- A change asks once, and then it is a fault or puts its settings into what it read. -/
theorem change_puts (hparse : Reads precision parse) (ctx : Context) (change : Change) :
    (∃ fault, change.service precision ctx = .fail fault) ∨
      ∃ k, change.service precision ctx = getThen change.path k ∧
        ∀ answer, change.Readable precision answer →
          (k answer).Commits ReadsOnly (Puts parse (change.posted precision answer)) Succeeds
            False := by
  cases change with
  | video request =>
    rcases trtSetVideoEncoderConfiguration_cases ctx request with hfail | hcall
    · exact Or.inl hfail
    · refine Or.inr ⟨_, hcall, fun answer hread => ?_⟩
      rcases videoRest_cases request ⟨[videoRead answer], ctx.config.rtspUri⟩ with
        ⟨fault, hfail⟩ | ⟨next, hnext, hsend⟩
      · exact hfail ▸ .fail fault
      · obtain ⟨hupdate, hsize, hfps⟩ := videoConfigFromEncoderRequest_some hnext
        have hposted : (Change.video request).posted precision answer = next.update :=
          hupdate.symm
        rw [hposted, hsend]
        exact commits_setVideoConfig (puts_config hparse (candidate_sound hread hupdate hsize hfps))
  | imaging request =>
    rcases timgSetImagingSettings_cases ctx request with hfail | ⟨input, hinput, hcall⟩
    · exact Or.inl hfail
    · refine Or.inr ⟨_, hcall, fun answer hread => ?_⟩
      rw [Change.posted, show (Change.imaging request).readBack precision answer =
        (imagingRead precision answer).update precision from rfl, ← over_update hinput]
      exact commits_setImagingSettings (puts_imaging hparse (over_sound hinput hread))
  | deleteOsd request =>
    rcases trtDeleteOsd_cases ctx request with hfail | ⟨fault, hcall⟩
    · exact Or.inl hfail
    · refine Or.inr ⟨_, hcall, fun answer hread => ?_⟩
      show Prog.Commits _ _ _ _ (if (osdRead answer).enabled then _ else _)
      split_ifs
      · exact commits_setOsd (puts_osd hparse ⟨false, (osdRead answer).text⟩ hread)
      · exact .fail fault

/-! ### One call -/

/-- What a call makes of rail-media: with a response its settings show the ones that the request
named and the others as they were, and a fault has changed nothing. -/
def Settles (precision : Precision) (u : Rail.Update) (s : Rail.MediaServer T)
    (run : Except Fault α × Rail.MediaServer T) : Prop :=
  (∃ a, run.1 = .ok a ∧ ∀ x : Rail.Setting,
    shown precision x (x.get run.2.current) =
      ((x.given u).map (shown precision x)).getD (shown precision x (x.get s.current))) ∨
  ∃ fault, run = (.error fault, s)

theorem settles_fail (u : Rail.Update) (s : Rail.MediaServer T) (fault : Fault) :
    Settles precision u s ((.fail fault : Service α).run (railHost points parse uptime other) s) :=
  Or.inr ⟨fault, rfl⟩

/-- Where the settings of a request are put over those that were read, the shown settings are those
of the request over those before. -/
theorem shown_posted {u read : Rail.Update} {config : Rail.Config}
    (hread : ∀ x : Rail.Setting, ∀ v ∈ x.given read, v = shown precision x (x.get config))
    (x : Rail.Setting) :
    shown precision x (x.get (((printed precision u).orElse read).apply config)) =
      ((x.given u).map (shown precision x)).getD (shown precision x (x.get config)) := by
  rw [Rail.Setting.get_apply, Rail.Setting.given_orElse, given_printed]
  cases x.given u with
  | some v => exact shown_shown x v
  | none =>
    rw [Option.map_none, Option.none_or, Option.getD_none]
    cases hv : x.given read with
    | none => rfl
    | some v =>
      obtain rfl := hread x v hv
      exact shown_shown x _

theorem settles_change (hparse : Reads precision parse) {s : Rail.MediaServer T}
    (hs : Rail.Stored s.current) (change : Change) :
    Settles precision change.update s
      ((change.service precision ctx).run (railHost points parse uptime other) s) := by
  rcases change_puts hparse ctx change with ⟨fault, hfail⟩ | ⟨k, hcall, hputs⟩
  · rw [hfail]
    exact settles_fail _ _ _
  · rw [hcall, run_getThen_rail]
    rcases run_puts (hputs _ (readable_answer hs change)) hs with ⟨a, ha, hcurrent⟩ | hfault
    · refine Or.inl ⟨a, ha, fun x => ?_⟩
      rw [hcurrent]
      refine shown_posted (fun x v hv => ?_) x
      rw [given_readBack_answer hs] at hv
      obtain ⟨-, -, rfl⟩ := Option.map_eq_some_iff.mp hv
      exact get_rounded x s.current
    · exact Or.inr hfault

/-- A text that is put as the OSD. -/
theorem settles_put {u : Rail.Update} (settings : OsdSettings) {s : Rail.MediaServer T}
    (hs : Rail.Stored s.current) {p : Service α}
    (hp : p.Commits ReadsOnly (Puts parse settings.update) Succeeds False)
    (hu : u = { osdEnabled := some settings.enabled, osdText := some settings.text })
    (htext : 0 ∉ settings.text) :
    Settles precision u s (p.run (railHost points parse uptime other) s) := by
  rcases run_puts hp hs with ⟨a, ha, hcurrent⟩ | hfault
  · refine Or.inl ⟨a, ha, fun x => ?_⟩
    rw [hcurrent, OsdSettings.update, cString_of_notMem htext, hu]
    cases x <;> rfl
  · exact Or.inr hfault

theorem settles_quiet {u : Rail.Update} {p : Service α} (hp : Quiet p) {s : Rail.MediaServer T}
    {q : α → Service β}
    (h : ∀ a, Settles precision u s ((q a).run (railHost points parse uptime other) s)) :
    Settles precision u s ((p >>= q).run (railHost points parse uptime other) s) := by
  have hsame : (p.run (railHost points parse uptime other) s).2 = s :=
    hp.frame id (fun c s hc => railHost_of_readsOnly c s hc) s
  rw [Prog.run_bind]
  rcases hrun : p.run (railHost points parse uptime other) s with ⟨result, t⟩
  rw [hrun] at hsame
  obtain rfl : t = s := hsame
  cases result with
  | error fault => exact Or.inr ⟨fault, rfl⟩
  | ok a => exact h a

theorem settles_setOsd (hparse : Reads precision parse) {s : Rail.MediaServer T}
    (hs : Rail.Stored s.current) (request : Option TrtSetOsd) :
    Settles precision (Operation.trtSetOsd request).update s
      ((trtSetOsd ctx request).run (railHost points parse uptime other) s) := by
  refine settles_quiet (quiet_authenticate ctx) fun _ => ?_
  obtain _ | ⟨_ | osd⟩ := request
  · exact settles_fail _ _ _
  · exact settles_fail _ _ _
  obtain ⟨result, hresult, htext⟩ := validateOsdConfiguration_set osd
  show Settles _ _ s ((validateOsdConfiguration osd true false >>= _).run _ s)
  rw [hresult]
  cases result with
  | error fault => exact settles_fail _ _ _
  | ok text =>
    have hgiven : setText ⟨some osd⟩ = some text := htext.symm
    refine settles_quiet quiet_osdSettingsFromRail fun current => ?_
    cases current.enabled with
    | false => exact settles_fail _ _ _
    | true =>
      refine settles_put ⟨true, text⟩ hs
        (commits_setOsd (puts_osd hparse _ (notMem_setText hgiven))) ?_
        (notMem_setText hgiven)
      rw [Operation.update, Option.bind_some, hgiven]

theorem settles_createOsd (hparse : Reads precision parse) {s : Rail.MediaServer T}
    (hs : Rail.Stored s.current) (request : Option TrtCreateOsd) :
    Settles precision (Operation.trtCreateOsd request).update s
      ((trtCreateOsd ctx request).run (railHost points parse uptime other) s) := by
  refine settles_quiet (quiet_authenticate ctx) fun _ => ?_
  obtain _ | ⟨_ | osd⟩ := request
  · exact settles_fail _ _ _
  · exact settles_fail _ _ _
  obtain ⟨result, hresult, htext⟩ := validateOsdConfiguration_create osd
  show Settles _ _ s ((validateOsdConfiguration osd false true >>= _).run _ s)
  rw [hresult]
  cases result with
  | error fault => exact settles_fail _ _ _
  | ok text =>
    have hgiven : createText ⟨some osd⟩ = some text := htext.symm
    refine settles_quiet quiet_osdSettingsFromRail fun current => ?_
    cases current.enabled with
    | true => exact settles_fail _ _ _
    | false =>
      refine settles_put ⟨true, text⟩ hs
        ((commits_setOsd (puts_osd hparse _ (notMem_createText hgiven))).bind_pure fun _ =>
          kOsdToken) ?_
        (notMem_createText hgiven)
      rw [Operation.update, Option.bind_some, hgiven]

/-- Operations that send nothing to rail-media. -/
theorem settles_elsewhere {op : Operation} (hmakes : ∀ c, op.Makes libm c →
      ∀ s : Rail.MediaServer T, (railHost points parse uptime other c s).2 = s)
    (hupdate : op.update = {}) (s : Rail.MediaServer T) :
    Settles libm.precision op.update s
      ((serve libm ctx op).run (railHost points parse uptime other) s) := by
  have hsame : ((serve libm ctx op).run (railHost points parse uptime other) s).2 = s := by
    rcases (serve_commits op).run_cases id (fun c s hc => railHost_of_readsOnly c s hc) s with
      ⟨hsame, -⟩ | ⟨c, u, hc, hu, hend, -⟩
    · exact hsame
    · rw [hend, hmakes c hc]
      exact hu
  cases hresult : ((serve libm ctx op).run (railHost points parse uptime other) s).1 with
  | error fault => exact Or.inr ⟨fault, Prod.ext hresult hsame⟩
  | ok a =>
    refine Or.inl ⟨a, hresult, fun x => ?_⟩
    rw [hsame, hupdate]
    cases x <;> rfl

variable (points uptime other libm ctx) in
/-- Every operation. -/
theorem serve_settles (hparse : Reads libm.precision parse) {s : Rail.MediaServer T}
    (hs : Rail.Stored s.current) (op : Operation) :
    Settles libm.precision op.update s
      ((serve libm ctx op).run (railHost points parse uptime other) s) := by
  cases op with
  | trtSetVideoEncoderConfiguration request => exact settles_change hparse hs (.video request)
  | timgSetImagingSettings request => exact settles_change hparse hs (.imaging request)
  | trtDeleteOsd request => exact settles_change hparse hs (.deleteOsd request)
  | trtSetOsd request => exact settles_setOsd hparse hs request
  | trtCreateOsd request => exact settles_createOsd hparse hs request
  | tptzContinuousMove request =>
    exact settles_elsewhere (by rintro _ ⟨_, _, _, _, rfl⟩ _; rfl) rfl s
  | tptzRelativeMove request => exact settles_elsewhere (by rintro _ ⟨_, _, rfl⟩ _; rfl) rfl s
  | tptzSetPreset request | tptzSetHomePosition request | tptzGotoPreset request
  | tptzGotoHomePosition request | tptzStop request =>
    exact settles_elsewhere (by rintro _ rfl _; rfl) rfl s
  | _ => exact settles_elsewhere (by rintro _ ⟨⟩) rfl s

/-! ### Sessions -/

theorem stored_call {s : Rail.MediaServer T} (hs : Rail.Stored s.current) (p : Service α) :
    Rail.Stored (p.run (railHost points parse uptime other) s).2.current := by
  refine p.run_keeps (I := fun s : Rail.MediaServer T => Rail.Stored s.current) ?_ hs
  intro c s hs
  cases c with
  | http method path body => exact Rail.stored_handleRequest uptime ⟨method, path, body⟩ hs
  | _ => exact hs

theorem Session.lastGiven_snoc (x : Rail.Setting) (es : List Session.Event) (e : Session.Event) :
    Session.lastGiven x (es ++ [e]) = (e.gives x).or (Session.lastGiven x es) := by
  unfold Session.lastGiven
  rw [List.filterMap_append, List.filterMap_cons]
  cases e.gives x with
  | none => simp
  | some v => simp

/-- What a step keeps of the configuration, and what it makes of the shown settings. -/
theorem Session.step_settings (hparse : Reads libm.precision parse) {s t : Rail.MediaServer T}
    (hs : Rail.Stored s.current) {e : Session.Event}
    (h : Session.step points parse libm s e = some t) :
    Rail.Stored t.current ∧ ∀ x : Rail.Setting,
      shown libm.precision x (x.get t.current) =
        shown libm.precision x ((e.gives x).getD (x.get s.current)) := by
  cases e with
  | callback callback =>
    obtain rfl := Option.some.inj h
    rw [Rail.onCallback_current]
    exact ⟨hs, fun x => rfl⟩
  | call ctx uptime other op ok =>
    have hsettles := serve_settles points uptime other libm ctx hparse hs op
    simp only [Session.step] at h
    split_ifs at h with hok
    obtain rfl := Option.some.inj h
    refine ⟨stored_call hs _, fun x => ?_⟩
    rcases hsettles with ⟨a, ha, hsettings⟩ | ⟨fault, hfault⟩
    · rw [ha] at hok
      obtain rfl : true = ok := hok
      rw [hsettings x, Session.Event.gives]
      cases x.given op.update <;> rfl
    · rw [hfault] at hok ⊢
      obtain rfl : false = ok := hok
      rfl

/-- **Sessions**: after any calls of any operations, with any headers and requests, every setting of
rail-media shows the value that the last successful call that named it gave it, or its start-up
value, and a call that ends with a fault leaves rail-media exactly as it was. -/
theorem session_settings (hparse : Reads libm.precision parse) {argv : List CStr}
    {config : Rail.Config}
    (hargs : Rail.parseArgs argv = .ok config) {es : List Session.Event} {s : Rail.MediaServer T}
    (h : (Session.machine points parse libm config).Reaches Machine.anyStep es s) :
    (∀ x : Rail.Setting,
      shown libm.precision x (x.get s.current) =
        shown libm.precision x ((Session.lastGiven x es).getD (x.get config))) ∧
    ∀ ctx uptime other op t,
      Session.step points parse libm s (.call ctx uptime other op false) = some t → t = s := by
  have hreached : Rail.Stored s.current ∧ ∀ x : Rail.Setting,
      shown libm.precision x (x.get s.current) =
        shown libm.precision x ((Session.lastGiven x es).getD (x.get config)) := by
    induction h with
    | start hs =>
      obtain ⟨now, rfl⟩ := hs
      refine ⟨Rail.stored_start (Rail.accepted_of_parseArgs hargs) now, fun x => ?_⟩
      cases x <;> rfl
    | @next es s t e _ _ hstep ih =>
      obtain ⟨hstored, hsettings⟩ := Session.step_settings hparse ih.1 hstep
      refine ⟨hstored, fun x => ?_⟩
      rw [hsettings x, Session.lastGiven_snoc]
      cases e.gives x with
      | none => exact ih.2 x
      | some v => rfl
  refine ⟨hreached.2, fun ctx uptime other op t hstep => ?_⟩
  simp only [Session.step] at hstep
  split_ifs at hstep with hok
  obtain rfl := Option.some.inj hstep
  rcases serve_settles points uptime other libm ctx hparse hreached.1 op with
    ⟨a, ha, -⟩ | ⟨fault, hfault⟩
  · rw [ha] at hok
    cases hok
  · rw [hfault]

/-- A size set by one call, and a call that faults after it. -/
def sizeSession : List Session.Event :=
  [.call openContext 0 (fun _ => default) (.trtSetVideoEncoderConfiguration (some sizeRequest))
    true, .call openContext 0 (fun _ => default) (.trtCreateOsd none) false]

def plainSession : Machine (Rail.MediaServer (List (Bytes × Rail.Factory))) Session.Event :=
  Session.machine Rail.mountTable flatParser ⟨fun _ => 0, .binary64⟩ {}

theorem session_settings_size : ∃ s, plainSession.Reaches Machine.anyStep sizeSession s ∧
    s.current.width = 640 ∧ s.current.fps = 30 := by
  have hinit : plainSession.init plainServer := ⟨0, rfl⟩
  have hend : (plainSession.run plainServer sizeSession).map (fun _ => ()) = some () := by
    decide +kernel
  obtain ⟨s, hreaches, -⟩ := Machine.exists_reaches hinit Machine.allows_anyStep hend
  have hsettings := (session_settings reads_flatParser parseArgs_nil hreaches).1
  exact ⟨s, hreaches, hsettings .width, hsettings .fps⟩

end Afterveda.Onvif.Soap
