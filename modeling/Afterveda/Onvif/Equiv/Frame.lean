import Afterveda.Onvif.Equiv.Changes
import Afterveda.Onvif.Equiv.Cut

/-!
# What a change leaves alone

A change sends back settings that its request did not name, as it read them.  `run_sends` says what
the POST does to rail-media, and `readBack_deliver` what was read before it; from them
`unnamed_kept_iff`: the settings a request did not name keep their values exactly when the outcome
of the GET preserves them (`Change.Keeps`).
-/

namespace Afterveda.Onvif

open CText CNumber JsonGlib Rail Soap

variable {T : Type} {points : MountPoints T} {parse : Parser} {precision : Precision}
  {ctx : Context} {uptime : ℤ} {other : (c : Call) → c.Answer} {outcomes : ℕ → GetOutcome}
  {delivered : Bool}

/-- The key of a setting in the documents of rail-media. -/
def settingKey : Setting → Bytes
  | .width => bytes "width"
  | .height => bytes "height"
  | .fps => bytes "fps"
  | .bitrateKbps => bytes "bitrate_kbps"
  | .encoder => bytes "encoder"
  | .brightness => bytes "brightness"
  | .contrast => bytes "contrast"
  | .colorSaturation => bytes "color_saturation"
  | .osdEnabled => bytes "enabled"
  | .osdText => bytes "text"

/-- The value of a setting as it stands there. -/
def settingText (config : Rail.Config) : Setting → Bytes
  | .width => toDecimal config.width
  | .height => toDecimal config.height
  | .fps => toDecimal config.fps
  | .bitrateKbps => toDecimal config.bitrateKbps
  | .encoder => 34 :: (Rail.jsonEscape config.encoder ++ [34])
  | .brightness => formatDouble config.brightness
  | .contrast => formatDouble config.contrast
  | .colorSaturation => formatDouble config.colorSaturation
  | .osdEnabled => if config.osdEnabled then bytes "true" else bytes "false"
  | .osdText => 34 :: (Rail.jsonEscape config.osdText ++ [34])

/-- After this outcome of the GET the settings that the request did not name are sent back as they
are stored.  An answered GET gives all values but those of image settings that printing changes, a
failed one gives the built-in values.  A document that is cut short gives the values that have
arrived to their end; a value of which nothing has arrived, or a text of which not all has, is the
built-in one. -/
def Change.Keeps (precision : Precision) (change : Change) (outcome : GetOutcome)
    (config : Rail.Config) : Prop :=
  ∀ x : Setting, x.given change.update = none → (x.given change.fallback).isSome →
    match outcome with
    | .answered => x.get (rounded precision config) = x.get config
    | .cut length =>
      let arrived := (change.document config).take length
      Arrived arrived (settingKey x) (settingText config x) ∧
          x.get (rounded precision config) = x.get config ∨
        (x = .osdText ∨ Missing arrived (settingKey x)) ∧
          x.given change.fallback = some (x.get config)
    | _ => x.given change.fallback = some (x.get config)

/-! ### The POST -/

/-- A GET over the connection. -/
theorem run_getThen (path : Bytes) (k : Option RailHttpResponse → Service Unit) (l : Link T) :
    (getThen path k).run (lossyHost points parse uptime other outcomes delivered) l =
      (k ((outcomes l.gets).deliver (some
        ⟨(handleRequest points parse uptime ⟨bytes "GET", path, []⟩ l.server).1.status,
          (handleRequest points parse uptime ⟨bytes "GET", path, []⟩ l.server).1.body⟩))).run
        (lossyHost points parse uptime other outcomes delivered) { l with gets := l.gets + 1 } := by
  have hstate := handleRequest_get_snd points parse uptime path [] l.server
  have hhost : lossyHost points parse uptime other outcomes delivered
      (.http (bytes "GET") path []) l = ((outcomes l.gets).deliver (some
        ⟨(handleRequest points parse uptime ⟨bytes "GET", path, []⟩ l.server).1.status,
          (handleRequest points parse uptime ⟨bytes "GET", path, []⟩ l.server).1.body⟩),
        { l with gets := l.gets + 1 }) := by
    simp only [lossyHost, ↓reduceIte, hstate]
  rw [getThen, Prog.run_call, hhost]

/-- Until rail-media takes the POST its configuration is as it was, and then it has the settings
that were sent. -/
theorem run_sends {posted : Update} {p : Service Unit} (hp : Sends points parse posted p)
    {l l' : Link T} {result : Except Fault Unit} (hl : Stored l.server.current)
    (hnone : l.posted = none)
    (hrun : p.run (lossyHost points parse uptime other outcomes delivered) l = (result, l'))
    (haccepted : l'.posted = some 200) :
    l'.server.current = posted.apply l.server.current := by
  induction hp generalizing l with
  | ends h =>
    obtain ⟨result, rfl⟩ := h
    rw [Prog.run_ofExcept] at hrun
    obtain rfl := congrArg Prod.snd hrun
    exact absurd (hnone.symm.trans haccepted) (by decide)
  | @get path k _ ih =>
    rw [run_getThen] at hrun
    exact @ih _ { l with gets := l.gets + 1 } hl hnone hrun
  | @post path body k hupdate hk =>
    rw [postThen, Prog.run_call] at hrun
    obtain ⟨_, hend⟩ := hk (lossyHost points parse uptime other outcomes delivered
      (.http (bytes "POST") path body) l).1
    rw [hend, Prog.run_ofExcept] at hrun
    obtain rfl := congrArg Prod.snd hrun
    have hstatus :
        (handleRequest points parse uptime ⟨bytes "POST", path, body⟩ l.server).1.status = 200 :=
      Option.some.inj haccepted
    show (handleRequest points parse uptime ⟨bytes "POST", path, body⟩ l.server).2.current = _
    rw [handleRequest_current uptime _ hl.profile, if_pos hstatus, hupdate _ _ hl hstatus]

/-! ### The frame -/

/-- The settings the request did not name, after the POST: the read ones where there are such. -/
theorem get_posted {change : Change} {answer : Option RailHttpResponse} {x : Setting}
    (hunnamed : x.given change.update = none) (config : Rail.Config) :
    x.get ((change.posted precision answer).apply config) =
      (x.given (change.readBack precision answer)).getD (x.get config) := by
  have hprinted : x.given (printed precision change.update) = none := by
    cases x <;> first | exact hunnamed | exact Option.map_eq_none_iff.mpr hunnamed
  rw [Setting.get_apply, Change.posted, Setting.given_orElse, hprinted, Option.none_or]

/-- A setting of the posted resource is read, whatever the answer. -/
theorem isSome_readBack (change : Change) (answer : Option RailHttpResponse) (x : Setting) :
    (x.given (change.readBack precision answer)).isSome = (x.given change.fallback).isSome := by
  cases change <;> cases x <;> rfl

/-- What is read of an answer can be sent back, also when the answer was cut short. -/
theorem readable_cut {config : Rail.Config} (h : Stored config) (change : Change) (length : ℕ) :
    change.Readable precision (some ⟨200, (change.document config).take length⟩) := by
  have hlevel : IsLevel (.finite 50) := ⟨50, rfl, by norm_num, by norm_num⟩
  cases change with
  | video request =>
    refine sound_read ((profileJson config).take length) ?_
    constructor <;> decide
  | imaging request => exact sound_read_cut h ⟨hlevel, hlevel, hlevel⟩ length
  | deleteOsd request => exact notMem_read_cut h (show 0 ∉ bytes "Afterveda" by decide) length

/-- What is read of an answer that was cut short, and where it is what was stored. -/
theorem given_readBack_cut {config : Rail.Config} (h : Stored config) (change : Change)
    (length : ℕ) {x : Setting} (hunnamed : x.given change.update = none)
    (hsent : (x.given change.fallback).isSome) :
    x.given (change.readBack precision (some ⟨200, (change.document config).take length⟩)) =
        some (x.get config) ↔
      Arrived ((change.document config).take length) (settingKey x) (settingText config x) ∧
          x.get (rounded precision config) = x.get config ∨
        (x = .osdText ∨ Missing ((change.document config).take length) (settingKey x)) ∧
          x.given change.fallback = some (x.get config) := by
  have hfifty : precision.reread (.finite 50) = .finite 50 := by
    cases precision <;> decide +kernel
  -- the forms that the conditions have for numbers
  have hint : ∀ {y : Setting} {A M : Prop} {read v fallback : ℤ}, y ≠ .osdText →
      (read = v ↔ A ∨ M ∧ fallback = v) →
      (some read = some v ↔ A ∧ v = v ∨ (y = .osdText ∨ M) ∧ some fallback = some v) := by
    intro y A M read v fallback hy hread
    simp [hy, hread]
  have hlevel : ∀ {y : Setting} {A M : Prop} {read v : Double}, y ≠ .osdText →
      (read = v ↔ A ∧ precision.reread v = v ∨ M ∧ precision.reread (.finite 50) = v) →
      (some read = some v ↔
        A ∧ precision.reread v = v ∨ (y = .osdText ∨ M) ∧ some (Double.finite 50) = some v) := by
    intro y A M read v hy hread
    simp [hy, hread, hfifty]
  cases change with
  | video request =>
    cases x with
    | width =>
      exact hint (by decide) (jsonInt_cut h.width (afterMarker_width h.profile) (by decide) length)
    | height =>
      exact hint (by decide)
        (jsonInt_cut h.height (afterMarker_height h.profile) (by decide) length)
    | fps =>
      exact hint (by decide) (jsonInt_cut h.fps (afterMarker_fps h.profile) (by decide) length)
    | bitrateKbps =>
      exact hint (by decide)
        (jsonInt_cut h.bitrateKbps (afterMarker_bitrateKbps h.profile) (by decide) length)
    | _ => cases hsent
  | imaging request =>
    cases x with
    | brightness =>
      exact hlevel (by decide)
        (reread_jsonDouble_cut h.brightness (afterMarker_brightness config) _ length)
    | contrast =>
      exact hlevel (by decide)
        (reread_jsonDouble_cut h.contrast (afterMarker_contrast config) _ length)
    | colorSaturation =>
      exact hlevel (by decide)
        (reread_jsonDouble_cut h.colorSaturation (afterMarker_colorSaturation config) _ length)
    | _ => cases hsent
  | deleteOsd request =>
    cases x with
    | osdText =>
      have hnul : cString (({} : OsdSettings).read ((osdJson config).take length)).text =
          (({} : OsdSettings).read ((osdJson config).take length)).text :=
        cString_of_notMem (notMem_read_cut h (show 0 ∉ bytes "Afterveda" by decide) length)
      refine Option.some_inj.trans ((iff_of_eq (congrArg (· = config.osdText) hnul)).trans
        ((jsonString_cut (afterMarker_text config) (bytes "Afterveda") length).trans ?_))
      show _ ↔ _ ∧ config.osdText = config.osdText ∨
        _ ∧ some (bytes "Afterveda") = some config.osdText
      simp only [and_true, true_or, true_and, Option.some_inj]
      rfl
    | osdEnabled => cases hunnamed
    | _ => cases hsent

/-- What is read after each outcome of the GET, and where it is what was stored. -/
theorem readBack_deliver {config : Rail.Config} (h : Stored config) (change : Change)
    (outcome : GetOutcome) :
    change.Readable precision (outcome.deliver (change.answer config)) ∧
      (change.Keeps precision outcome config ↔
        ∀ x : Setting, x.given change.update = none →
          (x.given (change.readBack precision (outcome.deliver (change.answer config)))).getD
            (x.get config) = x.get config) := by
  -- a setting that is read keeps its value when that is the value read
  have hkeeps : ∀ {answer : Option RailHttpResponse} {x : Setting},
      (x.given (change.readBack precision answer)).getD (x.get config) = x.get config ↔
        ((x.given change.fallback).isSome →
          x.given (change.readBack precision answer) = some (x.get config)) := by
    intro answer x
    rw [← isSome_readBack change answer x]
    cases x.given (change.readBack precision answer) <;> simp
  have hfailed : ∀ {answer}, bodyOf answer = none → change.Readable precision answer ∧
      change.readBack precision answer = change.fallback := fun hbody =>
    (readBack_failed hbody change).symm
  cases outcome with
  | answered =>
    refine ⟨readable_answer h change, forall₂_congr fun x _ => ?_⟩
    rw [GetOutcome.deliver, given_readBack_answer h]
    cases x.given change.fallback <;> simp
  | cut length =>
    refine ⟨readable_cut h change length, forall₂_congr fun x hunnamed => ?_⟩
    refine Iff.trans (forall_congr' fun hsent => ?_) hkeeps.symm
    exact (given_readBack_cut h change length hunnamed hsent).symm
  | refused response =>
    obtain ⟨hreadable, hread⟩ := @hfailed (some response.1) (by
      rw [bodyOf, Option.filter_some, response.2]
      rfl)
    refine ⟨hreadable, forall₂_congr fun x _ => ?_⟩
    rw [hkeeps, GetOutcome.deliver, hread]
  | lost =>
    obtain ⟨hreadable, hread⟩ := @hfailed none rfl
    refine ⟨hreadable, forall₂_congr fun x _ => ?_⟩
    rw [hkeeps, GetOutcome.deliver, hread]

/-- **The frame of a change**: when rail-media accepts the POST, the settings that the request did
not name have the values they had before exactly when the first GET gave these values. -/
theorem unnamed_kept_iff (hparse : Reads precision parse) {argv : List CStr} {config : Rail.Config}
    (hargs : parseArgs argv = .ok config) {es : List Event} {s : MediaServer T}
    (hreaches : (machine points parse config).Reaches Machine.anyStep es s) (change : Change)
    {result : Except Fault Unit} {l : Link T}
    (hrun : (change.service precision ctx).run
      (lossyHost points parse uptime other outcomes delivered) { server := s } = (result, l))
    (haccepted : l.posted = some 200) :
    (∀ x : Setting, x.given change.update = none → x.get l.server.current = x.get s.current) ↔
      change.Keeps precision (outcomes 0) s.current := by
  have hs := stored_of_reaches hargs hreaches
  rcases service_reads points hparse ctx change with ⟨_, hend⟩ | ⟨k, hcall, hsends⟩
  · -- without a call there is no POST
    rw [hend, Prog.run_ofExcept] at hrun
    obtain rfl := congrArg Prod.snd hrun
    cases haccepted
  · rw [hcall, run_getThen, handleRequest_get] at hrun
    obtain ⟨hreadable, hkeeps⟩ := readBack_deliver hs change (outcomes 0)
    have hcurrent : l.server.current =
        (change.posted precision ((outcomes 0).deliver (change.answer s.current))).apply
          s.current :=
      run_sends (hsends _ hreadable) hs rfl hrun haccepted
    rw [hkeeps]
    refine forall₂_congr fun x hunnamed => ?_
    rw [hcurrent, get_posted hunnamed]

/-- A request for 30 frames and 2000 kbit a second that leaves the resolution alone. -/
def rateRequest : TrtSetVideoEncoderConfiguration :=
  ⟨some { token := some ⟨bytes "encoder-main", by decide⟩, rateControl := some ⟨30, 2000⟩ }⟩

/-- The arguments `--profile low`. -/
def lowArgs : List CStr := [⟨bytes "--profile", by decide⟩, ⟨bytes "low", by decide⟩]

/-- The configuration of these arguments. -/
def lowConfig : Rail.Config :=
  { profile := bytes "low", width := 640, height := 360, bitrateKbps := 800 }

theorem parseArgs_lowArgs : parseArgs lowArgs = .ok lowConfig := by decide

/-- rail-media started with them. -/
def lowServer : MediaServer (List (Bytes × Factory)) := MediaServer.start mountTable lowConfig 0

theorem reaches_lowServer :
    (machine mountTable flatParser lowConfig).Reaches Machine.anyStep [] lowServer :=
  .start ⟨0, rfl⟩

/-- What the request does over a connection that treats every GET alike. -/
def rateRun (outcome : GetOutcome) : Except Fault Unit × Link (List (Bytes × Factory)) :=
  ((Change.video (some rateRequest)).service .binary64 openContext).run
    (lossyHost mountTable flatParser 0 (fun _ => default) (fun _ => outcome) true)
    { server := lowServer }

/-- With the GET answered, the request keeps the resolution. -/
theorem unnamed_kept_iff_rate : (rateRun .answered).2.posted = some 200 ∧
    (rateRun .answered).2.server.current.width = 640 := by
  have haccepted : (rateRun .answered).2.posted = some 200 := by decide +kernel
  have hkeeps : (Change.video (some rateRequest)).Keeps .binary64 .answered lowServer.current := by
    intro x hunnamed hsent
    cases x with
    | width | height => rfl
    | fps | bitrateKbps => exact nomatch hunnamed
    | _ => exact nomatch hsent
  have hkept := (unnamed_kept_iff reads_flatParser parseArgs_lowArgs reaches_lowServer
    (Change.video (some rateRequest)) (Prod.mk.eta (p := rateRun .answered)).symm haccepted).mpr
    hkeeps
  exact ⟨haccepted, hkept .width rfl⟩

/-- With the GET lost, the same request sets the resolution to the client's built-in one. -/
theorem lost_get_changes_width : (rateRun .lost).2.posted = some 200 ∧
    Setting.width.given (Change.video (some rateRequest)).update = none ∧
      lowServer.current.width = 640 ∧ (rateRun .lost).2.server.current.width = 1280 := by
  refine ⟨?_, rfl, rfl, ?_⟩
  · decide +kernel
  · decide +kernel

end Afterveda.Onvif
