import Afterveda.Lib.Json
import Afterveda.Onvif.Equiv.Osd
import Afterveda.Rail.Equiv.Arguments

/-!
# The length of the OSD text

A text is offered to rail-media on its command line, in the body of `POST /osd`, and through the
ONVIF service.  The documentation limits it to 128 characters.  `osdLimit_iff` says for which texts
the three do that, alike: they count bytes, which is the same for all but the texts that have at
most 128 characters and more bytes, and the ONVIF service posts control characters as they are.
-/

namespace Afterveda.Rail

open CText

/-! ### The command line -/

/-- The variables with another OSD text. -/
def Options.withText (text : Bytes) (o : Options) : Options :=
  { o with config := { o.config with osdText := text } }

theorem ValueOption.set_withText {option : ValueOption} (h : option ≠ .osdText)
    (arg value text : Bytes) (o : Options) :
    option.set arg value (o.withText text) = (option.set arg value o).map (·.withText text) := by
  cases option with
  | width | height | fps | bitrateKbps =>
    unfold ValueOption.set
    cases parseInt value arg <;> rfl
  | osdText => exact absurd rfl h
  | _ => rfl

/-- The loop keeps an OSD text that no later option writes. -/
theorem readOptions_withText {args : List Bytes} (o : Options) (text : Bytes)
    (h : lastValue .osdText args = none) :
    readOptions args (o.withText text) = (readOptions args o).map (·.withText text) := by
  have hvalued : ∀ {arg value : Bytes} {rest : List Bytes} {option : ValueOption},
      valueOption arg = some option → lastValue .osdText (arg :: value :: rest) = none →
        option ≠ .osdText ∧ lastValue .osdText rest = none := by
    intro arg value rest option hoption hlast
    rw [lastValue_cons hoption, Option.or_eq_none_iff] at hlast
    refine ⟨?_, hlast.1⟩
    rintro rfl
    cases hlast.2
  fun_induction readOptions args o with
  | case1 o => rfl
  | case2 o rest => rw [readOptions, if_pos rfl]; rfl
  | case3 arg o hhelp option hoption => rw [readOptions, if_neg hhelp, hoption]; rfl
  | case4 arg o hhelp option hoption value rest stop hset =>
    rw [readOptions, if_neg hhelp, hoption]
    dsimp only
    rw [option.set_withText (hvalued hoption h).1, hset]
    rfl
  | case5 arg o hhelp option hoption value rest o₁ hset ih =>
    rw [readOptions, if_neg hhelp, hoption]
    dsimp only
    rw [option.set_withText (hvalued hoption h).1, hset]
    exact ih (hvalued hoption h).2
  | case6 o rest hhelp hoption ih =>
    rw [readOptions, if_neg hhelp, hoption]
    dsimp only
    rw [if_pos rfl]
    rw [lastValue_skip hoption] at h
    exact ih h
  | case7 arg o rest hhelp hoption hnot =>
    rw [readOptions, if_neg hhelp, hoption]
    dsimp only
    rw [if_neg hnot]
    rfl

/-- The last of the final checks is the one of the OSD text. -/
theorem complaint_withText {o : Options} {config : Config} (h : o.complaint config = none)
    (text : Bytes) : (o.withText text).complaint { config with osdText := text } =
      if 128 < text.length then some (bytes "--osd-text must be 128 characters or fewer")
      else none := by
  unfold Options.complaint at h ⊢
  split_ifs at h with hmount hhost hencoder hrealm hpair hempty htext
  rw [if_neg hmount, if_neg hhost, if_neg hencoder, if_neg hrealm]
  exact (if_neg hpair).trans (if_neg hempty)

theorem finish_withText {o : Options} {config : Config} {short : Bytes}
    (h : (o.withText short).finish = .ok config) (text : Bytes) :
    (o.withText text).finish.isOk = decide (text.length ≤ 128) := by
  unfold Options.finish at h ⊢
  have hname : (o.withText short).profileName = (o.withText text).profileName := rfl
  rw [hname] at h
  cases hfind : findProfile (o.withText text).profileName with
  | none => rw [hfind] at h; cases h
  | some profile =>
    rw [hfind] at h
    dsimp only at h ⊢
    split at h
    next => cases h
    next hnone =>
      have hcomplaint := complaint_withText hnone text
      have hsame : (o.withText short).withText text = o.withText text := rfl
      rw [hsame] at hcomplaint
      have hconfig : (o.withText text).override (applyProfile (o.withText text).config profile) =
          { (o.withText short).override (applyProfile (o.withText short).config profile) with
            osdText := text } := rfl
      rw [hconfig, hcomplaint]
      by_cases hlength : text.length ≤ 128
      · rw [if_neg (not_lt.mpr hlength), decide_eq_true hlength]
        rfl
      · rw [if_pos (not_le.mp hlength), decide_eq_false hlength]
        rfl

/-- `--osd-text` with its value. -/
def osdArgument (text : CStr) : List CStr := [⟨bytes "--osd-text", by decide⟩, text]

theorem readOptions_osdArgument {before after : List CStr} {o : Options}
    (hbefore : readOptions (before.map Subtype.val) {} = .ok o)
    (hafter : lastValue .osdText (after.map Subtype.val) = none) (text : CStr) :
    readOptions ((before ++ osdArgument text ++ after).map Subtype.val) {} =
      (readOptions (after.map Subtype.val)
        { o with config := { o.config with osdEnabled := true } }).map (·.withText text.val) := by
  rw [← readOptions_withText _ _ hafter, List.append_assoc, List.map_append,
    readOptions_append hbefore]
  rfl

/-- Where some text is accepted, any other is by its length in bytes. -/
theorem parseArgs_osdArgument {before after : List CStr} {short : CStr} {config : Config}
    (hbefore : (readOptions (before.map Subtype.val) {}).isOk)
    (hafter : lastValue .osdText (after.map Subtype.val) = none)
    (h : parseArgs (before ++ osdArgument short ++ after) = .ok config) (text : CStr) :
    (parseArgs (before ++ osdArgument text ++ after)).isOk = decide (text.val.length ≤ 128) := by
  cases hread : readOptions (before.map Subtype.val) {} with
  | error stop => rw [hread] at hbefore; cases hbefore
  | ok o =>
    obtain ⟨o', ho', hfinish⟩ := Except.exists_of_bind_eq_ok h
    rw [readOptions_osdArgument hread hafter] at ho'
    obtain ⟨o₁, ho₁, rfl⟩ := Except.exists_of_map_eq_ok ho'
    rw [← finish_withText hfinish text.val, parseArgs, readOptions_osdArgument hread hafter, ho₁]
    rfl

end Afterveda.Rail

namespace Afterveda.Onvif

open CText CNumber JsonGlib Rail Soap
open Json (NoControl)

variable {T : Type} {points : MountPoints T} {parse : Parser} {other : (c : Call) → c.Answer}
  {text : CStr}

/-! ### The entries -/

/-- A text is offered where nothing else is wrong, and is accepted or not. -/
inductive Offered (points : MountPoints T) (parse : Parser) (other : (c : Call) → c.Answer)
    (text : CStr) : Bool → Prop
  /-- On a command line on which some text is accepted; no later option gives another one. -/
  | argument {before after : List CStr} {short : CStr} {config : Rail.Config}
      (hbefore : (readOptions (before.map Subtype.val) {}).isOk)
      (hafter : lastValue .osdText (after.map Subtype.val) = none)
      (h : parseArgs (before ++ osdArgument short ++ after) = .ok config) :
      Offered points parse other text (parseArgs (before ++ osdArgument text ++ after)).isOk
  /-- In an object posted to `/osd`, where `enabled` may stand beside it. -/
  | post (uptime : ℤ) (s : MediaServer T) {body : Bytes} {members : List (Bytes × JsonNode)}
      (hparse : parse body = some (.object members))
      (htext : getMember members (bytes "text") = some (.string text.val))
      (henabled : ∀ node ∈ getMember members (bytes "enabled"), ∃ b, node = .boolean b) :
      Offered points parse other text
        ((handleRequest points parse uptime ⟨bytes "POST", bytes "/osd", body⟩ s).1.status = 200)
  /-- In a well-formed `SetOSD`, while there is an OSD. -/
  | set {ctx : Context} {b : BusyRail T} {request : TrtSetOsd} (uptime : ℤ)
      (hauth : requireAuth ctx = .ok ()) (hb : b.Sound) (hpresent : storeOf b.server.current ≠ none)
      (htext : setText request = some text.val) :
      Offered points parse other text (((OsdCall.set (some request)).service ctx).run
        (busyHost points parse uptime other) b).1.isOk
  /-- In a well-formed `CreateOSD`, while there is none. -/
  | create {ctx : Context} {b : BusyRail T} {request : TrtCreateOsd} (uptime : ℤ)
      (hauth : requireAuth ctx = .ok ()) (hb : b.Sound) (habsent : storeOf b.server.current = none)
      (htext : createText request = some text.val) :
      Offered points parse other text (((OsdCall.create (some request)).service ctx).run
        (busyHost points parse uptime other) b).1.isOk

/-- What is read of a posted body: its text is taken or refused for its length. -/
theorem osdFromJson_text {body : Bytes} {members : List (Bytes × JsonNode)}
    (hparse : parse body = some (.object members))
    (htext : getMember members (bytes "text") = some (.string text.val))
    (henabled : ∀ node ∈ getMember members (bytes "enabled"), ∃ b, node = .boolean b)
    (current : Rail.Config) : ∃ enabled : Bool, osdFromJson parse body current =
      if text.val.length ≤ 128 then
        .ok { current with osdEnabled := enabled, osdText := text.val }
      else .error (bytes "\x7b\"error\":\"invalid text\"\x7d\n") := by
  have hobject : parseJsonObject parse body = some members := by rw [parseJsonObject, hparse]
  obtain ⟨enabled, hread⟩ : ∃ enabled, readJsonBool members (bytes "enabled") = .ok enabled := by
    unfold readJsonBool readJson
    cases hmember : getMember members (bytes "enabled") with
    | none => exact ⟨none, rfl⟩
    | some node =>
      obtain ⟨b, rfl⟩ := henabled node hmember
      exact ⟨some b, rfl⟩
  have hstring : readJsonString members (bytes "text") =
      if text.val.length ≤ 128 then .ok (some text.val) else .error () := by
    simp only [readJsonString, readJson, htext, Rail.stringValue, cString_of_notMem text.2]
    split_ifs <;> rfl
  refine ⟨enabled.getD current.osdEnabled, ?_⟩
  rw [osdFromJson, hobject]
  dsimp only
  rw [hread, hstring]
  split_ifs
  · cases enabled <;> rfl
  · rfl

/-- A posted text is accepted by its length in bytes. -/
theorem handleRequest_text (uptime : ℤ) (s : MediaServer T) {body : Bytes}
    {members : List (Bytes × JsonNode)} (hparse : parse body = some (.object members))
    (htext : getMember members (bytes "text") = some (.string text.val))
    (henabled : ∀ node ∈ getMember members (bytes "enabled"), ∃ b, node = .boolean b) :
    (handleRequest points parse uptime ⟨bytes "POST", bytes "/osd", body⟩ s).1.status =
      if text.val.length ≤ 128 then 200 else 400 := by
  have hroute : (⟨bytes "POST", bytes "/osd", body⟩ : Request).route = .postOsd := rfl
  obtain ⟨enabled, hread⟩ := osdFromJson_text hparse htext henabled s.current
  rw [handleRequest, hroute]
  dsimp only
  rw [hread]
  by_cases hlength : text.val.length ≤ 128
  · rw [if_pos hlength, if_pos hlength]
    dsimp only
    rw [setOsdNow, if_neg (not_lt.mpr hlength)]
    rfl
  · rw [if_neg hlength, if_neg hlength]

/-- A program that does what the store does succeeds when the store has an answer. -/
theorem Performs.isOk_eq {uptime : ℤ} {b : BusyRail T} {expected : Option OsdAnswer × OsdStore}
    {p : Service OsdAnswer} (h : Performs points parse uptime other b expected p) :
    (p.run (busyHost points parse uptime other) b).1.isOk = expected.1.isSome := by
  obtain ⟨result, c, hrun, -, rfl, -⟩ := h
  rw [hrun]
  cases result <;> rfl

/-! ### A body that is refused -/

section Refused

variable {α β : Type} {uptime : ℤ}

variable (points parse other uptime) in
/-- A program that succeeds on no rail-media. -/
def Fails (p : Service α) : Prop :=
  ∀ (b c : BusyRail T) (a : α), p.run (busyHost points parse uptime other) b ≠ (.ok a, c)

theorem fails_fail (fault : Fault) : Fails points parse other uptime (.fail fault : Service α) := by
  rintro b c a ⟨⟩

theorem Fails.bind {p : Service α} (h : Fails points parse other uptime p) (q : α → Service β) :
    Fails points parse other uptime (p >>= q) := by
  intro b c y hrun
  obtain ⟨a, u, hfirst, -⟩ := Prog.exists_of_run_bind_eq_ok hrun
  exact h b u a hfirst

theorem fails_bind (p : Service α) {q : α → Service β}
    (h : ∀ a, Fails points parse other uptime (q a)) :
    Fails points parse other uptime (p >>= q) := by
  intro b c y hrun
  obtain ⟨a, u, -, hrest⟩ := Prog.exists_of_run_bind_eq_ok hrun
  exact h a u c y hrest

/-- Settings whose body json-glib refuses cannot be set. -/
theorem fails_setOsd {enabled : Bool} {text : Bytes}
    (hrefused : parse (osdBody ⟨enabled, text⟩) = none) :
    Fails points parse other uptime (setOsd enabled text) := by
  have hobject : parseJsonObject parse (osdBody ⟨enabled, text⟩) = none := by
    rw [parseJsonObject, hrefused]
  refine fails_bind _ fun settings => ?_
  rw [setOsdSettings_eq]
  intro b c u hrun
  rw [postThen, Prog.run_call, busyHost_post] at hrun
  dsimp only at hrun
  have hstatus : (handleRequest points parse uptime (osdRequest ⟨enabled, text⟩)
      (b.next points parse).server).1.status = 400 :=
    status_osdRequest_unparsed hobject _ uptime
  generalize handleRequest points parse uptime (osdRequest ⟨enabled, text⟩)
    (b.next points parse).server = answer at hrun hstatus
  -- an answer of failure has an error text
  have herror : setterError (bytes "rail-media osd control is unavailable")
      (bytes "rail-media rejected osd settings") (some ⟨answer.1.status, answer.1.body⟩) ≠ [] := by
    rw [Ne, setterError_eq_nil (by decide), RailHttpResponse.ok, hstatus]
    exact Bool.false_ne_true
  rw [checkError, if_neg herror] at hrun
  cases hrun

theorem fails_set {ctx : Context} {request : TrtSetOsd} (htext : setText request = some text.val)
    (hrefused : parse (osdBody ⟨true, text.val⟩) = none) :
    Fails points parse other uptime ((OsdCall.set (some request)).service ctx) := by
  obtain ⟨_ | osd⟩ := request
  · cases htext
  obtain ⟨result, hresult, hgiven⟩ := validateOsdConfiguration_set osd
  rw [htext] at hgiven
  refine Fails.bind (fails_bind (authenticate ctx) fun _ => ?_) _
  show Fails points parse other uptime (validateOsdConfiguration osd true false >>= _)
  rw [hresult]
  cases result with
  | error fault => cases hgiven
  | ok plainText =>
    obtain rfl := Option.some.inj hgiven
    refine fails_bind osdSettingsFromRail fun current => ?_
    split_ifs
    · exact fails_setOsd hrefused
    · exact fails_fail _

theorem fails_create {ctx : Context} {request : TrtCreateOsd}
    (htext : createText request = some text.val)
    (hrefused : parse (osdBody ⟨true, text.val⟩) = none) :
    Fails points parse other uptime ((OsdCall.create (some request)).service ctx) := by
  obtain ⟨_ | osd⟩ := request
  · cases htext
  obtain ⟨result, hresult, hgiven⟩ := validateOsdConfiguration_create osd
  rw [htext] at hgiven
  refine Fails.bind (fails_bind (authenticate ctx) fun _ => ?_) _
  show Fails points parse other uptime (validateOsdConfiguration osd false true >>= _)
  rw [hresult]
  cases result with
  | error fault => cases hgiven
  | ok plainText =>
    obtain rfl := Option.some.inj hgiven
    refine fails_bind osdSettingsFromRail fun current => ?_
    split_ifs
    · exact fails_fail _
    · exact (fails_setOsd hrefused).bind _

theorem Fails.isOk_eq {p : Service α} (h : Fails points parse other uptime p) (b : BusyRail T) :
    (p.run (busyHost points parse uptime other) b).1.isOk = false := by
  cases hrun : p.run (busyHost points parse uptime other) b with
  | mk result c =>
    cases result with
    | ok a => exact absurd hrun (h b c a)
    | error fault => rfl

end Refused

/-- At each entry a text is accepted by its length in bytes. -/
theorem Offered.eq (hdecodes : Decodes parse ⟨true, text⟩) {accepted : Bool}
    (h : Offered points parse other text accepted) : accepted = decide (text.val.length ≤ 128) := by
  have hgiven : ∀ t, some text.val = some t → Decodes parse ⟨true, t⟩ := by
    rintro t ⟨⟩
    exact hdecodes
  cases h with
  | argument hbefore hafter h => exact parseArgs_osdArgument hbefore hafter h text
  | post uptime s hparse htext henabled =>
    rw [handleRequest_text uptime s hparse htext henabled]
    by_cases hlength : text.val.length ≤ 128
    · rw [if_pos hlength, decide_eq_true hlength]
      rfl
    · rw [if_neg hlength, decide_eq_false hlength]
      rfl
  | @set ctx b request uptime hauth hb hpresent htext =>
    have hperforms : Performs points parse uptime other b
        ((storeOf b.server.current).perform (.set (some request)))
        ((OsdCall.set (some request)).service ctx) :=
      performs_set hauth hb (some request) (by rwa [Option.bind_some, htext])
    rw [hperforms.isOk_eq, OsdStore.perform]
    simp only [Option.bind_some, htext, hpresent, ne_eq, not_false_eq_true, true_and]
    by_cases hlength : text.val.length ≤ 128 <;> simp [hlength]
  | @create ctx b request uptime hauth hb habsent htext =>
    have hperforms : Performs points parse uptime other b
        ((storeOf b.server.current).perform (.create (some request)))
        ((OsdCall.create (some request)).service ctx) :=
      performs_create hauth hb (some request) (by rwa [Option.bind_some, htext])
    rw [hperforms.isOk_eq, OsdStore.perform]
    simp only [Option.bind_some, htext, habsent, true_and]
    by_cases hlength : text.val.length ≤ 128 <;> simp [hlength]

/-- At each entry a text that is too long is refused, whether its body is JSON or not. -/
theorem Offered.eq_of_refused (hrefused : parse (osdBody ⟨true, text⟩) = none)
    (hlong : 128 < text.val.length) {accepted : Bool}
    (h : Offered points parse other text accepted) : accepted = decide (text.val.length ≤ 128) := by
  cases h with
  | argument hbefore hafter h => exact parseArgs_osdArgument hbefore hafter h text
  | post uptime s hparse htext henabled =>
    rw [handleRequest_text uptime s hparse htext henabled, if_neg (not_le.mpr hlong),
      decide_eq_false (not_le.mpr hlong)]
    rfl
  | set uptime hauth hb hpresent htext =>
    rw [(fails_set htext hrefused).isOk_eq, decide_eq_false (not_le.mpr hlong)]
  | create uptime hauth hb habsent htext =>
    rw [(fails_create htext hrefused).isOk_eq, decide_eq_false (not_le.mpr hlong)]

/-! ### Characters -/

/-- A character is at least one byte. -/
theorem length_le_bytes (text : String) : text.length ≤ (bytes text).length := by
  have hchars : ∀ cs : List Char, cs.length ≤ (cs.flatMap String.utf8EncodeChar).length := by
    intro cs
    induction cs with
    | nil => exact Nat.zero_le _
    | cons c cs ih =>
      have hc := c.utf8Size_pos
      rw [List.flatMap_cons, List.length_append, String.length_utf8EncodeChar, List.length_cons]
      omega
  have hbytes : bytes text = text.toList.flatMap String.utf8EncodeChar := by
    rw [bytes, ← String.utf8Encode_toList]
    simp [List.utf8Encode]
  rw [hbytes, ← String.length_toList]
  exact hchars _

/-- An empty OSD text is accepted. -/
theorem parseArgs_osdEmpty : parseArgs ([] ++ osdArgument ⟨[], List.not_mem_nil⟩ ++ []) =
    .ok { osdText := [] } := by decide

/-- Every entry accepts a text exactly when it has at most 128 characters, and all entries alike. -/
def LimitsCharacters (points : MountPoints T) (parse : Parser) (other : (c : Call) → c.Answer)
    (text : String) (h : 0 ∉ bytes text) : Prop :=
  (∀ accepted, Offered points parse other ⟨bytes text, h⟩ accepted →
    (accepted = true ↔ text.length ≤ 128)) ∧
  ∀ a b, Offered points parse other ⟨bytes text, h⟩ a →
    Offered points parse other ⟨bytes text, h⟩ b →
    a = b

/-- What is assumed of json-glib: it decodes the body that is posted with a text, and may refuse one
with a control character, which is no JSON. -/
structure TakesText (parse : Parser) (text : Bytes) : Prop where
  plain : NoControl text → Decodes parse ⟨true, text⟩
  control : parse (osdBody ⟨true, text⟩) = none ∨ Decodes parse ⟨true, text⟩

theorem notMem_osdToken : 0 ∉ kOsdToken := by decide

theorem notMem_videoSourceConfigToken : 0 ∉ kVideoSourceConfigToken := by decide

/-- A plain text for the one video source. -/
def plainOsd (text : CStr) : OsdConfigurationRequest where
  token := some ⟨kOsdToken, notMem_osdToken⟩
  videoSourceConfigurationToken := some ⟨kVideoSourceConfigToken, notMem_videoSourceConfigToken⟩
  textString := some ⟨none, some text⟩

theorem setText_plainOsd (text : CStr) : setText ⟨some (plainOsd text)⟩ = some text.val := rfl

variable (points parse other text) in
/-- A text is always offered in a call to a server just started. -/
theorem offered_plainOsd : Offered points parse other text
    (((OsdCall.set (some ⟨some (plainOsd text)⟩)).service openContext).run
      (busyHost points parse 0 other) ⟨MediaServer.start points {} 0, []⟩).1.isOk := by
  refine .set 0 rfl ⟨stored_start (accepted_of_parseArgs parseArgs_nil) 0, nofun⟩ ?_
    (setText_plainOsd text)
  show storeOf (MediaServer.start points {} 0).current ≠ none
  rw [start_current]
  decide

/-- **The length of the OSD text**: it is limited to 128 characters unless it has at most 128
characters in more than 128 bytes, or at most 128 with a control character among them that json-glib
does not take as it stands. -/
theorem osdLimit_iff {text : String} (h : 0 ∉ bytes text) (hparse : TakesText parse (bytes text)) :
    LimitsCharacters points parse other text h ↔
      ¬(text.length ≤ 128 ∧ 128 < (bytes text).length) ∧
        (NoControl (bytes text) ∨ 128 < text.length ∨
          parse (osdBody ⟨true, bytes text⟩) ≠ none) := by
  constructor
  · rintro ⟨hlimit, -⟩
    refine ⟨?_, ?_⟩
    · rintro ⟨hshort, hlong⟩
      have hoffered : Offered points parse other ⟨bytes text, h⟩
          (parseArgs ([] ++ osdArgument ⟨bytes text, h⟩ ++ [])).isOk :=
        .argument rfl rfl parseArgs_osdEmpty
      have haccepted := (hlimit _ hoffered).mpr hshort
      rw [parseArgs_osdArgument rfl rfl parseArgs_osdEmpty] at haccepted
      exact absurd (of_decide_eq_true haccepted) (not_le.mpr hlong)
    · -- a refused body makes the call fail
      by_contra! hrefused
      obtain ⟨-, hshort, hnone⟩ := hrefused
      have haccepted := (hlimit _ (offered_plainOsd points parse other ⟨bytes text, h⟩)).mpr hshort
      rw [(fails_set (setText_plainOsd ⟨bytes text, h⟩) hnone).isOk_eq] at haccepted
      cases haccepted
  · rintro ⟨hnot, hcontrol⟩
    have hbytes : (bytes text).length ≤ 128 ↔ text.length ≤ 128 := by
      have hle := length_le_bytes text
      omega
    have hentries : ∀ accepted, Offered points parse other ⟨bytes text, h⟩ accepted →
        accepted = decide ((bytes text).length ≤ 128) := by
      intro accepted hoffered
      rcases hparse.control with hnone | hdecodes
      · rcases hcontrol with hplain | hlong | htaken
        · exact hoffered.eq (hparse.plain hplain)
        · have hlong' : 128 < (bytes text).length := hlong.trans_le (length_le_bytes text)
          exact hoffered.eq_of_refused hnone hlong'
        · exact absurd hnone htaken
      · exact hoffered.eq hdecodes
    refine ⟨fun accepted hoffered => ?_, fun a b ha hb => ?_⟩
    · rw [hentries _ hoffered, decide_eq_true_iff]
      exact hbytes
    · rw [hentries _ ha, hentries _ hb]

/-- A Korean text is limited like any other while it is short. -/
theorem osdLimit_iff_platform :
    LimitsCharacters mountTable flatParser (fun _ => default) "승강장 1" (by decide) := by
  have hdecodes : Decodes flatParser ⟨true, bytes "승강장 1"⟩ := decodesOsd_flatParser _ (by decide)
  exact (osdLimit_iff _ ⟨fun _ => hdecodes, Or.inr hdecodes⟩).mpr ⟨by decide, Or.inl (by decide)⟩

/-- The word for a station, 43 times: 43 characters in 129 bytes. -/
def koreanText : String := String.ofList (List.replicate 43 '역')

theorem notMem_koreanText : 0 ∉ bytes koreanText := by decide +kernel

theorem not_limitsCharacters_korean : koreanText.length = 43 ∧
    parseArgs ([] ++ osdArgument ⟨bytes koreanText, notMem_koreanText⟩ ++ []) =
      .error (.error (bytes "--osd-text must be 128 characters or fewer")) ∧
    ¬LimitsCharacters mountTable flatParser (fun _ => default) koreanText notMem_koreanText := by
  have hrefused : parseArgs ([] ++ osdArgument ⟨bytes koreanText, notMem_koreanText⟩ ++ []) =
      .error (.error (bytes "--osd-text must be 128 characters or fewer")) := by decide +kernel
  have hlength : koreanText.length = 43 := by decide +kernel
  refine ⟨hlength, hrefused, fun h => ?_⟩
  have hoffered : Offered mountTable flatParser (fun _ => default)
      ⟨bytes koreanText, notMem_koreanText⟩
      (parseArgs ([] ++ osdArgument ⟨bytes koreanText, notMem_koreanText⟩ ++ [])).isOk :=
    .argument rfl rfl parseArgs_osdEmpty
  have haccepted := (h.1 _ hoffered).mpr (by rw [hlength]; decide)
  rw [hrefused] at haccepted
  cases haccepted

end Afterveda.Onvif
