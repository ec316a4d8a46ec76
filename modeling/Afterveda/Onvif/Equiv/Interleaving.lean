import Afterveda.Onvif.Equiv.Frame
import Afterveda.Onvif.Interleaving

/-!
# Lost updates

`step_effect` says what a step does to the configuration of rail-media and to the list of accepted
updates; the POST of a change is the only step that can change settings which the accepted request
did not name.  From it `kept_iff_undisturbed`: as long as no such POST sends back a value that is
out of date (`Undisturbed`) no update is lost, and the first one that does loses an update.
-/

namespace Afterveda.Onvif

open CText CNumber JsonGlib Rail Soap

variable {T : Type} {points : MountPoints T} {parse : Parser} {precision : Precision}

/-- No accepted update is lost: a setting that one accepted request named has the value which that
request gave it. -/
def Parties.Kept (s : Parties T) : Prop :=
  ∀ x : Setting, ∀ v ∈ x.onlyGiven s.accepted, x.get s.server.current = v

/-! ### The condition -/

/-- Printing does not change the image settings of a request that no request before it named. -/
def Change.Exact (precision : Precision) (change : Change) (accepted : List Update) : Prop :=
  ∀ x : Setting, accepted.filterMap x.given = [] →
    x.given (printed precision change.update) = x.given change.update

/-- The settings that a change sends back without naming them were read after the one accepted
request that named them, or were read with its value. -/
def Change.UpToDate (precision : Precision) (change : Change) (seen : Rail.Config)
    (accepted : List Update) : Prop :=
  ∀ x : Setting, x.given change.update = none → (x.given change.fallback).isSome →
    ∀ v ∈ x.onlyGiven accepted, x.get (rounded precision seen) = v

variable (points parse) in
/-- The change whose POST an event makes rail-media accept, and the configuration it had read. -/
def Parties.posting (s : Parties T) : Parties.Event → Option (Change × Rail.Config)
  | .serve uptime =>
    match s.onvif with
    | .sent change (some seen) request _ =>
      if accepts points parse uptime request s.server then some (change, seen) else none
    | _ => none
  | _ => none

variable (points parse precision) in
/-- No POST is accepted that sends back a value that is out of date. -/
def Undisturbed (s : Parties T) (e : Parties.Event) : Prop :=
  ∀ post ∈ s.posting points parse e, post.1.Exact precision s.accepted ∧
    post.1.UpToDate precision post.2 s.accepted

instance (s : Parties T) (e : Parties.Event) : Decidable (Undisturbed points parse precision s e) :=
  have (change : Change) (us : List Update) : Decidable (change.Exact precision us) :=
    inferInstanceAs (Decidable (∀ _, _ → _))
  have (change : Change) (seen : Rail.Config) (us : List Update) :
      Decidable (change.UpToDate precision seen us) :=
    inferInstanceAs (Decidable (∀ _, _ → _ → _))
  inferInstanceAs (Decidable (∀ _ ∈ _, _ ∧ _))

/-! ### The requests of a change -/

theorem not_ends_call (c : Call) (k : c.Answer → Service Unit) : ¬ Ends (.call c k) := by
  rintro ⟨result, h⟩
  cases result <;> cases h

/-- A request of a program that sends `posted` is a GET before it, or the POST. -/
theorem Sends.call_cases {posted : Update} {method path body : Bytes}
    {k : Option RailHttpResponse → Service Unit}
    (h : Sends points parse posted (.call (.http method path body) k)) :
    method = bytes "GET" ∧ body = [] ∧ (∀ answer, Sends points parse posted (k answer)) ∨
      method = bytes "POST" ∧
        (∀ (s : MediaServer T) (uptime : ℤ), Stored s.current →
          (handleRequest points parse uptime ⟨method, path, body⟩ s).1.status = 200 →
            (⟨method, path, body⟩ : Request).update parse = posted) ∧
        ∀ answer, Ends (k answer) := by
  generalize hp : (Prog.call (.http method path body) k : Service Unit) = p at h
  cases h with
  | ends hends => exact absurd (hp ▸ hends) (not_ends_call _ _)
  | get hk =>
    cases hp
    exact Or.inl ⟨rfl, rfl, hk⟩
  | post hupdate hk =>
    cases hp
    exact Or.inr ⟨rfl, hupdate, hk⟩

variable (points parse precision) in
/-- What is left of a change: all of it, or what follows the read of `seen`. -/
def Follows (change : Change) : Option Rail.Config → Service Unit → Prop
  | none, p => ∃ ctx, p = change.service precision ctx
  | some seen, p =>
    Stored seen ∧ Sends points parse (change.posted precision (change.answer seen)) p

variable (points parse precision) in
/-- The ONVIF server is in the middle of a change. -/
def Progress.Coherent : Progress → Prop
  | .idle => True
  | .active change seen rest => Follows points parse precision change seen rest
  | .sent change seen request k =>
    Follows points parse precision change seen
      (.call (.http request.method request.path request.body) k)
  | .replied change seen response k =>
    seen.isSome ∧ Follows points parse precision change seen (k (some response))

variable (points parse precision) in
structure Parties.Coherent (s : Parties T) : Prop where
  stored : Stored s.server.current
  onvif : s.onvif.Coherent points parse precision

/-- rail-media handles a request of a change: it accepts the POST, or nothing changes. -/
theorem serve_cases (hparse : Reads precision parse) {change : Change} {seen : Option Rail.Config}
    {request : Request} {k : Option RailHttpResponse → Service Unit}
    (h : Follows points parse precision change seen
      (.call (.http request.method request.path request.body) k))
    {server : MediaServer T} (hserver : Stored server.current) (uptime : ℤ) :
    Follows points parse precision change (seen.or (some server.current))
        (k (some ⟨(handleRequest points parse uptime request server).1.status,
          (handleRequest points parse uptime request server).1.body⟩)) ∧
      (accepts points parse uptime request server = false ∧
          (handleRequest points parse uptime request server).2.current = server.current ∨
        ∃ config, seen = some config ∧ Stored config ∧
          accepts points parse uptime request server = true ∧
          (handleRequest points parse uptime request server).2.current =
            (change.posted precision (change.answer config)).apply server.current) := by
  have hget : bytes "GET" ≠ bytes "POST" := by decide
  obtain ⟨method, path, body⟩ := request
  dsimp only at h
  cases seen with
  | none =>
    -- the first request is the GET at the path of the change
    obtain ⟨ctx, hservice⟩ := h
    rcases service_reads points hparse ctx change with hends | ⟨k', hcall, hsends⟩
    · exact absurd (hservice ▸ hends) (not_ends_call _ _)
    · rw [hcall, getThen] at hservice
      cases hservice
      have hanswer : handleRequest points parse uptime ⟨bytes "GET", change.path, []⟩ server =
          (⟨200, change.document server.current⟩, server) :=
        handleRequest_get change uptime server
      rw [hanswer]
      refine ⟨⟨hserver, hsends _ (readable_answer hserver change)⟩, Or.inl ⟨?_, rfl⟩⟩
      rw [accepts, decide_eq_false hget, Bool.false_and]
  | some config =>
    obtain ⟨hconfig, hsends⟩ := h
    rcases hsends.call_cases with ⟨rfl, rfl, hk⟩ | ⟨rfl, hupdate, hk⟩
    · refine ⟨⟨hconfig, hk _⟩, Or.inl ⟨?_, ?_⟩⟩
      · rw [accepts, decide_eq_false hget, Bool.false_and]
      · rw [handleRequest_get_snd]
    · refine ⟨⟨hconfig, .ends (hk _)⟩, ?_⟩
      have hcurrent :
          (handleRequest points parse uptime ⟨bytes "POST", path, body⟩ server).2.current = _ :=
        handleRequest_current uptime ⟨bytes "POST", path, body⟩ hserver.profile
      by_cases hstatus :
          (handleRequest points parse uptime ⟨bytes "POST", path, body⟩ server).1.status = 200
      · refine Or.inr ⟨config, rfl, hconfig, ?_, ?_⟩
        · rw [accepts, decide_eq_true hstatus, decide_eq_true rfl, Bool.true_and]
        · rw [hcurrent, if_pos hstatus, hupdate server uptime hserver hstatus]
      · refine Or.inl ⟨?_, ?_⟩
        · rw [accepts, decide_eq_false hstatus, Bool.and_false]
        · rw [hcurrent, if_neg hstatus, apply_empty]

/-! ### Steps -/

variable (points parse precision) in
/-- All a step can do to the configuration and the accepted updates. -/
inductive Effect (s : Parties T) (e : Parties.Event) (t : Parties T) : Prop
  | quiet (hposting : s.posting points parse e = none)
      (hcurrent : t.server.current = s.server.current) (haccepted : t.accepted = s.accepted)
  /-- A request of the other client is accepted. -/
  | direct {update : Update} (hposting : s.posting points parse e = none)
      (hcurrent : t.server.current = update.apply s.server.current)
      (haccepted : t.accepted = s.accepted ++ [update])
  /-- The POST of a change is accepted. -/
  | posted {change : Change} {seen : Rail.Config} (hseen : Stored seen)
      (hposting : s.posting points parse e = some (change, seen))
      (hcurrent : t.server.current =
        (change.posted precision (change.answer seen)).apply s.server.current)
      (haccepted : t.accepted = s.accepted ++ [change.update])

theorem step_effect (hparse : Reads precision parse) {s t : Parties T} {e : Parties.Event}
    (hs : s.Coherent points parse precision) (hstep : s.step points parse precision e = some t) :
    Effect points parse precision s e t ∧ t.Coherent points parse precision := by
  obtain ⟨server, onvif, pending, accepted⟩ := s
  obtain ⟨hserver, honvif⟩ := hs
  dsimp only at hserver honvif
  cases e with
  | call ctx change =>
    cases onvif with
    | idle =>
      obtain rfl := Option.some.inj hstep
      exact ⟨.quiet rfl rfl rfl, hserver, ctx, rfl⟩
    | _ => cases hstep
  | advance =>
    cases onvif with
    | active change seen rest =>
      cases rest with
      | call c k =>
        cases c with
        | http method path body =>
          obtain rfl := Option.some.inj hstep
          exact ⟨.quiet rfl rfl rfl, hserver, honvif⟩
        | _ => cases hstep
      | _ =>
        obtain rfl := Option.some.inj hstep
        exact ⟨.quiet rfl rfl rfl, hserver, trivial⟩
    | _ => cases hstep
  | serve uptime =>
    cases onvif with
    | sent change seen request k =>
      obtain rfl := Option.some.inj hstep
      -- the one request in flight is a GET, or the POST of a candidate made of what was seen
      obtain ⟨hfollows, hserved⟩ := serve_cases hparse honvif hserver uptime
      refine ⟨?_, stored_handleRequest uptime request hserver, ?_, hfollows⟩
      · rcases hserved with ⟨haccepts, hcurrent⟩ | ⟨config, rfl, hconfig, haccepts, hcurrent⟩
        · refine .quiet ?_ hcurrent ?_
          · cases seen with
            | none => rfl
            | some config =>
              simp only [Parties.posting, haccepts, Bool.false_eq_true, if_false]
          · simp only [haccepts, Bool.false_eq_true, if_false]
        · refine .posted hconfig ?_ hcurrent ?_
          · simp only [Parties.posting, haccepts, if_true]
          · simp only [haccepts, if_true]
      · cases seen <;> rfl
    | _ => cases hstep
  | receive =>
    cases onvif with
    | replied change seen response k =>
      obtain rfl := Option.some.inj hstep
      exact ⟨.quiet rfl rfl rfl, hserver, honvif.2⟩
    | _ => cases hstep
  | clientSend request =>
    -- a direct request waits until it is handled
    obtain rfl := Option.some.inj hstep
    exact ⟨.quiet rfl rfl rfl, hserver, honvif⟩
  | clientServe uptime i =>
    obtain ⟨request, -, rfl⟩ := Option.map_eq_some_iff.mp hstep
    refine ⟨?_, stored_handleRequest uptime request hserver, honvif⟩
    have hcurrent : (handleRequest points parse uptime request server).2.current = _ :=
      handleRequest_current uptime request hserver.profile
    -- only an accepted request counts as an update
    by_cases hstatus : (handleRequest points parse uptime request server).1.status = 200
    · rw [if_pos hstatus] at hcurrent
      exact .direct rfl hcurrent (if_pos hstatus)
    · rw [if_neg hstatus, apply_empty] at hcurrent
      exact .quiet rfl hcurrent (if_neg hstatus)
  | callback callback =>
    obtain rfl := Option.some.inj hstep
    have hcurrent := onCallback_current callback server
    refine ⟨.quiet rfl hcurrent rfl, ?_, honvif⟩
    show Stored (onCallback callback server).current
    rw [hcurrent]
    exact hserver

/-! ### The accepted updates -/

theorem given_printed_isSome (x : Setting) (u : Update) :
    (x.given (printed precision u)).isSome = (x.given u).isSome := by
  cases x <;> first | rfl | exact Option.isSome_map

/-- The value of a setting that the POST names. -/
theorem get_posted_named {change : Change} {answer : Option RailHttpResponse} {x : Setting}
    {w : x.Value} (hnamed : x.given change.update = some w) (config : Rail.Config) :
    x.given (printed precision change.update) =
      some (x.get ((change.posted precision answer).apply config)) := by
  have hprinted : (x.given (printed precision change.update)).isSome := by
    rw [given_printed_isSome, hnamed]
    rfl
  obtain ⟨v, hv⟩ := Option.isSome_iff_exists.mp hprinted
  rw [Setting.get_apply, Change.posted, Setting.given_orElse, hv]
  rfl

/-- An update of the other client is not lost, nor does it lose another. -/
theorem kept_direct {s t : Parties T} {update : Update} (hs : s.Kept)
    (hcurrent : t.server.current = update.apply s.server.current)
    (haccepted : t.accepted = s.accepted ++ [update]) : t.Kept := by
  intro x v hv
  rw [haccepted] at hv
  rw [hcurrent, x.get_apply]
  cases hgiven : x.given update with
  | none =>
    rw [Setting.onlyGiven_append_of_none hgiven] at hv
    exact hs x v hv
  | some w => exact ((Setting.mem_onlyGiven_append hgiven).mp hv).2

/-- The POST of a change loses no update exactly when the settings it sends are the named ones as
the request has them, and the other ones as they were last updated. -/
theorem kept_posted_iff {s t : Parties T} {change : Change} {seen : Rail.Config} (hs : s.Kept)
    (hseen : Stored seen)
    (hcurrent : t.server.current =
      (change.posted precision (change.answer seen)).apply s.server.current)
    (haccepted : t.accepted = s.accepted ++ [change.update]) :
    t.Kept ↔ change.Exact precision s.accepted ∧ change.UpToDate precision seen s.accepted := by
  unfold Change.Exact Change.UpToDate
  rw [← forall_and]
  refine forall_congr' fun x => ?_
  rw [haccepted, hcurrent]
  cases hgiven : x.given change.update with
  | none =>
    have hprinted : x.given (printed precision change.update) = none := by
      rw [← Option.not_isSome_iff_eq_none, given_printed_isSome, hgiven]
      exact Bool.false_ne_true
    have hold := hs x
    rw [Setting.onlyGiven_append_of_none hgiven, hprinted, get_posted hgiven,
      given_readBack_answer hseen]
    cases x.given change.fallback with
    | none => simpa using hold
    | some v => simp
  | some w =>
    have hvalue : x.given (printed precision change.update) =
        some (x.get ((change.posted precision (change.answer seen)).apply s.server.current)) :=
      get_posted_named hgiven s.server.current
    rw [hvalue]
    constructor
    · intro h
      refine ⟨fun hfirst => congrArg some (h w ?_), nofun⟩
      exact (Setting.mem_onlyGiven_append hgiven).mpr ⟨hfirst, rfl⟩
    · rintro ⟨h, -⟩ v hv
      obtain ⟨hfirst, rfl⟩ := (Setting.mem_onlyGiven_append hgiven).mp hv
      exact Option.some.inj (h hfirst)

theorem undisturbed_of_none {s : Parties T} {e : Parties.Event}
    (h : s.posting points parse e = none) : Undisturbed points parse precision s e := by
  intro post hpost
  rw [h] at hpost
  exact absurd hpost (Option.not_mem_none post)

theorem undisturbed_iff {s : Parties T} {e : Parties.Event} {change : Change} {seen : Rail.Config}
    (h : s.posting points parse e = some (change, seen)) : Undisturbed points parse precision s e ↔
      change.Exact precision s.accepted ∧ change.UpToDate precision seen s.accepted := by
  unfold Undisturbed
  rw [h]
  constructor
  · exact fun h => h (change, seen) rfl
  · intro h post hpost
    obtain rfl := Option.mem_some.mp hpost
    exact h

theorem kept_step_iff (hparse : Reads precision parse) {s t : Parties T} {e : Parties.Event}
    (hs : s.Coherent points parse precision) (hkept : s.Kept)
    (hstep : s.step points parse precision e = some t) :
    t.Kept ↔ Undisturbed points parse precision s e := by
  rcases (step_effect hparse hs hstep).1 with ⟨hposting, hcurrent, haccepted⟩ |
    ⟨hposting, hcurrent, haccepted⟩ | ⟨hseen, hposting, hcurrent, haccepted⟩
  · have hkept' : t.Kept := by
      rw [Parties.Kept, hcurrent, haccepted]
      exact hkept
    exact iff_of_true hkept' (undisturbed_of_none hposting)
  · have hkept' := kept_direct hkept hcurrent haccepted
    exact iff_of_true hkept' (undisturbed_of_none hposting)
  · rw [undisturbed_iff hposting]
    exact kept_posted_iff hkept hseen hcurrent haccepted

/-! ### Runs -/

/-- What holds all along an undisturbed run. -/
theorem coherent_kept_of_reaches (hparse : Reads precision parse) {argv : List CStr}
    {config : Rail.Config}
    (hargs : parseArgs argv = .ok config) {es : List Parties.Event} {s : Parties T}
    (hreaches : (Parties.machine points parse precision config).Reaches
      (Undisturbed points parse precision) es s) :
    s.Coherent points parse precision ∧ s.Kept := by
  refine hreaches.invariant (I := fun s => s.Coherent points parse precision ∧ s.Kept) ?_ ?_
  · rintro s ⟨es, server, hserver, rfl⟩
    exact ⟨⟨stored_of_reaches hargs hserver, trivial⟩, fun x v hv => nomatch hv⟩
  · rintro s e t ⟨hs, hkept⟩ hok hstep
    exact ⟨(step_effect hparse hs hstep).2, (kept_step_iff hparse hs hkept hstep).mpr hok⟩

/-- **Lost updates**: as long as no POST is accepted that sends back a value that is out of date, no
accepted update is lost, and the next step loses one exactly when it is such a POST. -/
theorem kept_iff_undisturbed (hparse : Reads precision parse) {argv : List CStr}
    {config : Rail.Config}
    (hargs : parseArgs argv = .ok config) {es : List Parties.Event} {s : Parties T}
    (hreaches : (Parties.machine points parse precision config).Reaches
      (Undisturbed points parse precision) es s) :
    s.Kept ∧ ∀ e t, s.step points parse precision e = some t →
      (t.Kept ↔ Undisturbed points parse precision s e) := by
  obtain ⟨hs, hkept⟩ := coherent_kept_of_reaches hparse hargs hreaches
  exact ⟨hkept, fun e t => kept_step_iff hparse hs hkept⟩

/-! ### Two orders of the same messages -/

/-- A call that sets the brightness. -/
def brighten : Change :=
  .imaging (some ⟨some ⟨bytes "picam-source", by decide⟩, some { brightness := some (.finite 60) }⟩)

/-- A request of the other client that sets the contrast. -/
def contrastRequest : Request :=
  ⟨bytes "POST", bytes "/imaging", bytes "\x7b\"contrast\":70\x7d"⟩

/-- The parties at the start of a rail-media with `lowConfig`. -/
def lowParties : Parties (List (Bytes × Factory)) := { server := lowServer }

def lowMachine : Machine (Parties (List (Bytes × Factory))) Parties.Event :=
  Parties.machine mountTable flatParser .binary64 lowConfig

theorem init_lowParties : lowMachine.init lowParties := ⟨[], lowServer, reaches_lowServer, rfl⟩

/-- The contrast is set before the call reads the settings. -/
def contrastFirst : List Parties.Event :=
  [.call openContext brighten, .clientSend contrastRequest, .clientServe 0 0, .advance, .serve 0,
    .receive, .advance, .serve 0, .receive, .advance]

/-- The contrast is set after the call read the settings. -/
def contrastBetween : List Parties.Event :=
  [.call openContext brighten, .advance, .serve 0, .clientSend contrastRequest, .clientServe 0 0,
    .receive, .advance, .serve 0, .receive, .advance]

/-- In the first order both updates are kept. -/
theorem kept_iff_undisturbed_contrast : ∃ s,
    lowMachine.Reaches (Undisturbed mountTable flatParser .binary64) contrastFirst s ∧
      s.server.current.contrast = .finite 70 ∧ s.server.current.brightness = .finite 60 := by
  have hallows : lowMachine.Allows (Undisturbed mountTable flatParser .binary64)
      lowParties contrastFirst := by
    decide +kernel
  have haccepted : (lowMachine.run lowParties contrastFirst).map Parties.accepted =
      some [{ contrast := some (.finite 70) }, { brightness := some (.finite 60) }] := by
    decide +kernel
  obtain ⟨s, hreaches, hs⟩ := Machine.exists_reaches init_lowParties hallows haccepted
  have hkept := (kept_iff_undisturbed reads_flatParser parseArgs_lowArgs hreaches).1
  refine ⟨s, hreaches, hkept .contrast _ ?_, hkept .brightness _ ?_⟩
  · rw [hs]
    rfl
  · rw [hs]
    rfl

/-- In the second order, with every message delivered and both requests accepted, the contrast of
the other client is lost. -/
theorem lost_contrast : ∃ s, lowMachine.Reaches Machine.anyStep contrastBetween s ∧
    s.onvif.isIdle = true ∧ s.pending = [] ∧
      s.accepted = [{ contrast := some (.finite 70) }, { brightness := some (.finite 60) }] ∧
        s.server.current.contrast = .finite 50 ∧ ¬ s.Kept := by
  have hend : (lowMachine.run lowParties contrastBetween).map
      (fun s => (s.onvif.isIdle, s.pending, s.accepted, s.server.current.contrast)) =
        some (true, [], [{ contrast := some (.finite 70) }, { brightness := some (.finite 60) }],
          .finite 50) := by
    decide +kernel
  obtain ⟨s, hreaches, hs⟩ := Machine.exists_reaches init_lowParties Machine.allows_anyStep hend
  obtain ⟨hidle, hpending, haccepted, hcontrast⟩ :
      s.onvif.isIdle = true ∧ s.pending = [] ∧
        s.accepted = [{ contrast := some (.finite 70) }, { brightness := some (.finite 60) }] ∧
          s.server.current.contrast = .finite 50 := by
    simpa only [Prod.mk.injEq] using hs
  refine ⟨s, hreaches, hidle, hpending, haccepted, hcontrast, ?_⟩
  intro hkept
  have hcontrast' : s.server.current.contrast = .finite 70 :=
    hkept .contrast (.finite 70) (by rw [haccepted]; rfl)
  rw [hcontrast] at hcontrast'
  exact absurd hcontrast' (by decide)

end Afterveda.Onvif
