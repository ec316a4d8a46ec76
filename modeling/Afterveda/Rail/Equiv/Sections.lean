import Afterveda.Rail.Equiv.Mounts
import Afterveda.Rail.Sections

/-!
# Requests are atomic

A request takes effect at one step of its handling: a read at the first read, an error at the step
that finds it, and a change where `install_factory` resets the status.  `Sections.completed` is the
server with the rest of a change that is under way, and `Sections.decided` the answer that is
already fixed.

* `sections_atomic`: whatever the threads do in between, the answers given so far and the one that
  is decided are those of a run that handles each request in one step.
* `sections_configured`: between requests the configuration is what the accepted requests made of
  it, and the factory that is mounted is built from it.
-/

namespace Afterveda.Rail

open CText JsonGlib

variable {T : Type} {points : MountPoints T} {parse : Parser}

/-! ### The rest of a change -/

/-- The server with what the main loop has still to do of a change. -/
def Main.complete (points : MountPoints T) (main : Main) (server : MediaServer T) : MediaServer T :=
  match main with
  | .removing next _ =>
    { server with
      mounts := points.addFactory (points.removeFactory server.mounts (cString server.mount))
        (cString server.mount) (createFactory next)
      current := next }
  | .adding next _ =>
    { server with
      mounts := points.addFactory server.mounts (cString server.mount) (createFactory next)
      current := next }
  | .storing next _ => { server with current := next }
  | _ => server

def Sections.completed (points : MountPoints T) (s : Sections T) : Shared T :=
  { s.shared with server := s.main.complete points s.shared.server }

/-- The answer that will be given to the request being handled, once it is fixed. -/
def Sections.decided (s : Sections T) : Option Exchange :=
  match s.control, s.main with
  | .healthRead h health, _ => some (h, healthResponse health s.shared.server.current)
  | .answering h response, _ => some (h, response)
  | .waiting h _, .removing _ message => some (h, ⟨200, message⟩)
  | .waiting h _, .adding _ message => some (h, ⟨200, message⟩)
  | .waiting h _, .storing _ message => some (h, ⟨200, message⟩)
  | .waiting h failure, .finished (ok, message) =>
    some (h, ⟨if ok then 200 else failure, message⟩)
  | _, _ => none

/-! ### Callbacks -/

/-- A callback neither sees nor changes what a change has still to do. -/
theorem complete_callback (main : Main) (s : Shared T) (e : Threads.Event) :
    ({ s with server := main.complete points s.server } : Shared T).callback points e =
      (s.callback points e).map fun t => { t with server := main.complete points t.server } := by
  cases e with
  | mediaUnprepared status =>
    have hstatus : (main.complete points s.server).pipelineStatus = s.server.pipelineStatus := by
      cases main <;> rfl
    simp only [Shared.callback, Threads.Event.isCallback, if_true, Threads.step, hstatus]
    split_ifs
    · cases main <;> rfl
    · cases main <;> rfl
    · cases main <;> rfl
  | unpreparedWrites i =>
    simp only [Shared.callback, Threads.Event.isCallback, if_true, Threads.step, Option.map_map]
    congr 1
    funext status
    cases main <;> rfl
  | mediaNewState status =>
    simp only [Shared.callback, Threads.Event.isCallback, if_true, Threads.step, onMediaNewState]
    split_ifs
    · cases main <;> rfl
    · cases main <;> rfl
  | clientClosed =>
    have hclients : (main.complete points s.server).rtspClients = s.server.rtspClients := by
      cases main <;> rfl
    simp only [Shared.callback, Threads.Event.isCallback, if_true, Threads.step, onClientClosed,
      hclients]
    split_ifs
    · cases main <;> rfl
    · cases main <;> rfl
  | _ => cases main <;> rfl

/-- A callback leaves alone what a change installs. -/
theorem Shared.callback_frame {s t : Shared T} {e : Threads.Event}
    (h : s.callback points e = some t) :
    t.server.current = s.server.current ∧ t.server.mounts = s.server.mounts ∧
      t.server.mount = s.server.mount := by
  cases e with
  | mediaUnprepared status =>
    simp only [Shared.callback, Threads.Event.isCallback, if_true, Threads.step] at h
    split_ifs at h <;> obtain rfl := Option.some.inj h <;> exact ⟨rfl, rfl, rfl⟩
  | unpreparedWrites i =>
    simp only [Shared.callback, Threads.Event.isCallback, if_true, Threads.step, Option.map_map,
      Option.map_eq_some_iff] at h
    obtain ⟨status, -, rfl⟩ := h
    exact ⟨rfl, rfl, rfl⟩
  | mediaNewState status =>
    obtain rfl := Option.some.inj h
    exact onCallback_frame (.mediaNewState status) s.server
  | clientClosed =>
    obtain rfl := Option.some.inj h
    exact onCallback_frame .clientClosed s.server
  | install config => cases h
  | storeCurrent next => cases h
  | read => cases h
  | _ =>
    obtain rfl := Option.some.inj h
    exact ⟨rfl, rfl, rfl⟩

/-! ### What the main loop does -/

/-- The operations, cut where they begin to install. -/
theorem applyNow_eq_plan (operation : Operation) (s : MediaServer T) :
    operation.applyNow points s =
      match operation.plan s.current with
      | .error message => ((false, message), s)
      | .ok (next, message) => ((true, message), commit points next s) := by
  cases operation with
  | switchProfile name =>
    simp only [Operation.applyNow, switchProfileNow, Operation.plan]
    cases findProfile name <;> rfl
  | setVideoConfig next =>
    simp only [Operation.applyNow, setVideoConfigNow, Operation.plan]
    split_ifs <;> rfl
  | setImaging brightness contrast colorSaturation => rfl
  | setOsd enabled text =>
    simp only [Operation.applyNow, setOsdNow, Operation.plan]
    split_ifs <;> rfl

/-- Handing over the operation is all that is left of the request. -/
def Hands (points : MountPoints T) (parse : Parser) (h : Handling) (operation : Operation)
    (failure : ℤ) (current : Config) : Prop :=
  ∀ s : MediaServer T, s.current = current →
    handleRequest points parse h.uptime h.request s = respond failure (operation.applyNow points s)

variable (points parse) in
/-- After its first read a request is answered as `handleRequest` answers it, or handed over. -/
theorem proceed_cases (h : Handling) (hroute : h.request.route ≠ .getHealth) (current : Config) :
    (∃ response, Control.proceed parse h current = .answering h response ∧
      ∀ s : MediaServer T, s.current = current →
        handleRequest points parse h.uptime h.request s = (response, s)) ∨
    ∃ operation failure, Control.proceed parse h current = .posting h operation failure ∧
      Hands points parse h operation failure current := by
  unfold Control.proceed Hands handleRequest
  cases hcase : h.request.route with
  | getHealth => exact absurd hcase hroute
  | getProfiles | getPresets | getProfile | getImaging | getOsd | notFound =>
    exact Or.inl ⟨_, rfl, by rintro s rfl; rfl⟩
  | postPreset name => exact Or.inr ⟨_, _, rfl, by rintro s rfl; rfl⟩
  | postConfig =>
    cases hnext : videoConfigFromJson parse h.request.body current with
    | error e => exact Or.inl ⟨_, rfl, by rintro s rfl; dsimp only; rw [hnext]⟩
    | ok next => exact Or.inr ⟨_, _, rfl, by rintro s rfl; dsimp only; rw [hnext]; rfl⟩
  | postImaging =>
    cases hnext : imagingFromJson parse h.request.body current with
    | error e => exact Or.inl ⟨_, rfl, by rintro s rfl; dsimp only; rw [hnext]⟩
    | ok next => exact Or.inr ⟨_, _, rfl, by rintro s rfl; dsimp only; rw [hnext]; rfl⟩
  | postOsd =>
    cases hnext : osdFromJson parse h.request.body current with
    | error e => exact Or.inl ⟨_, rfl, by rintro s rfl; dsimp only; rw [hnext]⟩
    | ok next => exact Or.inr ⟨_, _, rfl, by rintro s rfl; dsimp only; rw [hnext]; rfl⟩

/-! ### One step -/

/-- The main loop is busy for a request that waits, and until the answer is decided, the request is
still to be answered with what the configuration as it is makes of it. -/
def Sections.Sound (points : MountPoints T) (parse : Parser) (s : Sections T) : Prop :=
  match s.control, s.main with
  | .posting h operation failure, .free =>
    Hands points parse h operation failure s.shared.server.current
  | .waiting h failure, .applying operation =>
    Hands points parse h operation failure s.shared.server.current
  | .waiting h _, .resetting next message =>
    ∀ server : MediaServer T, server.current = s.shared.server.current →
      handleRequest points parse h.uptime h.request server =
        (⟨200, message⟩, commit points next server)
  | .posting .., _ => False
  | .waiting .., .free => False
  | .waiting .., _ => True
  | _, .free => True
  | _, _ => False

/-- What a step is for the server that handles requests in one step: nothing, the whole of the
request, or a callback. -/
inductive Sections.Advance (points : MountPoints T) (parse : Parser) (s : Sections T)
    (e : Sections.Event) (t : Sections T) : Prop
  | silent (hcompleted : t.completed points = s.completed points) (hdecided : t.decided = s.decided)
      (hanswered : e.answered = none) (hcalled : e.called = none) : Advance points parse s e t
  | decides {h : Handling} {response : Response}
      (hstep : Atomic.step points parse (s.completed points)
        (.exchange h.uptime h.request response) = some (t.completed points))
      (hnone : s.decided = none) (hdecided : t.decided = some (h, response))
      (hanswered : e.answered = none) (hcalled : e.called = none) : Advance points parse s e t
  | responds {x : Exchange} (hcompleted : t.completed points = s.completed points)
      (hdecided : s.decided = some x) (hnone : t.decided = none) (hanswered : e.answered = some x)
      (hcalled : e.called = none) : Advance points parse s e t
  | calls {c : Threads.Event}
      (hstep : Atomic.step points parse (s.completed points) (.callback c) =
        some (t.completed points))
      (hdecided : t.decided = s.decided) (hanswered : e.answered = none)
      (hcalled : e.called = some c) : Advance points parse s e t

/-- A request whose answer and effect are known is one exchange. -/
theorem Atomic.step_exchange {s : Shared T} {h : Handling} {response : Response}
    {server : MediaServer T}
    (hanswer : handleRequest points parse h.uptime h.request s.server = (response, server)) :
    Atomic.step points parse s (.exchange h.uptime h.request response) =
      some { s with server } := by
  simp only [Atomic.step, hanswer, if_true]

theorem Sections.step_main {s t : Sections T} (hs : s.Sound points parse)
    (h : Sections.step points parse s .mainLoop = some t) :
    t.Sound points parse ∧ Sections.Advance points parse s .mainLoop t := by
  obtain ⟨shared, control, main⟩ := s
  simp only [Sections.step, Option.map_eq_some_iff] at h
  obtain ⟨⟨main', server⟩, hmain, rfl⟩ := h
  -- the main loop is busy only while the control thread waits
  cases control with
  | waiting h failure =>
    cases main with
    | free => cases hs
    | finished result => cases hmain
    | applying operation =>
      have hplan := fun server : MediaServer T => @applyNow_eq_plan _ points operation server
      simp only [Main.step] at hmain
      cases hcase : operation.plan shared.server.current with
      | error message =>
        rw [hcase] at hmain
        obtain ⟨rfl, rfl⟩ := Prod.mk.inj (Option.some.inj hmain)
        refine ⟨trivial, .decides ?_ rfl rfl rfl rfl⟩
        refine Atomic.step_exchange ?_
        show handleRequest points parse h.uptime h.request shared.server =
          (⟨failure, message⟩, shared.server)
        rw [hs _ rfl, hplan, hcase]
        rfl
      | ok planned =>
        obtain ⟨next, message⟩ := planned
        rw [hcase] at hmain
        obtain ⟨rfl, rfl⟩ := Prod.mk.inj (Option.some.inj hmain)
        refine ⟨fun server hserver => ?_, .silent rfl rfl rfl rfl⟩
        rw [hs server hserver, hplan, hserver, hcase]
        rfl
    | resetting next message =>
      obtain ⟨rfl, rfl⟩ := Prod.mk.inj (Option.some.inj hmain)
      exact ⟨trivial, .decides (Atomic.step_exchange (hs _ rfl)) rfl rfl rfl rfl⟩
    | removing next message =>
      obtain ⟨rfl, rfl⟩ := Prod.mk.inj (Option.some.inj hmain)
      exact ⟨trivial, .silent rfl rfl rfl rfl⟩
    | adding next message =>
      obtain ⟨rfl, rfl⟩ := Prod.mk.inj (Option.some.inj hmain)
      exact ⟨trivial, .silent rfl rfl rfl rfl⟩
    | storing next message =>
      obtain ⟨rfl, rfl⟩ := Prod.mk.inj (Option.some.inj hmain)
      exact ⟨trivial, .silent rfl rfl rfl rfl⟩
  | _ =>
    cases main with
    | free => cases hmain
    | _ => exact False.elim hs

theorem Sections.step_read {uptime : ℤ} {s t : Sections T} (hs : s.Sound points parse)
    (h : Sections.step points parse s (.read uptime) = some t) :
    t.Sound points parse ∧ Sections.Advance points parse s (.read uptime) t := by
  obtain ⟨shared, control, main⟩ := s
  cases control with
  | handling request =>
    cases main with
    | free =>
      simp only [Sections.step] at h
      split_ifs at h with hroute <;> obtain rfl := Option.some.inj h
      · -- the answer is decided with the status that is read here
        refine ⟨trivial, .decides (Atomic.step_exchange ?_) rfl rfl rfl rfl⟩
        show handleRequest points parse uptime request shared.server = _
        rw [handleRequest, hroute]
        rfl
      · rcases proceed_cases points parse ⟨uptime, request⟩ hroute
          shared.server.current with ⟨response, hproceed, hanswer⟩ | ⟨operation, failure, hproceed,
            hhands⟩
        · rw [hproceed]
          exact ⟨trivial, .decides (Atomic.step_exchange (hanswer _ rfl)) rfl rfl rfl rfl⟩
        · rw [hproceed]
          exact ⟨hhands, .silent rfl rfl rfl rfl⟩
    | _ => exact False.elim hs
  | _ => cases h

theorem Sections.step_callback {c : Threads.Event} {s t : Sections T} (hs : s.Sound points parse)
    (h : Sections.step points parse s (.callback c) = some t) :
    t.Sound points parse ∧ Sections.Advance points parse s (.callback c) t := by
  obtain ⟨shared', hcallback, rfl⟩ := Option.map_eq_some_iff.mp h
  have hcurrent := (Shared.callback_frame hcallback).1
  constructor
  · unfold Sections.Sound at hs ⊢
    rw [hcurrent]
    exact hs
  · refine .calls ?_ ?_ rfl rfl
    · show ({ s.shared with server := s.main.complete points s.shared.server } : Shared T).callback
        points c = _
      rw [complete_callback, hcallback]
      rfl
    · unfold Sections.decided
      rw [hcurrent]

theorem Sections.step_advance {e : Sections.Event} {s t : Sections T} (hs : s.Sound points parse)
    (h : Sections.step points parse s e = some t) :
    t.Sound points parse ∧ Sections.Advance points parse s e t := by
  cases e with
  | read uptime => exact Sections.step_read hs h
  | mainLoop => exact Sections.step_main hs h
  | callback c => exact Sections.step_callback hs h
  | arrive request =>
    obtain ⟨shared, control, main⟩ := s
    cases control with
    | idle =>
      obtain rfl := Option.some.inj h
      cases main with
      | free => exact ⟨trivial, .silent rfl rfl rfl rfl⟩
      | _ => exact False.elim hs
    | _ => cases h
  | readConfig =>
    obtain ⟨shared, control, main⟩ := s
    cases control with
    | healthRead handling health =>
      obtain rfl := Option.some.inj h
      cases main with
      | free => exact ⟨trivial, .silent rfl rfl rfl rfl⟩
      | _ => exact False.elim hs
    | _ => cases h
  | post =>
    obtain ⟨shared, control, main⟩ := s
    cases control with
    | posting handling operation failure =>
      cases main with
      | free =>
        obtain rfl := Option.some.inj h
        exact ⟨hs, .silent rfl rfl rfl rfl⟩
      | _ => cases h
    | _ => cases h
  | resume =>
    obtain ⟨shared, control, main⟩ := s
    cases control with
    | waiting handling failure =>
      cases main with
      | finished result =>
        obtain rfl := Option.some.inj h
        exact ⟨trivial, .silent rfl rfl rfl rfl⟩
      | _ => cases h
    | _ => cases h
  | respond handling response =>
    obtain ⟨shared, control, main⟩ := s
    cases control with
    | answering handling' response' =>
      simp only [Sections.step] at h
      split_ifs at h with hsame
      obtain ⟨rfl, rfl⟩ := hsame
      obtain rfl := Option.some.inj h
      cases main with
      | free => exact ⟨trivial, .responds rfl rfl rfl rfl rfl⟩
      | _ => exact False.elim hs
    | _ => cases h

/-! ### Runs -/

/-- With no request in the server nothing is under way. -/
theorem Sections.Sound.rest {s : Sections T} (hs : s.Sound points parse)
    (hidle : s.control = .idle) :
    s.completed points = s.shared ∧ s.decided = none := by
  obtain ⟨shared, control, main⟩ := s
  obtain rfl : control = .idle := hidle
  cases main with
  | free => exact ⟨rfl, rfl⟩
  | _ => exact False.elim hs

theorem Sections.reaches_sound {config : Config} {es : List Sections.Event} {s : Sections T}
    (h : (Sections.machine points parse config).Reaches Machine.anyStep es s) :
    s.Sound points parse := by
  refine h.invariant ?_ fun s e t hs _ hstep => (Sections.step_advance hs hstep).1
  rintro _ ⟨shared, -, rfl⟩
  trivial

theorem Sections.exists_atomic {config : Config} {es : List Sections.Event} {s : Sections T}
    (h : (Sections.machine points parse config).Reaches Machine.anyStep es s) :
    ∃ ds, (Atomic.machine points parse config).Reaches Machine.anyStep ds (s.completed points) ∧
      ds.filterMap Atomic.Event.exchanged =
        es.filterMap Sections.Event.answered ++ s.decided.toList ∧
      ds.filterMap Atomic.Event.called = es.filterMap Sections.Event.called := by
  induction h with
  | start hs =>
    obtain ⟨shared, hstart, rfl⟩ := hs
    exact ⟨[], .start hstart, rfl, rfl⟩
  | @next es s t e h _ hstep ih =>
    obtain ⟨ds, hreaches, hexchanges, hcalls⟩ := ih
    obtain ⟨-, hadvance⟩ := Sections.step_advance (Sections.reaches_sound h) hstep
    rw [List.filterMap_append, List.filterMap_append]
    cases hadvance with
    | silent hcompleted hdecided hanswered hcalled =>
      refine ⟨ds, hcompleted ▸ hreaches, ?_, ?_⟩
      · simp [hexchanges, hdecided, hanswered]
      · simp [hcalls, hcalled]
    | @decides handling response hatomic hnone hdecided hanswered hcalled =>
      have hnext : (Atomic.machine points parse config).step (s.completed points)
          (.exchange handling.uptime handling.request response) = some (t.completed points) :=
        hatomic
      refine ⟨_, hreaches.next trivial hnext, ?_, ?_⟩
      · simp [hexchanges, hnone, hdecided, hanswered, Atomic.Event.exchanged]
      · simp [hcalls, hcalled, Atomic.Event.called]
    | @responds x hcompleted hdecided hnone hanswered hcalled =>
      refine ⟨ds, hcompleted ▸ hreaches, ?_, ?_⟩
      · simp [hexchanges, hdecided, hnone, hanswered]
      · simp [hcalls, hcalled]
    | @calls c hatomic hdecided hanswered hcalled =>
      have hnext : (Atomic.machine points parse config).step (s.completed points) (.callback c) =
          some (t.completed points) := hatomic
      refine ⟨_, hreaches.next trivial hnext, ?_, ?_⟩
      · simp [hexchanges, hdecided, hanswered, Atomic.Event.exchanged]
      · simp [hcalls, hcalled, Atomic.Event.called]

/-- **Requests are atomic**: every run of the sections leads to the state of a run that handles each
request in one step, with the callbacks in the order in which they came, and its answers are the
ones that were given and the one that is decided.  With no request in the server the two states are
the same. -/
theorem sections_atomic {config : Config} {es : List Sections.Event} {s : Sections T}
    (h : (Sections.machine points parse config).Reaches Machine.anyStep es s) :
    (∃ ds, (Atomic.machine points parse config).Reaches Machine.anyStep ds (s.completed points) ∧
      ds.filterMap Atomic.Event.exchanged =
        es.filterMap Sections.Event.answered ++ s.decided.toList ∧
      ds.filterMap Atomic.Event.called = es.filterMap Sections.Event.called) ∧
    (s.control = .idle → s.completed points = s.shared ∧ s.decided = none) :=
  ⟨Sections.exists_atomic h, (Sections.reaches_sound h).rest⟩

/-- A request for the small size, with a media object that fails while it is handled. -/
def sizeSections : List Sections.Event :=
  let request : Request :=
    ⟨bytes "POST", bytes "/config", bytes "\x7b\"width\":640,\"height\":360\x7d"⟩
  [.arrive request, .read 5, .post, .callback .mediaConfigure, .mainLoop,
    .callback (.mediaUnprepared .unprepared), .mainLoop, .mainLoop,
    .callback (.busMessage .eos), .mainLoop, .callback (.unpreparedWrites 0), .mainLoop, .resume,
    .respond ⟨5, request⟩ ⟨200, profileJson { width := 640, height := 360 }⟩]

def idleSections : Sections (List (Bytes × Factory)) where
  shared := { server := MediaServer.start mountTable {} 0 }

/-- No request is in the server. -/
def Control.isIdle : Control → Bool
  | .idle => true
  | _ => false

theorem reaches_sizeSections :
    ∃ s, (Sections.machine mountTable flatParser {}).Reaches Machine.anyStep sizeSections s ∧
      s.control = .idle := by
  have hend : ((Sections.machine mountTable flatParser {}).run idleSections sizeSections).map
      (fun s => s.control.isIdle) = some true := by
    decide +kernel
  have hinit : (Sections.machine mountTable flatParser {}).init idleSections :=
    ⟨_, ⟨0, rfl⟩, rfl⟩
  obtain ⟨s, hreaches, hcontrol⟩ := Machine.exists_reaches hinit Machine.allows_anyStep hend
  refine ⟨s, hreaches, ?_⟩
  cases hcase : s.control with
  | idle => rfl
  | _ => rw [hcase] at hcontrol; cases hcontrol

theorem sections_atomic_size : ∃ s ds,
    (Sections.machine mountTable flatParser {}).Reaches Machine.anyStep sizeSections s ∧
      (Atomic.machine mountTable flatParser {}).Reaches Machine.anyStep ds s.shared ∧
      ds.filterMap Atomic.Event.called = [.mediaConfigure, .mediaUnprepared .unprepared,
        .busMessage .eos, .unpreparedWrites 0] := by
  obtain ⟨s, hreaches, hidle⟩ := reaches_sizeSections
  obtain ⟨⟨ds, hatomic, -, hcalled⟩, hrest⟩ := sections_atomic hreaches
  rw [(hrest hidle).1] at hatomic
  exact ⟨s, ds, hreaches, hatomic, hcalled⟩

/-! ### Between two requests -/

/-- An exchange as an event of the server without threads. -/
def Exchange.event (x : Exchange) : Event := .exchange x.1.uptime x.1.request x.2

/-- What a step is for the configuration and the mount points: nothing, or a step of the server
without threads. -/
theorem Atomic.step_cases {s t : Shared T} {e : Atomic.Event}
    (h : Atomic.step points parse s e = some t) :
    (e.exchanged = none ∧ t.server.current = s.server.current ∧
      t.server.mounts = s.server.mounts ∧ t.server.mount = s.server.mount) ∨
    ∃ x, e.exchanged = some x ∧ Rail.step points parse s.server x.event = some t.server := by
  cases e with
  | callback c => exact Or.inl ⟨rfl, Shared.callback_frame h⟩
  | exchange uptime request response =>
    refine Or.inr ⟨(⟨uptime, request⟩, response), rfl, ?_⟩
    simp only [Atomic.step] at h
    split_ifs at h with hresponse
    obtain rfl := Option.some.inj h
    simp only [Exchange.event, Rail.step, if_pos hresponse]

theorem Atomic.reaches_current {config : Config} {ds : List Atomic.Event} {s : Shared T}
    (h : (Atomic.machine points parse config).Reaches Machine.anyStep ds s) :
    s.server.current =
      (lastUpdate parse ((ds.filterMap Atomic.Event.exchanged).map Exchange.event)).apply
        { config with profile := bytes "main" } := by
  induction h with
  | start hs =>
    obtain ⟨now, rfl⟩ := hs
    rfl
  | @next ds s t e _ _ hstep ih =>
    rw [List.filterMap_append]
    obtain ⟨hnone, hcurrent, -⟩ | ⟨x, hx, hexchange⟩ := Atomic.step_cases hstep
    · rw [List.filterMap_cons_none hnone, List.filterMap_nil, List.append_nil, hcurrent, ih]
    · rw [List.filterMap_cons_some hx, List.filterMap_nil, List.map_append, List.map_singleton,
        lastUpdate_snoc, apply_orElse, step_current hexchange (by rw [ih]; rfl), ih]

theorem Atomic.reaches_mounted (hpoints : points.Replaces) {config : Config}
    (hconfig : Accepted config) {ds : List Atomic.Event} {s : Shared T}
    (h : (Atomic.machine points parse config).Reaches Machine.anyStep ds s) :
    Mounted points config s.server := by
  induction h with
  | start hs =>
    obtain ⟨now, rfl⟩ := hs
    exact mounted_start hpoints hconfig now
  | next h _ hstep ih =>
    obtain ⟨-, hcurrent, hmounts, hmount⟩ | ⟨x, -, hexchange⟩ := Atomic.step_cases hstep
    · exact ⟨hmount ▸ ih.mount, hcurrent ▸ ih.rtspUser, hcurrent ▸ ih.rtspPassword,
        hcurrent ▸ ih.osdText, by rw [hmounts, hmount, hcurrent]; exact ih.factory⟩
    · have hprofile := congrArg Config.profile (Atomic.reaches_current h)
      exact mounted_step hpoints hconfig.mount.1 hprofile ih hexchange

/-- **The threads agree between requests**: whenever no request is in the server, its configuration
is the start-up configuration with the settings of the requests that were answered with 200, in
their order, and clients are served the pipeline of that configuration. -/
theorem sections_configured (hpoints : points.Replaces) {argv : List CStr} {config : Config}
    (hargs : parseArgs argv = .ok config) {es : List Sections.Event} {s : Sections T}
    (h : (Sections.machine points parse config).Reaches Machine.anyStep es s)
    (hidle : s.control = .idle) :
    s.shared.server.current =
        (lastUpdate parse ((es.filterMap Sections.Event.answered).map Exchange.event)).apply
          { config with profile := bytes "main" } ∧
      points.lookup s.shared.server.mounts (cString s.shared.server.mount) =
        some (createFactory s.shared.server.current) := by
  obtain ⟨ds, hreaches, hexchanged, -⟩ := Sections.exists_atomic h
  obtain ⟨hcompleted, hdecided⟩ := (Sections.reaches_sound h).rest hidle
  rw [hcompleted] at hreaches
  rw [hdecided, Option.toList_none, List.append_nil] at hexchanged
  have hmounted := Atomic.reaches_mounted hpoints (accepted_of_parseArgs hargs) hreaches
  exact ⟨hexchanged ▸ Atomic.reaches_current hreaches, hmounted.factory⟩

theorem sections_configured_size : ∃ s,
    (Sections.machine mountTable flatParser {}).Reaches Machine.anyStep sizeSections s ∧
      s.shared.server.current = { width := 640, height := 360 } := by
  obtain ⟨s, hreaches, hidle⟩ := reaches_sizeSections
  have hargs : parseArgs [] = .ok {} := by decide
  have hupdate : lastUpdate flatParser
      ((sizeSections.filterMap Sections.Event.answered).map Exchange.event) =
        { width := some 640, height := some 360 } := by
    decide +kernel
  refine ⟨s, hreaches, ?_⟩
  rw [(sections_configured replaces_mountTable hargs hreaches hidle).1, hupdate]
  decide

end Afterveda.Rail
