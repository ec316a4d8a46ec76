import Afterveda.Rail.Callbacks
import Afterveda.Rail.Equiv.Settings

/-!
# What the callbacks make of the health

* `errorShown_exact`: a recorded error of the bus stays shown as long as no `on_media_unprepared`
  that read the status before the error writes it afterwards.
* `follows_exact`: the health follows the current media object as long as no other one is unprepared
  or fails while the current one runs.

Both conditions are exact: the first step that breaks one breaks what it is for.
-/

namespace Afterveda.Rail

open CText JsonGlib

variable {T : Type} {points : MountPoints T}

/-! ### Errors of the bus -/

/-- A recorded error is shown. -/
def Threads.ErrorShown (s : Threads T) : Prop :=
  s.recorded = true → s.server.pipelineStatus = bytes "error"

/-- The event is the second section of `on_media_unprepared`. -/
def Threads.Event.writesUnprepared : Threads.Event → Bool
  | .unpreparedWrites _ => true
  | _ => false

/-- The event does not write the status of an unprepared media object over a recorded error. -/
def Threads.Spares (s : Threads T) (e : Threads.Event) : Prop :=
  e.writesUnprepared = true → s.recorded = false

instance (s : Threads T) (e : Threads.Event) : Decidable (s.Spares e) :=
  inferInstanceAs (Decidable (_ → _))

theorem pipelineStatusName_ne_error {status : MediaStatus} (h : status ≠ .error) :
    pipelineStatusName status ≠ bytes "error" := by
  cases status with
  | error => exact absurd rfl h
  | _ => decide

/-- An event that spares errors keeps a recorded one shown, and no other does. -/
theorem Threads.errorShown_step_iff {s t : Threads T} {e : Threads.Event} (hs : s.ErrorShown)
    (h : s.step points e = some t) : t.ErrorShown ↔ s.Spares e := by
  have hspares : e.writesUnprepared = false → s.Spares e := by
    intro hfalse htrue
    rw [hfalse] at htrue
    cases htrue
  cases e with
  | unpreparedWrites i =>
    -- the second critical section writes a name that is never `error`
    obtain ⟨status, -, rfl⟩ := Option.map_eq_some_iff.mp h
    have hname := pipelineStatusName_ne_error status.2
    constructor
    · intro ht _
      cases hrecorded : s.recorded with
      | true => exact absurd (ht hrecorded) hname
      | false => rfl
    · intro hok hrecorded
      rw [hok rfl] at hrecorded
      cases hrecorded
  | mediaUnprepared status =>
    refine iff_of_true ?_ (hspares rfl)
    simp only [Threads.step] at h
    split_ifs at h <;> obtain rfl := Option.some.inj h
    · exact fun _ => rfl
    · exact hs
    · exact hs
  | mediaNewState status =>
    refine iff_of_true ?_ (hspares rfl)
    obtain rfl := Option.some.inj h
    show s.recorded = true → (onMediaNewState status s.server).pipelineStatus = bytes "error"
    unfold onMediaNewState
    split_ifs
    · exact fun _ => rfl
    · exact hs
  | clientClosed =>
    refine iff_of_true ?_ (hspares rfl)
    obtain rfl := Option.some.inj h
    show s.recorded = true → (onClientClosed s.server).pipelineStatus = bytes "error"
    unfold onClientClosed
    split_ifs
    · exact hs
    · exact hs
  | busMessage message =>
    obtain rfl := Option.some.inj h
    exact iff_of_true (fun _ => rfl) (hspares rfl)
  | mediaConfigure | mediaPrepared | install =>
    -- these set the status anew and forget a recorded error
    obtain rfl := Option.some.inj h
    exact iff_of_true (fun hrecorded => nomatch hrecorded) (hspares rfl)
  | clientConnected | storeCurrent | read =>
    obtain rfl := Option.some.inj h
    exact iff_of_true hs (hspares rfl)

/-- **Recorded errors**: they are shown in every run in which no `on_media_unprepared` writes over
one, and the first that does hides it. -/
theorem errorShown_exact {config : Config} {es : List Threads.Event} {s : Threads T}
    (h : (Threads.machine points config).Reaches Threads.Spares es s) :
    s.ErrorShown ∧ ∀ e t, s.step points e = some t → (t.ErrorShown ↔ s.Spares e) := by
  refine h.exact (I := fun _ => True) ?_ (fun _ _ _ _ _ => trivial) ?_
  · rintro _ ⟨now, rfl⟩
    exact ⟨trivial, fun hrecorded => nomatch hrecorded⟩
  · intro s e t _ hs hstep
    exact Threads.errorShown_step_iff hs hstep

/-- Without another thread in between, the two sections are the callback as a whole. -/
theorem Threads.run_mediaUnprepared {s : Threads T} (hnone : s.unpreparing = [])
    (status : MediaStatus) (config : Config) :
    ∃ es ∈ [[Event.mediaUnprepared status], [.mediaUnprepared status, .unpreparedWrites 0]],
      (Threads.machine points config).run s es =
        some { s with server := onMediaUnprepared status s.server } := by
  by_cases herror : status = .error
  · refine ⟨_, List.mem_cons_self .., ?_⟩
    simp only [Machine.run, Threads.machine, Threads.step, onMediaUnprepared, herror, ↓reduceDIte,
      ↓reduceIte, Option.bind_some]
  · by_cases hshown : s.server.pipelineStatus = bytes "error"
    · refine ⟨_, List.mem_cons_self .., ?_⟩
      simp only [Machine.run, Threads.machine, Threads.step, onMediaUnprepared, herror, hshown,
        ↓reduceDIte, ↓reduceIte, Option.bind_some]
    · refine ⟨_, List.mem_cons_of_mem _ (List.mem_singleton.mpr rfl), ?_⟩
      simp [Machine.run, Threads.machine, Threads.step, onMediaUnprepared, herror, hshown, hnone]

/-- A media object that is prepared, reports the end of the stream, and is unprepared. -/
def eosRun : List Threads.Event :=
  [.mediaConfigure, .mediaPrepared 5, .busMessage .eos, .mediaUnprepared .unprepared]

/-- The same with the end of the stream reported between the two sections of `on_media_unprepared`.
-/
def lateEosRun : List Threads.Event :=
  [.mediaConfigure, .mediaPrepared 5, .mediaUnprepared .unprepared, .busMessage .eos,
    .unpreparedWrites 0]

/-- A server before its first client. -/
def idleThreads : Threads (List (Bytes × Factory)) where
  server := MediaServer.start mountTable {} 0

theorem init_idleThreads : (Threads.machine mountTable {}).init idleThreads := ⟨0, rfl⟩

theorem errorShown_exact_eos : ∃ s,
    (Threads.machine mountTable {}).Reaches Threads.Spares eosRun s ∧
      s.recorded = true ∧ s.server.pipelineStatus = bytes "error" := by
  have hallows : (Threads.machine mountTable {}).Allows Threads.Spares idleThreads eosRun := by
    decide +kernel
  have hrecorded : ((Threads.machine mountTable {}).run idleThreads eosRun).map Threads.recorded =
      some true := by
    decide +kernel
  obtain ⟨s, hreaches, hs⟩ := Machine.exists_reaches init_idleThreads hallows hrecorded
  exact ⟨s, hreaches, hs, (errorShown_exact hreaches).1 hs⟩

/-- In the second order the error is hidden. -/
theorem not_errorShown_lateEos :
    ¬∀ (config : Config) (es : List Threads.Event) (s : Threads (List (Bytes × Factory))),
      (Threads.machine mountTable config).Reaches Machine.anyStep es s → s.ErrorShown := by
  intro hall
  have hend : ((Threads.machine mountTable {}).run idleThreads lateEosRun).map
      (fun s => (s.recorded, s.server.pipelineStatus)) = some (true, bytes "idle") := by
    decide +kernel
  obtain ⟨s, hreaches, hs⟩ := Machine.exists_reaches init_idleThreads Machine.allows_anyStep hend
  obtain ⟨hrecorded, hstatus⟩ := Prod.mk.inj hs
  have hshown := hall {} lateEosRun s hreaches hrecorded
  rw [hstatus] at hshown
  exact absurd hshown (by decide)

/-! ### The current media object -/

/-- The media object configured last, when the factory that made it is the one installed last. -/
def Medias.current (s : Medias T) : Option Media :=
  s.medias.getLast?.filter fun m => m.factory + 1 = s.factories

/-- The object runs: it is prepared and has neither failed nor been unprepared. -/
def Media.Runs (m : Media) : Prop := m.phase = .prepared ∧ m.failed = false

instance (m : Media) : Decidable m.Runs := inferInstanceAs (Decidable (_ ∧ _))

/-- The current media object runs. -/
def Medias.Running (s : Medias T) : Prop := ∃ m ∈ s.current, m.Runs

instance (s : Medias T) : Decidable s.Running :=
  inferInstanceAs (Decidable (∃ m ∈ s.current, m.Runs))

/-- While the current media object runs, the health says so. -/
def Medias.Follows (s : Medias T) : Prop :=
  s.Running → s.server.pipelineStatus = bytes "ready" ∧ s.server.cameraStatus = bytes "ok"

/-- The event is one after which the health no longer says that a media object runs. -/
def Medias.Event.isEnd : Medias.Event → Bool
  | .unprepared .. | .busMessage .. => true
  | .newState _ status => status = .error
  | _ => false

/-- While the current media object runs, no other one ends. -/
def Medias.Undisturbed (s : Medias T) (e : Medias.Event) : Prop :=
  s.Running → e.isEnd = true → e.source = some (s.medias.length - 1)

instance (s : Medias T) (e : Medias.Event) : Decidable (s.Undisturbed e) :=
  inferInstanceAs (Decidable (_ → _ → _))

variable (points) in
/-- After such an event it does not say so. -/
theorem Medias.Event.not_ready_of_isEnd {e : Medias.Event} (h : e.isEnd = true)
    (server : MediaServer T) : ¬((e.serve points server).pipelineStatus = bytes "ready" ∧
      (e.serve points server).cameraStatus = bytes "ok") := by
  have herror : bytes "error" ≠ bytes "ready" := by decide
  have hunchecked : bytes "not_checked" ≠ bytes "ok" := by decide
  rintro ⟨hpipeline, hcamera⟩
  cases e with
  | unprepared i status =>
    simp only [Medias.Event.serve, onMediaUnprepared] at hpipeline hcamera
    split_ifs at hpipeline hcamera with hfailed hshown
    · exact herror hpipeline
    · exact herror (hshown.symm.trans hpipeline)
    · exact hunchecked hcamera
  | newState i status =>
    simp only [Medias.Event.serve, onMediaNewState, of_decide_eq_true h, ↓reduceIte] at hpipeline
    exact herror hpipeline
  | busMessage i message => exact herror hpipeline
  | _ => cases h

/-- After its own such event a media object does not run. -/
theorem Media.not_runs_of_isEnd {m m' : Media} {e : Medias.Event} (hnext : m.next e = some m')
    (h : e.isEnd = true) : ¬m'.Runs := by
  rintro ⟨hphase, hfailed⟩
  cases e with
  | unprepared i status =>
    simp only [Media.next] at hnext
    split_ifs at hnext
    obtain rfl := Option.some.inj hnext
    cases hphase
  | newState i status =>
    simp only [Media.next] at hnext
    split_ifs at hnext
    obtain rfl := Option.some.inj hnext
    have htrue : (m.failed || decide (status = .error)) = true := by
      rw [show decide (status = .error) = true from h, Bool.or_true]
    exact absurd (htrue.symm.trans hfailed) (by decide)
  | busMessage i message =>
    simp only [Media.next] at hnext
    split_ifs at hnext
    obtain rfl := Option.some.inj hnext
    cases hfailed
  | _ => cases h

variable (points) in
/-- The other events of a media object: it is prepared, and the health says that it runs, or it goes
on as before. -/
theorem Medias.Event.quiet {m m' : Media} {e : Medias.Event} (hnext : m.next e = some m')
    (h : e.isEnd = false) (server : MediaServer T) :
    ((e.serve points server).pipelineStatus = bytes "ready" ∧
      (e.serve points server).cameraStatus = bytes "ok") ∨
      e.serve points server = server ∧ m' = m := by
  cases e with
  | prepared i now => exact Or.inl ⟨rfl, rfl⟩
  | newState i status =>
    right
    have hstatus : status ≠ .error := of_decide_eq_false h
    simp only [Media.next] at hnext
    split_ifs at hnext
    obtain rfl := Option.some.inj hnext
    refine ⟨?_, ?_⟩
    · simp only [Medias.Event.serve, onMediaNewState, hstatus, ↓reduceIte]
    · rw [decide_eq_false hstatus, Bool.or_false]
  | unprepared i status | busMessage i message => cases h
  | install config | configure factory => cases hnext

/-- The media objects come from factories that were installed. -/
def Medias.Sound (s : Medias T) : Prop := ∀ m ∈ s.medias, m.factory < s.factories

/-- What a step does: a factory is installed, a media object joins, or one goes on. -/
inductive Medias.Effect (points : MountPoints T) (s : Medias T) (e : Medias.Event) (t : Medias T) :
    Prop
  | installs (hend : e.isEnd = false) (hfactories : t.factories = s.factories + 1)
      (hmedias : t.medias = s.medias)
  | configures {factory : ℕ} (hend : e.isEnd = false) (hfactory : factory < s.factories)
      (hfactories : t.factories = s.factories)
      (hmedias : t.medias = s.medias ++ [({ factory } : Media)])
  | advances {i : ℕ} {m m' : Media} (hsource : e.source = some i) (hget : s.medias[i]? = some m)
      (hnext : m.next e = some m') (hfactories : t.factories = s.factories)
      (hmedias : t.medias = s.medias.set i m') (hserver : t.server = e.serve points s.server)

theorem Medias.step_effect {s t : Medias T} {e : Medias.Event} (h : s.step points e = some t) :
    Medias.Effect points s e t := by
  cases e with
  | install config =>
    obtain rfl := Option.some.inj h
    exact .installs rfl rfl rfl
  | configure factory =>
    simp only [Medias.step] at h
    split_ifs at h with hfactory
    obtain rfl := Option.some.inj h
    exact .configures rfl hfactory rfl rfl
  | prepared i _ | unprepared i _ | newState i _ | busMessage i _ =>
    simp only [Medias.step, Option.map_eq_some_iff, Option.bind_eq_some_iff] at h
    obtain ⟨m', ⟨m, hget, hnext⟩, rfl⟩ := h
    exact .advances rfl hget hnext rfl rfl rfl

theorem Media.factory_next {m m' : Media} {e : Medias.Event} (h : m.next e = some m') :
    m'.factory = m.factory := by
  cases e with
  | install config | configure factory => cases h
  | prepared i _ | unprepared i _ | newState i _ | busMessage i _ =>
    simp only [Media.next] at h
    split_ifs at h
    obtain rfl := Option.some.inj h
    rfl

theorem Medias.sound_step {s t : Medias T} {e : Medias.Event} (hs : s.Sound)
    (h : s.step points e = some t) : t.Sound := by
  cases Medias.step_effect h with
  | installs _ hfactories hmedias =>
    intro m hm
    rw [hmedias] at hm
    rw [hfactories]
    exact Nat.lt_succ_of_lt (hs m hm)
  | configures _ hfactory hfactories hmedias =>
    intro m hm
    rw [hmedias, List.mem_append, List.mem_singleton] at hm
    rw [hfactories]
    rcases hm with hm | rfl
    · exact hs m hm
    · exact hfactory
  | @advances i m₀ m' _ hget hnext hfactories hmedias _ =>
    intro m hm
    rw [hmedias] at hm
    rw [hfactories]
    rcases List.mem_or_eq_of_mem_set hm with hm | rfl
    · exact hs m hm
    · rw [Media.factory_next hnext]
      exact hs m₀ (List.mem_of_getElem? hget)

/-- The last media object after one of them has gone on. -/
theorem getLast?_set {i : ℕ} {ms : List Media} (hi : i < ms.length) (m : Media) :
    (ms.set i m).getLast? = if i = ms.length - 1 then some m else ms.getLast? := by
  rw [List.getLast?_eq_getElem?, List.length_set, List.getElem?_set, List.getLast?_eq_getElem?]
  split_ifs <;> rfl

/-- An event of another media object leaves the current one as it is. -/
theorem Medias.running_congr {s t : Medias T} (hfactories : t.factories = s.factories)
    (hlast : t.medias.getLast? = s.medias.getLast?) : t.Running ↔ s.Running := by
  unfold Medias.Running Medias.current
  rw [hfactories, hlast]

/-- A step keeps the health true exactly when it does not disturb the current media object. -/
theorem Medias.follows_step_iff {s t : Medias T} {e : Medias.Event} (hsound : s.Sound)
    (hs : s.Follows) (h : s.step points e = some t) : t.Follows ↔ s.Undisturbed e := by
  have hquiet : e.isEnd = false → s.Undisturbed e := by
    intro hfalse _ htrue
    rw [hfalse] at htrue
    cases htrue
  cases Medias.step_effect h with
  | installs hend hfactories hmedias =>
    -- no media object is one of the new factory
    refine iff_of_true ?_ (hquiet hend)
    rintro ⟨m, hm, -⟩
    obtain ⟨hlast, hfactory⟩ := Option.filter_eq_some_iff.mp hm
    rw [hmedias] at hlast
    have hlt := hsound m (List.mem_of_getLast? hlast)
    rw [hfactories, decide_eq_true_eq] at hfactory
    omega
  | configures hend _ _ hmedias =>
    -- the new media object is not prepared
    refine iff_of_true ?_ (hquiet hend)
    rintro ⟨m, hm, hphase, -⟩
    obtain ⟨hlast, -⟩ := Option.filter_eq_some_iff.mp hm
    rw [hmedias, List.getLast?_concat] at hlast
    obtain rfl := Option.some.inj hlast
    cases hphase
  | @advances i m m' hsource hget hnext hfactories hmedias hserver =>
    obtain ⟨hi, rfl⟩ := List.getElem?_eq_some_iff.mp hget
    have hlast := getLast?_set hi m'
    rw [← hmedias] at hlast
    cases hend : e.isEnd with
    | true =>
      have hnot := Medias.Event.not_ready_of_isEnd points hend s.server
      rw [← hserver] at hnot
      by_cases hcurrent : i = s.medias.length - 1
      · refine iff_of_true ?_ ?_
        · rintro ⟨m₁, hm₁, hruns⟩
          obtain ⟨hm₁, -⟩ := Option.filter_eq_some_iff.mp hm₁
          rw [hlast, if_pos hcurrent] at hm₁
          obtain rfl := Option.some.inj hm₁
          exact absurd hruns (Media.not_runs_of_isEnd hnext hend)
        · intro _ _
          rw [hsource, hcurrent]
      · rw [if_neg hcurrent] at hlast
        have hrunning := Medias.running_congr hfactories hlast
        constructor
        · intro ht hruns
          exact absurd (ht (hrunning.mpr hruns)) hnot
        · intro hok hruns
          have heq := hok (hrunning.mp hruns) hend
          rw [hsource] at heq
          exact absurd (Option.some.inj heq) hcurrent
    | false =>
      refine iff_of_true ?_ (hquiet hend)
      rcases Medias.Event.quiet points hnext hend s.server with hready | ⟨hsame, rfl⟩
      · rw [← hserver] at hready
        exact fun _ => hready
      · rw [List.set_getElem_self] at hmedias
        have hrunning := Medias.running_congr hfactories (congrArg List.getLast? hmedias)
        intro hruns
        rw [hserver, hsame]
        exact hs (hrunning.mp hruns)

/-- **The current media object**: while it runs the health says so in every run in which no other
one ends meanwhile, and the first that does makes the health wrong. -/
theorem follows_exact {config : Config} {es : List Medias.Event} {s : Medias T}
    (h : (Medias.machine points config).Reaches Medias.Undisturbed es s) :
    s.Follows ∧ ∀ e t, s.step points e = some t → (t.Follows ↔ s.Undisturbed e) := by
  refine h.exact (I := Medias.Sound) ?_ (fun s e t hs hstep => Medias.sound_step hs hstep) ?_
  · rintro _ ⟨now, rfl⟩
    refine ⟨List.forall_mem_nil _, ?_⟩
    rintro ⟨m, hm, -⟩
    cases hm
  · intro s e t hsound hs hstep
    exact Medias.follows_step_iff hsound hs hstep

/-- A media object that is unprepared before the one of the next factory is configured. -/
def replacedRun : List Medias.Event :=
  [.configure 0, .prepared 0 5, .install {}, .unprepared 0 .unprepared, .configure 1, .prepared 1 9]

/-- One that is unprepared only when the next one runs. -/
def lateTeardownRun : List Medias.Event :=
  [.configure 0, .prepared 0 5, .install {}, .configure 1, .prepared 1 9, .unprepared 0 .unprepared]

/-- A server before its first client. -/
def idleMedias : Medias (List (Bytes × Factory)) := { server := MediaServer.start mountTable {} 0 }

theorem init_idleMedias : (Medias.machine mountTable {}).init idleMedias := ⟨0, rfl⟩

theorem follows_exact_replaced : ∃ s,
    (Medias.machine mountTable {}).Reaches Medias.Undisturbed replacedRun s ∧ s.Running ∧
      s.server.pipelineStatus = bytes "ready" ∧ s.server.cameraStatus = bytes "ok" := by
  have hallows : (Medias.machine mountTable {}).Allows Medias.Undisturbed
      idleMedias replacedRun := by
    decide +kernel
  have hrunning : ((Medias.machine mountTable {}).run idleMedias replacedRun).map
      (fun s => decide s.Running) = some true := by
    decide +kernel
  obtain ⟨s, hreaches, hs⟩ := Machine.exists_reaches init_idleMedias hallows hrunning
  have hruns := of_decide_eq_true hs
  exact ⟨s, hreaches, hruns, (follows_exact hreaches).1 hruns⟩

/-- In the second order the new media object runs, and the health says `idle`. -/
theorem not_follows_lateTeardown :
    ¬∀ (config : Config) (es : List Medias.Event) (s : Medias (List (Bytes × Factory))),
      (Medias.machine mountTable config).Reaches Machine.anyStep es s → s.Follows := by
  intro hall
  have hend : ((Medias.machine mountTable {}).run idleMedias lateTeardownRun).map
      (fun s => (decide s.Running, s.server.pipelineStatus)) = some (true, bytes "idle") := by
    decide +kernel
  obtain ⟨s, hreaches, hs⟩ := Machine.exists_reaches init_idleMedias Machine.allows_anyStep hend
  obtain ⟨hrunning, hstatus⟩ := Prod.mk.inj hs
  have hfollows := hall {} lateTeardownRun s hreaches (of_decide_eq_true hrunning)
  rw [hstatus] at hfollows
  exact absurd hfollows.1 (by decide)

end Afterveda.Rail
