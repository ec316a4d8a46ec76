import Afterveda.Rail.Clients
import Afterveda.Rail.Equiv.Sections

/-!
# No client keeps an old stream

`clients_current`: whatever clients, callbacks and requests do and in whatever order, between two
operations every client that is served at all is served from the factory of the current
configuration, since an operation installs its factory before it closes the clients; each client
that was there when the old factory was taken away is closed; and `rtsp_clients_` counts the
clients.
-/

namespace Afterveda.Rail

open CText JsonGlib

variable {T : Type} {points : MountPoints T} {parse : Parser}

/-! ### What a step does to the mount point -/

/-- What the main loop has done to the mount point since the last `current_ = next`. -/
inductive MountPhase
  | settled
  | removed
  | added (next : Config)
  deriving DecidableEq

def Main.phase : Main → MountPhase
  | .adding .. => .removed
  | .storing next _ => .added next
  | _ => .settled

/-- The server with other factories. -/
def Sections.withMounts (s : Sections T) (main : Main) (mounts : T) : Sections T :=
  { s with main, shared := { s.shared with server := { s.shared.server with mounts } } }

variable (points) in
/-- A step, as the mount point sees it. -/
inductive Sections.Remounts (s : Sections T) : Sections.Event → Sections T → Prop
  | keeps {e : Sections.Event} {t : Sections T} (hphase : t.main.phase = s.main.phase)
      (hcurrent : t.shared.server.current = s.shared.server.current)
      (hmounts : t.shared.server.mounts = s.shared.server.mounts)
      (hmount : t.shared.server.mount = s.shared.server.mount) : Remounts s e t
  | removes {next : Config} {message : Bytes} (hmain : s.main = .removing next message) :
    Remounts s .mainLoop (s.withMounts (.adding next message)
      (points.removeFactory s.shared.server.mounts (cString s.shared.server.mount)))
  | adds {next : Config} {message : Bytes} (hmain : s.main = .adding next message) :
    Remounts s .mainLoop (s.withMounts (.storing next message)
      (points.addFactory s.shared.server.mounts (cString s.shared.server.mount)
        (createFactory next)))
  | stores {next : Config} {message : Bytes} (hmain : s.main = .storing next message) :
    Remounts s .mainLoop { s with
      main := .finished (true, message)
      shared := { s.shared with server := { s.shared.server with current := next } } }

theorem Sections.step_remounts_mainLoop {s t : Sections T}
    (h : Sections.step points parse s .mainLoop = some t) : s.Remounts points .mainLoop t := by
  obtain ⟨⟨main, server⟩, hmain, rfl⟩ := Option.map_eq_some_iff.mp h
  obtain ⟨shared, control, before⟩ := s
  cases before with
  | free => cases hmain
  | finished result => cases hmain
  | applying operation =>
    simp only [Main.step] at hmain
    cases hplan : operation.plan shared.server.current with
    | error message =>
      rw [hplan] at hmain
      obtain ⟨rfl, rfl⟩ := Prod.mk.inj (Option.some.inj hmain)
      exact .keeps rfl rfl rfl rfl
    | ok planned =>
      rw [hplan] at hmain
      obtain ⟨rfl, rfl⟩ := Prod.mk.inj (Option.some.inj hmain)
      exact .keeps rfl rfl rfl rfl
  | resetting next message =>
    obtain ⟨rfl, rfl⟩ := Prod.mk.inj (Option.some.inj hmain)
    exact .keeps rfl rfl rfl rfl
  | removing next message =>
    obtain ⟨rfl, rfl⟩ := Prod.mk.inj (Option.some.inj hmain)
    exact .removes rfl
  | adding next message =>
    obtain ⟨rfl, rfl⟩ := Prod.mk.inj (Option.some.inj hmain)
    exact .adds rfl
  | storing next message =>
    obtain ⟨rfl, rfl⟩ := Prod.mk.inj (Option.some.inj hmain)
    exact .stores rfl

theorem Sections.step_remounts {s t : Sections T} {e : Sections.Event}
    (h : Sections.step points parse s e = some t) : s.Remounts points e t := by
  cases e with
  | mainLoop => exact Sections.step_remounts_mainLoop h
  | callback c =>
    obtain ⟨shared, hcallback, rfl⟩ := Option.map_eq_some_iff.mp h
    obtain ⟨hcurrent, hmounts, hmount⟩ := Shared.callback_frame hcallback
    exact .keeps rfl hcurrent hmounts hmount
  | arrive | read | readConfig | respond =>
    simp only [Sections.step] at h
    split at h
    · first
        | (obtain rfl := Option.some.inj h; exact .keeps rfl rfl rfl rfl)
        | (split_ifs at h <;> obtain rfl := Option.some.inj h <;> exact .keeps rfl rfl rfl rfl)
    · cases h
  | post =>
    simp only [Sections.step] at h
    split at h
    · rename_i hmain
      obtain rfl := Option.some.inj h
      refine .keeps ?_ rfl rfl rfl
      rw [hmain]
      rfl
    · cases h
  | resume =>
    simp only [Sections.step] at h
    split at h
    · rename_i hmain
      obtain rfl := Option.some.inj h
      refine .keeps ?_ rfl rfl rfl
      rw [hmain]
      rfl
    · cases h

/-! ### What a step does to the counter -/

theorem Main.step_rtspClients {main main' : Main} {server server' : MediaServer T}
    (h : main.step points server = some (main', server')) :
    server'.rtspClients = server.rtspClients := by
  cases main with
  | free => cases h
  | finished result => cases h
  | applying operation =>
    simp only [Main.step] at h
    split at h <;> (obtain ⟨rfl, rfl⟩ := Prod.mk.inj (Option.some.inj h); rfl)
  | resetting next message | removing next message | adding next message | storing next message =>
    obtain ⟨rfl, rfl⟩ := Prod.mk.inj (Option.some.inj h)
    rfl

theorem onCallback_rtspClients {c : Callback} (hconnected : c ≠ .clientConnected)
    (hclosed : c ≠ .clientClosed) (s : MediaServer T) :
    (onCallback c s).rtspClients = s.rtspClients := by
  cases c with
  | mediaUnprepared status =>
    simp only [onCallback, onMediaUnprepared]
    split_ifs <;> rfl
  | mediaNewState status =>
    simp only [onCallback, onMediaNewState]
    split_ifs <;> rfl
  | clientConnected => exact absurd rfl hconnected
  | clientClosed => exact absurd rfl hclosed
  | _ => rfl

theorem Shared.callback_rtspClients {s t : Shared T} {e : Threads.Event}
    (h : s.callback points e = some t) (hconnected : e ≠ .clientConnected)
    (hclosed : e ≠ .clientClosed) : t.server.rtspClients = s.server.rtspClients := by
  cases e with
  | mediaUnprepared status =>
    simp only [Shared.callback, Threads.Event.isCallback, if_true, Threads.step] at h
    split_ifs at h <;> obtain rfl := Option.some.inj h <;> rfl
  | unpreparedWrites i =>
    simp only [Shared.callback, Threads.Event.isCallback, if_true, Threads.step, Option.map_map,
      Option.map_eq_some_iff] at h
    obtain ⟨status, -, rfl⟩ := h
    rfl
  | mediaNewState status =>
    obtain rfl := Option.some.inj h
    exact onCallback_rtspClients (c := .mediaNewState status) (by simp) (by simp) s.server
  | clientConnected => exact absurd rfl hconnected
  | clientClosed => exact absurd rfl hclosed
  | install config => cases h
  | storeCurrent next => cases h
  | read => cases h
  | _ =>
    obtain rfl := Option.some.inj h
    rfl

/-- Only the signals of clients count. -/
theorem Sections.step_rtspClients {s t : Sections T} {e : Sections.Event}
    (h : Sections.step points parse s e = some t) (he : e.isClientSignal = false) :
    t.shared.server.rtspClients = s.shared.server.rtspClients := by
  cases e with
  | mainLoop =>
    obtain ⟨⟨main, server⟩, hmain, rfl⟩ := Option.map_eq_some_iff.mp h
    exact Main.step_rtspClients hmain
  | callback c =>
    obtain ⟨shared, hcallback, rfl⟩ := Option.map_eq_some_iff.mp h
    refine Shared.callback_rtspClients hcallback ?_ ?_
    · rintro rfl
      cases he
    · rintro rfl
      cases he
  | _ =>
    simp only [Sections.step] at h
    split at h
    · first
        | (obtain rfl := Option.some.inj h; rfl)
        | (split_ifs at h <;> obtain rfl := Option.some.inj h <;> rfl)
    · cases h

/-! ### Where a client is served from -/

/-- Every client that is served, and is not being closed, is served the factory of `config`. -/
def Clients.ServedFrom (s : Clients T) (config : Config) : Prop :=
  ∀ client ∈ s.clients, client.closing = false →
    ∀ factory, client.source = some factory → factory = createFactory config

variable (points) in
/-- The factory of `config` is at the mount point. -/
def Sections.Mounts (s : Sections T) (config : Config) : Prop :=
  points.lookup s.shared.server.mounts (cString s.shared.server.mount) =
    some (createFactory config)

variable (points) in
/-- What holds in each phase of an operation: the clients follow the mount point, but for those of
the old factory while it is replaced. -/
def Clients.Follows (s : Clients T) : Prop :=
  match s.sections.main.phase with
  | .settled => s.filtered = false ∧
      s.sections.Mounts points s.sections.shared.server.current ∧
      s.ServedFrom s.sections.shared.server.current
  | .removed => s.filtered = false ∧ ∃ table,
      s.sections.shared.server.mounts =
        points.removeFactory table (cString s.sections.shared.server.mount)
  | .added next => s.sections.Mounts points next ∧ (s.filtered = true → s.ServedFrom next)

/-- What is kept by every step. -/
structure Clients.Sound (points : MountPoints T) (s : Clients T) : Prop where
  mount : (cString s.sections.shared.server.mount).head? = some 47
  follows : s.Follows points
  counted : s.sections.shared.server.rtspClients.toNat = s.clients.length

theorem Main.isStoring_of_phase {main : Main} {next : Config} (h : main.phase = .added next) :
    main.isStoring = true := by
  cases main with
  | storing next message => rfl
  | _ => cases h

theorem Main.phase_of_isStoring {main : Main} (h : main.isStoring = true) :
    ∃ next, main.phase = .added next := by
  cases main with
  | storing next message => exact ⟨next, rfl⟩
  | _ => cases h

/-- A step that leaves the mount point, and clients that keep to it. -/
theorem Clients.Follows.congr {s t : Clients T} (hs : s.Follows points)
    (hphase : t.sections.main.phase = s.sections.main.phase)
    (hcurrent : t.sections.shared.server.current = s.sections.shared.server.current)
    (hmounts : t.sections.shared.server.mounts = s.sections.shared.server.mounts)
    (hmount : t.sections.shared.server.mount = s.sections.shared.server.mount)
    (hfiltered : t.filtered = s.filtered)
    (hserved : ∀ config, s.sections.Mounts points config → s.ServedFrom config →
      t.ServedFrom config) : t.Follows points := by
  unfold Clients.Follows at hs ⊢
  have hlookup : ∀ config, s.sections.Mounts points config → t.sections.Mounts points config := by
    intro config h
    unfold Sections.Mounts at h ⊢
    rw [hmounts, hmount]
    exact h
  rw [hphase]
  cases hcase : s.sections.main.phase with
  | settled =>
    rw [hcase] at hs
    obtain ⟨hnot, hat, hfrom⟩ := hs
    rw [hcurrent, hfiltered]
    exact ⟨hnot, hlookup _ hat, hserved _ hat hfrom⟩
  | removed =>
    rw [hcase] at hs
    rw [hmounts, hmount, hfiltered]
    exact hs
  | added next =>
    rw [hcase] at hs
    obtain ⟨hat, hfrom⟩ := hs
    refine ⟨hlookup _ hat, fun hdone => ?_⟩
    exact hserved _ hat (hfrom (hfiltered ▸ hdone))

/-- The steps of the control thread, of the main loop and of the callbacks. -/
theorem Clients.Follows.thread (hpoints : points.Replaces) {s : Clients T} (hs : s.Follows points)
    (hpath : (cString s.sections.shared.server.mount).head? = some 47) {e : Sections.Event}
    {sections : Sections T}
    (hwaits : (e.isMainLoop && s.sections.main.isStoring && !s.filtered) = false)
    (h : s.sections.Remounts points e sections) :
    Clients.Follows points
      { s with sections, filtered := s.filtered && sections.main.isStoring } := by
  cases h with
  | keeps hphase hcurrent hmounts hmount =>
    refine hs.congr hphase hcurrent hmounts hmount ?_ fun _ _ hfrom => hfrom
    show (s.filtered && sections.main.isStoring) = s.filtered
    cases hfiltered : s.filtered with
    | false => rfl
    | true =>
      have hadded : ∃ next, s.sections.main.phase = .added next := by
        unfold Clients.Follows at hs
        cases hcase : s.sections.main.phase with
        | settled => rw [hcase, hfiltered] at hs; exact absurd hs.1 (by simp)
        | removed => rw [hcase, hfiltered] at hs; exact absurd hs.1 (by simp)
        | added next => exact ⟨next, rfl⟩
      obtain ⟨next, hnext⟩ := hadded
      exact Main.isStoring_of_phase (hphase.trans hnext)
  | @removes next message hmain =>
    unfold Clients.Follows at hs
    rw [hmain] at hs
    refine ⟨?_, s.sections.shared.server.mounts, rfl⟩
    rw [hs.1]
    rfl
  | @adds next message hmain =>
    unfold Clients.Follows at hs
    rw [hmain] at hs
    obtain ⟨hnot, table, htable⟩ := hs
    refine ⟨?_, fun hdone => ?_⟩
    · show points.lookup (points.addFactory s.sections.shared.server.mounts _ _) _ = _
      rw [htable]
      exact hpoints table _ _ hpath
    · have hdone : (s.filtered && true) = true := hdone
      rw [hnot] at hdone
      cases hdone
  | @stores next message hmain =>
    unfold Clients.Follows at hs
    rw [hmain] at hs
    have hdone : s.filtered = true := by
      simpa [Sections.Event.isMainLoop, Main.isStoring, hmain] using hwaits
    refine ⟨?_, hs.1, hs.2 hdone⟩
    rw [hdone]
    rfl

theorem Clients.step_sound (hpoints : points.Replaces) {s t : Clients T} {e : Clients.Event}
    (hs : s.Sound points) (hok : s.Countable e) (h : Clients.step points parse s e = some t) :
    t.Sound points := by
  obtain ⟨hpath, hfollows, hcounted⟩ := hs
  cases e with
  | thread e =>
    simp only [Clients.step] at h
    split_ifs at h with hwaits
    obtain ⟨sections, hstep, rfl⟩ := Option.map_eq_some_iff.mp h
    rw [Bool.or_eq_true, not_or, Bool.not_eq_true, Bool.not_eq_true] at hwaits
    have hremounts := Sections.step_remounts hstep
    have hmount : sections.shared.server.mount = s.sections.shared.server.mount := by
      cases hremounts with
      | keeps _ _ _ hmount => exact hmount
      | removes | adds | stores => rfl
    refine ⟨?_, hfollows.thread hpoints hpath hwaits.2 hremounts, ?_⟩
    · show (cString sections.shared.server.mount).head? = some 47
      rw [hmount]
      exact hpath
    · show sections.shared.server.rtspClients.toNat = s.clients.length
      rw [Sections.step_rtspClients hstep hwaits.1]
      exact hcounted
  | clientFilter =>
    simp only [Clients.step] at h
    split_ifs at h with hready
    obtain rfl := Option.some.inj h
    obtain ⟨hstoring, -⟩ := Bool.and_eq_true_iff.mp hready
    obtain ⟨next, hnext⟩ := Main.phase_of_isStoring hstoring
    refine ⟨hpath, ?_, ?_⟩
    · unfold Clients.Follows at hfollows ⊢
      rw [hnext] at hfollows ⊢
      refine ⟨hfollows.1, fun _ client hclient hopen => ?_⟩
      obtain ⟨before, -, rfl⟩ := List.mem_map.mp hclient
      cases hopen
    · show s.sections.shared.server.rtspClients.toNat = (s.clients.map closeRtspClient).length
      rw [List.length_map]
      exact hcounted
  | clientConnected =>
    obtain rfl := Option.some.inj h
    refine ⟨hpath, ?_, ?_⟩
    · refine hfollows.congr rfl rfl rfl rfl rfl fun config _ hfrom client hclient hopen => ?_
      rcases List.mem_append.mp hclient with hclient | hclient
      · exact hfrom client hclient hopen
      · obtain rfl := List.mem_singleton.mp hclient
        intro factory hsource
        cases hsource
    · have hlength : s.clients.length + 1 < 2 ^ 32 := hok rfl
      show (s.sections.shared.server.rtspClients + 1).toNat =
        (s.clients ++ [({ id := s.nextId } : Client)]).length
      rw [List.length_append, UInt32.toNat_add, hcounted]
      simp only [List.length_singleton, UInt32.toNat_one]
      omega
  | describe i =>
    obtain ⟨client, hclient, h⟩ := Option.bind_eq_some_iff.mp h
    split_ifs at h with hopen
    obtain rfl := Option.some.inj h
    refine ⟨hpath, ?_, ?_⟩
    · refine hfollows.congr rfl rfl rfl rfl rfl fun config hat hfrom other hother hstill => ?_
      rcases List.mem_or_eq_of_mem_set hother with hother | rfl
      · exact hfrom other hother hstill
      · intro factory hsource
        exact Option.some.inj (hsource.symm.trans hat)
    · show s.sections.shared.server.rtspClients.toNat = (s.clients.set i _).length
      rw [List.length_set]
      exact hcounted
  | clientClosed i =>
    simp only [Clients.step] at h
    split_ifs at h with hi
    obtain rfl := Option.some.inj h
    have hone : 1 ≤ s.sections.shared.server.rtspClients := by
      rw [UInt32.le_iff_toNat_le, hcounted]
      simp only [UInt32.toNat_one]
      omega
    have hpositive : 0 < s.sections.shared.server.rtspClients := by
      rw [UInt32.lt_iff_toNat_lt, hcounted]
      simp only [UInt32.toNat_zero]
      omega
    have hserver : onClientClosed s.sections.shared.server =
        { s.sections.shared.server with
          rtspClients := s.sections.shared.server.rtspClients - 1 } := if_pos hpositive
    refine ⟨?_, ?_, ?_⟩
    · show (cString (onClientClosed s.sections.shared.server).mount).head? = some 47
      rw [hserver]
      exact hpath
    · refine hfollows.congr rfl ?_ ?_ ?_ rfl fun config _ hfrom client hclient => ?_
      · show (onClientClosed s.sections.shared.server).current = _
        rw [hserver]
      · show (onClientClosed s.sections.shared.server).mounts = _
        rw [hserver]
      · show (onClientClosed s.sections.shared.server).mount = _
        rw [hserver]
      · exact hfrom client (List.mem_of_mem_eraseIdx hclient)
    · show (onClientClosed s.sections.shared.server).rtspClients.toNat =
          (s.clients.eraseIdx i).length
      rw [hserver, List.length_eraseIdx_of_lt hi]
      show (s.sections.shared.server.rtspClients - 1).toNat = _
      rw [UInt32.toNat_sub_of_le _ _ hone, hcounted]
      rfl

/-! ### The clients that were there before -/

/-- The first `n` clients that have connected are being closed, as far as they are still there. -/
def Clients.ClosedUpTo (s : Clients T) (n : ℕ) : Prop :=
  ∀ client ∈ s.clients, client.id < n → client.closing = true

/-- An operation has taken the old factory away and has not yet closed the clients. -/
def Clients.Replacing (s : Clients T) : Prop :=
  s.filtered = false ∧ s.sections.main.phase ≠ .settled

/-- What a step does to the clients. -/
inductive Clients.Changes (s t : Clients T) : Prop
  | same (hclients : t.clients = s.clients) (hnext : t.nextId = s.nextId)
  | filter (hclients : t.clients = s.clients.map closeRtspClient) (hnext : t.nextId = s.nextId)
  | connected (hclients : t.clients = s.clients ++ [{ id := s.nextId }])
      (hnext : t.nextId = s.nextId + 1)
  | described {i : ℕ} {client : Client} {source : Option Factory}
      (hclient : s.clients[i]? = some client)
      (hclients : t.clients = s.clients.set i { client with source }) (hnext : t.nextId = s.nextId)
  | closed {i : ℕ} (hclients : t.clients = s.clients.eraseIdx i) (hnext : t.nextId = s.nextId)

theorem Clients.step_changes {s t : Clients T} {e : Clients.Event}
    (h : Clients.step points parse s e = some t) : s.Changes t := by
  cases e with
  | thread e =>
    simp only [Clients.step] at h
    split_ifs at h
    obtain ⟨sections, -, rfl⟩ := Option.map_eq_some_iff.mp h
    exact .same rfl rfl
  | clientFilter =>
    simp only [Clients.step] at h
    split_ifs at h
    obtain rfl := Option.some.inj h
    exact .filter rfl rfl
  | clientConnected =>
    obtain rfl := Option.some.inj h
    exact .connected rfl rfl
  | describe i =>
    obtain ⟨client, hclient, h⟩ := Option.bind_eq_some_iff.mp h
    split_ifs at h
    obtain rfl := Option.some.inj h
    exact .described hclient rfl rfl
  | clientClosed i =>
    simp only [Clients.step] at h
    split_ifs at h
    obtain rfl := Option.some.inj h
    exact .closed rfl rfl

theorem Clients.Changes.nextId_le {s t : Clients T} (h : s.Changes t) : s.nextId ≤ t.nextId := by
  cases h <;> omega

/-- Clients are numbered in the order in which they connect. -/
theorem Clients.Changes.numbered {s t : Clients T} (h : s.Changes t)
    (hs : ∀ client ∈ s.clients, client.id < s.nextId) :
    ∀ client ∈ t.clients, client.id < t.nextId := by
  intro client hmem
  cases h with
  | same hclients hnext =>
    rw [hnext]
    exact hs client (hclients ▸ hmem)
  | filter hclients hnext =>
    rw [hclients] at hmem
    obtain ⟨before, hbefore, rfl⟩ := List.mem_map.mp hmem
    rw [hnext]
    exact hs before hbefore
  | connected hclients hnext =>
    rw [hclients] at hmem
    rw [hnext]
    rcases List.mem_append.mp hmem with hmem | hmem
    · exact Nat.lt_succ_of_lt (hs client hmem)
    · obtain rfl := List.mem_singleton.mp hmem
      exact Nat.lt_succ_self _
  | @described i before source hbefore hclients hnext =>
    rw [hclients] at hmem
    rw [hnext]
    rcases List.mem_or_eq_of_mem_set hmem with hmem | rfl
    · exact hs client hmem
    · exact hs before (List.mem_of_getElem? hbefore)
  | closed hclients hnext =>
    rw [hclients] at hmem
    rw [hnext]
    exact hs client (List.mem_of_mem_eraseIdx hmem)

/-- A client that is being closed is so to the end. -/
theorem Clients.Changes.closedUpTo {s t : Clients T} (h : s.Changes t) {n : ℕ}
    (hn : n ≤ s.nextId) (hs : s.ClosedUpTo n) : t.ClosedUpTo n := by
  intro client hmem hold
  cases h with
  | same hclients _ => exact hs client (hclients ▸ hmem) hold
  | filter hclients _ =>
    rw [hclients] at hmem
    obtain ⟨before, -, rfl⟩ := List.mem_map.mp hmem
    rfl
  | connected hclients _ =>
    rw [hclients] at hmem
    rcases List.mem_append.mp hmem with hmem | hmem
    · exact hs client hmem hold
    · -- the new client comes after the first `n`
      obtain rfl := List.mem_singleton.mp hmem
      exact absurd (Nat.lt_of_lt_of_le hold hn) (Nat.lt_irrefl _)
  | @described i before source hbefore hclients _ =>
    rw [hclients] at hmem
    rcases List.mem_or_eq_of_mem_set hmem with hmem | rfl
    · exact hs client hmem hold
    · exact hs before (List.mem_of_getElem? hbefore) hold
  | closed hclients _ =>
    rw [hclients] at hmem
    exact hs client (List.mem_of_mem_eraseIdx hmem) hold

/-- While an operation replaces the factory it either goes on replacing it, or closes every client.
-/
theorem Clients.Replacing.step {s t : Clients T} {e : Clients.Event} (hs : s.Replacing)
    (h : Clients.step points parse s e = some t) : t.Replacing ∨ ∀ n, t.ClosedUpTo n := by
  obtain ⟨hnot, hphase⟩ := hs
  cases e with
  | thread e =>
    left
    simp only [Clients.step] at h
    split_ifs at h with hwaits
    obtain ⟨sections, hstep, rfl⟩ := Option.map_eq_some_iff.mp h
    refine ⟨by rw [hnot]; rfl, ?_⟩
    cases Sections.step_remounts hstep with
    | keeps hsame => rwa [hsame]
    | removes hmain => rw [hmain] at hphase; exact absurd rfl hphase
    | adds hmain => exact nofun
    | stores hmain =>
      -- the store waits for the clients
      simp [Sections.Event.isMainLoop, hmain, Main.isStoring, hnot] at hwaits
  | clientFilter =>
    right
    simp only [Clients.step] at h
    split_ifs at h
    obtain rfl := Option.some.inj h
    intro n client hmem _
    obtain ⟨before, -, rfl⟩ := List.mem_map.mp hmem
    rfl
  | clientConnected =>
    obtain rfl := Option.some.inj h
    exact Or.inl ⟨hnot, hphase⟩
  | describe i =>
    obtain ⟨client, hclient, h⟩ := Option.bind_eq_some_iff.mp h
    split_ifs at h
    obtain rfl := Option.some.inj h
    exact Or.inl ⟨hnot, hphase⟩
  | clientClosed i =>
    simp only [Clients.step] at h
    split_ifs at h
    obtain rfl := Option.some.inj h
    exact Or.inl ⟨hnot, hphase⟩

/-- An operation that is over has closed the clients that there were before. -/
theorem Clients.Replacing.run {config : Config} {s t : Clients T} {es : List Clients.Event}
    (hs : s.Replacing) (h : (Clients.machine points parse config).run s es = some t)
    (hsettled : t.sections.main.phase = .settled) : t.ClosedUpTo s.nextId := by
  have hkept : s.nextId ≤ t.nextId ∧ (t.Replacing ∨ t.ClosedUpTo s.nextId) := by
    refine Machine.Allows.keeps
      (I := fun u => s.nextId ≤ u.nextId ∧ (u.Replacing ∨ u.ClosedUpTo s.nextId))
      Machine.allows_anyStep ⟨le_rfl, Or.inl hs⟩ (fun u e v hu _ hstep => ?_) h
    obtain ⟨hle, hcase⟩ := hu
    have hchanges := Clients.step_changes hstep
    refine ⟨hle.trans hchanges.nextId_le, ?_⟩
    rcases hcase with hreplacing | hclosed
    · exact (hreplacing.step hstep).imp_right fun hall => hall _
    · exact Or.inr (hchanges.closedUpTo hle hclosed)
  exact hkept.2.resolve_left fun hreplacing => hreplacing.2 hsettled

theorem Clients.reaches_numbered {config : Config} {es : List Clients.Event} {s : Clients T}
    (h : (Clients.machine points parse config).Reaches Clients.Countable es s) :
    ∀ client ∈ s.clients, client.id < s.nextId := by
  refine h.invariant (I := fun s => ∀ client ∈ s.clients, client.id < s.nextId) ?_
    fun s e t hs _ hstep => (Clients.step_changes hstep).numbered hs
  rintro _ ⟨_, _, rfl⟩ client hmem
  cases hmem

theorem Clients.reaches_sound (hpoints : points.Replaces) {config : Config}
    (hmount : config.mount.head? = some 47) {es : List Clients.Event} {s : Clients T}
    (h : (Clients.machine points parse config).Reaches Clients.Countable es s) :
    s.Sound points := by
  refine h.invariant ?_ fun s e t hs hok hstep => Clients.step_sound hpoints hs hok hstep
  rintro _ ⟨_, ⟨_, ⟨now, rfl⟩, rfl⟩, rfl⟩
  have hpath : (cString config.mount).head? = some 47 := head?_cString hmount
  refine ⟨hpath, ⟨rfl, ?_, fun _ hclient => nomatch hclient⟩, rfl⟩
  exact hpoints _ _ _ hpath

/-- **No client keeps an old stream**: in every order of requests, callbacks and clients, a client
that is served while no operation is at work is served the pipeline of the current configuration;
each client that there was when an operation took the old factory away is being closed by the end of
the operation, if it is still there; and `rtsp_clients_` is the number of clients. -/
theorem clients_current (hpoints : points.Replaces) {argv : List CStr} {config : Config}
    (hargs : parseArgs argv = .ok config) {es : List Clients.Event} {s : Clients T}
    (h : (Clients.machine points parse config).Reaches Clients.Countable es s) :
    s.sections.shared.server.rtspClients.toNat = s.clients.length ∧
    (s.sections.main.phase = .settled →
      s.ServedFrom s.sections.shared.server.current) ∧
    ∀ es' t, (Clients.machine points parse config).run s es' = some t →
      s.sections.main.phase = .removed → t.sections.main.phase = .settled →
        ∀ client ∈ s.clients, ∀ later ∈ t.clients, later.id = client.id → later.closing = true := by
  have hsound := Clients.reaches_sound hpoints (accepted_of_parseArgs hargs).mount.1 h
  have hfollows := hsound.follows
  unfold Clients.Follows at hfollows
  refine ⟨hsound.counted, ?_, ?_⟩
  · intro hphase
    rw [hphase] at hfollows
    exact hfollows.2.2
  · intro es' t hrun hphase hsettled client hclient later hlater hsame
    rw [hphase] at hfollows
    have hreplacing : s.Replacing := ⟨hfollows.1, by rw [hphase]; exact nofun⟩
    refine hreplacing.run hrun hsettled later hlater ?_
    rw [hsame]
    exact Clients.reaches_numbered h client hclient

/-- A client that is served before a change of the size, up to where the old factory is gone. -/
def beforeClients : List Clients.Event :=
  [.clientConnected, .describe 0,
    .thread (.arrive
      ⟨bytes "POST", bytes "/config", bytes "\x7b\"width\":640,\"height\":360\x7d"⟩),
    .thread (.read 5), .thread .post, .thread .mainLoop, .thread .mainLoop, .thread .mainLoop]

/-- One client connects before the clients are closed, and one after that. -/
def afterClients : List Clients.Event :=
  [.clientConnected, .thread .mainLoop, .clientFilter, .clientClosed 1, .thread .mainLoop,
    .clientConnected, .describe 1, .thread .resume]

/-- The client that was there is still there, and is being closed. -/
theorem clients_current_size : ∃ s t,
    (Clients.machine mountTable flatParser {}).Reaches Clients.Countable beforeClients s ∧
      (Clients.machine mountTable flatParser {}).run s afterClients = some t ∧
      s.sections.shared.server.rtspClients.toNat = 1 ∧
      t.clients.map Client.id = [0, 2] ∧
      ∀ client ∈ s.clients, ∀ later ∈ t.clients, later.id = client.id → later.closing = true := by
  have hinit : (Clients.machine mountTable flatParser {}).init { sections := idleSections } :=
    ⟨_, ⟨_, ⟨0, rfl⟩, rfl⟩, rfl⟩
  have hend : ((Clients.machine mountTable flatParser {}).run { sections := idleSections }
      beforeClients).map (fun s => (s.sections.main.phase, s.clients.length,
        ((Clients.machine mountTable flatParser {}).run s afterClients).map
          fun t => (t.sections.main.phase, t.clients.map Client.id))) =
      some (.removed, 1, some (.settled, [0, 2])) := by
    decide +kernel
  have hok : (Clients.machine mountTable flatParser {}).Allows Clients.Countable
      { sections := idleSections } beforeClients := by
    decide +kernel
  obtain ⟨s, hreaches, hs⟩ := Machine.exists_reaches hinit hok hend
  obtain ⟨hphase, hrest⟩ := Prod.mk.inj hs
  obtain ⟨hlength, hafter⟩ := Prod.mk.inj hrest
  obtain ⟨t, hrun, ht⟩ := Option.map_eq_some_iff.mp hafter
  obtain ⟨hsettled, hclients⟩ := Prod.mk.inj ht
  have hargs : parseArgs [] = .ok {} := by decide
  obtain ⟨hcounted, -, hclosed⟩ := clients_current replaces_mountTable hargs hreaches
  exact ⟨s, t, hreaches, hrun, hcounted.trans hlength, hclients,
    hclosed _ t hrun hphase hsettled⟩

end Afterveda.Rail
