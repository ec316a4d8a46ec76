import Afterveda.Rail.Lifecycle

/-!
# The life of the control server

* `controlServer_outcome`: the constructor returns exactly when the thread of the control API
  listens, and throws the error the thread reported, after the thread has ended.
* `controlServer_progress`: the two threads block each other only where the destructor waits for a
  request that waits for the main loop; they take boundedly many steps.
-/

namespace Afterveda.Rail

open CText

variable {net : Network} {host port : Bytes}

/-! ### The report -/

theorem parseInt_error {value name : Bytes} {stop : Stop} (h : parseInt value name = .error stop) :
    stop = .error (bytes "invalid " ++ name ++ bytes ": " ++ value) := by
  unfold parseInt at h
  split at h
  · split_ifs at h
    exact (Except.error.inj h).symm
  · exact (Except.error.inj h).symm

/-- Every error of `run_server` has a text. -/
theorem runServer_error {stop : Stop} (h : runServer net host port = .error stop) :
    ∃ message, stop = .error message ∧ cString message ≠ [] := by
  have hinvalid : ∀ text : Bytes, cString (bytes "invalid " ++ text) ≠ [] :=
    fun text h => by cases h
  unfold runServer at h
  split at h
  · exact ⟨_, (Except.error.inj h).symm, by decide⟩
  · cases hport : parseInt port (bytes "--control-port") with
    | error stop' =>
      rw [hport] at h
      obtain rfl := Except.error.inj h
      refine ⟨_, parseInt_error hport, ?_⟩
      rw [List.append_assoc, List.append_assoc]
      exact hinvalid _
    | ok parsedPort =>
      rw [hport] at h
      dsimp only at h
      split_ifs at h
      · exact ⟨_, (Except.error.inj h).symm, hinvalid (bytes "--control-port: " ++ port)⟩
      · exact ⟨_, (Except.error.inj h).symm, hinvalid (bytes "--control-host: " ++ host)⟩
      · split at h
        · exact ⟨_, (Except.error.inj h).symm, fun h => by cases h⟩
        · cases h

/-- An empty text reports that the server listens. -/
theorem startupText_startupReport :
    startupText (startupReport net host port) = [] ↔
      ∃ listening, startupReport net host port = .ok listening := by
  unfold startupReport
  cases hserver : runServer net host port with
  | ok listening => exact ⟨fun _ => ⟨listening, rfl⟩, fun _ => rfl⟩
  | error stop =>
    obtain ⟨message, rfl, hmessage⟩ := runServer_error hserver
    exact ⟨fun h => absurd h hmessage, by rintro ⟨listening, hok⟩; cases hok⟩

/-! ### What a step does -/

/-- The steps of the two threads. -/
inductive ControlServer.Effect (net : Network) (host port : Bytes) (s : ControlServer) :
    ControlServer.Event → ControlServer → Prop
  | created (howner : s.owner = .creating) :
    Effect net host port s (.create true) { s with owner := .launching }
  | notCreated (howner : s.owner = .creating) :
    Effect net host port s (.create false)
      { s with owner := .threw (bytes "failed to create HTTP control loop") }
  | launch (howner : s.owner = .launching) :
    Effect net host port s .launch { s with owner := .locking, thread := .starting }
  | lock (howner : s.owner = .locking ∨ s.owner = .woken) (hmutex : s.mutex = none) :
    Effect net host port s .lock { s with owner := .testing, mutex := some .owner }
  | passes (howner : s.owner = .testing) (hdone : s.startupDone = true) :
    Effect net host port s .test { s with owner := .unlocking }
  | waits (howner : s.owner = .testing) (hdone : s.startupDone = false) :
    Effect net host port s .test { s with owner := .waiting, mutex := none }
  | wakes (howner : s.owner = .waiting) :
    Effect net host port s .spuriousWakeup { s with owner := .woken }
  | unlock (howner : s.owner = .unlocking) :
    Effect net host port s .unlock { s with owner := .checking, mutex := none }
  | runs (howner : s.owner = .checking) (herror : s.startupError = []) :
    Effect net host port s .check { s with owner := .running }
  | fails (howner : s.owner = .checking) (herror : s.startupError ≠ []) :
    Effect net host port s .check { s with owner := .failing }
  | throws (howner : s.owner = .failing) (hthread : s.thread = .ended) :
    Effect net host port s .join { s with owner := .threw s.startupError }
  | destroys (howner : s.owner = .joining) (hthread : s.thread = .ended) :
    Effect net host port s .join { s with owner := .destroyed }
  | destruct (howner : s.owner = .running) :
    Effect net host port s .destruct { s with owner := .quitting }
  | invoke (howner : s.owner = .quitting) :
    Effect net host port s .invoke { s with owner := .joining, quitPosted := true }
  | threadStart (hthread : s.thread = .starting) :
    Effect net host port s .threadStart
      { s with thread := .locking (startupReport net host port) }
  | threadLock {report : Except Bytes UInt16} (hthread : s.thread = .locking report)
      (hmutex : s.mutex = none) :
    Effect net host port s .threadLock { s with thread := .setting report, mutex := some .server }
  | threadSet {report : Except Bytes UInt16} (hthread : s.thread = .setting report) :
    Effect net host port s .threadSet { s with
      startupError := startupText report, startupDone := true, thread := .unlocking report }
  | threadUnlock {report : Except Bytes UInt16} (hthread : s.thread = .unlocking report) :
    Effect net host port s .threadUnlock { s with thread := .notifying report, mutex := none }
  | notifyListening {listening : UInt16} (hthread : s.thread = .notifying (.ok listening)) :
    Effect net host port s .threadNotify { s with
      owner := if s.owner = .waiting then .woken else s.owner, thread := .looping listening }
  | notifyError {message : Bytes} (hthread : s.thread = .notifying (.error message)) :
    Effect net host port s .threadNotify { s with
      owner := if s.owner = .waiting then .woken else s.owner, thread := .leaving }
  | request {listening : UInt16} {handsOver : Bool} (hthread : s.thread = .looping listening) :
    Effect net host port s (.request handsOver) { s with thread := .handling listening handsOver }
  | respond {listening : UInt16} {handsOver : Bool}
      (hthread : s.thread = .handling listening handsOver)
      (hfree : handsOver = false ∨ s.owner = .running) :
    Effect net host port s .respond { s with thread := .looping listening }
  | quitLoop {listening : UInt16} (hthread : s.thread = .looping listening)
      (hquit : s.quitPosted = true) :
    Effect net host port s .quitLoop { s with thread := .leaving }
  | threadLeave (hthread : s.thread = .leaving) :
    Effect net host port s .threadLeave { s with thread := .ended }

@[simp]
theorem ServerThread.hasEnded_iff {thread : ServerThread} :
    thread.hasEnded = true ↔ thread = .ended := by
  cases thread <;> simp [ServerThread.hasEnded]

theorem ControlServer.ownerStep_effect {s t : ControlServer} {e : ControlServer.Event}
    (h : s.ownerStep e = some t) : ControlServer.Effect net host port s e t := by
  unfold ControlServer.ownerStep at h
  split at h
  · rename_i ok howner
    split_ifs at h with hok <;> obtain rfl := Option.some.inj h
    · exact hok ▸ .created howner
    · exact Bool.of_not_eq_true hok ▸ .notCreated howner
  · rename_i howner
    obtain rfl := Option.some.inj h
    exact .launch howner
  · rename_i howner
    split_ifs at h with hmutex
    obtain rfl := Option.some.inj h
    exact .lock (Or.inl howner) hmutex
  · rename_i howner
    split_ifs at h with hmutex
    obtain rfl := Option.some.inj h
    exact .lock (Or.inr howner) hmutex
  · rename_i howner
    split_ifs at h with hdone <;> obtain rfl := Option.some.inj h
    · exact .passes howner hdone
    · exact .waits howner (Bool.of_not_eq_true hdone)
  · rename_i howner
    obtain rfl := Option.some.inj h
    exact .wakes howner
  · rename_i howner
    obtain rfl := Option.some.inj h
    exact .unlock howner
  · rename_i howner
    split_ifs at h with herror <;> obtain rfl := Option.some.inj h
    · exact .runs howner herror
    · exact .fails howner herror
  · rename_i howner
    split_ifs at h with hthread
    obtain rfl := Option.some.inj h
    exact .throws howner (ServerThread.hasEnded_iff.mp hthread)
  · rename_i howner
    split_ifs at h with hthread
    obtain rfl := Option.some.inj h
    exact .destroys howner (ServerThread.hasEnded_iff.mp hthread)
  · rename_i howner
    obtain rfl := Option.some.inj h
    exact .destruct howner
  · rename_i howner
    obtain rfl := Option.some.inj h
    exact .invoke howner
  · cases h

theorem ControlServer.serverStep_effect {s t : ControlServer} {e : ControlServer.Event}
    (h : s.serverStep net host port e = some t) : ControlServer.Effect net host port s e t := by
  unfold ControlServer.serverStep at h
  split at h
  · rename_i hthread
    obtain rfl := Option.some.inj h
    exact .threadStart hthread
  · rename_i hthread
    split_ifs at h with hmutex
    obtain rfl := Option.some.inj h
    exact .threadLock hthread hmutex
  · rename_i hthread
    obtain rfl := Option.some.inj h
    exact .threadSet hthread
  · rename_i hthread
    obtain rfl := Option.some.inj h
    exact .threadUnlock hthread
  · rename_i report hthread
    obtain rfl := Option.some.inj h
    cases report with
    | ok listening => exact .notifyListening hthread
    | error message => exact .notifyError hthread
  · rename_i hthread
    obtain rfl := Option.some.inj h
    exact .request hthread
  · rename_i hthread
    split_ifs at h with hfree
    obtain rfl := Option.some.inj h
    exact .respond hthread hfree
  · rename_i hthread
    split_ifs at h with hquit
    obtain rfl := Option.some.inj h
    exact .quitLoop hthread hquit
  · rename_i hthread
    obtain rfl := Option.some.inj h
    exact .threadLeave hthread
  · cases h

theorem ControlServer.step_effect {s t : ControlServer} {e : ControlServer.Event}
    (h : s.step net host port e = some t) : ControlServer.Effect net host port s e t := by
  rcases Option.or_eq_some_iff.mp h with howner | ⟨-, hserver⟩
  · exact ControlServer.ownerStep_effect howner
  · exact ControlServer.serverStep_effect hserver

/-! ### Where the threads are -/

/-- The owner has the mutex. -/
def Owner.holds : Owner → Bool
  | .testing | .unlocking => true
  | _ => false

/-- The owner has seen that the start-up is done. -/
def Owner.hasSeen : Owner → Bool
  | .unlocking | .checking | .failing | .running | .quitting | .joining | .destroyed => true
  | _ => false

/-- The constructor has returned. -/
def Owner.isUp : Owner → Bool
  | .running | .quitting | .joining | .destroyed => true
  | _ => false

/-- The thread of the control API has the mutex. -/
def ServerThread.holds : ServerThread → Bool
  | .setting _ | .unlocking _ => true
  | _ => false

/-- The thread has reported its start-up. -/
def ServerThread.hasSet : ServerThread → Bool
  | .absent | .starting | .locking _ | .setting _ => false
  | _ => true

/-- The thread has notified the owner. -/
def ServerThread.hasNotified : ServerThread → Bool
  | .looping _ | .handling .. | .leaving | .ended => true
  | _ => false

/-- The thread is out of its loop, or never came into it. -/
def ServerThread.hasLeft : ServerThread → Bool
  | .leaving | .ended => true
  | _ => false

/-- What the thread carries is its report. -/
def ServerThread.Carries (report : Except Bytes UInt16) : ServerThread → Prop
  | .locking r | .setting r | .unlocking r | .notifying r => r = report
  | .looping listening | .handling listening _ => report = .ok listening
  | _ => True

theorem ServerThread.hasNotified_of_hasSet {thread : ServerThread} (h : thread.hasSet = false) :
    thread.hasNotified = false := by
  cases thread <;> first | rfl | cases h

/-- A notification changes nothing but that nobody is asleep. -/
theorem Owner.notify (owner : Owner) :
    (if owner = .waiting then Owner.woken else owner).holds = owner.holds ∧
      (if owner = .waiting then Owner.woken else owner).hasSeen = owner.hasSeen ∧
      (if owner = .waiting then Owner.woken else owner).isUp = owner.isUp ∧
      (if owner = .waiting then Owner.woken else owner) ≠ .waiting ∧
      ∀ other, other ≠ .woken → other ≠ .waiting →
        ((if owner = .waiting then Owner.woken else owner) = other ↔ owner = other) := by
  by_cases h : owner = .waiting
  · rw [if_pos h, h]
    refine ⟨rfl, rfl, rfl, by decide, fun other hwoken hwaiting => ?_⟩
    exact ⟨fun heq => absurd heq.symm hwoken, fun heq => absurd heq.symm hwaiting⟩
  · rw [if_neg h]
    exact ⟨rfl, rfl, rfl, h, fun other _ _ => Iff.rfl⟩

/-- The mutex is with the thread that says so, the variables hold what was reported, and an owner
asleep will be notified. -/
structure ControlServer.Reported (report : Except Bytes UInt16) (s : ControlServer) : Prop where
  unborn : s.owner = .creating ∨ s.owner = .launching → s.thread = .absent
  ownerMutex : s.owner.holds = true ↔ s.mutex = some .owner
  threadMutex : s.thread.holds = true ↔ s.mutex = some .server
  done : s.startupDone = s.thread.hasSet
  error : s.thread.hasSet = true → s.startupError = startupText report
  carries : s.thread.Carries report
  seen : s.owner.hasSeen = true → s.thread.hasSet = true
  asleep : s.owner = .waiting → s.thread.hasNotified = false

/-- What the owner does follows the report, and what the thread does follows the owner. -/
structure ControlServer.Agreed (report : Except Bytes UInt16) (s : ControlServer) : Prop where
  absent : s.thread = .absent → s.owner = .creating ∨ s.owner = .launching ∨
    s.owner = .threw (bytes "failed to create HTTP control loop")
  up : s.owner.isUp = true → startupText report = []
  failing : s.owner = .failing → startupText report ≠ []
  left : s.thread.hasLeft = true → s.quitPosted = true ∨ startupText report ≠ []
  quit : s.quitPosted = true ↔ s.owner = .joining ∨ s.owner = .destroyed
  destroyed : s.owner = .destroyed → s.thread = .ended
  threw : ∀ message, s.owner = .threw message →
    s.thread = .absent ∧ message = bytes "failed to create HTTP control loop" ∨
      s.thread = .ended ∧ startupText report ≠ [] ∧ message = startupText report

theorem ControlServer.reported_step {s t : ControlServer} {e : ControlServer.Event}
    (hs : s.Reported (startupReport net host port)) (h : s.step net host port e = some t) :
    t.Reported (startupReport net host port) := by
  obtain ⟨hunborn, hownerMutex, hthreadMutex, hdone, herror, hcarries, hseen, hasleep⟩ := hs
  cases ControlServer.step_effect h with
  | launch howner =>
    rw [hunborn (Or.inr howner)] at *
    constructor <;> simp_all [Owner.holds, Owner.hasSeen, ServerThread.holds, ServerThread.hasSet,
      ServerThread.hasNotified, ServerThread.Carries]
  | waits howner hnot =>
    have hnotified := ServerThread.hasNotified_of_hasSet (hdone.symm.trans hnot)
    constructor <;> simp_all [Owner.holds, Owner.hasSeen]
  | notifyListening hthread | notifyError hthread =>
    obtain ⟨hholds, hhasSeen, -, hawake, hother⟩ := s.owner.notify
    rw [hthread] at hunborn hthreadMutex hdone herror hcarries
    constructor
    · rw [hother _ (by decide) (by decide), hother _ (by decide) (by decide)]
      exact fun hbefore => nomatch hunborn hbefore
    · rw [hholds]
      exact hownerMutex
    · exact hthreadMutex
    · exact hdone
    · exact herror
    · first | exact hcarries.symm | trivial
    · exact fun _ => rfl
    · exact fun hwaiting => absurd hwaiting hawake
  | _ =>
    constructor <;> simp_all [Owner.holds, Owner.hasSeen, ServerThread.holds, ServerThread.hasSet,
      ServerThread.hasNotified, ServerThread.Carries]

theorem ControlServer.Agreed.notify {report r : Except Bytes UInt16} {s : ControlServer}
    {next : ServerThread} (hs : s.Agreed report) (hthread : s.thread = .notifying r)
    (hborn : next ≠ .absent) (hleaves : next.hasLeft = true → startupText report ≠ []) :
    ControlServer.Agreed report { s with
      owner := if s.owner = .waiting then .woken else s.owner, thread := next } := by
  obtain ⟨-, -, hisUp, -, hother⟩ := s.owner.notify
  constructor
  · exact fun habsent => absurd habsent hborn
  · rw [hisUp]
    exact hs.up
  · exact fun howner => hs.failing ((hother _ (by decide) (by decide)).mp howner)
  · exact fun hleft => Or.inr (hleaves hleft)
  · rw [hother _ (by decide) (by decide), hother _ (by decide) (by decide)]
    exact hs.quit
  · intro howner
    have hended := hs.destroyed ((hother _ (by decide) (by decide)).mp howner)
    exact nomatch hthread.symm.trans hended
  · intro message howner
    rcases hs.threw message ((hother _ (by simp) (by simp)).mp howner) with
      ⟨habsent, -⟩ | ⟨hended, -⟩
    · exact nomatch hthread.symm.trans habsent
    · exact nomatch hthread.symm.trans hended

theorem ControlServer.agreed_step {s t : ControlServer} {e : ControlServer.Event}
    (hreported : s.Reported (startupReport net host port))
    (hs : s.Agreed (startupReport net host port)) (h : s.step net host port e = some t) :
    t.Agreed (startupReport net host port) := by
  obtain ⟨habsent, hup, hfailing, hleft, hquit, hdestroyed, hthrew⟩ := hs
  -- an owner that has seen the report reads it
  have hread : s.owner.hasSeen = true →
      s.startupError = startupText (startupReport net host port) :=
    fun hseen => hreported.error (hreported.seen hseen)
  cases ControlServer.step_effect h with
  | notCreated howner =>
    have hthread := hreported.unborn (Or.inl howner)
    constructor <;> simp_all [Owner.isUp, ServerThread.hasLeft]
  | lock howner =>
    rcases howner with howner | howner <;> constructor <;>
      simp_all [Owner.isUp, ServerThread.hasLeft]
  | runs howner | fails howner =>
    have hread := hread (by rw [howner]; rfl)
    constructor <;> simp_all [Owner.isUp, ServerThread.hasLeft]
  | throws howner =>
    have hread := hread (by rw [howner]; rfl)
    constructor <;> simp_all [Owner.isUp, ServerThread.hasLeft]
  | notifyListening hthread =>
    exact ControlServer.Agreed.notify
      ⟨habsent, hup, hfailing, hleft, hquit, hdestroyed, hthrew⟩ hthread
      (fun habsent => nomatch habsent) fun hleaves => nomatch hleaves
  | notifyError hthread =>
    have hcarries := hreported.carries
    rw [hthread] at hcarries
    refine ControlServer.Agreed.notify
      ⟨habsent, hup, hfailing, hleft, hquit, hdestroyed, hthrew⟩ hthread
      (fun habsent => nomatch habsent) fun _ hempty => ?_
    obtain ⟨listening, hok⟩ := startupText_startupReport.mp hempty
    exact nomatch hcarries.trans hok
  | _ => constructor <;> simp_all [Owner.isUp, ServerThread.hasLeft]

theorem ControlServer.reaches_agreed {es : List ControlServer.Event} {s : ControlServer}
    (h : (ControlServer.machine net host port).Reaches Machine.anyStep es s) :
    s.Reported (startupReport net host port) ∧ s.Agreed (startupReport net host port) := by
  refine h.invariant (I := fun s => s.Reported (startupReport net host port) ∧
    s.Agreed (startupReport net host port)) ?_ ?_
  · rintro _ rfl
    exact ⟨by constructor <;> simp [Owner.holds, Owner.hasSeen, ServerThread.holds,
        ServerThread.hasSet, ServerThread.Carries],
      by constructor <;> simp [Owner.isUp, ServerThread.hasLeft]⟩
  · rintro s e t ⟨hreported, hagreed⟩ - hstep
    exact ⟨ControlServer.reported_step hreported hstep,
      ControlServer.agreed_step hreported hagreed hstep⟩

theorem Owner.hasSeen_of_isUp {owner : Owner} (h : owner.isUp = true) : owner.hasSeen = true := by
  cases owner <;> first | rfl | cases h

/-! ### The outcome -/

/-- The port the thread listens on. -/
def ServerThread.listensOn : ServerThread → Option UInt16
  | .locking report | .setting report | .unlocking report | .notifying report => report.toOption
  | .looping listening | .handling listening _ => some listening
  | _ => none

theorem ServerThread.listensOn_of_carries {thread : ServerThread} {listening : UInt16}
    (hcarries : thread.Carries (.ok listening)) (hset : thread.hasSet = true)
    (hleft : thread.hasLeft = false) : thread.listensOn = some listening := by
  cases thread with
  | unlocking report | notifying report =>
    obtain rfl : report = .ok listening := hcarries
    rfl
  | looping other | handling other handsOver =>
    obtain rfl := Except.ok.inj hcarries
    rfl
  | absent | starting | locking report | setting report => cases hset
  | leaving | ended => cases hleft

/-- The object is gone, or was never made. -/
def Owner.isGone : Owner → Bool
  | .threw _ | .destroyed => true
  | _ => false

theorem startupReport_ok {listening : UInt16} (h : startupReport net host port = .ok listening) :
    runServer net host port = .ok listening := by
  unfold startupReport at h
  split at h
  · rename_i hserver
    obtain rfl := Except.ok.inj h
    exact hserver
  · cases h
  · cases h

/-- Once the object is gone, neither thread takes another step. -/
theorem ControlServer.Agreed.gone {report : Except Bytes UInt16} {s : ControlServer}
    (hs : s.Agreed report) (hgone : s.owner.isGone = true) (e : ControlServer.Event) :
    s.step net host port e = none := by
  have hthread : s.thread = .absent ∨ s.thread = .ended := by
    cases howner : s.owner with
    | threw message => exact (hs.threw message howner).imp And.left And.left
    | destroyed => exact Or.inr (hs.destroyed howner)
    | _ => rw [howner] at hgone; cases hgone
  cases hstep : s.step net host port e with
  | none => rfl
  | some t =>
    exfalso
    cases ControlServer.step_effect hstep with
    | lock howner => rcases howner with howner | howner <;> simp_all [Owner.isGone]
    | _ => simp_all [Owner.isGone]

/-- **Start and end of the control server**: in every order of the two threads, an owner whose
constructor has returned has a thread that listens, on the port `run_server` was asked for, until
the destructor has it quit; a constructor that throws has the error that was reported; and once the
object is gone, neither thread takes another step. -/
theorem controlServer_outcome {es : List ControlServer.Event} {s : ControlServer}
    (h : (ControlServer.machine net host port).Reaches Machine.anyStep es s) :
    (s.owner.isUp = true → ∃ listening, runServer net host port = .ok listening ∧
      (s.quitPosted = false → s.thread.listensOn = some listening)) ∧
    (∀ message, s.owner = .threw message →
      message = bytes "failed to create HTTP control loop" ∨
        startupReport net host port = .error message) ∧
    (s.owner.isGone = true → ∀ e, s.step net host port e = none) := by
  obtain ⟨hreported, hagreed⟩ := ControlServer.reaches_agreed h
  refine ⟨fun hup => ?_, fun message howner => ?_, fun hgone => hagreed.gone hgone⟩
  · obtain ⟨listening, hok⟩ := startupText_startupReport.mp (hagreed.up hup)
    refine ⟨listening, startupReport_ok hok, fun hquit => ?_⟩
    have hset := hreported.seen (Owner.hasSeen_of_isUp hup)
    refine ServerThread.listensOn_of_carries (hok ▸ hreported.carries) hset ?_
    by_contra hleft
    rcases hagreed.left (Bool.of_not_eq_false hleft) with hposted | herror
    · rw [hquit] at hposted
      cases hposted
    · exact herror (hagreed.up hup)
  · rcases hagreed.threw message howner with ⟨-, rfl⟩ | ⟨-, herror, rfl⟩
    · exact Or.inl rfl
    · refine Or.inr ?_
      cases hreport : startupReport net host port with
      | error message => rfl
      | ok listening => exact absurd (startupText_startupReport.mpr ⟨listening, hreport⟩) herror

/-- A network with one address, where every port is free. -/
def loopback : Network := ⟨true, fun address => address = bytes "127.0.0.1", fun _ _ => .ok ()⟩

/-- A start in which the owner is asleep when the thread reports. -/
def startRun : List ControlServer.Event :=
  [.create true, .launch, .lock, .test, .threadStart, .spuriousWakeup, .threadLock, .threadSet,
    .threadUnlock, .lock, .threadNotify, .test, .unlock, .check]

theorem startupReport_loopback :
    startupReport loopback (bytes "127.0.0.1") (bytes "8081") = .ok 8081 := by
  decide +kernel

theorem run_startRun : (ControlServer.machine loopback (bytes "127.0.0.1") (bytes "8081")).run {}
    startRun = some { startupDone := true, owner := .running, thread := .looping 8081 } := by
  simp [startRun, ControlServer.machine, Machine.run, ControlServer.step,
    ControlServer.ownerStep, ControlServer.serverStep, startupReport_loopback, startupText]

theorem controlServer_outcome_start : ∃ s,
    (ControlServer.machine loopback (bytes "127.0.0.1") (bytes "8081")).Reaches Machine.anyStep
        startRun s ∧
      s.owner = .running ∧ ∃ listening, s.thread.listensOn = some listening := by
  have hreaches := Machine.reaches_of_run rfl run_startRun
  obtain ⟨listening, -, hlistens⟩ := (controlServer_outcome hreaches).1 rfl
  exact ⟨_, hreaches, rfl, listening, hlistens rfl⟩

/-! ### Progress -/

/-- A step that one of the threads takes by itself. -/
def ControlServer.Event.isOwn : ControlServer.Event → Bool
  | .spuriousWakeup | .destruct | .request _ => false
  | _ => true

/-- The steps of the threads that an event calls for. -/
def ControlServer.Event.brings : ControlServer.Event → ℕ
  | .spuriousWakeup | .destruct => 2
  | .request _ => 1
  | _ => 0

/-- The steps that an owner may still take; one that launches the thread has those of the thread,
too. -/
def Owner.rank : Owner → ℕ
  | .creating => 17
  | .launching => 16
  | .locking | .woken => 6
  | .testing => 5
  | .waiting | .unlocking => 4
  | .checking => 3
  | .failing | .quitting => 2
  | .joining => 1
  | .threw _ | .running | .destroyed => 0

/-- The steps that the thread may still take; its notification may wake the owner. -/
def ServerThread.rank : ServerThread → ℕ
  | .absent | .ended => 0
  | .leaving => 1
  | .looping _ => 2
  | .handling .. => 3
  | .notifying _ => 5
  | .unlocking _ => 6
  | .setting _ => 7
  | .locking _ => 8
  | .starting => 9

def ControlServer.rank (s : ControlServer) : ℕ := s.owner.rank + s.thread.rank

theorem ControlServer.step_pays {report : Except Bytes UInt16} {s t : ControlServer}
    {e : ControlServer.Event} (hs : s.Reported report) (h : s.step net host port e = some t) :
    (if e.isOwn then 1 else 0) + t.rank ≤ s.rank + e.brings := by
  have hnotify : (if s.owner = .waiting then Owner.woken else s.owner).rank ≤ s.owner.rank + 2 := by
    split_ifs with howner
    · rw [howner]
      decide
    · omega
  cases ControlServer.step_effect h with
  | launch howner =>
    have hthread := hs.unborn (Or.inr howner)
    simp [ControlServer.rank, ControlServer.Event.isOwn, ControlServer.Event.brings, Owner.rank,
      ServerThread.rank, howner, hthread]
  | lock howner =>
    rcases howner with howner | howner <;>
      simp [ControlServer.rank, ControlServer.Event.isOwn, ControlServer.Event.brings, Owner.rank,
        howner] <;> omega
  | notifyListening hthread | notifyError hthread =>
    simp only [ControlServer.rank, ControlServer.Event.isOwn, ControlServer.Event.brings,
      hthread, ServerThread.rank, if_true]
    omega
  | _ =>
    simp [ControlServer.rank, ControlServer.Event.isOwn, ControlServer.Event.brings, Owner.rank,
      ServerThread.rank, *] <;> omega

theorem ControlServer.rank_le {report : Except Bytes UInt16} {s : ControlServer}
    (hs : s.Reported report) : s.rank ≤ 17 := by
  have hthread : s.thread.rank ≤ 9 := by
    cases s.thread <;> simp [ServerThread.rank]
  unfold ControlServer.rank
  cases howner : s.owner with
  | creating => rw [hs.unborn (Or.inl howner)]; decide
  | launching => rw [hs.unborn (Or.inr howner)]; decide
  | _ => simp only [Owner.rank]; omega

/-- One of the threads can take a step by itself. -/
def ControlServer.Moves (net : Network) (host port : Bytes) (s : ControlServer) : Prop :=
  ∃ e, e.isOwn = true ∧ (s.step net host port e).isSome = true

theorem ControlServer.moves_of_ownerStep {s : ControlServer} {e : ControlServer.Event}
    (hown : e.isOwn = true) (h : (s.ownerStep e).isSome = true) : s.Moves net host port :=
  ⟨e, hown, by rw [ControlServer.step, Option.isSome_or, h, Bool.true_or]⟩

theorem ControlServer.moves_of_serverStep {s : ControlServer} {e : ControlServer.Event}
    (hown : e.isOwn = true) (h : (s.serverStep net host port e).isSome = true) :
    s.Moves net host port :=
  ⟨e, hown, by rw [ControlServer.step, Option.isSome_or, h, Bool.or_true]⟩

/-- An owner that cannot move waits for the thread, or runs, or is gone. -/
theorem ControlServer.owner_rests {s : ControlServer}
    (hmutex : s.mutex = none ∨ s.owner.holds = true) (hrests : ¬s.Moves net host port) :
    s.owner = .waiting ∨ s.owner = .failing ∨ s.owner = .joining ∨ s.owner = .running ∨
      s.owner.isGone = true := by
  have moves : ∀ e : ControlServer.Event, e.isOwn = true → ¬(s.ownerStep e).isSome = true :=
    fun e hown hstep => hrests (ControlServer.moves_of_ownerStep hown hstep)
  cases howner : s.owner with
  | creating => exact absurd (by simp [ControlServer.ownerStep, howner]) (moves (.create true) rfl)
  | launching => exact absurd (by simp [ControlServer.ownerStep, howner]) (moves .launch rfl)
  | locking | woken =>
    have hnone : s.mutex = none := by
      rw [howner] at hmutex
      exact hmutex.resolve_right (by decide)
    exact absurd (by simp [ControlServer.ownerStep, howner, hnone]) (moves .lock rfl)
  | testing =>
    refine absurd ?_ (moves .test rfl)
    cases hdone : s.startupDone <;> simp [ControlServer.ownerStep, howner, hdone]
  | unlocking => exact absurd (by simp [ControlServer.ownerStep, howner]) (moves .unlock rfl)
  | checking => exact absurd (by simp [ControlServer.ownerStep, howner]) (moves .check rfl)
  | quitting => exact absurd (by simp [ControlServer.ownerStep, howner]) (moves .invoke rfl)
  | waiting | failing | joining | running | threw message | destroyed => simp [Owner.isGone]

/-- When nothing moves, the object is gone, or the server runs and waits for a request, or the
destructor waits for a request that waits for the main loop. -/
theorem ControlServer.rests {report : Except Bytes UInt16} {s : ControlServer}
    (hreported : s.Reported report) (hagreed : s.Agreed report) (hrests : ¬s.Moves net host port) :
    s.owner.isGone = true ∨
      (s.owner = .running ∧ ∃ listening, s.thread = .looping listening) ∨
      s.owner = .joining ∧ ∃ listening, s.thread = .handling listening true := by
  have moves : ∀ e : ControlServer.Event, e.isOwn = true →
      ¬(s.serverStep net host port e).isSome = true :=
    fun e hown hstep => hrests (ControlServer.moves_of_serverStep hown hstep)
  have joins : ¬(s.ownerStep .join).isSome = true :=
    fun hstep => hrests (ControlServer.moves_of_ownerStep rfl hstep)
  have howner : s.thread.holds = false → s.owner = .waiting ∨ s.owner = .failing ∨
      s.owner = .joining ∨ s.owner = .running ∨ s.owner.isGone = true := by
    intro hholds
    refine ControlServer.owner_rests ?_ hrests
    cases hmutex : s.mutex with
    | none => exact Or.inl rfl
    | some party =>
      cases party with
      | owner => exact Or.inr (hreported.ownerMutex.mpr hmutex)
      | server =>
        rw [hreported.threadMutex.mpr hmutex] at hholds
        cases hholds
  have hcarries := hreported.carries
  cases hthread : s.thread with
  | starting => exact absurd (by simp [ControlServer.serverStep, hthread]) (moves .threadStart rfl)
  | locking report' =>
    cases hmutex : s.mutex with
    | none =>
      exact absurd (by simp [ControlServer.serverStep, hthread, hmutex]) (moves .threadLock rfl)
    | some party =>
      -- the mutex is with an owner that has not yet seen anything, and it moves on
      have hholds : s.owner.holds = true := by
        cases party with
        | owner => exact hreported.ownerMutex.mpr hmutex
        | server =>
          have hserver := hreported.threadMutex.mpr hmutex
          rw [hthread] at hserver
          cases hserver
      rcases howner (by rw [hthread]; rfl) with h | h | h | h | h
      · rw [h] at hholds; cases hholds
      · rw [h] at hholds; cases hholds
      · rw [h] at hholds; cases hholds
      · rw [h] at hholds; cases hholds
      · exact Or.inl h
  | setting report' =>
    exact absurd (by simp [ControlServer.serverStep, hthread]) (moves .threadSet rfl)
  | unlocking report' =>
    exact absurd (by simp [ControlServer.serverStep, hthread]) (moves .threadUnlock rfl)
  | notifying report' =>
    exact absurd (by simp [ControlServer.serverStep, hthread]) (moves .threadNotify rfl)
  | leaving => exact absurd (by simp [ControlServer.serverStep, hthread]) (moves .threadLeave rfl)
  | absent =>
    rcases hagreed.absent hthread with hcreating | hlaunching | hthrew
    · exact absurd (ControlServer.moves_of_ownerStep (e := .create true) rfl
        (by simp [ControlServer.ownerStep, hcreating])) hrests
    · exact absurd (ControlServer.moves_of_ownerStep (e := .launch) rfl
        (by simp [ControlServer.ownerStep, hlaunching])) hrests
    · exact Or.inl (by rw [hthrew]; rfl)
  | looping listening =>
    rw [hthread] at howner hcarries
    have hok : startupText report = [] := by
      rw [show report = .ok listening from hcarries]
      rfl
    rcases howner rfl with hwaiting | hfailing | hjoining | hrunning | hgone
    · have hnotified := hreported.asleep hwaiting
      rw [hthread] at hnotified
      cases hnotified
    · exact absurd hok (hagreed.failing hfailing)
    · have hquit := hagreed.quit.mpr (Or.inl hjoining)
      exact absurd (by simp [ControlServer.serverStep, hthread, hquit]) (moves .quitLoop rfl)
    · exact Or.inr (Or.inl ⟨hrunning, listening, rfl⟩)
    · exact Or.inl hgone
  | handling listening handsOver =>
    rw [hthread] at howner hcarries
    have hok : startupText report = [] := by
      rw [show report = .ok listening from hcarries]
      rfl
    have hwaits : handsOver = true ∧ s.owner ≠ .running := by
      by_contra hfree
      have hfree : handsOver = false ∨ s.owner = .running := by
        rw [not_and_or, not_not, Bool.not_eq_true] at hfree
        exact hfree
      exact absurd (by simp [ControlServer.serverStep, hthread, hfree]) (moves .respond rfl)
    obtain ⟨rfl, hbusy⟩ := hwaits
    rcases howner rfl with hwaiting | hfailing | hjoining | hrunning | hgone
    · have hnotified := hreported.asleep hwaiting
      rw [hthread] at hnotified
      cases hnotified
    · exact absurd hok (hagreed.failing hfailing)
    · exact Or.inr (Or.inr ⟨hjoining, listening, rfl⟩)
    · exact absurd hrunning hbusy
    · exact Or.inl hgone
  | ended =>
    rcases howner (by rw [hthread]; rfl) with hwaiting | hfailing | hjoining | hrunning | hgone
    · have hnotified := hreported.asleep hwaiting
      rw [hthread] at hnotified
      cases hnotified
    · exact absurd (by simp [ControlServer.ownerStep, hfailing, hthread]) joins
    · exact absurd (by simp [ControlServer.ownerStep, hjoining, hthread]) joins
    · rcases hagreed.left (by rw [hthread]; rfl) with hposted | herror
      · rcases hagreed.quit.mp hposted with hother | hother <;>
          exact nomatch hrunning.symm.trans hother
      · exact absurd (hagreed.up (by rw [hrunning]; rfl)) herror
    · exact Or.inl hgone

/-- **Progress of the control server**: in every state that is reached, a thread takes a step by
itself, or the object is gone, or the server runs and waits for requests, or the destructor waits
for a request that waits for the main loop.  From there on the threads take at most seventeen steps
beside what requests, wake-ups and the destructor call for. -/
theorem controlServer_progress {es : List ControlServer.Event} {s : ControlServer}
    (h : (ControlServer.machine net host port).Reaches Machine.anyStep es s) :
    (¬s.Moves net host port → s.owner.isGone = true ∨
      (s.owner = .running ∧ ∃ listening, s.thread = .looping listening) ∨
      s.owner = .joining ∧ ∃ listening, s.thread = .handling listening true) ∧
    ∀ es' t, (ControlServer.machine net host port).run s es' = some t →
      es'.countP ControlServer.Event.isOwn ≤
        17 + (es'.map ControlServer.Event.brings).sum := by
  obtain ⟨hreported, hagreed⟩ := ControlServer.reaches_agreed h
  refine ⟨ControlServer.rests hreported hagreed, fun es' t hrun => ?_⟩
  have hpaid : es'.countP ControlServer.Event.isOwn + t.rank ≤
      s.rank + (es'.map ControlServer.Event.brings).sum :=
    Machine.run_amortized (fun s e t hs hstep => ControlServer.reported_step hs hstep)
      (fun s e t hs hstep => ControlServer.step_pays hs hstep) hreported hrun
  have hrank := ControlServer.rank_le hreported
  omega

/-- The server has started and rests: neither thread has a step of its own. -/
theorem not_moves_started : ¬ControlServer.Moves loopback (bytes "127.0.0.1") (bytes "8081")
    { startupDone := true, owner := .running, thread := .looping 8081 } := by
  rintro ⟨e, hown, hstep⟩
  cases e with
  | spuriousWakeup | destruct | request handsOver => cases hown
  | _ => cases hstep

theorem controlServer_progress_start : ∃ s,
    (ControlServer.machine loopback (bytes "127.0.0.1") (bytes "8081")).Reaches Machine.anyStep
        startRun s ∧
      ¬s.Moves loopback (bytes "127.0.0.1") (bytes "8081") ∧
      (s.owner.isGone = true ∨
        (s.owner = .running ∧ ∃ listening, s.thread = .looping listening) ∨
        s.owner = .joining ∧ ∃ listening, s.thread = .handling listening true) ∧
      ∀ es' t, (ControlServer.machine loopback (bytes "127.0.0.1") (bytes "8081")).run s es' =
          some t →
        es'.countP ControlServer.Event.isOwn ≤
          17 + (es'.map ControlServer.Event.brings).sum := by
  have hreaches := Machine.reaches_of_run rfl run_startRun
  obtain ⟨hrests, hbound⟩ := controlServer_progress hreaches
  exact ⟨_, hreaches, not_moves_started, hrests not_moves_started, hbound⟩

end Afterveda.Rail
