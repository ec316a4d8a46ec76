import Afterveda.Rail.ControlServer

/-!
# The life of the control server

The constructor of `ControlServer` starts a thread for the control API and waits until that thread
has said how its start went; the destructor has the loop of the thread quit and joins it.
`ControlServer.machine` has the thread that owns the object and the thread of the control API take
their steps in any order, with requests arriving in between; a wait may end without a notification.
-/

namespace Afterveda.Rail

open CText

/-- What `run_server` reports: the port it listens on, or the text of the error. -/
def startupReport (net : Network) (host port : Bytes) : Except Bytes UInt16 :=
  match runServer net host port with
  | .ok listening => .ok listening
  | .error (.error message) => .error (cString message)
  -- `parse_int` never stops with the help
  | .error .help => .error []

/-- The argument of `report_startup`: empty when the server listens. -/
def startupText : Except Bytes UInt16 → Bytes
  | .ok _ => []
  | .error message => message

/-- Where the thread that owns the object is. -/
inductive Owner
  | creating
  /-- Before `thread_` is started. -/
  | launching
  | locking
  /-- In the predicate of `startup_cv_.wait`, with the mutex. -/
  | testing
  /-- Asleep in `startup_cv_.wait`, without the mutex. -/
  | waiting
  | woken
  /-- After the wait, with the mutex. -/
  | unlocking
  /-- Before the test of `startup_error_`. -/
  | checking
  /-- In `thread_.join()` of the constructor. -/
  | failing
  | threw (message : Bytes)
  /-- The constructor has returned, and the main loop runs. -/
  | running
  /-- In the destructor, before `quit_loop` is posted. -/
  | quitting
  /-- In `thread_.join()` of the destructor. -/
  | joining
  | destroyed
  deriving DecidableEq

/-- Where the thread of the control API is. -/
inductive ServerThread
  | absent
  | starting
  /-- In `signal_startup`, before it has the mutex. -/
  | locking (report : Except Bytes UInt16)
  /-- With the mutex, before the two assignments. -/
  | setting (report : Except Bytes UInt16)
  | unlocking (report : Except Bytes UInt16)
  /-- Before `notify_one`, without the mutex. -/
  | notifying (report : Except Bytes UInt16)
  /-- In `g_main_loop_run`, listening on a port. -/
  | looping (port : UInt16)
  /-- In `handle_request`; `handsOver` says that the answer takes a turn of the main loop. -/
  | handling (port : UInt16) (handsOver : Bool)
  /-- Before the end of `run_server`. -/
  | leaving
  | ended

def ServerThread.hasEnded : ServerThread → Bool
  | .ended => true
  | _ => false

/-- Which of the two threads has `startup_mutex_`. -/
inductive StartupParty
  | owner
  | server
  deriving DecidableEq

/-- The variables of `ControlServer`, and its two threads. -/
structure ControlServer where
  startupDone : Bool := false
  startupError : Bytes := []
  mutex : Option StartupParty := none
  /-- `quit_loop` is posted to the context of the thread. -/
  quitPosted : Bool := false
  owner : Owner := .creating
  thread : ServerThread := .absent

inductive ControlServer.Event
  /-- The context and the loop are made, or one of them is not. -/
  | create (ok : Bool)
  | launch
  | lock
  | test
  /-- A wait ends without a notification. -/
  | spuriousWakeup
  | unlock
  | check
  /-- `join` returns. -/
  | join
  /-- The destructor is entered. -/
  | destruct
  | invoke
  | threadStart
  | threadLock
  | threadSet
  | threadUnlock
  | threadNotify
  | request (handsOver : Bool)
  | respond
  | quitLoop
  | threadLeave
  deriving DecidableEq

/-- The thread that owns the object. -/
def ControlServer.ownerStep (s : ControlServer) (e : ControlServer.Event) :
    Option ControlServer :=
  match e, s.owner with
  | .create ok, .creating =>
    if ok then some { s with owner := .launching }
    else some { s with owner := .threw (bytes "failed to create HTTP control loop") }
  | .launch, .launching => some { s with owner := .locking, thread := .starting }
  | .lock, .locking | .lock, .woken =>
    if s.mutex = none then some { s with owner := .testing, mutex := some .owner } else none
  | .test, .testing =>
    if s.startupDone then some { s with owner := .unlocking }
    -- the mutex is given back and the wait begins in one step
    else some { s with owner := .waiting, mutex := none }
  | .spuriousWakeup, .waiting => some { s with owner := .woken }
  | .unlock, .unlocking => some { s with owner := .checking, mutex := none }
  | .check, .checking =>
    some { s with owner := if s.startupError = [] then .running else .failing }
  | .join, .failing =>
    if s.thread.hasEnded then some { s with owner := .threw s.startupError } else none
  | .join, .joining => if s.thread.hasEnded then some { s with owner := .destroyed } else none
  | .destruct, .running => some { s with owner := .quitting }
  | .invoke, .quitting => some { s with owner := .joining, quitPosted := true }
  | _, _ => none

/-- The thread of the control API. -/
def ControlServer.serverStep (net : Network) (host port : Bytes) (s : ControlServer)
    (e : ControlServer.Event) : Option ControlServer :=
  match e, s.thread with
  | .threadStart, .starting => some { s with thread := .locking (startupReport net host port) }
  | .threadLock, .locking report =>
    if s.mutex = none then some { s with thread := .setting report, mutex := some .server }
    else none
  | .threadSet, .setting report =>
    some { s with
      startupError := startupText report, startupDone := true, thread := .unlocking report }
  | .threadUnlock, .unlocking report =>
    some { s with thread := .notifying report, mutex := none }
  | .threadNotify, .notifying report =>
    some { s with
      owner := if s.owner = .waiting then .woken else s.owner
      thread := match report with
        | .ok listening => .looping listening
        | .error _ => .leaving }
  | .request handsOver, .looping listening =>
    some { s with thread := .handling listening handsOver }
  | .respond, .handling listening handsOver =>
    -- an operation that is handed over takes the main loop, which runs on the owner's thread
    if handsOver = false ∨ s.owner = .running then some { s with thread := .looping listening }
    else none
  | .quitLoop, .looping _ => if s.quitPosted then some { s with thread := .leaving } else none
  | .threadLeave, .leaving => some { s with thread := .ended }
  | _, _ => none

/-- A step of one of the threads. -/
def ControlServer.step (net : Network) (host port : Bytes) (s : ControlServer)
    (e : ControlServer.Event) : Option ControlServer :=
  (s.ownerStep e).or (s.serverStep net host port e)

/-- The control server from the start of its constructor. -/
def ControlServer.machine (net : Network) (host port : Bytes) :
    Machine ControlServer ControlServer.Event where
  init s := s = {}
  step := ControlServer.step net host port

end Afterveda.Rail
