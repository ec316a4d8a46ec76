import Afterveda.Lib.Machine
import Afterveda.Ptz.Device

/-!
# The SOAP thread and the timers

One thread serves the SOAP requests, one command at a time, and every accepted `ContinuousMove`
leaves a detached timer thread behind.  A step of the `System` is one critical section of one of
them, so timers fire between any two sections of a command, in any order and after any delay; what
the device answers is part of the event.

The spec lemmas say once what each kind of section does to the generation, to the attempts and to
the timers (`ClientWrite` for a client's write, `timerFires_of_eq` for a timer); the invariants of
`Ptz.Equiv` use nothing else about the functions of `Ptz.Device`.
-/

namespace Afterveda.Ptz

open CText CNumber Onvif

/-- Where the SOAP thread is. -/
inductive SoapThread
  /-- No command in progress. -/
  | idle
  /-- `continuous_move_ptz` has released the lock and not yet started its timer. -/
  | spawning (timer : Timer)
  /-- An absolute move knows its position and has not yet taken the lock. -/
  | writing (position : PtzPosition)
  /-- `set_home_ptz_from_current` has read the position and not yet stored it. -/
  | storing (position : PtzPosition)
  deriving DecidableEq

structure System where
  vars : PtzState := {}
  timers : List Timer := []
  soap : SoapThread := .idle
  deriving DecidableEq

inductive Event
  | continuousMove (x y : Double) (timeoutMs : ℤ) (outcome : WriteOutcome)
  | spawnTimer
  | relativeMove (x y : Double) (reply : ReadReply)
  | gotoHome
  | writePosition (outcome : WriteOutcome)
  | stop (outcome : WriteOutcome)
  | setHome (reply : ReadReply)
  | storeHome
  | timer (i : ℕ) (outcome : WriteOutcome)
  deriving DecidableEq

/-- The event starts a command of a client. -/
def Event.startsCommand : Event → Bool
  | .continuousMove .. | .relativeMove .. | .gotoHome | .stop _ | .setHome _ => true
  | _ => false

/-- The state after one critical section. -/
def step (libm : Libm) (config : Config) (s : System) (e : Event) : Option System :=
  match e, s.soap with
  | .continuousMove x y timeoutMs outcome, .idle =>
    let ((error, timer), vars) := continuousMovePtz libm config x y timeoutMs outcome s.vars
    -- the lock is free again before the timer is started
    if error = [] then some { s with vars, soap := .spawning timer } else some { s with vars }
  | .spawnTimer, .spawning timer =>
    some { s with timers := s.timers ++ [timer], soap := .idle }
  | .relativeMove x y reply, .idle =>
    match movePtzByAxes libm config x y reply s.vars with
    | .error _ => some s
    | .ok position => some { s with soap := .writing position }
  | .gotoHome, .idle => some { s with soap := .writing (homePtzPosition s.vars) }
  | .writePosition outcome, .writing position =>
    some { s with vars := (writePtzPosition config position outcome s.vars).2, soap := .idle }
  | .stop outcome, .idle => some { s with vars := (stopPtz config outcome s.vars).2 }
  | .setHome reply, .idle =>
    match readPtzPosition config reply s.vars with
    | .error _ => some s
    | .ok position => some { s with soap := .storing position }
  | .storeHome, .storing position =>
    some { s with vars := storeHome position s.vars, soap := .idle }
  | .timer i outcome, _ =>
    s.timers[i]?.map fun timer =>
      { s with vars := timerFires config timer outcome s.vars, timers := s.timers.eraseIdx i }
  | _, _ => none

/-- The system starts with no timer and no command in progress. -/
def machine (libm : Libm) (config : Config) : Machine System Event where
  init s := s = {}
  step := step libm config

/-! ### What a section does -/

/-- The device takes the command. -/
def accepts (config : Config) (outcome : WriteOutcome) : Bool :=
  config.ptzDryRun || outcome.taken

/-- No call of the command fails. -/
def succeeds (config : Config) (outcome : WriteOutcome) : Bool :=
  config.ptzDryRun || outcome = .accepted

theorem accepts_of_succeeds {config : Config} {outcome : WriteOutcome}
    (h : succeeds config outcome = true) : accepts config outcome = true := by
  rcases Bool.or_eq_true_iff.mp h with hdry | haccepted
  · rw [accepts, hdry, Bool.true_or]
  · rw [accepts, of_decide_eq_true haccepted]
    exact Bool.or_true _

theorem deviceError_ne_nil (config : Config) (call : DeviceCall) (reason : Bytes) :
    deviceError config call reason ≠ [] := by
  cases call <;>
    simp only [deviceError, ne_eq, List.append_eq_nil_iff, not_and] <;>
    exact fun h => absurd h.1.1 (by decide)

/-- A command handed to the device joins the attempts, and the error is empty exactly when no call
failed. -/
theorem writePtzCommandUnlocked_spec (config : Config) (origin : Origin) (command : Command)
    (outcome : WriteOutcome) (s : PtzState) :
    (writePtzCommandUnlocked config origin command outcome s).2 =
        { s with attempts := s.attempts ++ [⟨origin, command, accepts config outcome⟩] } ∧
      ((writePtzCommandUnlocked config origin command outcome s).1 = [] ↔
        succeeds config outcome = true) := by
  unfold writePtzCommandUnlocked accepts succeeds
  cases config.ptzDryRun with
  | true => simp
  | false =>
    cases outcome with
    | accepted => simp [WriteOutcome.taken]
    | failed call reason => simp [deviceError_ne_nil]

/-- What a client's write does: the generation goes up, the command joins the attempts, and the
error is empty exactly when no call failed. -/
structure ClientWrite (config : Config) (outcome : WriteOutcome) (s : PtzState) (command : Command)
    (error : Bytes) (t : PtzState) : Prop where
  generation : t.motionGeneration = s.motionGeneration + 1
  attempts : t.attempts = s.attempts ++ [⟨.client, command, accepts config outcome⟩]
  home : t.homePosition = s.homePosition
  error_iff : error = [] ↔ succeeds config outcome = true

/-- After a write without an error the device has the command. -/
theorem ClientWrite.attempts_of_nil {config : Config} {outcome : WriteOutcome} {s t : PtzState}
    {command : Command} {error : Bytes} (h : ClientWrite config outcome s command error t)
    (herror : error = []) : t.attempts = s.attempts ++ [⟨.client, command, true⟩] := by
  rw [h.attempts, accepts_of_succeeds (h.error_iff.mp herror)]

theorem writePtzPosition_spec (config : Config) (position : PtzPosition) (outcome : WriteOutcome)
    (s : PtzState) :
    ClientWrite config outcome s (.position (clampPtzPosition position))
      (writePtzPosition config position outcome s).1
      (writePtzPosition config position outcome s).2 := by
  obtain ⟨hstate, herror⟩ := writePtzCommandUnlocked_spec config .client
    (.position (clampPtzPosition position)) outcome s.bumpGeneration
  unfold writePtzPosition
  dsimp only
  rw [hstate]
  split_ifs <;> exact ⟨rfl, rfl, rfl, herror⟩

theorem stopPtz_spec (config : Config) (outcome : WriteOutcome) (s : PtzState) :
    ClientWrite config outcome s .stop (stopPtz config outcome s).1
      (stopPtz config outcome s).2 := by
  obtain ⟨hstate, herror⟩ :=
    writePtzCommandUnlocked_spec config .client .stop outcome s.bumpGeneration
  unfold stopPtz
  dsimp only
  rw [hstate]
  split_ifs <;> exact ⟨rfl, rfl, rfl, herror⟩

theorem continuousMovePtz_spec (libm : Libm) (config : Config) (x y : Double) (timeoutMs : ℤ)
    (outcome : WriteOutcome) (s : PtzState) :
    ClientWrite config outcome s
        (.speed (speedFromAxis libm config x) (speedFromAxis libm config y))
        (continuousMovePtz libm config x y timeoutMs outcome s).1.1
        (continuousMovePtz libm config x y timeoutMs outcome s).2 ∧
      (continuousMovePtz libm config x y timeoutMs outcome s).1.2 =
        ⟨s.motionGeneration + 1, timeoutMs, s.attempts.length⟩ := by
  obtain ⟨hstate, herror⟩ := writePtzCommandUnlocked_spec config .client
    (.speed (speedFromAxis libm config x) (speedFromAxis libm config y)) outcome s.bumpGeneration
  unfold continuousMovePtz
  dsimp only
  rw [hstate]
  split_ifs <;> exact ⟨⟨rfl, rfl, rfl, herror⟩, rfl⟩

/-- A timer whose generation has passed does nothing. -/
theorem timerFires_of_ne {config : Config} {timer : Timer} {s : PtzState}
    (h : s.motionGeneration ≠ timer.generation) (outcome : WriteOutcome) :
    timerFires config timer outcome s = s := by
  rw [timerFires, if_pos h]

/-- A timer whose generation stands attempts one stop and moves the generation on. -/
theorem timerFires_of_eq {config : Config} {timer : Timer} {s : PtzState}
    (h : s.motionGeneration = timer.generation) (outcome : WriteOutcome) :
    (timerFires config timer outcome s).motionGeneration = s.motionGeneration + 1 ∧
      (timerFires config timer outcome s).attempts =
        s.attempts ++ [⟨.timer timer.move, .stop, accepts config outcome⟩] ∧
      (timerFires config timer outcome s).homePosition = s.homePosition := by
  obtain ⟨hstate, -⟩ :=
    writePtzCommandUnlocked_spec config (.timer timer.move) .stop outcome s
  unfold timerFires
  rw [if_neg (not_not.mpr h)]
  dsimp only
  rw [hstate]
  split_ifs <;> exact ⟨rfl, rfl, rfl⟩

/-! ### What a step does -/

/-- What a step makes of the variables: it leaves them, or it is one of the critical sections. -/
inductive Section (libm : Libm) (config : Config) (s : PtzState) : PtzState → Prop
  | quiet : Section libm config s s
  | continuousMove (x y : Double) (timeoutMs : ℤ) (outcome : WriteOutcome) :
    Section libm config s (continuousMovePtz libm config x y timeoutMs outcome s).2
  | writePosition (position : PtzPosition) (outcome : WriteOutcome) :
    Section libm config s (writePtzPosition config position outcome s).2
  | stop (outcome : WriteOutcome) : Section libm config s (stopPtz config outcome s).2
  | storeHome (position : PtzPosition) : Section libm config s (storeHome position s)
  | timer (timer : Timer) (outcome : WriteOutcome) :
    Section libm config s (timerFires config timer outcome s)

theorem step_section {libm : Libm} {config : Config} {s t : System} {e : Event}
    (h : step libm config s e = some t) : Section libm config s.vars t.vars := by
  obtain ⟨vars, timers, soap⟩ := s
  cases e with
  | continuousMove x y timeoutMs outcome =>
    cases soap with
    | idle =>
      simp only [step] at h
      split_ifs at h <;> obtain rfl := Option.some.inj h <;>
        exact .continuousMove x y timeoutMs outcome
    | _ => cases h
  | spawnTimer =>
    cases soap with
    | spawning timer =>
      obtain rfl := Option.some.inj h
      exact .quiet
    | _ => cases h
  | relativeMove x y reply =>
    cases soap with
    | idle =>
      simp only [step] at h
      split at h <;> obtain rfl := Option.some.inj h <;> exact .quiet
    | _ => cases h
  | gotoHome =>
    cases soap with
    | idle =>
      obtain rfl := Option.some.inj h
      exact .quiet
    | _ => cases h
  | writePosition outcome =>
    cases soap with
    | writing position =>
      obtain rfl := Option.some.inj h
      exact .writePosition position outcome
    | _ => cases h
  | stop outcome =>
    cases soap with
    | idle =>
      obtain rfl := Option.some.inj h
      exact .stop outcome
    | _ => cases h
  | setHome reply =>
    cases soap with
    | idle =>
      simp only [step] at h
      split at h <;> obtain rfl := Option.some.inj h <;> exact .quiet
    | _ => cases h
  | storeHome =>
    cases soap with
    | storing position =>
      obtain rfl := Option.some.inj h
      exact .storeHome position
    | _ => cases h
  | timer i outcome =>
    simp only [step, Option.map_eq_some_iff] at h
    obtain ⟨timer, -, rfl⟩ := h
    exact .timer timer outcome

/-- Only a zero axis value makes no movement. -/
theorem stepFromAxis_eq_zero_iff (libm : Libm) (maximum : ℤ) (value : Double) :
    stepFromAxis libm maximum value = 0 ↔ value.isZero = true := by
  unfold stepFromAxis
  cases hzero : value.isZero with
  | true => simp
  | false =>
    simp only [Bool.false_eq_true, if_false, iff_false]
    have hint := isInt32_wrap32 (lround libm (value.fabs.scale maximum))
    generalize wrap32 (lround libm (value.fabs.scale maximum)) = size at *
    unfold IsInt32 at hint
    unfold wrap32
    split_ifs <;> omega

/-- The event is a client's write that the device does not take. -/
def Event.clientWriteLost (config : Config) : Event → Bool
  | .continuousMove _ _ _ outcome | .writePosition outcome | .stop outcome =>
    !accepts config outcome
  | _ => false

/-- The event is a `ContinuousMove` that the device takes and that fails all the same, for an axis
value other than zero: a motion without a timer. -/
def Event.moveUntimed (config : Config) : Event → Bool
  | .continuousMove x y _ outcome =>
    !(x.isZero && y.isZero) && accepts config outcome && !succeeds config outcome
  | _ => false

/-- All a step can do to the generation, the attempts, the timers and a timer about to start. -/
inductive Effect (config : Config) (s : System) (e : Event) (t : System) : Prop
  /-- A speed command without an error; its timer is about to start. -/
  | move {panSpeed tiltSpeed timeoutMs : ℤ}
      (hstarts : e.startsCommand = true) (hidle : s.soap = .idle)
      (hgeneration : t.vars.motionGeneration = s.vars.motionGeneration + 1)
      (hattempts : t.vars.attempts =
        s.vars.attempts ++ [⟨.client, .speed panSpeed tiltSpeed, true⟩])
      (htimers : t.timers = s.timers)
      (hsoap : t.soap =
        .spawning ⟨s.vars.motionGeneration + 1, timeoutMs, s.vars.attempts.length⟩) :
      Effect config s e t
  /-- Any other write of a client. -/
  | write {command : Command} {ok : Bool}
      (hstarts : e.startsCommand = true ∨ ∃ position, s.soap = .writing position)
      (hspawning : ∀ timer, s.soap ≠ .spawning timer)
      (hcommand : ok = true → ∀ panSpeed tiltSpeed, command = .speed panSpeed tiltSpeed →
        panSpeed ≠ 0 ∨ tiltSpeed ≠ 0 → e.moveUntimed config = true)
      (hlost : ok = false → e.clientWriteLost config = true)
      (hgeneration : t.vars.motionGeneration = s.vars.motionGeneration + 1)
      (hattempts : t.vars.attempts = s.vars.attempts ++ [⟨.client, command, ok⟩])
      (htimers : t.timers = s.timers)
      (hsoap : t.soap = .idle) : Effect config s e t
  /-- The timer of an accepted speed command starts. -/
  | spawn {timer : Timer}
      (hspawning : s.soap = .spawning timer) (hvars : t.vars = s.vars)
      (htimers : t.timers = s.timers ++ [timer]) (hsoap : t.soap = .idle) : Effect config s e t
  /-- A timer attempts its stop. -/
  | timerStops {i : ℕ} {timer : Timer} {ok : Bool}
      (hget : s.timers[i]? = some timer)
      (hmatch : s.vars.motionGeneration = timer.generation)
      (hgeneration : t.vars.motionGeneration = s.vars.motionGeneration + 1)
      (hattempts : t.vars.attempts = s.vars.attempts ++ [⟨.timer timer.move, .stop, ok⟩])
      (htimers : t.timers = s.timers.eraseIdx i) (hsoap : t.soap = s.soap) : Effect config s e t
  /-- A timer finds that another command came and ends. -/
  | timerLapses {i : ℕ} {timer : Timer}
      (hget : s.timers[i]? = some timer)
      (hmatch : s.vars.motionGeneration ≠ timer.generation) (hvars : t.vars = s.vars)
      (htimers : t.timers = s.timers.eraseIdx i) (hsoap : t.soap = s.soap) : Effect config s e t
  /-- A section that touches neither the device nor the timers. -/
  | quiet
      (hstarts : e.startsCommand = true ∨ ∀ position, t.soap ≠ .writing position)
      (hspawning : ∀ timer, s.soap ≠ .spawning timer)
      (hspawning' : ∀ timer, t.soap ≠ .spawning timer)
      (hgeneration : t.vars.motionGeneration = s.vars.motionGeneration)
      (hattempts : t.vars.attempts = s.vars.attempts) (htimers : t.timers = s.timers) :
      Effect config s e t

theorem step_effect {libm : Libm} {config : Config} {s t : System} {e : Event}
    (h : step libm config s e = some t) : Effect config s e t := by
  obtain ⟨vars, timers, soap⟩ := s
  cases e with
  | continuousMove x y timeoutMs outcome =>
    cases soap with
    | idle =>
      obtain ⟨hw, htimer⟩ := continuousMovePtz_spec libm config x y timeoutMs outcome vars
      simp only [step] at h
      split_ifs at h with herror <;> obtain rfl := Option.some.inj h
      · -- no error: the timer is made, and starts in a section of its own
        exact .move rfl rfl hw.generation (hw.attempts_of_nil herror) rfl (by rw [htimer])
      · -- an error, and no timer, although the device may have the command
        have hfails : succeeds config outcome = false := by
          rw [← Bool.not_eq_true]
          exact fun hok => herror (hw.error_iff.mpr hok)
        refine .write (Or.inl rfl) (by simp) ?_ (fun hok => by simp [Event.clientWriteLost, hok])
          hw.generation hw.attempts rfl rfl
        rintro hok panSpeed tiltSpeed hcommand hne
        obtain ⟨rfl, rfl⟩ := Command.speed.inj hcommand
        have hzero : (x.isZero && y.isZero) = false := by
          rw [Bool.and_eq_false_iff, ← Bool.not_eq_true, ← Bool.not_eq_true,
            ← stepFromAxis_eq_zero_iff libm config.ptzSpeed,
            ← stepFromAxis_eq_zero_iff libm config.ptzSpeed]
          exact hne
        rw [Event.moveUntimed, hzero, hok, hfails]
        rfl
    | _ => cases h
  | spawnTimer =>
    cases soap with
    | spawning timer =>
      obtain rfl := Option.some.inj h
      exact .spawn rfl rfl rfl rfl
    | _ => cases h
  | relativeMove x y reply =>
    -- the read of the position; its write is the section after it
    cases soap with
    | idle =>
      simp only [step] at h
      split at h <;> obtain rfl := Option.some.inj h <;>
        exact .quiet (Or.inl rfl) (by simp) (by simp) rfl rfl rfl
    | _ => cases h
  | gotoHome =>
    cases soap with
    | idle =>
      obtain rfl := Option.some.inj h
      exact .quiet (Or.inl rfl) (by simp) (by simp) rfl rfl rfl
    | _ => cases h
  | writePosition outcome =>
    cases soap with
    | writing position =>
      have hw := writePtzPosition_spec config position outcome vars
      obtain rfl := Option.some.inj h
      exact .write (Or.inr ⟨_, rfl⟩) (by simp) (by simp)
        (fun hok => by simp [Event.clientWriteLost, hok]) hw.generation hw.attempts rfl rfl
    | _ => cases h
  | stop outcome =>
    cases soap with
    | idle =>
      have hw := stopPtz_spec config outcome vars
      obtain rfl := Option.some.inj h
      exact .write (Or.inl rfl) (by simp) (by simp)
        (fun hok => by simp [Event.clientWriteLost, hok]) hw.generation hw.attempts rfl rfl
    | _ => cases h
  | setHome reply =>
    cases soap with
    | idle =>
      simp only [step] at h
      split at h <;> obtain rfl := Option.some.inj h <;>
        exact .quiet (Or.inl rfl) (by simp) (by simp) rfl rfl rfl
    | _ => cases h
  | storeHome =>
    cases soap with
    | storing position =>
      obtain rfl := Option.some.inj h
      exact .quiet (Or.inr (by simp)) (by simp) (by simp) rfl rfl rfl
    | _ => cases h
  | timer i outcome =>
    simp only [step, Option.map_eq_some_iff] at h
    obtain ⟨timer, hget, rfl⟩ := h
    -- the timer compares generations under the mutex and then writes or ends
    by_cases hmatch : vars.motionGeneration = timer.generation
    · obtain ⟨hgeneration, hattempts, -⟩ := @timerFires_of_eq config _ _ hmatch outcome
      exact .timerStops hget hmatch hgeneration hattempts rfl rfl
    · exact .timerLapses hget hmatch (timerFires_of_ne hmatch outcome) rfl rfl

end Afterveda.Ptz
