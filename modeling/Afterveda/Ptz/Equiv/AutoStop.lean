import Afterveda.Ptz.System

/-!
# The automatic stop of a motion

While the device moves (the last command it took is a speed command other than zero), a pending
timer should carry the current generation, so that the motion ends at its timeout.  Every client
write moves the generation on before it is known whether the device takes the command, so a write
that fails leaves the motion running and its timer outdated (`not_autoStop_of_failed_stop`).  And a
speed command of which only the `close` fails is taken by the device, but starts no timer.

`autoStop_of_keepsStop` is what does hold: as long as no client write is lost while the device
moves, and no `ContinuousMove` other than to zero fails in its `close`, the motion stays armed.  The
invariant (`AutoStopInv`) also covers the moment between the lock and the start of the timer.
-/

namespace Afterveda.Ptz

open CText CNumber Onvif

/-- The last command the device took. -/
def lastAccepted (attempts : List Attempt) : Option Command :=
  ((attempts.filter (·.accepted)).getLast?).map (·.command)

theorem lastAccepted_append_accepted (attempts : List Attempt) (origin : Origin)
    (command : Command) :
    lastAccepted (attempts ++ [⟨origin, command, true⟩]) = some command := by
  simp [lastAccepted]

theorem lastAccepted_append_refused (attempts : List Attempt) (origin : Origin)
    (command : Command) :
    lastAccepted (attempts ++ [⟨origin, command, false⟩]) = lastAccepted attempts := by
  simp [lastAccepted]

/-- The last command the device took is a speed command with a speed other than zero. -/
def Moving (s : System) : Prop :=
  ∃ panSpeed tiltSpeed, lastAccepted s.vars.attempts = some (.speed panSpeed tiltSpeed) ∧
    (panSpeed ≠ 0 ∨ tiltSpeed ≠ 0)

/-- Every command so far that the device did not take was a client's: no timer's own stop write has
failed, unless after the device had it. -/
def NoTimerFailure (s : System) : Prop :=
  ∀ a ∈ s.vars.attempts, a.accepted = false → a.origin = .client

/-- Some pending timer carries the current generation. -/
def Armed (s : System) : Prop :=
  ∃ timer ∈ s.timers, timer.generation = s.vars.motionGeneration

/-- Whenever no timer's stop has failed and no command is in progress, a motion is armed. -/
def AutoStop (s : System) : Prop :=
  NoTimerFailure s → s.soap = .idle → Moving s → Armed s

/-- The event is no client write that is lost during a motion, and no motion without a timer. -/
def KeepsStop (config : Config) (s : System) (e : Event) : Prop :=
  (Moving s → e.clientWriteLost config = false) ∧ e.moveUntimed config = false

theorem Moving.congr {s t : System} (h : t.vars.attempts = s.vars.attempts) (hm : Moving t) :
    Moving s := by
  unfold Moving at hm ⊢
  rwa [h] at hm

theorem Moving.of_accepted {s t : System} {origin : Origin} {command : Command}
    (h : t.vars.attempts = s.vars.attempts ++ [⟨origin, command, true⟩]) (hm : Moving t) :
    ∃ panSpeed tiltSpeed, command = .speed panSpeed tiltSpeed ∧
      (panSpeed ≠ 0 ∨ tiltSpeed ≠ 0) := by
  obtain ⟨panSpeed, tiltSpeed, hlast, hne⟩ := hm
  rw [h, lastAccepted_append_accepted] at hlast
  exact ⟨panSpeed, tiltSpeed, Option.some.inj hlast, hne⟩

theorem Moving.of_refused {s t : System} {origin : Origin} {command : Command}
    (h : t.vars.attempts = s.vars.attempts ++ [⟨origin, command, false⟩]) (hm : Moving t) :
    Moving s := by
  obtain ⟨panSpeed, tiltSpeed, hlast, hne⟩ := hm
  rw [h, lastAccepted_append_refused] at hlast
  exact ⟨panSpeed, tiltSpeed, hlast, hne⟩

theorem NoTimerFailure.congr {s t : System} (h : t.vars.attempts = s.vars.attempts)
    (hn : NoTimerFailure t) : NoTimerFailure s :=
  fun b hb => hn b (h ▸ hb)

/-- A motion is armed, or its timer is about to start. -/
def AutoStopInv (s : System) : Prop :=
  NoTimerFailure s → Moving s →
    Armed s ∨ ∃ timer, s.soap = .spawning timer ∧ timer.generation = s.vars.motionGeneration

/-- A step that meets the condition keeps the invariant. -/
theorem autoStopInv_step {config : Config} {s t : System} {e : Event} (hI : AutoStopInv s)
    (hok : KeepsStop config s e) (h : Effect config s e t) : AutoStopInv t := by
  intro hn hm
  cases h with
  | move _ _ hgeneration _ _ hsoap => exact Or.inr ⟨_, hsoap, hgeneration.symm⟩
  | @write command ok _ _ hcommand hlost _ hattempts =>
    cases ok with
    | true =>
      -- a write that was taken starts a motion only as a speed command that failed to close
      obtain ⟨panSpeed, tiltSpeed, hc, hne⟩ := hm.of_accepted hattempts
      have hfalse := hok.2
      rw [hcommand rfl panSpeed tiltSpeed hc hne] at hfalse
      cases hfalse
    | false =>
      -- one that was lost leaves the motion running without its timer
      have hfalse := hok.1 (hm.of_refused hattempts)
      rw [hlost rfl] at hfalse
      cases hfalse
  | @spawn timer hspawning hvars htimers _ =>
    have hattempts : t.vars.attempts = s.vars.attempts := by rw [hvars]
    -- the timer about to start becomes the armed one, or the motion was armed by an earlier one
    left
    rcases hI (hn.congr hattempts) (hm.congr hattempts) with ⟨timer', hmem, hg⟩ | ⟨timer', hsp, hg⟩
    · exact ⟨timer', by rw [htimers]; exact List.mem_append_left _ hmem, by rw [hvars]; exact hg⟩
    · obtain rfl : timer = timer' := by simpa [hspawning] using hsp
      exact ⟨timer, by rw [htimers]; simp, by rw [hvars]; exact hg⟩
  | @timerStops _ timer ok _ _ _ hattempts =>
    cases ok with
    | true =>
      obtain ⟨_, _, hc, _⟩ := hm.of_accepted hattempts
      cases hc
    | false =>
      have horigin := hn ⟨.timer timer.move, .stop, false⟩ (by rw [hattempts]; simp) rfl
      cases horigin
  | @timerLapses i timer hget hmatch hvars htimers hsoap =>
    have hattempts : t.vars.attempts = s.vars.attempts := by rw [hvars]
    rcases hI (hn.congr hattempts) (hm.congr hattempts) with ⟨timer', hmem, hg⟩ | ⟨timer', hsp, hg⟩
    · left
      -- the timer that lapsed does not carry the current generation, so it is not the armed one
      obtain ⟨j, hj⟩ := List.getElem?_of_mem hmem
      have hji : j ≠ i := by
        rintro rfl
        rw [hget] at hj
        obtain rfl := Option.some.inj hj
        exact hmatch hg.symm
      refine ⟨timer', ?_, by rw [hvars]; exact hg⟩
      rw [htimers, List.mem_eraseIdx_iff_getElem?]
      exact ⟨j, hji, hj⟩
    · exact Or.inr ⟨timer', by rw [hsoap]; exact hsp, by rw [hvars]; exact hg⟩
  | quiet _ hspawning _ hgeneration hattempts htimers =>
    left
    rcases hI (hn.congr hattempts) (hm.congr hattempts) with ⟨timer', hmem, hg⟩ | ⟨timer', hsp, _⟩
    · exact ⟨timer', by rw [htimers]; exact hmem, by rw [hgeneration]; exact hg⟩
    · exact absurd hsp (hspawning timer')

theorem autoStopInv_of_reaches {libm : Libm} {config : Config} {es : List Event} {s : System}
    (h : (machine libm config).Reaches (KeepsStop config) es s) : AutoStopInv s := by
  refine h.invariant ?_ fun s e t hI hok hstep => autoStopInv_step hI hok (step_effect hstep)
  rintro s rfl _ ⟨_, _, hlast, _⟩
  cases hlast

/-- In every run in which no client write is lost during a motion and no motion starts without a
timer, every motion is armed whenever no command is in progress. -/
theorem autoStop_of_keepsStop {libm : Libm} {config : Config} {es : List Event} {s : System}
    (h : (machine libm config).Reaches (KeepsStop config) es s) : AutoStop s := by
  intro hn hidle hm
  rcases autoStopInv_of_reaches h hn hm with harmed | ⟨timer, hsp, _⟩
  · exact harmed
  · rw [hidle] at hsp
    cases hsp

/-- The C library of the fixed runs below, which round no special value. -/
def plainLibm : Libm := ⟨fun _ => 0, .binary64⟩

/-- A full-speed `ContinuousMove`, taken by the device, and its timer. -/
def moveRun : List Event := [.continuousMove (.finite 1) (.finite 0) 1000 .accepted, .spawnTimer]

/-- The move runs, its timer carries the current generation, and the condition held throughout. -/
theorem autoStop_of_keepsStop_moveRun :
    ∃ s, (machine plainLibm {}).Reaches (KeepsStop {}) moveRun s ∧ Moving s ∧ AutoStop s := by
  have hinit : (machine plainLibm {}).init {} := rfl
  have h1 : (machine plainLibm {}).Reaches (KeepsStop {})
      [.continuousMove (.finite 1) (.finite 0) 1000 .accepted]
      ⟨⟨1, 90, 45, 0, 0, ⟨90, 45⟩, [⟨.client, .speed 30 0, true⟩]⟩, [],
        .spawning ⟨1, 1000, 0⟩⟩ :=
    .next (.start hinit) ⟨fun _ => by decide, by decide⟩ (by decide +kernel)
  have h2 : (machine plainLibm {}).Reaches (KeepsStop {}) moveRun
      ⟨⟨1, 90, 45, 0, 0, ⟨90, 45⟩, [⟨.client, .speed 30 0, true⟩]⟩, [⟨1, 1000, 0⟩], .idle⟩ :=
    .next h1 ⟨fun _ => by decide, by decide⟩ (by decide +kernel)
  exact ⟨_, h2, ⟨30, 0, rfl, by decide⟩, autoStop_of_keepsStop h2⟩

/-- A `Stop` that the device does not take leaves the motion running without its automatic stop. -/
theorem not_autoStop_of_failed_stop :
    ¬ ∀ (libm : Libm) (config : Config) (es : List Event) (s : System),
      (machine libm config).Reaches Machine.anyStep es s → AutoStop s := by
  intro hall
  have hrun : (machine plainLibm {}).run {}
      (moveRun ++ [.stop (.failed .write (bytes "Input/output error"))]) =
      some ⟨⟨2, 90, 45, 0, 0, ⟨90, 45⟩,
        [⟨.client, .speed 30 0, true⟩, ⟨.client, .stop, false⟩]⟩, [⟨1, 1000, 0⟩], .idle⟩ := by
    decide +kernel
  have hauto := hall _ _ _ _ (Machine.reaches_of_run rfl hrun)
  obtain ⟨timer, hmem, hg⟩ := hauto (by unfold NoTimerFailure; decide) rfl ⟨30, 0, rfl, by decide⟩
  rw [List.mem_singleton.mp hmem] at hg
  exact absurd hg (by decide)

end Afterveda.Ptz
