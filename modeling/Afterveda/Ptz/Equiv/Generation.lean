import Afterveda.Ptz.Equiv.AutoStop

/-!
# A timer stops only its own motion

Every command attempted on the device moves the generation on by one, a timer's own stop included,
so the generation is the number of attempts modulo `2^64` and a timer carries the number of attempts
up to its own speed command (`GenerationInv`).  As long as no more than `2^64` commands have been
attempted, a timer therefore finds its generation only while its speed command is the last attempt
(`stopsOwnMotion_of_reaches`).

The bound counts the timers' stops.  Fewer than `2^64` client commands are not enough: each of them
can move the generation on twice, so that it comes round to that of a slow timer
(`not_stopsOwnMotion_of_reaches`).  Up to `2^63` client commands are (`attempts_le_two_mul`).
-/

namespace Afterveda.Ptz

open CText CNumber Onvif

/-- The attempt at `move` is an accepted speed command of a client. -/
def IsMove (attempts : List Attempt) (move : ℕ) : Prop :=
  ∃ panSpeed tiltSpeed, attempts[move]? = some ⟨.client, .speed panSpeed tiltSpeed, true⟩

/-- Every attempt of a timer is a stop and comes directly after the timer's own speed command.  So a
timer attempts at most one stop, and none once a later command has been attempted. -/
def StopsOwnMotion (attempts : List Attempt) : Prop :=
  ∀ i move command ok, attempts[i]? = some ⟨.timer move, command, ok⟩ →
    command = .stop ∧ i = move + 1 ∧ IsMove attempts move

theorem IsMove.append {attempts : List Attempt} {move : ℕ} (h : IsMove attempts move)
    (a : Attempt) : IsMove (attempts ++ [a]) move := by
  obtain ⟨panSpeed, tiltSpeed, h⟩ := h
  have hlt := (List.getElem?_eq_some_iff.mp h).1
  exact ⟨panSpeed, tiltSpeed, by rw [List.getElem?_append_left hlt]; exact h⟩

theorem IsMove.lt {attempts : List Attempt} {move : ℕ} (h : IsMove attempts move) :
    move < attempts.length := by
  obtain ⟨_, _, h⟩ := h
  exact (List.getElem?_eq_some_iff.mp h).1

theorem stopsOwnMotion_append {attempts : List Attempt} {a : Attempt} (h : StopsOwnMotion attempts)
    (ha : ∀ move, a.origin = .timer move →
      a.command = .stop ∧ attempts.length = move + 1 ∧ IsMove attempts move) :
    StopsOwnMotion (attempts ++ [a]) := by
  intro i move command ok hi
  -- an old attempt, or the new one, which stands right at the end
  by_cases hlt : i < attempts.length
  · rw [List.getElem?_append_left hlt] at hi
    obtain ⟨hc, him, hm⟩ := h i move command ok hi
    exact ⟨hc, him, hm.append a⟩
  · rw [List.getElem?_append_right (by omega)] at hi
    have hzero : i - attempts.length = 0 := by
      by_contra hne
      rw [List.getElem?_eq_none (by simp; omega)] at hi
      cases hi
    rw [hzero] at hi
    obtain rfl : a = ⟨.timer move, command, ok⟩ := by simpa using hi
    obtain ⟨hc, him, hm⟩ := ha move rfl
    exact ⟨hc, by omega, hm.append _⟩

/-- A timer that is pending or about to start. -/
def System.HasTimer (s : System) (timer : Timer) : Prop :=
  timer ∈ s.timers ∨ s.soap = .spawning timer

/-- The generation counts the attempts, and a timer carries the count up to its own speed command.
-/
structure GenerationInv (s : System) : Prop where
  generation : s.vars.motionGeneration = UInt64.ofNat s.vars.attempts.length
  stamped : ∀ timer, s.HasTimer timer →
    timer.generation = UInt64.ofNat (timer.move + 1) ∧ IsMove s.vars.attempts timer.move
  stops : s.vars.attempts.length ≤ 2 ^ 64 → StopsOwnMotion s.vars.attempts

/-- The invariant is kept by a step that adds no timer and attempts nothing. -/
theorem GenerationInv.of_attempts_eq {s t : System} (hI : GenerationInv s)
    (hgeneration : t.vars.motionGeneration = s.vars.motionGeneration)
    (hattempts : t.vars.attempts = s.vars.attempts)
    (htimers : ∀ timer, t.HasTimer timer → s.HasTimer timer) : GenerationInv t := by
  constructor
  · rw [hgeneration, hattempts]
    exact hI.generation
  · intro timer h
    rw [hattempts]
    exact hI.stamped timer (htimers timer h)
  · rw [hattempts]
    exact hI.stops

/-- The invariant is kept by an attempt that moves the generation on, if the new timer, if any, is
the attempt's own and a timer's attempt follows its own speed command. -/
theorem GenerationInv.of_attempt {s t : System} {a : Attempt} (hI : GenerationInv s)
    (hgeneration : t.vars.motionGeneration = s.vars.motionGeneration + 1)
    (hattempts : t.vars.attempts = s.vars.attempts ++ [a])
    (htimers : ∀ timer, t.HasTimer timer → s.HasTimer timer ∨
      timer.generation = s.vars.motionGeneration + 1 ∧ timer.move = s.vars.attempts.length ∧
        IsMove t.vars.attempts timer.move)
    (hstop : s.vars.attempts.length < 2 ^ 64 → ∀ move, a.origin = .timer move →
      a.command = .stop ∧ s.vars.attempts.length = move + 1 ∧ IsMove s.vars.attempts move) :
    GenerationInv t := by
  have hnext : s.vars.motionGeneration + 1 = UInt64.ofNat (s.vars.attempts.length + 1) := by
    rw [hI.generation, UInt64.ofNat_add]
    rfl
  constructor
  · rw [hgeneration, hattempts, hnext, List.length_append, List.length_singleton]
  · intro timer h
    rcases htimers timer h with hs | ⟨hg, hm, hmove⟩
    · obtain ⟨hg, hm⟩ := hI.stamped timer hs
      exact ⟨hg, by rw [hattempts]; exact hm.append a⟩
    · exact ⟨by rw [hg, hnext, hm], hmove⟩
  · intro hlt
    rw [hattempts, List.length_append, List.length_singleton] at hlt
    rw [hattempts]
    exact stopsOwnMotion_append (hI.stops (by omega)) (hstop (by omega))

theorem isMove_append_self (attempts : List Attempt) (panSpeed tiltSpeed : ℤ) :
    IsMove (attempts ++ [⟨.client, .speed panSpeed tiltSpeed, true⟩]) attempts.length :=
  ⟨panSpeed, tiltSpeed, by simp⟩

/-- Below `2^64` attempts the generation determines their number. -/
theorem eq_of_ofNat_eq {m n : ℕ} (hm : m < 2 ^ 64) (hn : n < 2 ^ 64)
    (h : UInt64.ofNat m = UInt64.ofNat n) : m = n := by
  have htoNat := congrArg UInt64.toNat h
  rwa [UInt64.toNat_ofNat', UInt64.toNat_ofNat', Nat.mod_eq_of_lt hm, Nat.mod_eq_of_lt hn]
    at htoNat

theorem generationInv_step {config : Config} {s t : System} {e : Event} (hI : GenerationInv s)
    (h : Effect config s e t) : GenerationInv t := by
  cases h with
  | move _ _ hgeneration hattempts htimers hsoap =>
    refine hI.of_attempt hgeneration hattempts ?_ (by simp)
    rintro timer (hmem | hsp)
    · exact Or.inl (Or.inl (htimers ▸ hmem))
    · obtain rfl := SoapThread.spawning.inj (hsoap.symm.trans hsp)
      refine Or.inr ⟨rfl, rfl, ?_⟩
      rw [hattempts]
      exact isMove_append_self ..
  | write _ _ _ _ hgeneration hattempts htimers hsoap =>
    refine hI.of_attempt hgeneration hattempts ?_ (by simp)
    rintro timer (hmem | hsp)
    · exact Or.inl (Or.inl (htimers ▸ hmem))
    · rw [hsoap] at hsp
      cases hsp
  | spawn hspawning hvars htimers hsoap =>
    refine hI.of_attempts_eq (by rw [hvars]) (by rw [hvars]) ?_
    rintro timer (hmem | hsp)
    · rw [htimers, List.mem_append, List.mem_singleton] at hmem
      rcases hmem with hmem | rfl
      · exact Or.inl hmem
      · exact Or.inr hspawning
    · rw [hsoap] at hsp
      cases hsp
  | @timerStops i timer ok hget hmatch hgeneration hattempts htimers hsoap =>
    refine hI.of_attempt hgeneration hattempts ?_ ?_
    · rintro timer' (hmem | hsp)
      · exact Or.inl (Or.inl (List.mem_of_mem_eraseIdx (htimers ▸ hmem)))
      · exact Or.inl (Or.inr (hsoap ▸ hsp))
    · -- equal generations mean equal numbers of attempts, so the timer's own command came last
      rintro hlt move horigin
      obtain rfl := Origin.timer.inj horigin
      obtain ⟨hg, hm⟩ := hI.stamped timer (Or.inl (List.mem_of_getElem? hget))
      have hlast := hm.lt
      rw [hI.generation, hg] at hmatch
      exact ⟨rfl, eq_of_ofNat_eq hlt (by omega) hmatch, hm⟩
  | timerLapses _ _ hvars htimers hsoap =>
    refine hI.of_attempts_eq (by rw [hvars]) (by rw [hvars]) ?_
    rintro timer (hmem | hsp)
    · exact Or.inl (List.mem_of_mem_eraseIdx (htimers ▸ hmem))
    · exact Or.inr (hsoap ▸ hsp)
  | quiet _ _ hspawning hgeneration hattempts htimers =>
    refine hI.of_attempts_eq hgeneration hattempts ?_
    rintro timer (hmem | hsp)
    · exact Or.inl (htimers ▸ hmem)
    · exact absurd hsp (hspawning timer)

theorem generationInv_of_reaches {libm : Libm} {config : Config} {es : List Event} {s : System}
    (h : (machine libm config).Reaches Machine.anyStep es s) : GenerationInv s := by
  refine h.invariant ?_ fun s e t hI _ hstep => generationInv_step hI (step_effect hstep)
  rintro s rfl
  refine ⟨rfl, ?_, fun _ i move command ok h => ?_⟩
  · rintro timer (hmem | hsp)
    · cases hmem
    · cases hsp
  · rw [List.getElem?_nil] at h
    cases h

/-! ### Counting commands -/

/-- The attempts made, and those still to come from pending timers and a write under way. -/
def System.load (s : System) : ℕ :=
  s.vars.attempts.length + s.timers.length +
    match s.soap with
    | .spawning _ | .writing _ => 1
    | .idle | .storing _ => 0

theorem load_step {config : Config} {s t : System} {e : Event} (h : Effect config s e t) :
    t.load ≤ s.load + 2 * [e].countP Event.startsCommand := by
  unfold System.load
  cases h with
  | move hstarts hidle _ hattempts htimers hsoap =>
    -- one attempt made, and one more to come from the new timer
    simp [hstarts, hidle, hattempts, htimers, hsoap]
    omega
  | write hstarts _ _ _ _ hattempts htimers hsoap =>
    rcases hstarts with hstarts | ⟨position, hwriting⟩
    · simp only [hattempts, htimers, hsoap, hstarts, List.length_append, List.length_singleton,
        List.countP_singleton, ↓reduceIte]
      omega
    · simp only [hattempts, htimers, hsoap, hwriting, List.length_append, List.length_singleton]
      omega
  | spawn hspawning hvars htimers hsoap =>
    simp only [hspawning, hvars, htimers, hsoap, List.length_append, List.length_singleton]
    omega
  | @timerStops i timer ok hget _ _ hattempts htimers hsoap =>
    have hlt := (List.getElem?_eq_some_iff.mp hget).1
    simp only [hattempts, htimers, hsoap, List.length_append, List.length_singleton,
      List.length_eraseIdx_of_lt hlt]
    omega
  | @timerLapses i timer hget _ hvars htimers hsoap =>
    have hlt := (List.getElem?_eq_some_iff.mp hget).1
    simp only [hvars, htimers, hsoap, List.length_eraseIdx_of_lt hlt]
    omega
  | quiet hstarts hspawning hspawning' _ hattempts htimers =>
    rcases hstarts with hstarts | hwriting
    · simp only [hattempts, htimers, hstarts, List.countP_singleton, ↓reduceIte]
      split <;> split <;> omega
    · simp only [hattempts, htimers]
      split
      · exact absurd ‹_› (hspawning' _)
      · exact absurd ‹_› (hwriting _)
      all_goals omega

/-- A client command leads to at most two attempts: its own and its timer's stop. -/
theorem attempts_le_two_mul {libm : Libm} {config : Config} {es : List Event} {s : System}
    (h : (machine libm config).Reaches Machine.anyStep es s) :
    s.load ≤ 2 * es.countP Event.startsCommand := by
  induction h with
  | start hs =>
    obtain rfl : _ = ({} : System) := hs
    rfl
  | @next es s t e _ _ hstep ih =>
    have hload := load_step (step_effect hstep)
    rw [List.countP_append]
    omega

/-- In every run in which at most `2^64` commands are attempted, the timers' stops counted, or
which has at most `2^63` client commands, a timer stops only its own motion. -/
theorem stopsOwnMotion_of_reaches {libm : Libm} {config : Config} {es : List Event} {s : System}
    (h : (machine libm config).Reaches Machine.anyStep es s)
    (hfew : s.vars.attempts.length ≤ 2 ^ 64 ∨ es.countP Event.startsCommand ≤ 2 ^ 63) :
    StopsOwnMotion s.vars.attempts := by
  refine (generationInv_of_reaches h).stops ?_
  rcases hfew with hlt | hlt
  · exact hlt
  · have hload := attempts_le_two_mul h
    unfold System.load at hload
    omega

/-- A slow timer that fires after a later move of its own client does nothing. -/
theorem stopsOwnMotion_of_reaches_moveRun :
    ∃ s, (machine plainLibm {}).Reaches Machine.anyStep
        (moveRun ++ (moveRun ++ [.timer 0 .accepted, .timer 0 .accepted])) s ∧
      s.vars.attempts.length = 3 ∧ StopsOwnMotion s.vars.attempts := by
  have hrun : (machine plainLibm {}).run {}
      (moveRun ++ (moveRun ++ [.timer 0 .accepted, .timer 0 .accepted])) =
      some ⟨⟨3, 90, 45, 0, 0, ⟨90, 45⟩, [⟨.client, .speed 30 0, true⟩, ⟨.client, .speed 30 0, true⟩,
        ⟨.timer 1, .stop, true⟩]⟩, [], .idle⟩ := by
    decide +kernel
  have hinit : (machine plainLibm {}).init {} := rfl
  have hreaches := Machine.reaches_of_run hinit hrun
  exact ⟨_, hreaches, rfl, stopsOwnMotion_of_reaches hreaches (Or.inl (by decide))⟩

/-! ### The generation comes round -/

/-- A move whose timer, the second pending one, fires at once. -/
def pumpRun : List Event := moveRun ++ [.timer 1 .accepted]

/-- The speeds of the move of `moveRun`. -/
theorem speedFromAxis_moveRun : speedFromAxis plainLibm {} (.finite 1) = 30 ∧
    speedFromAxis plainLibm {} (.finite 0) = 0 := by
  decide +kernel

/-- Such a move moves the generation on by two and leaves the first pending timer. -/
theorem run_pumpRun (v : PtzState) (slow : Timer) :
    ∃ v', (machine plainLibm {}).run ⟨v, [slow], .idle⟩ pumpRun = some ⟨v', [slow], .idle⟩ ∧
      v'.motionGeneration = v.motionGeneration + 2 ∧
      v'.attempts.length = v.attempts.length + 2 := by
  obtain ⟨hone, hzero⟩ := speedFromAxis_moveRun
  refine ⟨{ v with
      motionGeneration := v.motionGeneration + 1 + 1
      attempts := v.attempts ++ [⟨.client, .speed 30 0, true⟩] ++
        [⟨.timer v.attempts.length, .stop, true⟩] }, ?_, ?_, ?_⟩
  · simp [machine, pumpRun, moveRun, Machine.run, step, continuousMovePtz, timerFires,
      writePtzCommandUnlocked, PtzState.bumpGeneration, hone, hzero]
  · exact UInt64.add_assoc ..
  · simp

/-- `n` such moves move the generation on by `2 n`. -/
theorem run_pumpRuns (n : ℕ) (v : PtzState) (slow : Timer) :
    ∃ es v', (machine plainLibm {}).run ⟨v, [slow], .idle⟩ es = some ⟨v', [slow], .idle⟩ ∧
      es.countP Event.startsCommand = n ∧
      v'.motionGeneration = v.motionGeneration + UInt64.ofNat (2 * n) ∧
      v'.attempts.length = v.attempts.length + 2 * n := by
  induction n generalizing v with
  | zero => exact ⟨[], v, rfl, rfl, by simp, rfl⟩
  | succ n ih =>
    obtain ⟨v₁, hrun₁, hgen₁, hlen₁⟩ := run_pumpRun v slow
    obtain ⟨es, v₂, hrun₂, hcount, hgen₂, hlen₂⟩ := ih v₁
    refine ⟨pumpRun ++ es, v₂, Machine.run_append_of_eq hrun₁ hrun₂, ?_, ?_, by omega⟩
    · rw [List.countP_append, hcount, Nat.add_comm]
      rfl
    · rw [hgen₂, hgen₁, Nat.mul_succ, Nat.add_comm, UInt64.ofNat_add, UInt64.add_assoc]
      rfl

/-- After a `Stop` and a new move the generation is back at that of a slow timer, which cuts the new
move short. -/
theorem run_cutShort (v : PtzState) (slow : Timer)
    (h : v.motionGeneration + 1 + 1 = slow.generation) :
    ∃ t, (machine plainLibm {}).run ⟨v, [slow], .idle⟩
        (.stop .accepted :: (moveRun ++ [.timer 0 .accepted])) = some t ∧
      t.vars.attempts[v.attempts.length + 2]? = some ⟨.timer slow.move, .stop, true⟩ := by
  obtain ⟨hone, hzero⟩ := speedFromAxis_moveRun
  obtain ⟨generation, timeoutMs, move⟩ := slow
  subst h
  refine ⟨⟨{ v with
      motionGeneration := v.motionGeneration + 1 + 1 + 1
      attempts := v.attempts ++ [⟨.client, .stop, true⟩] ++ [⟨.client, .speed 30 0, true⟩] ++
        [⟨.timer move, .stop, true⟩] },
    [⟨v.motionGeneration + 1 + 1, 1000, v.attempts.length + 1⟩], .idle⟩, ?_, ?_⟩
  · simp [machine, moveRun, Machine.run, step, continuousMovePtz, timerFires, stopPtz,
      writePtzCommandUnlocked, PtzState.bumpGeneration, hone, hzero]
  · simp

/-- With fewer than `2^64` client commands a timer can stop a motion that is not its own. -/
theorem not_stopsOwnMotion_of_reaches :
    ¬ ∀ (libm : Libm) (config : Config) (es : List Event) (s : System),
      (machine libm config).Reaches Machine.anyStep es s →
      es.countP Event.startsCommand < 2 ^ 64 → StopsOwnMotion s.vars.attempts := by
  intro hall
  -- the first move, whose timer stays pending throughout
  have hrun₁ : (machine plainLibm {}).run {} moveRun =
      some ⟨⟨1, 90, 45, 0, 0, ⟨90, 45⟩, [⟨.client, .speed 30 0, true⟩]⟩, [⟨1, 1000, 0⟩],
        .idle⟩ := by
    decide +kernel
  obtain ⟨es, v, hrun₂, hcount, hgen, hlen⟩ := run_pumpRuns (2 ^ 63 - 1)
    ⟨1, 90, 45, 0, 0, ⟨90, 45⟩, [⟨.client, .speed 30 0, true⟩]⟩ ⟨1, 1000, 0⟩
  obtain ⟨t, hrun₃, hcut⟩ := run_cutShort v ⟨1, 1000, 0⟩ (by rw [hgen]; decide +kernel)
  have hinit : (machine plainLibm {}).init {} := rfl
  have hreaches := Machine.reaches_of_run hinit
    (Machine.run_append_of_eq hrun₁ (Machine.run_append_of_eq hrun₂ hrun₃))
  have hstops := hall _ _ _ _ hreaches (by
    rw [List.countP_append, List.countP_append, hcount]
    decide +kernel)
  obtain ⟨-, hplace, -⟩ := hstops _ _ _ _ hcut
  simp only [hlen, List.length_singleton] at hplace
  omega

end Afterveda.Ptz
