import Afterveda.Rail.HandOff

/-!
# The life of a handed over request

* `handOff_exact`: as long as the control thread does not take the mutex between the unlock of the
  callback and its `notify_one`, the callback never uses a request that is destroyed; once the
  thread takes it there, a run goes on to such a use.
* `result_of_gone`: whatever the order, the function returns what its operation made of the server.
-/

namespace Afterveda.Rail

open CText

variable {T : Type} {points : MountPoints T} {operation : Operation} {server : MediaServer T}

/-! ### What a step does -/

/-- The steps of the two parties. -/
inductive HandOff.Effect (points : MountPoints T) (s : HandOff T) :
    HandOff.Event → HandOff T → Prop
  | post (hcaller : s.caller = .posting) :
    Effect points s .post { s with caller := .locking, mainLoop := .applying }
  | lock (hcaller : s.caller = .locking ∨ s.caller = .woken) (hmutex : s.mutex = none) :
    Effect points s .lock { s with caller := .testing, mutex := some .caller }
  | returns (hcaller : s.caller = .testing) (hdone : s.done = true) :
    Effect points s .test { s with caller := .returning }
  | waits (hcaller : s.caller = .testing) (hdone : s.done = false) :
    Effect points s .test { s with caller := .waiting, mutex := none }
  | wakes (hcaller : s.caller = .waiting) :
    Effect points s .spuriousWakeup { s with caller := .woken }
  | unlock (hcaller : s.caller = .returning) :
    Effect points s .unlock { s with caller := .leaving (s.ok, s.message), mutex := none }
  | destroy {result : Bool × Bytes} (hcaller : s.caller = .leaving result) :
    Effect points s .destroy { s with caller := .gone result }
  | mainApply (hmain : s.mainLoop = .applying) :
    Effect points s .mainApply { s with
      server := (s.operation.applyNow points s.server).2
      mainLoop := .storing (s.operation.applyNow points s.server).1 }
  | mainStore {ok : Bool} {message : Bytes} (hmain : s.mainLoop = .storing (ok, message)) :
    Effect points s .mainStore { s with ok, message, mainLoop := .locking }
  | mainLock (hmain : s.mainLoop = .locking) (hmutex : s.mutex = none) :
    Effect points s .mainLock { s with mainLoop := .setting, mutex := some .mainLoop }
  | mainSetDone (hmain : s.mainLoop = .setting) :
    Effect points s .mainSetDone { s with done := true, mainLoop := .unlocking }
  | mainUnlock (hmain : s.mainLoop = .unlocking) :
    Effect points s .mainUnlock { s with mainLoop := .notifying, mutex := none }
  | mainNotify (hmain : s.mainLoop = .notifying) :
    Effect points s .mainNotify { s with
      mainLoop := .finished
      caller := if s.caller = .waiting then .woken else s.caller }

theorem HandOff.step_effect {s t : HandOff T} {e : HandOff.Event} (h : s.step points e = some t) :
    HandOff.Effect points s e t := by
  unfold HandOff.step at h
  -- the caller's seven moves, and then the six of the main loop
  split at h
  · rename_i hcaller
    obtain rfl := Option.some.inj h
    exact .post hcaller
  · rename_i hcaller
    split_ifs at h with hmutex
    obtain rfl := Option.some.inj h
    exact .lock (Or.inl hcaller) hmutex
  · rename_i hcaller
    split_ifs at h with hmutex
    obtain rfl := Option.some.inj h
    exact .lock (Or.inr hcaller) hmutex
  · rename_i hcaller
    split_ifs at h with hdone
    · obtain rfl := Option.some.inj h
      exact .returns hcaller hdone
    · obtain rfl := Option.some.inj h
      exact .waits hcaller (Bool.of_not_eq_true hdone)
  · rename_i hcaller
    obtain rfl := Option.some.inj h
    exact .wakes hcaller
  · rename_i hcaller
    obtain rfl := Option.some.inj h
    exact .unlock hcaller
  · rename_i hcaller
    obtain rfl := Option.some.inj h
    exact .destroy hcaller
  · rename_i hmain
    obtain rfl := Option.some.inj h
    exact .mainApply hmain
  · rename_i hmain
    obtain rfl := Option.some.inj h
    exact .mainStore hmain
  · rename_i hmain
    split_ifs at h with hmutex
    obtain rfl := Option.some.inj h
    exact .mainLock hmain hmutex
  · rename_i hmain
    obtain rfl := Option.some.inj h
    exact .mainSetDone hmain
  · rename_i hmain
    obtain rfl := Option.some.inj h
    exact .mainUnlock hmain
  · rename_i hmain
    obtain rfl := Option.some.inj h
    exact .mainNotify hmain
  · cases h

/-! ### The mutex and the flag -/

/-- The control thread has the mutex. -/
def Caller.holds : Caller → Bool
  | .testing | .returning => true
  | _ => false

/-- The control thread has seen the flag. -/
def Caller.hasSeen : Caller → Bool
  | .returning | .leaving _ | .gone _ => true
  | _ => false

/-- The callback has the mutex. -/
def MainLoop.holds : MainLoop → Bool
  | .setting | .unlocking => true
  | _ => false

/-- The callback has set the flag. -/
def MainLoop.hasSet : MainLoop → Bool
  | .unlocking | .notifying | .finished => true
  | _ => false

/-- The flag is set when the callback says so, and the mutex is with the party that says so. -/
structure HandOff.Inv (s : HandOff T) : Prop where
  posted : s.caller = .posting → s.mainLoop = .absent
  done : s.done = s.mainLoop.hasSet
  callerMutex : s.caller.holds = true ↔ s.mutex = some .caller
  mainMutex : s.mainLoop.holds = true ↔ s.mutex = some .mainLoop
  seen : s.caller.hasSeen = true → s.done = true

/-- A notification changes neither who has the mutex nor what was seen. -/
theorem Caller.notify (c : Caller) :
    (if c = .waiting then Caller.woken else c).holds = c.holds ∧
      (if c = .waiting then Caller.woken else c).hasSeen = c.hasSeen ∧
      ((if c = .waiting then Caller.woken else c) = .posting ↔ c = .posting) := by
  by_cases h : c = .waiting
  · rw [if_pos h, h]
    exact ⟨rfl, rfl, by simp⟩
  · rw [if_neg h]
    exact ⟨rfl, rfl, Iff.rfl⟩

theorem HandOff.inv_step {s t : HandOff T} {e : HandOff.Event} (hs : s.Inv)
    (h : s.step points e = some t) : t.Inv := by
  obtain ⟨hposted, hdone, hcallerMutex, hmainMutex, hseen⟩ := hs
  cases HandOff.step_effect h with
  | mainNotify hmain =>
    obtain ⟨hholds, hhasSeen, hposting⟩ := s.caller.notify
    rw [hmain] at hposted hdone hmainMutex
    constructor
    · intro hcaller
      exact nomatch hposted (hposting.mp hcaller)
    · exact hdone
    · rw [hholds]
      exact hcallerMutex
    · exact hmainMutex
    · rw [hhasSeen]
      exact hseen
  | post | lock | returns | waits | wakes | unlock | destroy =>
    constructor <;> simp_all [Caller.holds, Caller.hasSeen, MainLoop.holds, MainLoop.hasSet]
  | mainApply | mainStore | mainLock | mainSetDone | mainUnlock =>
    constructor <;> simp_all [MainLoop.holds, MainLoop.hasSet]

theorem HandOff.inv_init : ({ server, operation } : HandOff T).Inv := by
  constructor <;> simp [Caller.holds, Caller.hasSeen, MainLoop.holds, MainLoop.hasSet]

/-! ### The end of a request -/

/-- The function has returned, and its request is destroyed. -/
def Caller.isGone : Caller → Bool
  | .gone _ => true
  | _ => false

theorem Caller.hasSeen_of_isGone {c : Caller} (h : c.isGone = true) : c.hasSeen = true := by
  cases c <;> first | rfl | cases h

/-- Once the function has returned and its request is destroyed, the callback takes no step. -/
def HandOff.Safe (points : MountPoints T) (s : HandOff T) : Prop :=
  s.caller.isGone = true → ∀ e, e.ofMainLoop = true → s.step points e = none

/-- The control thread does not take the mutex between the unlock of the callback and its
`notify_one`. -/
def HandOff.LetsNotify (s : HandOff T) (e : HandOff.Event) : Prop :=
  e = .lock → s.mainLoop ≠ .notifying

instance (s : HandOff T) (e : HandOff.Event) : Decidable (s.LetsNotify e) :=
  inferInstanceAs (Decidable (_ → _))

/-- The control thread looks at the flag only before the callback is at its end or after it. -/
structure HandOff.Ordered (s : HandOff T) : Prop where
  inv : s.Inv
  testing : s.caller = .testing → s.mainLoop ≠ .notifying
  seen : s.caller.hasSeen = true → s.mainLoop = .finished

theorem HandOff.ordered_step {s t : HandOff T} {e : HandOff.Event} (hs : s.Ordered)
    (hok : s.LetsNotify e) (h : s.step points e = some t) : t.Ordered := by
  obtain ⟨hinv, htesting, hseen⟩ := hs
  have hinv' := HandOff.inv_step hinv h
  cases HandOff.step_effect h with
  | lock hcaller hmutex => exact ⟨hinv', fun _ => hok rfl, (fun hfalse => nomatch hfalse)⟩
  | returns hcaller hdone =>
    -- the flag is set, and the callback neither has the mutex nor is about to notify
    refine ⟨hinv', (fun hfalse => nomatch hfalse), fun _ => ?_⟩
    have hset := hinv.done.symm.trans hdone
    have hmutex := hinv.callerMutex.mp (by rw [hcaller]; rfl)
    have hnotifying := htesting hcaller
    have hfree : s.mainLoop.holds ≠ true := by
      rw [ne_eq, hinv.mainMutex, hmutex]
      simp
    show s.mainLoop = .finished
    cases hmain : s.mainLoop with
    | finished => rfl
    | notifying => exact absurd hmain hnotifying
    | unlocking =>
      rw [hmain] at hfree
      exact absurd rfl hfree
    | _ =>
      rw [hmain] at hset
      cases hset
  | unlock hcaller | destroy hcaller =>
    exact ⟨hinv', (fun hfalse => nomatch hfalse), fun _ => hseen (by rw [hcaller]; rfl)⟩
  | post | waits | wakes =>
    exact ⟨hinv', (fun hfalse => nomatch hfalse), (fun hfalse => nomatch hfalse)⟩
  | mainNotify hmain =>
    exact ⟨hinv', fun _ => by simp, fun _ => rfl⟩
  | mainUnlock hmain =>
    -- the callback has the mutex, so the control thread is not testing
    have hmutex := hinv.mainMutex.mp (by rw [hmain]; rfl)
    refine ⟨hinv', fun hcaller => ?_, fun hhasSeen => ?_⟩
    · have hheld := hinv.callerMutex.mp (by rw [show s.caller = .testing from hcaller]; rfl)
      exact nomatch hmutex.symm.trans hheld
    · exact nomatch hmain.symm.trans (hseen hhasSeen)
  | mainApply hmain | mainStore hmain | mainLock hmain | mainSetDone hmain =>
    refine ⟨hinv', fun _ => by simp, fun hhasSeen => ?_⟩
    exact nomatch hmain.symm.trans (hseen hhasSeen)

theorem HandOff.Ordered.safe {s : HandOff T} (hs : s.Ordered) : s.Safe points := by
  intro hgone e he
  have hfinished := hs.seen (Caller.hasSeen_of_isGone hgone)
  cases hstep : s.step points e with
  | none => rfl
  | some t =>
    cases HandOff.step_effect hstep with
    | mainApply hmain | mainStore hmain | mainLock hmain _ | mainSetDone hmain | mainUnlock hmain
    | mainNotify hmain =>
      rw [hfinished] at hmain
      cases hmain
    | _ => cases he

/-- A control thread that takes the mutex before the notification can destroy its request first. -/
theorem HandOff.unsafe_of_lock {s t : HandOff T} (hs : s.Inv) (hmain : s.mainLoop = .notifying)
    (h : s.step points .lock = some t) :
    ∃ u, (HandOff.machine points operation server).run t [.test, .unlock, .destroy] = some u ∧
      ¬u.Safe points := by
  have hdone : s.done = true := by
    rw [hs.done, hmain]
    rfl
  cases HandOff.step_effect h with
  | lock hcaller hmutex =>
    refine ⟨{ s with caller := .gone (s.ok, s.message), mutex := none }, ?_, ?_⟩
    · simp [Machine.run, HandOff.machine, HandOff.step, hdone]
    · intro hsafe
      have hnone := hsafe rfl .mainNotify rfl
      simp [HandOff.step, hmain] at hnone

/-- **The hand-off**: as long as the control thread does not take the mutex between the unlock of
the callback and its notification, no request is used after its end; and where it does, a run goes
on to such a use. -/
theorem handOff_exact {es : List HandOff.Event} {s : HandOff T}
    (h : (HandOff.machine points operation server).Reaches HandOff.LetsNotify es s) :
    s.Safe points ∧ ∀ e t, s.step points e = some t → ¬s.LetsNotify e →
      ∃ es' u, (HandOff.machine points operation server).run t es' = some u ∧
        ¬u.Safe points := by
  have hs : s.Ordered := by
    refine h.invariant ?_ fun s e t hs hok hstep => HandOff.ordered_step hs hok hstep
    rintro _ rfl
    exact ⟨HandOff.inv_init, (fun hfalse => nomatch hfalse), (fun hfalse => nomatch hfalse)⟩
  refine ⟨hs.safe, fun e t hstep hnot => ?_⟩
  obtain ⟨rfl, hmain⟩ := Classical.not_imp.mp hnot
  obtain ⟨u, hrun, hunsafe⟩ := HandOff.unsafe_of_lock hs.inv (not_not.mp hmain) hstep
  exact ⟨_, u, hrun, hunsafe⟩

/-! ### The result -/

/-- The callback has stored its result. -/
def MainLoop.hasStored : MainLoop → Bool
  | .locking | .setting | .unlocking | .notifying | .finished => true
  | _ => false

/-- The operation is applied once, and its result is what the request carries and what is returned.
-/
structure HandOff.Carries (points : MountPoints T) (operation : Operation) (server : MediaServer T)
    (s : HandOff T) : Prop where
  given : s.operation = operation
  before : s.mainLoop = .absent ∨ s.mainLoop = .applying → s.server = server
  after : ¬(s.mainLoop = .absent ∨ s.mainLoop = .applying) →
    s.server = (operation.applyNow points server).2
  storing : ∀ result, s.mainLoop = .storing result → result = (operation.applyNow points server).1
  stored : s.mainLoop.hasStored = true → (s.ok, s.message) = (operation.applyNow points server).1
  returned : ∀ result, s.caller = .leaving result ∨ s.caller = .gone result →
    result = (operation.applyNow points server).1

theorem HandOff.carries_step {s t : HandOff T} {e : HandOff.Event} (hinv : s.Inv)
    (hs : s.Carries points operation server) (h : s.step points e = some t) :
    t.Carries points operation server := by
  obtain ⟨hgiven, hbefore, hafter, hstoring, hstored, hreturned⟩ := hs
  cases HandOff.step_effect h with
  | post hcaller =>
    have hmain := hinv.posted hcaller
    exact ⟨hgiven, fun _ => hbefore (Or.inl hmain), fun hnot => absurd (Or.inr rfl) hnot,
      (fun _ hfalse => nomatch hfalse), (fun hfalse => nomatch hfalse), by simp⟩
  | unlock hcaller =>
    -- the flag was set after the result was stored
    have hset := hinv.done.symm.trans (hinv.seen (by rw [hcaller]; rfl))
    have hresult : (s.ok, s.message) = (operation.applyNow points server).1 := by
      apply hstored
      cases hmain : s.mainLoop <;> rw [hmain] at hset <;> first | rfl | cases hset
    refine ⟨hgiven, hbefore, hafter, hstoring, hstored, ?_⟩
    rintro result (hleft | hleft)
    · obtain rfl := Caller.leaving.inj hleft
      exact hresult
    · cases hleft
  | destroy hcaller =>
    refine ⟨hgiven, hbefore, hafter, hstoring, hstored, ?_⟩
    rintro result (hleft | hleft)
    · cases hleft
    · obtain rfl := Caller.gone.inj hleft
      exact hreturned _ (Or.inl hcaller)
  | lock | returns | waits | wakes =>
    exact ⟨hgiven, hbefore, hafter, hstoring, hstored, by simp⟩
  | mainApply hmain =>
    have happlied : s.operation.applyNow points s.server = operation.applyNow points server := by
      rw [hgiven, hbefore (Or.inr hmain)]
    refine ⟨hgiven, by simp, fun _ => congrArg Prod.snd happlied, ?_,
      (fun hfalse => nomatch hfalse), hreturned⟩
    intro result hresult
    rw [← MainLoop.storing.inj hresult]
    exact congrArg Prod.fst happlied
  | mainStore hmain =>
    exact ⟨hgiven, by simp, fun _ => hafter (by simp [hmain]), (fun _ hfalse => nomatch hfalse),
      fun _ => hstoring _ hmain, hreturned⟩
  | mainLock hmain _ | mainSetDone hmain | mainUnlock hmain =>
    exact ⟨hgiven, by simp, fun _ => hafter (by simp [hmain]), (fun _ hfalse => nomatch hfalse),
      fun _ => hstored (by rw [hmain]; rfl), hreturned⟩
  | mainNotify hmain =>
    refine ⟨hgiven, by simp, fun _ => hafter (by simp [hmain]), (fun _ hfalse => nomatch hfalse),
      fun _ => hstored (by rw [hmain]; rfl), ?_⟩
    intro result hleft
    dsimp only at hleft
    split_ifs at hleft
    · simp at hleft
    · exact hreturned result hleft

/-- In every order of steps the operation is done once, and the function returns its result. -/
theorem result_of_gone {es : List HandOff.Event} {s : HandOff T}
    (h : (HandOff.machine points operation server).Reaches Machine.anyStep es s)
    {result : Bool × Bytes} (hgone : s.caller = .gone result) :
    (result, s.server) = operation.applyNow points server := by
  have hs : s.Inv ∧ s.Carries points operation server := by
    refine h.invariant (I := fun s => s.Inv ∧ s.Carries points operation server) ?_ ?_
    · rintro _ rfl
      refine ⟨HandOff.inv_init, rfl, fun _ => rfl, fun hnot => absurd (Or.inl rfl) hnot, ?_, ?_, ?_⟩
      · simp
      · simp [MainLoop.hasStored]
      · simp
    · intro s e t hs _ hstep
      exact ⟨HandOff.inv_step hs.1 hstep, HandOff.carries_step hs.1 hs.2 hstep⟩
  obtain ⟨hinv, hcarries⟩ := hs
  have hset := hinv.done.symm.trans (hinv.seen (by rw [hgone]; rfl))
  have hserver : s.server = (operation.applyNow points server).2 := by
    apply hcarries.after
    rintro (hmain | hmain) <;> rw [hmain] at hset <;> cases hset
  rw [hserver, hcarries.returned result (Or.inr hgone)]

/-! ### Two orders -/

/-- The callback is through before the control thread looks at the flag. -/
def promptRun : List HandOff.Event :=
  [.post, .lock, .test, .mainApply, .mainStore, .mainLock, .mainSetDone, .mainUnlock, .mainNotify,
    .lock, .test, .unlock, .destroy]

/-- The control thread takes the mutex, returns and destroys the request before the notification. -/
def hastyRun : List HandOff.Event :=
  [.post, .mainApply, .mainStore, .mainLock, .mainSetDone, .mainUnlock, .lock, .test, .unlock,
    .destroy]

/-- A request for the on-screen text to go. -/
def osdOff : Operation := .setOsd false (bytes "Afterveda")

/-- The server that it is made of. -/
def handOffServer : MediaServer (List (Bytes × Factory)) := MediaServer.start mountTable {} 0

theorem handOff_exact_prompt : ∃ s,
    (HandOff.machine mountTable osdOff handOffServer).Reaches HandOff.LetsNotify promptRun s ∧
      s.caller.isGone = true ∧ s.step mountTable .mainNotify = none := by
  have hallows : (HandOff.machine mountTable osdOff handOffServer).Allows HandOff.LetsNotify
      { server := handOffServer, operation := osdOff } promptRun := by
    decide +kernel
  have hgone : ((HandOff.machine mountTable osdOff handOffServer).run
      { server := handOffServer, operation := osdOff } promptRun).map (fun s => s.caller.isGone) =
        some true := by
    decide +kernel
  obtain ⟨s, hreaches, hs⟩ := Machine.exists_reaches rfl hallows hgone
  exact ⟨s, hreaches, hs, (handOff_exact hreaches).1 hs .mainNotify rfl⟩

/-- In the second order the callback notifies through a request that is destroyed. -/
theorem not_safe_hasty :
    ¬∀ (operation : Operation) (server : MediaServer (List (Bytes × Factory)))
      (es : List HandOff.Event) (s : HandOff (List (Bytes × Factory))),
      (HandOff.machine mountTable operation server).Reaches Machine.anyStep es s →
        s.Safe mountTable := by
  intro hall
  have hend : ((HandOff.machine mountTable osdOff handOffServer).run
      { server := handOffServer, operation := osdOff } hastyRun).map
        (fun s => (s.caller.isGone, (s.step mountTable .mainNotify).isSome)) =
          some (true, true) := by
    decide +kernel
  obtain ⟨s, hreaches, hs⟩ := Machine.exists_reaches rfl Machine.allows_anyStep hend
  obtain ⟨hgone, hnotifies⟩ := Prod.mk.inj hs
  have hnone := hall osdOff handOffServer hastyRun s hreaches hgone .mainNotify rfl
  rw [hnone] at hnotifies
  cases hnotifies

end Afterveda.Rail
