import Afterveda.Ptz.Equiv.DryRun

/-!
# The limits of the servos

Positions come from the text of the device, from axis values, and from the stored home.  Whatever
they were, a position is clamped before it is written, stored or returned: `limits_of_reaches` keeps
the commands, the home and the simulated position within the limits over every run, and
`readPtzStatus_inLimits` bounds what a status read returns.
-/

namespace Afterveda.Ptz

open CText CNumber Onvif

/-- The position is one that the servos can take. -/
def InLimits (position : PtzPosition) : Prop :=
  30 ≤ position.pan ∧ position.pan ≤ 150 ∧ 0 ≤ position.tilt ∧ position.tilt ≤ 160

theorem inLimits_clampPtzPosition (position : PtzPosition) :
    InLimits (clampPtzPosition position) := by
  obtain ⟨hpan, hpan'⟩ := @clampInt_mem position.pan kPanMin kPanMax (by decide)
  obtain ⟨htilt, htilt'⟩ := @clampInt_mem position.tilt kTiltMin kTiltMax (by decide)
  exact ⟨hpan, hpan', htilt, htilt'⟩

theorem clampPtzPosition_of_inLimits {position : PtzPosition} (h : InLimits position) :
    clampPtzPosition position = position := by
  obtain ⟨hpan, hpan', htilt, htilt'⟩ := h
  have hpanEq : clampInt position.pan kPanMin kPanMax = position.pan := by
    unfold clampInt kPanMin kPanMax
    split_ifs <;> omega
  have htiltEq : clampInt position.tilt kTiltMin kTiltMax = position.tilt := by
    unfold clampInt kTiltMin kTiltMax
    split_ifs <;> omega
  rw [clampPtzPosition, hpanEq, htiltEq]

/-- A command that moves to a position moves within the limits. -/
def Command.InLimits : Command → Prop
  | .position target => Ptz.InLimits target
  | _ => True

/-- The commands handed to the device, the home and the simulated position are within the limits. -/
structure Limits (s : PtzState) : Prop where
  commands : ∀ a ∈ s.attempts, a.command.InLimits
  home : InLimits s.homePosition
  dryRun : InLimits s.dryRunStatus.position

theorem Limits.bumpGeneration {s : PtzState} (h : Limits s) : Limits s.bumpGeneration :=
  ⟨h.commands, h.home, h.dryRun⟩

theorem Limits.setDryRunSpeed {s : PtzState} (h : Limits s) (panSpeed tiltSpeed : ℤ) :
    Limits (s.setDryRunSpeed panSpeed tiltSpeed) :=
  ⟨h.commands, h.home, h.dryRun⟩

theorem Limits.setDryRunPosition {s : PtzState} (h : Limits s) {position : PtzPosition}
    (hp : InLimits position) : Limits (s.setDryRunPosition position) :=
  ⟨h.commands, h.home, hp⟩

theorem Limits.storeHome {s : PtzState} (h : Limits s) (position : PtzPosition) :
    Limits (storeHome position s) :=
  ⟨h.commands, inLimits_clampPtzPosition position, h.dryRun⟩

/-- A command within the limits can be handed to the device. -/
theorem Limits.writePtzCommandUnlocked {s : PtzState} (h : Limits s) (config : Config)
    (origin : Origin) (command : Command) (hcommand : command.InLimits) (outcome : WriteOutcome) :
    Limits (writePtzCommandUnlocked config origin command outcome s).2 := by
  obtain ⟨hstate, -⟩ := writePtzCommandUnlocked_spec config origin command outcome s
  rw [hstate]
  refine ⟨?_, h.home, h.dryRun⟩
  intro a ha
  rcases List.mem_append.mp ha with ha | ha
  · exact h.commands a ha
  · obtain rfl := List.mem_singleton.mp ha
    exact hcommand

theorem Limits.writePtzPosition {s : PtzState} (h : Limits s) (config : Config)
    (position : PtzPosition) (outcome : WriteOutcome) :
    Limits (writePtzPosition config position outcome s).2 := by
  have hclamped := inLimits_clampPtzPosition position
  have hwrite := h.bumpGeneration.writePtzCommandUnlocked config .client
    (.position (clampPtzPosition position)) hclamped outcome
  unfold Ptz.writePtzPosition
  dsimp only
  split_ifs
  · exact (hwrite.setDryRunPosition hclamped).setDryRunSpeed 0 0
  · exact hwrite

theorem Limits.stopPtz {s : PtzState} (h : Limits s) (config : Config) (outcome : WriteOutcome) :
    Limits (stopPtz config outcome s).2 := by
  have hwrite := h.bumpGeneration.writePtzCommandUnlocked config .client .stop trivial outcome
  unfold Ptz.stopPtz
  dsimp only
  split_ifs
  · exact hwrite.setDryRunSpeed 0 0
  · exact hwrite

theorem Limits.continuousMovePtz {s : PtzState} (h : Limits s) (libm : Libm) (config : Config)
    (x y : Double) (timeoutMs : ℤ) (outcome : WriteOutcome) :
    Limits (continuousMovePtz libm config x y timeoutMs outcome s).2 := by
  have hwrite := h.bumpGeneration.writePtzCommandUnlocked config .client
    (.speed (speedFromAxis libm config x) (speedFromAxis libm config y)) trivial outcome
  unfold Ptz.continuousMovePtz
  dsimp only
  split_ifs
  · exact hwrite.setDryRunSpeed _ _
  · exact hwrite

theorem Limits.timerFires {s : PtzState} (h : Limits s) (config : Config) (timer : Timer)
    (outcome : WriteOutcome) : Limits (timerFires config timer outcome s) := by
  have hwrite := h.writePtzCommandUnlocked config (.timer timer.move) .stop trivial outcome
  unfold Ptz.timerFires
  dsimp only
  split_ifs
  · exact h
  · exact (hwrite.setDryRunSpeed 0 0).bumpGeneration
  · exact hwrite.bumpGeneration

/-- Every critical section keeps the limits. -/
theorem Limits.of_section {libm : Libm} {config : Config} {s t : PtzState} (h : Limits s)
    (hsection : Section libm config s t) : Limits t := by
  cases hsection with
  | quiet => exact h
  | continuousMove x y timeoutMs outcome =>
    exact h.continuousMovePtz libm config x y timeoutMs outcome
  | writePosition position outcome => exact h.writePtzPosition config position outcome
  | stop outcome => exact h.stopPtz config outcome
  | storeHome position => exact h.storeHome position
  | timer timer outcome => exact h.timerFires config timer outcome

theorem limits_start : Limits {} :=
  ⟨by simp, by unfold InLimits; decide, by unfold InLimits; decide⟩

theorem limits_of_reaches {libm : Libm} {config : Config} {es : List Event} {s : System}
    (h : (machine libm config).Reaches Machine.anyStep es s) : Limits s.vars := by
  refine h.invariant (I := fun s => Limits s.vars) ?_ ?_
  · rintro s rfl
    exact limits_start
  · intro s e t hlimits _ hstep
    exact hlimits.of_section (step_section hstep)

/-! ### Reading -/

theorem parseStatusText_inLimits {text : Bytes} {status : PtzStatus}
    (h : parseStatusText text = some status) : InLimits status.position := by
  simp only [parseStatusText, Option.bind_eq_bind, Option.bind_eq_some_iff] at h
  obtain ⟨pan, -, tilt, -, panSpeed, -, tiltSpeed, -, hstatus⟩ := h
  obtain rfl := Option.some.inj hstatus
  exact inLimits_clampPtzPosition ⟨pan, tilt⟩

/-- A status that is read is within the limits, whatever the device answers. -/
theorem readPtzStatus_inLimits {s : PtzState} (h : Limits s) {config : Config} {reply : ReadReply}
    {status : PtzStatus} (hread : readPtzStatus config reply s = .ok status) :
    InLimits status.position := by
  unfold readPtzStatus at hread
  split at hread
  · obtain rfl := Except.ok.inj hread
    exact h.dryRun
  · split at hread
    · cases hread
    · split at hread
      · cases hread
      · split at hread
        · cases hread
        · split at hread
          · cases hread
          · rename_i hparse
            obtain rfl := Except.ok.inj hread
            exact parseStatusText_inLimits hparse

/-- The line of a position within the limits shows that position. -/
theorem positionWire_of_inLimits {position : PtzPosition} (h : InLimits position) :
    positionWire position = bytes "pan=" ++ toDecimal position.pan ++ bytes " tilt=" ++
      toDecimal position.tilt ++ bytes "\n" := by
  rw [positionWire, clampPtzPosition_of_inLimits h]

/-- **The limits**: in every run, in either mode and whatever the axis values and the texts of the
device, the positions sent to the device, the stored home, the simulated position and every position
read are within the limits of the servos. -/
theorem positions_inLimits {libm : Libm} {config : Config} {es : List Event} {s : System}
    (h : (machine libm config).Reaches Machine.anyStep es s) :
    (∀ a ∈ s.vars.attempts, ∀ target, a.command = .position target → InLimits target ∧
      a.command.wire = bytes "pan=" ++ toDecimal target.pan ++ bytes " tilt=" ++
        toDecimal target.tilt ++ bytes "\n") ∧
      InLimits s.vars.homePosition ∧ InLimits ⟨s.vars.dryRunPan, s.vars.dryRunTilt⟩ ∧
      ∀ reply status, readPtzStatus config reply s.vars = .ok status →
        InLimits status.position := by
  have hlimits := limits_of_reaches h
  refine ⟨fun a ha target htarget => ?_, hlimits.home, hlimits.dryRun,
    fun reply status => readPtzStatus_inLimits hlimits⟩
  have hcommand := hlimits.commands a ha
  rw [htarget] at hcommand ⊢
  exact ⟨hcommand, positionWire_of_inLimits hcommand⟩

/-- A device that reports a position out of range. -/
def wildReply : ReadReply :=
  { reads := [.data (bytes "pan=99999999999 tilt=-7 pan_speed=0 tilt_speed=0\n")] }

/-- A relative move from such a position, and the home set from it. -/
def wildRun : List Event :=
  [.relativeMove (.finite 1000000) .nan wildReply, .writePosition .accepted, .setHome wildReply,
    .storeHome]

/-- After it the home is at the end of both ranges. -/
theorem positions_inLimits_wildRun : ∃ s, (machine plainLibm {}).Reaches Machine.anyStep wildRun s ∧
    s.vars.attempts.length = 1 ∧ InLimits s.vars.homePosition := by
  have hend : ((machine plainLibm {}).run {} wildRun).map (fun s => s.vars.attempts.length) =
      some 1 := by
    decide +kernel
  obtain ⟨s, hreaches, hlength⟩ := Machine.exists_reaches rfl Machine.allows_anyStep hend
  exact ⟨s, hreaches, hlength, (positions_inLimits hreaches).2.1⟩

end Afterveda.Ptz
