import Afterveda.Onvif.Equiv.Changes
import Afterveda.Onvif.Soap.Ptz
import Afterveda.Ptz.Equiv.AutoStop
import Afterveda.Ptz.Protocol

/-!
# Dry run against the device protocol

In dry-run mode the server keeps four variables beside the lines that it would send.  They are at
every moment what the device protocol makes of the lines logged so far
(`dryRunStatus_eq_interpretLog`), so the status that a client is told is that of a device that got
these lines (`dryRun_refines`).

A command is printed and read back (`interpret_wire`), and what each section does to the variables
is what its command does to the device (`DryRunStep`).
-/

namespace Afterveda.Ptz

open CText CNumber Onvif Onvif.Soap

/-! ### Commands and their lines -/

/-- What a command asks of the device. -/
def PtzStatus.obey (status : PtzStatus) : Command → PtzStatus
  | .position target => ⟨clampPtzPosition target, 0, 0⟩
  | .speed panSpeed tiltSpeed => { status with panSpeed, tiltSpeed }
  | .stop => { status with panSpeed := 0, tiltSpeed := 0 }

/-- The speeds of a command are C integers. -/
def Command.Sound : Command → Prop
  | .speed panSpeed tiltSpeed => IsInt32 panSpeed ∧ IsInt32 tiltSpeed
  | _ => True

theorem skipLiteral_append (literal text : Bytes) :
    skipLiteral literal (literal ++ text) = some text := by
  rw [skipLiteral, if_pos (List.prefix_append _ _), List.drop_left]

/-- A printed pair is read back. -/
theorem readPair_printed {first second : Bytes} {a b : ℤ} (ha : IsInt32 a) (hb : IsInt32 b)
    (hhead : NoDigitHead second) (hne : second ≠ []) :
    readPair first second (first ++ toDecimal a ++ second ++ toDecimal b ++ bytes "\n") =
      some (a, b) := by
  have hlong : ∀ {n : ℤ}, IsInt32 n → -2 ^ 63 ≤ n ∧ n < 2 ^ 63 := by
    intro n hn
    unfold IsInt32 at hn
    omega
  have hb' : strtol (toDecimal b ++ bytes "\n") = some (b, bytes "\n") :=
    strtol_toDecimal b (hlong hb) (by decide)
  have ha' : strtol (toDecimal a ++ (second ++ (toDecimal b ++ bytes "\n"))) =
      some (a, second ++ (toDecimal b ++ bytes "\n")) :=
    strtol_toDecimal a (hlong ha) (hhead.append hne _)
  simp only [readPair, List.append_assoc, skipLiteral_append, ha', hb', Option.bind_eq_bind,
    Option.bind_some, ↓reduceIte]

/-- A line that starts otherwise is no pair. -/
theorem readPair_of_not_prefix {first line : Bytes} (h : ¬first <+: line) (second : Bytes) :
    readPair first second line = none := by
  rw [readPair, skipLiteral, if_neg h]
  rfl

theorem clampInt_mem {value low high : ℤ} (h : low ≤ high) :
    low ≤ clampInt value low high ∧ clampInt value low high ≤ high := by
  unfold clampInt
  split_ifs <;> omega

/-- The device does with the line of a command what the command asks for. -/
theorem interpret_wire (status : PtzStatus) {command : Command} (h : command.Sound) :
    status.interpret command.wire = status.obey command := by
  cases command with
  | position target =>
    obtain ⟨hpan, hpan'⟩ := @clampInt_mem target.pan kPanMin kPanMax (by decide)
    obtain ⟨htilt, htilt'⟩ := @clampInt_mem target.tilt kTiltMin kTiltMax (by decide)
    unfold kPanMin kPanMax at hpan hpan'
    unfold kTiltMin kTiltMax at htilt htilt'
    have hread : readPair (bytes "pan=") (bytes " tilt=") (positionWire target) =
        some ((clampPtzPosition target).pan, (clampPtzPosition target).tilt) := by
      refine readPair_printed ?_ ?_ (by decide) (by decide)
      · show IsInt32 (clampInt target.pan 30 150)
        unfold IsInt32
        omega
      · show IsInt32 (clampInt target.tilt 0 160)
        unfold IsInt32
        omega
    show status.interpret (positionWire target) = _
    rw [PtzStatus.interpret, hread]
    rfl
  | speed panSpeed tiltSpeed =>
    have hread : readPair (bytes "pan_speed=") (bytes " tilt_speed=")
        (speedWire panSpeed tiltSpeed) = some (panSpeed, tiltSpeed) :=
      readPair_printed h.1 h.2 (by decide) (by decide)
    have hapart : Apart (bytes "pan=") (bytes "pan_speed=") := by decide
    have hnot : ¬bytes "pan=" <+: speedWire panSpeed tiltSpeed := by
      unfold speedWire
      simp only [List.append_assoc]
      exact hapart.not_prefix (by decide) _
    show status.interpret (speedWire panSpeed tiltSpeed) = _
    rw [PtzStatus.interpret, readPair_of_not_prefix hnot, hread]
    rfl
  | stop => rfl

theorem interpretLog_append (log : List Bytes) (line : Bytes) :
    interpretLog (log ++ [line]) = (interpretLog log).interpret line := by
  rw [interpretLog, List.foldl_append]
  rfl

/-! ### The variables -/

/-- The simulated device. -/
def PtzState.dryRunStatus (s : PtzState) : PtzStatus :=
  ⟨⟨s.dryRunPan, s.dryRunTilt⟩, s.dryRunPanSpeed, s.dryRunTiltSpeed⟩

/-- What a section does in dry-run mode: nothing to the device, or one logged command that the
simulated device obeys. -/
inductive DryRunStep (s t : PtzState) : Prop
  | quiet (hattempts : t.attempts = s.attempts) (hstatus : t.dryRunStatus = s.dryRunStatus)
  | sent {origin : Origin} (command : Command) (hsound : command.Sound)
      (hattempts : t.attempts = s.attempts ++ [⟨origin, command, true⟩])
      (hstatus : t.dryRunStatus = s.dryRunStatus.obey command)

/-- The size of a step is a C integer. -/
theorem isInt32_stepFromAxis (libm : Libm) (maximum : ℤ) (value : Double) :
    IsInt32 (stepFromAxis libm maximum value) := by
  have hsize : IsInt32 (if wrap32 (lround libm (value.fabs.scale maximum)) = 0 then 1
      else wrap32 (lround libm (value.fabs.scale maximum))) := by
    split_ifs
    · decide
    · exact isInt32_wrap32 _
  unfold stepFromAxis
  dsimp only
  by_cases hzero : value.isZero = true
  · rw [if_pos hzero]
    decide
  · rw [if_neg hzero]
    by_cases hneg : value.lt 0 = true
    · rw [if_pos hneg]
      exact isInt32_wrap32 _
    · rw [if_neg hneg]
      exact hsize

section DryRun

variable {libm : Libm} {config : Config} (hdry : config.ptzDryRun = true)

include hdry

/-- In dry-run mode a command is logged, and no write fails. -/
theorem writePtzCommandUnlocked_dryRun (origin : Origin) (command : Command)
    (outcome : WriteOutcome) (s : PtzState) :
    writePtzCommandUnlocked config origin command outcome s =
      ([], { s with attempts := s.attempts ++ [⟨origin, command, true⟩] }) := by
  unfold writePtzCommandUnlocked
  rw [if_pos hdry]

theorem dryRunStep_writePtzPosition (position : PtzPosition) (outcome : WriteOutcome)
    (s : PtzState) : DryRunStep s (writePtzPosition config position outcome s).2 := by
  have hclamp : clampPtzPosition (clampPtzPosition position) = clampPtzPosition position := by
    simp only [clampPtzPosition, clampInt, kPanMin, kPanMax, kTiltMin, kTiltMax]
    congr 1 <;> split_ifs <;> omega
  simp only [writePtzPosition, writePtzCommandUnlocked_dryRun hdry, hdry, and_self, ↓reduceIte]
  refine .sent (.position (clampPtzPosition position)) trivial rfl ?_
  rw [PtzStatus.obey, hclamp]
  rfl

theorem dryRunStep_stopPtz (outcome : WriteOutcome) (s : PtzState) :
    DryRunStep s (stopPtz config outcome s).2 := by
  simp only [stopPtz, writePtzCommandUnlocked_dryRun hdry, hdry, and_self, ↓reduceIte]
  exact .sent .stop trivial rfl rfl

theorem dryRunStep_continuousMovePtz (libm : Libm) (x y : Double) (timeoutMs : ℤ)
    (outcome : WriteOutcome) (s : PtzState) :
    DryRunStep s (continuousMovePtz libm config x y timeoutMs outcome s).2 := by
  simp only [continuousMovePtz, writePtzCommandUnlocked_dryRun hdry, hdry, and_self, ↓reduceIte]
  exact .sent (.speed _ _) ⟨isInt32_stepFromAxis _ _ _, isInt32_stepFromAxis _ _ _⟩ rfl rfl

theorem dryRunStep_timerFires (timer : Timer) (outcome : WriteOutcome) (s : PtzState) :
    DryRunStep s (timerFires config timer outcome s) := by
  by_cases hmatch : s.motionGeneration = timer.generation
  · simp only [timerFires, writePtzCommandUnlocked_dryRun hdry, hdry, hmatch, ne_eq,
      not_true_eq_false, and_self, ↓reduceIte]
    exact .sent .stop trivial rfl rfl
  · rw [timerFires_of_ne hmatch]
    exact .quiet rfl rfl

/-- Every step of the system is such a section. -/
theorem dryRunStep_of_step {s t : System} {e : Event} (h : step libm config s e = some t) :
    DryRunStep s.vars t.vars := by
  have hsection := step_section h
  generalize t.vars = u at hsection ⊢
  cases hsection with
  | quiet => exact .quiet rfl rfl
  | continuousMove x y timeoutMs outcome =>
    exact dryRunStep_continuousMovePtz hdry libm x y timeoutMs outcome s.vars
  | writePosition position outcome =>
    exact dryRunStep_writePtzPosition hdry position outcome s.vars
  | stop outcome => exact dryRunStep_stopPtz hdry outcome s.vars
  | storeHome position => exact .quiet rfl rfl
  | timer timer outcome => exact dryRunStep_timerFires hdry timer outcome s.vars

/-- The variables are what the device protocol makes of the log. -/
theorem dryRunStatus_eq_interpretLog {es : List Event} {s : System}
    (h : (machine libm config).Reaches Machine.anyStep es s) :
    s.vars.dryRunStatus = interpretLog s.vars.log := by
  refine h.invariant (I := fun s => s.vars.dryRunStatus = interpretLog s.vars.log) ?_ ?_
  · rintro s rfl
    rfl
  · intro s e t ih _ hstep
    cases dryRunStep_of_step hdry hstep with
    | quiet hattempts hstatus => rw [hstatus, ih, PtzState.log, PtzState.log, hattempts]
    | sent command hsound hattempts hstatus =>
      have hlog : t.vars.log = s.vars.log ++ [command.wire] := by
        rw [PtzState.log, PtzState.log, hattempts, List.map_append]
        rfl
      rw [hstatus, ih, hlog, interpretLog_append, interpret_wire _ hsound]

end DryRun

/-! ### What a client is told -/

/-- A host whose device reports the status. -/
def Shows {σ : Type} (serve : (c : Call) → σ → c.Answer × σ) (status : PtzStatus) : Prop :=
  ∀ x, (serve .readPtzStatus x).1 = .ok status

/-- What `GetStatus` does with the answer of the device. -/
def statusAnswer : Except Bytes PtzStatus → Service PtzStatusResponse
  | .error fault => .fail (soapSenderFault fault)
  | .ok status => .call .time fun now => .done (fillPtzStatusResponse now status)

theorem tptzGetStatus_eq (ctx : Context) (request : Option TptzProfileRequest) :
    tptzGetStatus ctx request = authenticate ctx >>= fun _ =>
      validateProfileToken ctx (request.bind TptzProfileRequest.profileToken) >>= fun _ =>
        .call .readPtzStatus statusAnswer := by
  rfl

theorem moveStatus_fillPtzStatusResponse (now : ℤ) (status : PtzStatus) :
    (fillPtzStatusResponse now status).moveStatus.panTilt = bytes "MOVING" ↔
      status.panSpeed ≠ 0 ∨ status.tiltSpeed ≠ 0 := by
  have hidle : bytes "IDLE" ≠ bytes "MOVING" := by decide
  show (if _ then _ else _) = bytes "MOVING" ↔ _
  split_ifs with h
  · exact iff_of_true rfl h
  · exact iff_of_false hidle h

section GetStatus

variable {σ : Type} {serve : (c : Call) → σ → c.Answer × σ} {status : PtzStatus}
  (hserve : Shows serve status)

include hserve

theorem run_statusAnswer (x : σ) : ∃ now y,
    (Prog.call Call.readPtzStatus statusAnswer).run serve x =
      (.ok (fillPtzStatusResponse now status), y) := by
  rw [Prog.run_call, hserve x]
  exact ⟨_, _, rfl⟩

/-- A response of `GetStatus` says whether a speed is other than zero. -/
theorem moveStatus_of_run {ctx : Context} {request : Option TptzProfileRequest} {x y : σ}
    {response : PtzStatusResponse}
    (h : (tptzGetStatus ctx request).run serve x = (.ok response, y)) :
    response.moveStatus.panTilt = bytes "MOVING" ↔ status.panSpeed ≠ 0 ∨ status.tiltSpeed ≠ 0 := by
  rw [tptzGetStatus_eq] at h
  obtain ⟨_, u, -, h⟩ := Prog.exists_of_run_bind_eq_ok h
  obtain ⟨_, v, -, h⟩ := Prog.exists_of_run_bind_eq_ok h
  obtain ⟨now, w, hrun⟩ := run_statusAnswer hserve v
  rw [hrun] at h
  obtain rfl := Except.ok.inj (Prod.mk.inj h).1
  exact moveStatus_fillPtzStatusResponse now status

/-- `GetStatus` answers a request that passes its checks. -/
theorem exists_run_tptzGetStatus {ctx : Context} (hauth : requireAuth ctx = .ok ()) {token : CStr}
    (htoken : token.val = bytes "main") (x : σ) : ∃ response y,
      (tptzGetStatus ctx (some ⟨some token⟩)).run serve x = (.ok response, y) := by
  have hcheck : ∃ u, (validateProfileToken ctx (some token)).run serve x = (.ok (), u) := by
    have hne : token.val ≠ [] := by
      rw [htoken]
      decide
    have hmodel : ∀ answer, hasProfileToken ⟨[videoRead answer], ctx.config.rtspUri⟩ token.val =
        true := by
      intro answer
      have hname : (videoRead answer).token = bytes "main" := by
        unfold videoRead
        cases bodyOf answer <;> rfl
      have hplain : profileTokenFromEncoderToken (bytes "main") = bytes "main" := by decide
      rw [hasProfileToken, htoken, hplain]
      simp [VideoProfile.named, hname]
    refine ⟨(serve (.http (bytes "GET") (bytes "/profile") []) x).2, ?_⟩
    simp only [validateProfileToken, stringValue, Option.map_some, Option.getD_some, if_neg hne,
      Prog.run_bind, mediaModelFromConfig_eq, getThen, Prog.run_call]
    show Prog.run serve (if (!hasProfileToken _ token.val) = true then _ else _) _ = _
    rw [hmodel]
    rfl
  obtain ⟨u, hcheck⟩ := hcheck
  obtain ⟨now, y, hrun⟩ := run_statusAnswer hserve u
  refine ⟨fillPtzStatusResponse now status, y, ?_⟩
  rw [tptzGetStatus_eq]
  simp only [authenticate, hauth, Prog.run_bind, Prog.run_ofExcept, Option.bind_some, hcheck]
  exact hrun

end GetStatus

/-- **Dry run refines the device**: in every run the status that is read is what the device protocol
makes of the lines logged so far, and `GetStatus` says `MOVING` exactly when its speeds are not both
zero. -/
theorem dryRun_refines {libm : Libm} {config : Config} (hdry : config.ptzDryRun = true)
    {es : List Event} {s : System} (h : (machine libm config).Reaches Machine.anyStep es s) :
    (∀ reply, readPtzStatus config reply s.vars = .ok (interpretLog s.vars.log)) ∧
      ∀ (σ : Type) (serve : (c : Call) → σ → c.Answer × σ),
        (∀ x, ∃ reply, (serve .readPtzStatus x).1 = readPtzStatus config reply s.vars) →
        (∀ ctx request x response y,
          (tptzGetStatus ctx request).run serve x = (.ok response, y) →
            (response.moveStatus.panTilt = bytes "MOVING" ↔
              ¬((interpretLog s.vars.log).panSpeed = 0 ∧
                (interpretLog s.vars.log).tiltSpeed = 0))) ∧
        ∀ ctx (token : CStr) x, requireAuth ctx = .ok () → token.val = bytes "main" →
          ∃ response y, (tptzGetStatus ctx (some ⟨some token⟩)).run serve x =
            (.ok response, y) := by
  have hread : ∀ reply, readPtzStatus config reply s.vars = .ok (interpretLog s.vars.log) := by
    intro reply
    rw [readPtzStatus, if_pos hdry, ← dryRunStatus_eq_interpretLog hdry h]
    rfl
  refine ⟨hread, fun σ serve hanswer => ?_⟩
  have hserve : Shows serve (interpretLog s.vars.log) := by
    intro x
    obtain ⟨reply, hx⟩ := hanswer x
    rw [hx, hread reply]
  refine ⟨fun ctx request x response y hrun => ?_, fun ctx token x hauth htoken => ?_⟩
  · rw [moveStatus_of_run hserve hrun, not_and_or]
  · exact exists_run_tptzGetStatus hserve hauth htoken x

/-- A server in dry-run mode. -/
def dryConfig : Config := { ptzDryRun := true }

/-- A relative move, a continuous move, and the timer of the latter. -/
def dryRunEvents : List Event :=
  [.relativeMove (.finite (-1)) (.finite 1) {}, .writePosition .accepted] ++ moveRun ++
    [.timer 0 .accepted]

/-- After the first four of them the device moves, and after the last it stands. -/
theorem dryRun_refines_events :
    (∃ s, (machine plainLibm dryConfig).Reaches Machine.anyStep (dryRunEvents.take 4) s ∧
      readPtzStatus dryConfig {} s.vars = .ok (interpretLog s.vars.log) ∧
        interpretLog s.vars.log = ⟨⟨85, 50⟩, 30, 0⟩) ∧
    ∃ s, (machine plainLibm dryConfig).Reaches Machine.anyStep dryRunEvents s ∧
      readPtzStatus dryConfig {} s.vars = .ok (interpretLog s.vars.log) ∧
        interpretLog s.vars.log = ⟨⟨85, 50⟩, 0, 0⟩ := by
  have hrun : ∀ es status,
      ((machine plainLibm dryConfig).run {} es).map (fun s => interpretLog s.vars.log) =
        some status →
      ∃ s, (machine plainLibm dryConfig).Reaches Machine.anyStep es s ∧
        readPtzStatus dryConfig {} s.vars = .ok (interpretLog s.vars.log) ∧
          interpretLog s.vars.log = status := by
    intro es status h
    obtain ⟨s, hreaches, hstatus⟩ := Machine.exists_reaches rfl Machine.allows_anyStep h
    exact ⟨s, hreaches, (dryRun_refines rfl hreaches).1 {}, hstatus⟩
  constructor
  · exact hrun _ _ (by decide +kernel)
  · exact hrun _ _ (by decide +kernel)

end Afterveda.Ptz
