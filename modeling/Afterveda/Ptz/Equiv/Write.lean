import Afterveda.Ptz.System
import Afterveda.Ptz.Write
import Mathlib.Algebra.BigOperators.Group.Finset.Basic
import Mathlib.Algebra.Order.BigOperators.Group.Finset

/-!
# The writing of a command

The loop of `write_ptz_command_unlocked` keeps its pointer and its count in step (`inStep_loop`), so
the device always has a prefix of the wire string, and the error is empty exactly when it has all of
it.  But a `write` that takes nothing is asked again: `writesOut_iff` says that the function returns
unless the device goes on taking nothing.  Where it returns, it is the function of `Ptz.Device`
(`writePtzCommandCalls_refines`).
-/

namespace Afterveda.Ptz

open CText Onvif

variable {wire : Bytes} {reply : WriteReply wire} {config : Config}

/-! ### The variables of the loop -/

/-- The pointer and the count are in step: what was taken is what lies before the pointer, and what
remains lies behind it.  A failed `write` leaves some. -/
structure WriteLoop.InStep (wire : Bytes) (loop : WriteLoop) : Prop where
  taken : loop.taken = wire.take loop.data
  size : loop.data + loop.remaining = wire.length
  failure : loop.failure ≠ none → 0 < loop.remaining

theorem goesOn_writeLoop {loop : WriteLoop} :
    (writeLoop wire).goesOn loop = true ↔ loop.failure = none ∧ 0 < loop.remaining := by
  simp [writeLoop]

/-- A turn keeps them in step, also one that takes nothing. -/
theorem inStep_body {loop : WriteLoop} (h : loop.InStep wire)
    (hgoes : (writeLoop wire).goesOn loop = true) {result : WriteResult}
    (hbound : ∀ count, result = .written count → count ≤ loop.remaining) :
    ((writeLoop wire).body loop result).InStep wire := by
  obtain ⟨hfailure, hremaining⟩ := goesOn_writeLoop.mp hgoes
  cases result with
  | failed reason => exact ⟨h.taken, h.size, fun _ => hremaining⟩
  | written count =>
    have hcount : count ≤ loop.remaining := hbound count rfl
    refine ⟨?_, ?_, fun h => absurd hfailure h⟩
    · -- the buffer starts where the bytes taken so far end
      show loop.taken ++ (loop.buffer wire).take count = wire.take (loop.data + count)
      rw [h.taken, WriteLoop.buffer, List.take_take, min_eq_left hcount, List.take_add]
    · show loop.data + count + (loop.remaining - count) = wire.length
      have hsize := h.size
      omega

theorem inStep_loop (reply : WriteReply wire) (calls : ℕ) : (reply.loop calls).InStep wire := by
  refine Loop.after_invariant (I := WriteLoop.InStep wire) ?_ ?_ calls
  · exact ⟨rfl, Nat.zero_add _, fun h => absurd rfl h⟩
  · intro n h hgoes
    exact inStep_body h hgoes fun count hresult => reply.bounded n count hgoes hresult

theorem loop_succ {n : ℕ} (h : (writeLoop wire).goesOn (reply.loop n) = true) :
    reply.loop (n + 1) = (writeLoop wire).body (reply.loop n) (reply.writes n) :=
  Loop.after_succ h

/-- The device has all bytes exactly when the loop has ended without a failure. -/
theorem taken_eq_iff (reply : WriteReply wire) (calls : ℕ) :
    (reply.loop calls).taken = wire ↔
      (reply.loop calls).failure = none ∧ (reply.loop calls).remaining = 0 := by
  obtain ⟨htaken, hsize, hfailure⟩ := inStep_loop reply calls
  rw [htaken, List.take_eq_self_iff]
  constructor
  · intro hle
    have hremaining : (reply.loop calls).remaining = 0 := by omega
    refine ⟨?_, hremaining⟩
    by_contra hne
    exact absurd (hfailure hne) (by omega)
  · rintro ⟨-, hremaining⟩
    omega

/-! ### What the function returns -/

theorem returned_eq_none_iff (config : Config) (reply : WriteReply wire) (loop : WriteLoop) :
    reply.returned config loop = none ↔ (writeLoop wire).goesOn loop = true := by
  rw [goesOn_writeLoop, WriteReply.returned]
  cases loop.failure with
  | some reason => simp
  | none => cases reply.closeFailure <;> simp

theorem returned_eq_nil_iff {loop : WriteLoop} :
    reply.returned config loop = some [] ↔
      loop.failure = none ∧ loop.remaining = 0 ∧ reply.closeFailure = none := by
  rw [WriteReply.returned]
  cases loop.failure with
  | some reason => simp [deviceError_ne_nil]
  | none => cases reply.closeFailure <;> simp [deviceError_ne_nil]

/-- Outside the dry-run mode and with the device open, the function is its loop and what follows. -/
theorem writePtzCommandCalls_of_open (hdry : config.ptzDryRun = false)
    (hopen : reply.openFailure = none) (calls : ℕ) :
    writePtzCommandCalls config wire reply calls =
      (reply.returned config (reply.loop calls), (reply.loop calls).taken) := by
  rw [writePtzCommandCalls, if_neg (by simp [hdry]), hopen]

theorem writePtzCommandCalls_of_openFailure (hdry : config.ptzDryRun = false) {reason : Bytes}
    (hopen : reply.openFailure = some reason) (calls : ℕ) :
    writePtzCommandCalls config wire reply calls =
      (some (deviceError config .open reason), []) := by
  rw [writePtzCommandCalls, if_neg (by simp [hdry]), hopen]

/-- What was returned stays. -/
theorem writePtzCommandCalls_of_le {calls later : ℕ} (hle : calls ≤ later) {error : Bytes}
    (h : (writePtzCommandCalls config wire reply calls).1 = some error) :
    writePtzCommandCalls config wire reply later =
      writePtzCommandCalls config wire reply calls := by
  cases hdry : config.ptzDryRun with
  | true => rw [writePtzCommandCalls, writePtzCommandCalls, if_pos hdry, if_pos hdry]
  | false =>
    cases hopen : reply.openFailure with
    | some reason =>
      rw [writePtzCommandCalls_of_openFailure hdry hopen,
        writePtzCommandCalls_of_openFailure hdry hopen]
    | none =>
      rw [writePtzCommandCalls_of_open hdry hopen] at h ⊢
      have hended : (writeLoop wire).goesOn (reply.loop calls) = false := by
        apply Bool.eq_false_of_not_eq_true
        intro hgoes
        rw [(returned_eq_none_iff config reply _).mpr hgoes] at h
        cases h
      have hsame : reply.loop later = reply.loop calls := Loop.after_of_ended hended hle
      rw [hsame, writePtzCommandCalls_of_open hdry hopen]

/-- At any time the device has taken the first bytes of the wire string. -/
theorem taken_prefix (reply : WriteReply wire) (calls : ℕ) :
    (writePtzCommandCalls config wire reply calls).2 <+: wire := by
  unfold writePtzCommandCalls
  split_ifs
  · exact List.nil_prefix
  · cases reply.openFailure with
    | some reason => exact List.nil_prefix
    | none =>
      have htaken := (inStep_loop reply calls).taken
      show (reply.loop calls).taken <+: wire
      rw [htaken]
      exact List.take_prefix _ _

/-- The error is empty when the device was opened, has all bytes and was closed, and at no other
time. -/
theorem error_eq_nil_iff (hdry : config.ptzDryRun = false) (reply : WriteReply wire) (calls : ℕ) :
    (writePtzCommandCalls config wire reply calls).1 = some [] ↔
      (writePtzCommandCalls config wire reply calls).2 = wire ∧
        reply.openFailure = none ∧ reply.closeFailure = none := by
  cases hopen : reply.openFailure with
  | some reason =>
    rw [writePtzCommandCalls_of_openFailure hdry hopen]
    simp [deviceError_ne_nil]
  | none =>
    rw [writePtzCommandCalls_of_open hdry hopen, returned_eq_nil_iff, taken_eq_iff]
    simp [and_assoc]

/-! ### The function and its outcome -/

theorem wire_ne_nil (command : Command) : command.wire ≠ [] := by
  cases command with
  | position target => exact List.append_ne_nil_of_right_ne_nil _ (by decide)
  | speed panSpeed tiltSpeed => exact List.append_ne_nil_of_right_ne_nil _ (by decide)
  | stop => decide

/-- An error names the call that failed, and it is `close` exactly when the device has all bytes. -/
theorem error_cases (hwire : wire ≠ []) {calls : ℕ} {error : Bytes}
    (h : (writePtzCommandCalls config wire reply calls).1 = some error) :
    error = [] ∨ config.ptzDryRun = false ∧ ∃ call reason, error = deviceError config call reason ∧
      (call = .close ↔ (writePtzCommandCalls config wire reply calls).2 = wire) := by
  cases hdry : config.ptzDryRun with
  | true =>
    rw [writePtzCommandCalls, if_pos hdry] at h
    exact Or.inl (Option.some.inj h).symm
  | false =>
    cases hopen : reply.openFailure with
    | some reason =>
      rw [writePtzCommandCalls_of_openFailure hdry hopen] at h ⊢
      exact Or.inr ⟨rfl, .open, reason, (Option.some.inj h).symm,
        iff_of_false (by decide) hwire.symm⟩
    | none =>
      rw [writePtzCommandCalls_of_open hdry hopen, WriteReply.returned] at h
      rw [writePtzCommandCalls_of_open hdry hopen, taken_eq_iff]
      cases hfailure : (reply.loop calls).failure with
      | some reason =>
        rw [hfailure] at h
        exact Or.inr ⟨rfl, .write, reason, (Option.some.inj h).symm, by simp⟩
      | none =>
        rw [hfailure] at h
        dsimp only at h
        split_ifs at h with hremaining
        cases hclose : reply.closeFailure with
        | some reason =>
          rw [hclose] at h
          exact Or.inr ⟨rfl, .close, reason, (Option.some.inj h).symm,
            iff_of_true rfl ⟨rfl, Nat.eq_zero_of_not_pos hremaining⟩⟩
        | none =>
          rw [hclose] at h
          exact Or.inl (Option.some.inj h).symm

/-- Where the function returns, it has returned for good, and it is the function of `Ptz.Device` for
some outcome: the error is the same, and the attempt is recorded as taken exactly when the device
has all bytes of the command.  The outcome is that of success exactly when the device was opened,
has all bytes and was closed. -/
theorem writePtzCommandCalls_refines {command : Command} {reply : WriteReply command.wire}
    {calls : ℕ} {error : Bytes}
    (h : (writePtzCommandCalls config command.wire reply calls).1 = some error) :
    (∀ later, calls ≤ later → writePtzCommandCalls config command.wire reply later =
      writePtzCommandCalls config command.wire reply calls) ∧
    ∃ outcome, (∀ origin s, (writePtzCommandUnlocked config origin command outcome s).1 = error) ∧
      (config.ptzDryRun = false →
        (∀ origin s, (writePtzCommandUnlocked config origin command outcome s).2.attempts =
          s.attempts ++ [⟨origin, command,
            (writePtzCommandCalls config command.wire reply calls).2 = command.wire⟩]) ∧
        (outcome = .accepted ↔
          (writePtzCommandCalls config command.wire reply calls).2 = command.wire ∧
            reply.openFailure = none ∧ reply.closeFailure = none)) := by
  refine ⟨fun later hle => writePtzCommandCalls_of_le hle h, ?_⟩
  rcases error_cases (wire_ne_nil command) h with rfl | ⟨hdry, call, reason, rfl, hclose⟩
  · refine ⟨.accepted, fun origin s => ?_, fun hdry => ⟨fun origin s => ?_, ?_⟩⟩
    · exact (writePtzCommandUnlocked_spec ..).2.mpr (by simp [succeeds])
    · have hall := (error_eq_nil_iff hdry reply calls).mp h
      rw [(writePtzCommandUnlocked_spec ..).1, decide_eq_true hall.1, accepts, WriteOutcome.taken,
        Bool.or_true]
    · exact iff_of_true rfl ((error_eq_nil_iff hdry reply calls).mp h)
  · refine ⟨.failed call reason, fun origin s => ?_, fun _ => ⟨fun origin s => ?_, ?_⟩⟩
    · rw [writePtzCommandUnlocked, if_neg (by simp [hdry])]
    · rw [(writePtzCommandUnlocked_spec ..).1, accepts, WriteOutcome.taken, hdry, Bool.false_or,
        decide_eq_decide.mpr hclose]
    · refine iff_of_false (by simp) fun hall => ?_
      have hnil := (error_eq_nil_iff hdry reply calls).mpr hall
      rw [h] at hnil
      exact deviceError_ne_nil config call reason (Option.some.inj hnil)

/-! ### Stalls -/

/-- The counts of the first `write`s together. -/
def WriteReply.total (reply : WriteReply wire) (calls : ℕ) : ℕ :=
  ∑ n ∈ Finset.range calls, (reply.writes n).count

/-- The device was opened, no `write` fails, and from some one on each takes nothing although bytes
remain. -/
def WriteReply.Stalls (reply : WriteReply wire) : Prop :=
  reply.openFailure = none ∧ (∀ n reason, reply.writes n ≠ .failed reason) ∧
    ∃ calls, reply.total calls < wire.length ∧ ∀ n, calls ≤ n → reply.writes n = .written 0

theorem total_succ (reply : WriteReply wire) (calls : ℕ) :
    reply.total (calls + 1) = reply.total calls + (reply.writes calls).count :=
  Finset.sum_range_succ _ _

/-- While the loop goes on, the pointer has moved by the counts. -/
theorem data_loop (reply : WriteReply wire) {calls : ℕ}
    (h : (writeLoop wire).goesOn (reply.loop calls) = true) :
    (reply.loop calls).data = reply.total calls := by
  induction calls with
  | zero => rfl
  | succ n ih =>
    have hgoes : (writeLoop wire).goesOn (reply.loop n) = true :=
      Loop.goesOn_of_le h (Nat.le_succ n)
    rw [total_succ, ← ih hgoes, loop_succ hgoes]
    cases hresult : reply.writes n with
    | written count => rfl
    | failed reason =>
      rw [loop_succ hgoes, hresult] at h
      cases h

/-- In the loop, the device has as many bytes as it has reported. -/
theorem taken_of_none (hdry : config.ptzDryRun = false) {calls : ℕ}
    (h : (writePtzCommandCalls config wire reply calls).1 = none) :
    (writePtzCommandCalls config wire reply calls).2 = wire.take (reply.total calls) := by
  cases hopen : reply.openFailure with
  | some reason =>
    rw [writePtzCommandCalls_of_openFailure hdry hopen] at h
    cases h
  | none =>
    rw [writePtzCommandCalls_of_open hdry hopen] at h ⊢
    have hgoes := (returned_eq_none_iff config reply _).mp h
    rw [← data_loop reply hgoes]
    exact (inStep_loop reply calls).taken

/-- A device that stalls takes no more than it has at that time. -/
theorem total_lt_of_stalls (h : reply.Stalls) (calls : ℕ) : reply.total calls < wire.length := by
  obtain ⟨-, -, first, hfirst, hzero⟩ := h
  rcases le_total calls first with hle | hle
  · refine lt_of_le_of_lt ?_ hfirst
    exact Finset.sum_le_sum_of_subset (Finset.range_mono hle)
  · have hsame : reply.total calls = reply.total first := by
      induction calls, hle using Nat.le_induction with
      | base => rfl
      | succ n hn ih =>
        rw [total_succ, ih, hzero n hn]
        rfl
    rwa [hsame]

/-- The loop goes on forever when the device stalls. -/
theorem goesOn_of_stalls (h : reply.Stalls) (calls : ℕ) :
    (writeLoop wire).goesOn (reply.loop calls) = true := by
  induction calls with
  | zero => exact goesOn_writeLoop.mpr ⟨rfl, Nat.zero_lt_of_lt (total_lt_of_stalls h 0)⟩
  | succ n ih =>
    have hsize := (inStep_loop reply (n + 1)).size
    cases hresult : reply.writes n with
    | failed reason => exact absurd hresult (h.2.1 n reason)
    | written count =>
      have hdata : (reply.loop (n + 1)).data = reply.total (n + 1) := by
        rw [total_succ, ← data_loop reply ih, loop_succ ih, hresult]
        rfl
      have hlt := total_lt_of_stalls h (n + 1)
      refine goesOn_writeLoop.mpr ⟨?_, by omega⟩
      rw [loop_succ ih, hresult]
      exact (goesOn_writeLoop.mp ih).1

theorem writePtzCommandCalls_of_stalls (hdry : config.ptzDryRun = false) (h : reply.Stalls)
    (calls : ℕ) : (writePtzCommandCalls config wire reply calls).1 = none := by
  rw [writePtzCommandCalls_of_open hdry h.1]
  exact (returned_eq_none_iff config reply _).mpr (goesOn_of_stalls h calls)

/-- A loop that goes on forever has a device that stalls. -/
theorem ends_or_stalls (hopen : reply.openFailure = none) :
    (∃ calls, (writeLoop wire).goesOn (reply.loop calls) = false) ∨ reply.Stalls := by
  have hcases : (∃ calls, (writeLoop wire).goesOn (reply.loop calls) = false) ∨
      (∀ n, (writeLoop wire).goesOn (reply.loop n) = true) ∧
        ∃ k, ∀ n, k ≤ n → (reply.loop k).remaining = (reply.loop n).remaining := by
    refine Loop.ends_or_stalls WriteLoop.remaining fun n _ => ?_
    cases hresult : reply.writes n with
    | failed reason => exact le_rfl
    | written count => exact Nat.sub_le _ _
  refine hcases.imp_right fun ⟨hgoes, k, hsame⟩ => ?_
  have hwritten : ∀ n reason, reply.writes n ≠ .failed reason := by
    intro n reason hresult
    have h := hgoes (n + 1)
    rw [loop_succ (hgoes n), hresult] at h
    cases h
  refine ⟨hopen, hwritten, k, ?_, fun n hn => ?_⟩
  · have hsize := (inStep_loop reply k).size
    have hremaining := (goesOn_writeLoop.mp (hgoes k)).2
    rw [← data_loop reply (hgoes k)]
    omega
  · cases hresult : reply.writes n with
    | failed reason => exact absurd hresult (hwritten n reason)
    | written count =>
      -- a count that leaves what remains as it is is 0
      have hbound : count ≤ (reply.loop n).remaining := reply.bounded n count (hgoes n) hresult
      have hstays := (hsame n hn).symm.trans (hsame (n + 1) (Nat.le_succ_of_le hn))
      rw [loop_succ (hgoes n), hresult] at hstays
      have hsub : (reply.loop n).remaining = (reply.loop n).remaining - count := hstays
      obtain rfl : count = 0 := by omega
      rfl

/-! ### The writing of a command -/

/-- What the function promises: it returns; at any time the device has taken the first bytes of the
wire string, and in the loop these are as many as the `write`s have reported; and the error is empty
exactly when the device has all bytes and was opened and closed. -/
structure WritesOut (config : Config) (reply : WriteReply wire) : Prop where
  returns : ∃ calls error, (writePtzCommandCalls config wire reply calls).1 = some error
  inOrder : ∀ calls, (writePtzCommandCalls config wire reply calls).2 <+: wire
  counted : ∀ calls, (writePtzCommandCalls config wire reply calls).1 = none →
    (writePtzCommandCalls config wire reply calls).2 = wire.take (reply.total calls)
  error_iff : ∀ calls, (writePtzCommandCalls config wire reply calls).1 = some [] ↔
    (writePtzCommandCalls config wire reply calls).2 = wire ∧
      reply.openFailure = none ∧ reply.closeFailure = none

/-- **The writing of a command**: outside the dry-run mode and for every wire string and all results
of the calls, the function keeps its promise unless the device stalls. -/
theorem writesOut_iff (hdry : config.ptzDryRun = false) (reply : WriteReply wire) :
    WritesOut config reply ↔ ¬reply.Stalls := by
  constructor
  · rintro ⟨⟨calls, error, hreturns⟩, -, -, -⟩ hstalls
    rw [writePtzCommandCalls_of_stalls hdry hstalls] at hreturns
    cases hreturns
  · intro hstalls
    refine ⟨?_, taken_prefix reply, fun _ => taken_of_none hdry, error_eq_nil_iff hdry reply⟩
    cases hopen : reply.openFailure with
    | some reason =>
      refine ⟨0, deviceError config .open reason, ?_⟩
      rw [writePtzCommandCalls_of_openFailure hdry hopen]
    | none =>
      obtain ⟨calls, hended⟩ := (ends_or_stalls hopen).resolve_right hstalls
      have hsome : reply.returned config (reply.loop calls) ≠ none := by
        rw [Ne, returned_eq_none_iff, hended]
        simp
      obtain ⟨error, herror⟩ := Option.ne_none_iff_exists'.mp hsome
      refine ⟨calls, error, ?_⟩
      rw [writePtzCommandCalls_of_open hdry hopen]
      exact herror

/-- A device that takes `stop` in two pieces, with nothing in between. -/
def shortReply : WriteReply (bytes "stop\n") where
  writes n := (([2, 0, 3].map WriteResult.written)[n]?).getD (.written 0)
  bounded calls count _ h := by
    rcases calls with _ | _ | _ | n <;> cases h
    · decide
    · decide
    · decide
    · exact Nat.zero_le _

theorem writesOut_iff_short : WritesOut {} shortReply := by
  refine (writesOut_iff rfl shortReply).mpr ?_
  rintro ⟨-, -, first, htotal, hzero⟩
  have hthird : ¬first ≤ 2 := fun hle => by cases hzero 2 hle
  have hle : shortReply.total 3 ≤ shortReply.total first :=
    Finset.sum_le_sum_of_subset (Finset.range_mono (by omega))
  have hall : shortReply.total 3 = 5 := by decide
  have hlength : (bytes "stop\n").length = 5 := by decide
  omega

/-- A device that takes nothing. -/
def idleReply (wire : Bytes) : WriteReply wire where
  writes _ := .written 0
  bounded calls count _ h := by
    obtain rfl := WriteResult.written.inj h
    exact Nat.zero_le _

/-- The function does not return from it. -/
theorem not_writesOut_idle : ¬WritesOut {} (idleReply (bytes "stop\n")) := by
  rintro ⟨⟨calls, error, hreturns⟩, -, -, -⟩
  have hstalls : (idleReply (bytes "stop\n")).Stalls := by
    refine ⟨rfl, fun n reason h => ?_, 0, by decide, fun n _ => rfl⟩
    cases h
  rw [writePtzCommandCalls_of_stalls rfl hstalls] at hreturns
  cases hreturns

end Afterveda.Ptz
