import Mathlib.Algebra.Ring.Nat
import Mathlib.Data.List.Basic

/-!
# State machines and their runs

A `Machine` has initial states and a partial step function: `step s e = none` means that the event
`e` cannot happen in the state `s`.  `Reaches ok es s` says that the events `es`, each allowed by
`ok` in the state it happens in, lead from an initial state to `s`; a run is a list of events of any
length.  `Reaches.invariant` is the one induction over runs, and `reaches_of_run` turns an evaluated
run into a `Reaches`.  How often something happens in a run is bounded by what a measure of the
state loses (`run_amortized`, `run_bounded`).
-/

/-- A state machine: where it may start, and the state an event leads to. -/
structure Machine (σ ε : Type*) where
  /-- The states a run may start in. -/
  init : σ → Prop
  /-- The state after an event, or `none` when the event cannot happen. -/
  step : σ → ε → Option σ

namespace Machine

variable {σ ε : Type*} {M : Machine σ ε} {ok : σ → ε → Prop} {es : List ε} {s t : σ}

/-- The events `es`, each allowed by `ok` in the state it happens in, lead from an initial state to
`s`. -/
inductive Reaches (M : Machine σ ε) (ok : σ → ε → Prop) : List ε → σ → Prop
  | start {s : σ} (hs : M.init s) : Reaches M ok [] s
  | next {es : List ε} {s t : σ} {e : ε} (h : Reaches M ok es s) (hok : ok s e)
      (hstep : M.step s e = some t) : Reaches M ok (es ++ [e]) t

/-- The condition that allows every event. -/
def anyStep : σ → ε → Prop := fun _ _ => True

/-- What holds at the start and is kept by every allowed step holds in every state reached. -/
theorem Reaches.invariant {I : σ → Prop} (h : M.Reaches ok es s) (hinit : ∀ s, M.init s → I s)
    (hkeep : ∀ s e t, I s → ok s e → M.step s e = some t → I t) : I s := by
  induction h with
  | start hs => exact hinit _ hs
  | next _ hok hstep ih => exact hkeep _ _ _ ih hok hstep

/-- A condition on events alone holds of every event of a run that keeps to it. -/
theorem Reaches.forall_mem {P : ε → Prop} (h : M.Reaches (fun _ e => P e) es s) :
    ∀ e ∈ es, P e := by
  induction h with
  | start _ => exact fun e he => absurd he List.not_mem_nil
  | next _ hok _ ih =>
    intro e he
    rcases List.mem_append.mp he with he | he
    · exact ih e he
    · obtain rfl := List.mem_singleton.mp he
      exact hok

/-- When `ok` decides, step by step, whether `P` goes on to hold, `P` holds in every run of allowed
steps and the first step that is not allowed ends it.  `I` is an invariant of all steps. -/
theorem Reaches.exact {I P : σ → Prop} (h : M.Reaches ok es s) (hinit : ∀ s, M.init s → I s ∧ P s)
    (hkeep : ∀ s e t, I s → M.step s e = some t → I t)
    (hstep : ∀ s e t, I s → P s → M.step s e = some t → (P t ↔ ok s e)) :
    P s ∧ ∀ e t, M.step s e = some t → (P t ↔ ok s e) := by
  have hboth : I s ∧ P s := by
    refine h.invariant (I := fun s => I s ∧ P s) hinit ?_
    intro s e t ⟨hI, hP⟩ hok hst
    exact ⟨hkeep s e t hI hst, (hstep s e t hI hP hst).mpr hok⟩
  exact ⟨hboth.2, fun e t hst => hstep s e t hboth.1 hboth.2 hst⟩

/-- When every allowed step shows as a step of the machine `A`, or as none, every run of allowed
steps shows as a run of `A`. -/
theorem Reaches.simulates {τ δ : Type*} {A : Machine τ δ} (abs : σ → τ) (visible : ε → Option δ)
    {I : σ → Prop} (h : M.Reaches ok es s) (hinit : ∀ s, M.init s → I s ∧ A.init (abs s))
    (hkeep : ∀ s e t, I s → ok s e → M.step s e = some t → I t)
    (hseen : ∀ s e t d, I s → ok s e → M.step s e = some t → visible e = some d →
      A.step (abs s) d = some (abs t))
    (hunseen : ∀ s e t, I s → ok s e → M.step s e = some t → visible e = none → abs t = abs s) :
    I s ∧ A.Reaches anyStep (es.filterMap visible) (abs s) := by
  induction h with
  | start hs => exact ⟨(hinit _ hs).1, .start (hinit _ hs).2⟩
  | @next es s t e _ hok hstep ih =>
    obtain ⟨hI, hreach⟩ := ih
    refine ⟨hkeep _ _ _ hI hok hstep, ?_⟩
    rw [List.filterMap_append]
    cases hvisible : visible e with
    | none =>
      rw [List.filterMap_cons_none hvisible, List.filterMap_nil, List.append_nil,
        hunseen _ _ _ hI hok hstep hvisible]
      exact hreach
    | some d =>
      rw [List.filterMap_cons_some hvisible, List.filterMap_nil]
      exact .next hreach trivial (hseen _ _ _ _ hI hok hstep hvisible)

/-- The state the events lead to from `s`, or `none` when one of them cannot happen. -/
def run (M : Machine σ ε) : σ → List ε → Option σ
  | s, [] => some s
  | s, e :: es => (M.step s e).bind fun t => M.run t es

theorem run_cons (e : ε) : M.run s (e :: es) = (M.step s e).bind fun t => M.run t es := rfl

theorem run_append (es' : List ε) :
    M.run s (es ++ es') = (M.run s es).bind fun t => M.run t es' := by
  induction es generalizing s with
  | nil => rfl
  | cons e es ih =>
    rw [List.cons_append, run_cons, run_cons]
    cases M.step s e with
    | none => rfl
    | some t => exact ih

/-- Two evaluated runs, one after the other. -/
theorem run_append_of_eq {es' : List ε} {u : σ} (h : M.run s es = some t)
    (h' : M.run t es' = some u) : M.run s (es ++ es') = some u := by
  rw [run_append, h, Option.bind_some, h']

/-- Every event is allowed in the state it happens in. -/
def Allows (M : Machine σ ε) (ok : σ → ε → Prop) : σ → List ε → Prop
  | _, [] => True
  | s, e :: es => ok s e ∧ ∀ t ∈ M.step s e, M.Allows ok t es

instance decidableAllows [∀ s e, Decidable (ok s e)] : ∀ s es, Decidable (M.Allows ok s es)
  | _, [] => .isTrue trivial
  | s, e :: es =>
    have : ∀ t, Decidable (M.Allows ok t es) := fun t => decidableAllows t es
    inferInstanceAs (Decidable (ok s e ∧ ∀ t ∈ M.step s e, M.Allows ok t es))

theorem allows_anyStep : M.Allows anyStep s es := by
  induction es generalizing s with
  | nil => trivial
  | cons e es ih => exact ⟨trivial, fun t _ => ih⟩

/-- What every allowed step keeps still holds after allowed events. -/
theorem Allows.keeps {I : σ → Prop} (hok : M.Allows ok s es) (hI : I s)
    (hkeep : ∀ s e t, I s → ok s e → M.step s e = some t → I t) (hrun : M.run s es = some t) :
    I t := by
  induction es generalizing s with
  | nil =>
    obtain rfl := Option.some.inj hrun
    exact hI
  | cons e es ih =>
    rw [run_cons, Option.bind_eq_some_iff] at hrun
    obtain ⟨u, hstep, hrun⟩ := hrun
    exact ih (hok.2 u hstep) (hkeep s e u hI hok.1 hstep) hrun

/-- An amortised bound: when every counted step out of a state of `I` is paid from the potential and
from what the event brings, the counted steps of a run of any length are. -/
theorem run_amortized {I : σ → Prop} {φ : σ → ℕ} {counted : ε → Bool} {brings : ε → ℕ}
    (hkeep : ∀ s e t, I s → M.step s e = some t → I t)
    (hpay : ∀ s e t, I s → M.step s e = some t →
      (if counted e then 1 else 0) + φ t ≤ φ s + brings e)
    (hI : I s) (hrun : M.run s es = some t) :
    es.countP counted + φ t ≤ φ s + (es.map brings).sum := by
  induction es generalizing s with
  | nil =>
    obtain rfl := Option.some.inj hrun
    simp
  | cons e es ih =>
    rw [run_cons, Option.bind_eq_some_iff] at hrun
    obtain ⟨u, hstep, hrun⟩ := hrun
    have hfirst := hpay s e u hI hstep
    have hrest := ih (hkeep s e u hI hstep) hrun
    rw [List.countP_cons, List.map_cons, List.sum_cons]
    omega

/-- Evaluated events that are allowed carry a run on. -/
theorem Reaches.append_run {es' : List ε} (h : M.Reaches ok es s) (hok : M.Allows ok s es')
    (hrun : M.run s es' = some t) : M.Reaches ok (es ++ es') t := by
  induction es' generalizing es s with
  | nil =>
    obtain rfl := Option.some.inj hrun
    rwa [List.append_nil]
  | cons e es' ih =>
    rw [run_cons, Option.bind_eq_some_iff] at hrun
    obtain ⟨u, hstep, hrun⟩ := hrun
    have hnext := ih (.next h hok.1 hstep) (hok.2 u hstep) hrun
    rwa [List.append_assoc] at hnext

/-- A run that evaluates from an initial state is a run. -/
theorem reaches_of_run (hs : M.init s) (hrun : M.run s es = some t) : M.Reaches anyStep es t :=
  Reaches.append_run (.start hs) allows_anyStep hrun

/-- When the allowed events evaluate from an initial state, some run ends in what was evaluated. -/
theorem exists_reaches {α : Type*} {f : σ → α} {a : α} (hs : M.init s) (hok : M.Allows ok s es)
    (hend : (M.run s es).map f = some a) : ∃ t, M.Reaches ok es t ∧ f t = a := by
  obtain ⟨t, hrun, ht⟩ := Option.map_eq_some_iff.mp hend
  exact ⟨t, Reaches.append_run (.start hs) hok hrun, ht⟩

end Machine
