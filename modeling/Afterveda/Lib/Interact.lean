import Afterveda.Lib.Machine

/-!
# Programs that make calls

A `Prog C R ε α` is a computation that makes calls of the type `C`, gets an answer of the type `R c`
to each, and ends with a value or with an error.  `run` plays a program against a server, one call
after the other; the rules `run_bind`, `run_call` and so on take a run apart.  A program that makes
no call (`run_ofExcept`) leaves every server as it is.

`AllCalls` says which calls a program can make at all, and `Commits` that it makes at most one call
of a second kind, as its last; `Commits.run_cases` and `Commits.run_congr` are what follows for a
run.
-/

/-- A computation that makes calls and ends with a value or an error. -/
inductive Prog (C : Type) (R : C → Type) (ε α : Type)
  | done (a : α)
  | fail (e : ε)
  | call (c : C) (k : R c → Prog C R ε α)

namespace Prog

variable {C : Type} {R : C → Type} {ε α β σ : Type}

/-- One computation after another. -/
def bind : Prog C R ε α → (α → Prog C R ε β) → Prog C R ε β
  | done a, f => f a
  | fail e, _ => fail e
  | call c k, f => call c fun r => (k r).bind f

instance : Monad (Prog C R ε) where
  pure := done
  bind := bind

theorem bind_assoc (p : Prog C R ε α) (f : α → Prog C R ε β) {γ : Type} (g : β → Prog C R ε γ) :
    p >>= f >>= g = p >>= fun a => f a >>= g := by
  show (p.bind f).bind g = p.bind fun a => (f a).bind g
  induction p with
  | done a => rfl
  | fail e => rfl
  | call c k ih => exact congrArg (call c) (funext ih)

/-- A single call. -/
def perform (c : C) : Prog C R ε (R c) := call c done

/-- A computation without calls. -/
def ofExcept : Except ε α → Prog C R ε α
  | .ok a => done a
  | .error e => fail e

/-- The result of a program served by `serve`, and the server's state after it. -/
def run (serve : (c : C) → σ → R c × σ) : Prog C R ε α → σ → Except ε α × σ
  | done a, s => (.ok a, s)
  | fail e, s => (.error e, s)
  | call c k, s => (k (serve c s).1).run serve (serve c s).2

variable (serve : (c : C) → σ → R c × σ) (s : σ)

theorem run_call (c : C) (k : R c → Prog C R ε α) :
    (call c k).run serve s = (k (serve c s).1).run serve (serve c s).2 := rfl

@[simp] theorem run_ofExcept (x : Except ε α) :
    (ofExcept x : Prog C R ε α).run serve s = (x, s) := by
  cases x <;> rfl

/-- A run of two computations goes on from the state the first one leaves, unless it failed. -/
@[simp] theorem run_bind (p : Prog C R ε α) (f : α → Prog C R ε β) :
    (p >>= f).run serve s =
      match p.run serve s with
      | (.ok a, t) => (f a).run serve t
      | (.error e, t) => (.error e, t) := by
  show (p.bind f).run serve s = _
  induction p generalizing s with
  | done a => rfl
  | fail e => rfl
  | call c k ih => exact ih _ _

/-- Two computations that give a value: the first gives one, and the second goes on with it. -/
theorem exists_of_run_bind_eq_ok {p : Prog C R ε α} {f : α → Prog C R ε β} {serve} {s t : σ} {b : β}
    (h : (p >>= f).run serve s = (.ok b, t)) :
    ∃ a u, p.run serve s = (.ok a, u) ∧ (f a).run serve u = (.ok b, t) := by
  rw [run_bind] at h
  cases hp : p.run serve s with
  | mk result u =>
    rw [hp] at h
    cases result with
    | error e => cases h
    | ok a => exact ⟨a, u, rfl, h⟩

/-- What every answered call keeps holds after a run. -/
theorem run_keeps {I : σ → Prop} {serve} (hkeep : ∀ c s, I s → I (serve c s).2)
    (p : Prog C R ε α) {s : σ} (hs : I s) : I (p.run serve s).2 := by
  induction p generalizing s with
  | done a => exact hs
  | fail e => exact hs
  | call c k ih => exact ih _ (hkeep c s hs)

theorem ofExcept_error_bind (e : ε) (f : α → Prog C R ε β) :
    (ofExcept (.error e) >>= f : Prog C R ε β) = fail e := rfl

/-! ### Which calls -/

/-- Every call that a program makes satisfies `P`, whatever it is answered. -/
def AllCalls (P : C → Prop) : Prog C R ε α → Prop
  | done _ => True
  | fail _ => True
  | call c k => P c ∧ ∀ r, (k r).AllCalls P

section Calls

variable {P Q : C → Prop} {succeeds : (c : C) → R c → Prop} {silent : Prop}

theorem allCalls_ofExcept (x : Except ε α) : (ofExcept x : Prog C R ε α).AllCalls P := by
  cases x <;> trivial

theorem allCalls_perform {c : C} (h : P c) : (perform c : Prog C R ε (R c)).AllCalls P :=
  ⟨h, fun _ => trivial⟩

theorem allCalls_bind {p : Prog C R ε α} {f : α → Prog C R ε β} (hp : p.AllCalls P)
    (hf : ∀ a, (f a).AllCalls P) : (p >>= f).AllCalls P := by
  show (p.bind f).AllCalls P
  induction p with
  | done a => exact hf a
  | fail e => trivial
  | call c k ih => exact ⟨hp.1, fun r => ih r (hp.2 r)⟩

/-- What the calls of a program do not touch is the same after it. -/
theorem AllCalls.frame {γ : Type} (view : σ → γ) {p : Prog C R ε α} (h : p.AllCalls P) {serve}
    (hframe : ∀ c s, P c → view (serve c s).2 = view s) (s : σ) :
    view (p.run serve s).2 = view s := by
  induction p generalizing s with
  | done a => rfl
  | fail e => rfl
  | call c k ih => exact (ih _ (h.2 _) _).trans (hframe c s h.1)

variable (P Q succeeds silent) in
/-- A program that makes calls of `P`, and at most one call of `Q`, which is its last and decides
how the program ends.  Only a `silent` one gives a value without that call. -/
inductive Commits : Prog C R ε α → Prop
  | done (a : α) (h : silent) : Commits (done a)
  | fail (e : ε) : Commits (fail e)
  | quiet {c : C} {k : R c → Prog C R ε α} (hc : P c) (hk : ∀ r, Commits (k r)) : Commits (call c k)
  | last {c : C} {k : R c → Prog C R ε α} (hc : Q c)
      (hk : ∀ r, (succeeds c r ∧ ∃ a, k r = .done a) ∨ (¬succeeds c r ∧ ∃ e, k r = .fail e)) :
      Commits (call c k)

/-- Quiet calls before a program that commits. -/
theorem AllCalls.bind_commits {p : Prog C R ε α} {f : α → Prog C R ε β} (hp : p.AllCalls P)
    (hf : ∀ a, (f a).Commits P Q succeeds silent) : (p >>= f).Commits P Q succeeds silent := by
  show (p.bind f).Commits P Q succeeds silent
  induction p with
  | done a => exact hf a
  | fail e => exact .fail e
  | call c k ih => exact .quiet hp.1 fun r => ih r (hp.2 r)

theorem AllCalls.commits {p : Prog C R ε α} (hp : p.AllCalls P) (h : silent) :
    p.Commits P Q succeeds silent := by
  induction p with
  | done a => exact .done a h
  | fail e => exact .fail e
  | call c k ih => exact .quiet hp.1 fun r => ih r (hp.2 r)

/-- The value of a program that commits may be replaced. -/
theorem Commits.bind_pure {p : Prog C R ε α} (hp : p.Commits P Q succeeds silent) (f : α → β) :
    (p >>= fun a => pure (f a)).Commits P Q succeeds silent := by
  show (p.bind fun a => .done (f a)).Commits P Q succeeds silent
  induction hp with
  | done a h => exact .done (f a) h
  | fail e => exact .fail e
  | quiet hc _ ih => exact .quiet hc ih
  | last hc hk =>
    refine .last hc fun r => ?_
    rcases hk r with ⟨hr, a, ha⟩ | ⟨hr, e, he⟩
    · exact Or.inl ⟨hr, f a, by rw [ha]; rfl⟩
    · exact Or.inr ⟨hr, e, by rw [he]; rfl⟩

/-- A run of a program that commits: nothing happened that the quiet calls do not do, or one call of
`Q` was made, in a state that still looks like the first one, and it was the last. -/
theorem Commits.run_cases {γ : Type} (view : σ → γ) {p : Prog C R ε α}
    (h : p.Commits P Q succeeds silent) {serve}
    (hframe : ∀ c s, P c → view (serve c s).2 = view s) (s : σ) :
    (view (p.run serve s).2 = view s ∧ (silent ∨ ∃ e, (p.run serve s).1 = .error e)) ∨
      ∃ c u, Q c ∧ view u = view s ∧ (p.run serve s).2 = (serve c u).2 ∧
        ((∃ a, (p.run serve s).1 = .ok a) ↔ succeeds c (serve c u).1) := by
  induction h generalizing s with
  | done a h => exact Or.inl ⟨rfl, Or.inl h⟩
  | fail e => exact Or.inl ⟨rfl, Or.inr ⟨e, rfl⟩⟩
  | @quiet c k hc _ ih =>
    rw [run_call, ← hframe c s hc]
    exact ih _ _
  | @last c k hc hk =>
    right
    rw [run_call]
    refine ⟨c, s, hc, rfl, ?_⟩
    rcases hk (serve c s).1 with ⟨hr, a, ha⟩ | ⟨hr, e, he⟩
    · rw [ha]
      exact ⟨rfl, iff_of_true ⟨a, rfl⟩ hr⟩
    · rw [he]
      exact ⟨rfl, iff_of_false (fun ⟨a, ha⟩ => nomatch ha) hr⟩

/-- Two servers that answer a program's calls alike run it alike. -/
theorem Commits.run_congr {p : Prog C R ε α} (h : p.Commits P Q succeeds silent)
    {serve serve' : (c : C) → σ → R c × σ}
    (hsame : ∀ c s, P c ∨ Q c → serve c s = serve' c s) (s : σ) :
    p.run serve s = p.run serve' s := by
  induction h generalizing s with
  | done a _ => rfl
  | fail e => rfl
  | @quiet c k hc _ ih =>
    rw [run_call, run_call, hsame c s (Or.inl hc)]
    exact ih _ _
  | @last c k hc hk =>
    rw [run_call, run_call, hsame c s (Or.inr hc)]
    rcases hk (serve' c s).1 with ⟨-, a, ha⟩ | ⟨-, e, he⟩
    · rw [ha]
      rfl
    · rw [he]
      rfl

end Calls

end Prog
