import Mathlib.Order.OrderIsoNat

/-!
# Loops that ask their surroundings

A `Loop` goes on while its condition holds, and each turn of its body takes one answer from outside
(what a system call returns, say).  The answers are a sequence without an end, and
`after answers s n` is where the loop is after `n` turns from `s`; once it has ended it stays where
it is.

`after_invariant` is the one induction over the turns.  `ends_or_stalls` is for loops that promise
nothing about progress: with a measure that no turn raises, a loop ends, or it goes on forever and
from some turn on the measure stays.
-/

/-- A loop: whether it goes on, and one turn of its body with the answer the turn gets. -/
structure Loop (σ α : Type*) where
  /-- The condition at the head of the loop. -/
  goesOn : σ → Bool
  /-- The state a turn leads to. -/
  body : σ → α → σ

namespace Loop

variable {σ α : Type*} {L : Loop σ α} {answers : ℕ → α} {s : σ} {m n : ℕ}

/-- One turn, if there is one. -/
def turn (L : Loop σ α) (s : σ) (answer : α) : σ :=
  if L.goesOn s then L.body s answer else s

/-- The state after so many turns. -/
def after (L : Loop σ α) (answers : ℕ → α) (s : σ) : ℕ → σ
  | 0 => s
  | n + 1 => L.turn (L.after answers s n) (answers n)

@[simp] theorem after_zero : L.after answers s 0 = s := rfl

theorem after_succ (h : L.goesOn (L.after answers s n) = true) :
    L.after answers s (n + 1) = L.body (L.after answers s n) (answers n) := if_pos h

/-- A loop that has ended stays where it is. -/
theorem after_of_ended (h : L.goesOn (L.after answers s m) = false) (hle : m ≤ n) :
    L.after answers s n = L.after answers s m := by
  induction n, hle using Nat.le_induction with
  | base => rfl
  | succ n _ ih => rw [after, ih, turn, if_neg (by simp [h])]

/-- A loop that goes on has gone on before. -/
theorem goesOn_of_le (h : L.goesOn (L.after answers s n) = true) (hle : m ≤ n) :
    L.goesOn (L.after answers s m) = true := by
  by_contra hended
  rw [Bool.not_eq_true] at hended
  rw [after_of_ended hended hle, hended] at h
  cases h

/-- What holds at first and is kept by every turn holds after any number of turns. -/
theorem after_invariant {I : σ → Prop} (hs : I s)
    (hkeep : ∀ n, I (L.after answers s n) → L.goesOn (L.after answers s n) = true →
      I (L.body (L.after answers s n) (answers n))) (n : ℕ) : I (L.after answers s n) := by
  induction n with
  | zero => exact hs
  | succ n ih =>
    cases h : L.goesOn (L.after answers s n) with
    | true =>
      rw [after_succ h]
      exact hkeep n ih h
    | false => rwa [after_of_ended h (Nat.le_succ n)]

/-- A loop whose turns never raise a measure ends, or it goes on forever and from some turn on the
measure stays. -/
theorem ends_or_stalls {β : Type*} [PartialOrder β] [WellFoundedLT β] (measure : σ → β)
    (hle : ∀ n, L.goesOn (L.after answers s n) = true →
      measure (L.body (L.after answers s n) (answers n)) ≤ measure (L.after answers s n)) :
    (∃ n, L.goesOn (L.after answers s n) = false) ∨
      (∀ n, L.goesOn (L.after answers s n) = true) ∧
        ∃ k, ∀ n, k ≤ n → measure (L.after answers s k) = measure (L.after answers s n) := by
  by_cases hended : ∃ n, L.goesOn (L.after answers s n) = false
  · exact Or.inl hended
  · have hgoes : ∀ n, L.goesOn (L.after answers s n) = true := by
      intro n
      by_contra h
      exact hended ⟨n, Bool.eq_false_of_not_eq_true h⟩
    have hanti : Antitone fun n => measure (L.after answers s n) := by
      apply antitone_nat_of_succ_le
      intro n
      rw [after_succ (hgoes n)]
      exact hle n (hgoes n)
    exact Or.inr ⟨hgoes, WellFoundedLT.antitone_chain_condition hanti⟩

end Loop
