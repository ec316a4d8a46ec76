import Mathlib.Data.List.TakeWhile
import Mathlib.Tactic.SplitIfs

/-!
# Ordered tables

A `std::map` whose values hold their own keys is the list of its values in the order of the keys.
`update` is an assignment through `operator[]`: the value under a key is changed where there is one,
and otherwise made and put in its place.  `mem_update_iff` says what a table then holds, and
`Sorted.update` that it keeps its order, so that no key stands twice in it.
-/

namespace OrderedTable

variable {α κ : Type} [LT κ] [DecidableLT κ] [DecidableEq κ] {key : α → κ} {k : κ}
  {change : Option α → α} {x : α} {table : List α}

/-- The value under a key. -/
def lookup (key : α → κ) (k : κ) (table : List α) : Option α := table.find? fun x => key x = k

/-- `table[k]` changed, with what stands under the key, if anything does. -/
def update (key : α → κ) (k : κ) (change : Option α → α) : List α → List α
  | [] => [change none]
  | x :: rest =>
    if key x = k then change (some x) :: rest
    else if k < key x then change none :: x :: rest
    else x :: update key k change rest

/-- The keys rise from each value to the next. -/
def Sorted (key : α → κ) (table : List α) : Prop := table.Pairwise (key · < key ·)

omit [DecidableLT κ] [DecidableEq κ] in
theorem Sorted.nodup [Std.Irrefl (α := κ) (· < ·)] (h : Sorted key table) :
    (table.map key).Nodup := by
  refine List.Pairwise.map key (fun a b hab heq => ?_) h
  rw [heq] at hab
  exact Std.Irrefl.irrefl _ hab

omit [DecidableLT κ] [DecidableEq κ] in
/-- The key of the first value is no other's. -/
theorem Sorted.ne_head [Std.Irrefl (α := κ) (· < ·)] {y : α} (h : Sorted key (y :: table)) :
    ∀ x ∈ table, key x ≠ key y := by
  intro x hx heq
  have hyx := List.rel_of_pairwise_cons h hx
  rw [heq] at hyx
  exact Std.Irrefl.irrefl _ hyx

omit [LT κ] [DecidableLT κ] in
theorem lookup_eq_none_iff : lookup key k table = none ↔ ∀ x ∈ table, key x ≠ k := by
  simp [lookup]

omit [LT κ] [DecidableLT κ] in
theorem lookup_eq_some (h : lookup key k table = some x) : x ∈ table ∧ key x = k :=
  ⟨List.mem_of_find?_eq_some h, by simpa using List.find?_some h⟩

section Order

variable [Std.Irrefl (α := κ) (· < ·)] [Trans (α := κ) (· < ·) (· < ·) (· < ·)]

omit [DecidableLT κ] [DecidableEq κ] in
/-- A key below that of the first value is in the table nowhere. -/
theorem Sorted.ne_of_lt {y : α} (h : Sorted key (y :: table)) (hlt : k < key y) :
    ∀ x ∈ y :: table, key x ≠ k := by
  intro x hx heq
  have hk : k < key x := by
    rcases List.mem_cons.mp hx with rfl | hmem
    · exact hlt
    · exact Trans.trans hlt (List.rel_of_pairwise_cons h hmem)
  rw [heq] at hk
  exact Std.Irrefl.irrefl _ hk

/-- After an update, the table holds the changed value and what stood under other keys. -/
theorem mem_update_iff (h : Sorted key table) : x ∈ update key k change table ↔
    x = change (lookup key k table) ∨ x ∈ table ∧ key x ≠ k := by
  induction table with
  | nil => simp [update, lookup]
  | cons y rest ih =>
    have hrest : Sorted key rest := h.of_cons
    rw [update]
    split_ifs with heq hlt
    · have hne : ∀ z ∈ rest, key z ≠ k := heq ▸ h.ne_head
      have hfound : lookup key k (y :: rest) = some y := by simp [lookup, heq]
      rw [hfound, List.mem_cons]
      refine or_congr_right ⟨fun hx => ⟨List.mem_cons_of_mem _ hx, hne x hx⟩, ?_⟩
      rintro ⟨hx, hxk⟩
      rcases List.mem_cons.mp hx with rfl | hx
      · exact absurd heq hxk
      · exact hx
    · have hne := h.ne_of_lt hlt
      rw [lookup_eq_none_iff.mpr hne, List.mem_cons]
      exact or_congr_right ⟨fun hx => ⟨hx, hne x hx⟩, And.left⟩
    · have hnext : lookup key k (y :: rest) = lookup key k rest := by simp [lookup, heq]
      rw [List.mem_cons, ih hrest, hnext, List.mem_cons]
      constructor
      · rintro (rfl | hx | ⟨hx, hxk⟩)
        · exact Or.inr ⟨Or.inl rfl, heq⟩
        · exact Or.inl hx
        · exact Or.inr ⟨Or.inr hx, hxk⟩
      · rintro (hx | ⟨rfl | hx, hxk⟩)
        · exact Or.inr (Or.inl hx)
        · exact Or.inl rfl
        · exact Or.inr (Or.inr ⟨hx, hxk⟩)

/-- An update adds its key, if it is not there, and no other. -/
theorem mem_keys_update (h : Sorted key table) (hk : ∀ old, key (change old) = k) (j : κ) :
    j ∈ (update key k change table).map key ↔ j = k ∨ j ∈ table.map key := by
  simp only [List.mem_map, mem_update_iff h]
  constructor
  · rintro ⟨x, rfl | ⟨hx, -⟩, rfl⟩
    · exact Or.inl (hk _)
    · exact Or.inr ⟨x, hx, rfl⟩
  · rintro (rfl | ⟨x, hx, rfl⟩)
    · exact ⟨_, Or.inl rfl, hk _⟩
    · by_cases hxk : key x = k
      · exact ⟨_, Or.inl rfl, by rw [hk, hxk]⟩
      · exact ⟨x, Or.inr ⟨hx, hxk⟩, rfl⟩

theorem Sorted.update [Std.Trichotomous (α := κ) (· < ·)] (h : Sorted key table)
    (hk : ∀ old, key (change old) = k) : Sorted key (update key k change table) := by
  induction table with
  | nil => exact List.pairwise_singleton _ _
  | cons y rest ih =>
    have hrest : Sorted key rest := h.of_cons
    rw [OrderedTable.update]
    split_ifs with heq hlt
    · refine List.Pairwise.cons (fun z hz => ?_) hrest
      rw [hk, ← heq]
      exact List.rel_of_pairwise_cons h hz
    · refine List.Pairwise.cons (fun z hz => ?_) h
      rw [hk]
      rcases List.mem_cons.mp hz with rfl | hz
      · exact hlt
      · exact Trans.trans hlt (List.rel_of_pairwise_cons h hz)
    · -- the new key lies above the first one, since it is neither that one nor below it
      have hgt : key y < k := by
        by_contra hge
        exact heq (Std.Trichotomous.trichotomous _ _ hge hlt)
      refine List.Pairwise.cons (fun z hz => ?_) (ih hrest)
      rcases (mem_update_iff hrest).mp hz with rfl | ⟨hz, -⟩
      · rw [hk]
        exact hgt
      · exact List.rel_of_pairwise_cons h hz

end Order

end OrderedTable
