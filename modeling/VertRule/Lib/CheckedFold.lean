import VertRule.Lib.Except
import Mathlib.Data.List.Basic

/-!
# Folds that can fail

A fold in `Except` stops at the first element whose step fails.  `foldlM_eq_error` says where a fold
has stopped; `Counts` is about steps that count the elements they pass, up to a budget.
-/

namespace CheckedFold

variable {α σ ε : Type*}

section Stop

variable {step : σ → α → Except ε σ} {l : List α} {s : σ} {e : ε}

/-- A fold fails exactly when a step does, after the steps before it have succeeded. -/
theorem foldlM_eq_error :
    l.foldlM step s = .error e ↔
      ∃ before a after t, l = before ++ a :: after ∧ before.foldlM step s = .ok t ∧
        step t a = .error e := by
  constructor
  · intro h
    induction l generalizing s with
    | nil => cases h
    | cons a l ih =>
      rw [List.foldlM_cons, Except.bind_eq_error] at h
      rcases h with h | ⟨t, ht, h⟩
      · exact ⟨[], a, l, s, rfl, rfl, h⟩
      · obtain ⟨before, b, after, u, rfl, hu, hb⟩ := ih h
        exact ⟨a :: before, b, after, u, rfl, Except.bind_eq_ok.2 ⟨t, ht, hu⟩, hb⟩
  · rintro ⟨before, a, after, t, rfl, ht, h⟩
    rw [List.foldlM_append, ht, Except.ok_bind, List.foldlM_cons, h, Except.error_bind]

end Stop

/-- The steps count the elements they pass, up to `budget`, and pass those that satisfy `test`. -/
def Counts (step : ℕ → α → Except ε ℕ) (budget : ℕ) (test : α → Prop) : Prop :=
  ∀ n a m, step n a = .ok m ↔ m = n + 1 ∧ n + 1 ≤ budget ∧ test a

variable {step : ℕ → α → Except ε ℕ} {budget : ℕ} {test : α → Prop}

/-- **A fold that counts succeeds exactly when every element passes and the budget suffices.** -/
theorem Counts.foldlM_eq_ok (hs : Counts step budget test) {l : List α} {n m : ℕ}
    (hn : n ≤ budget) :
    l.foldlM step n = .ok m ↔ m = n + l.length ∧ n + l.length ≤ budget ∧ ∀ a ∈ l, test a := by
  induction l generalizing n with
  | nil => simp [hn, eq_comm]
  | cons a l ih =>
    rw [List.foldlM_cons, Except.bind_eq_ok, List.length_cons, List.forall_mem_cons]
    constructor
    · rintro ⟨k, hk, h⟩
      obtain ⟨rfl, hle, ha⟩ := (hs n a k).1 hk
      obtain ⟨rfl, hlen, hall⟩ := (ih hle).1 h
      exact ⟨by omega, by omega, ha, hall⟩
    · rintro ⟨rfl, hlen, ha, hall⟩
      have hle : n + 1 ≤ budget := by omega
      exact ⟨n + 1, (hs n a _).2 ⟨rfl, hle, ha⟩, (ih hle).2 ⟨by omega, by omega, hall⟩⟩

end CheckedFold
