import Mathlib.Data.List.Nodup
import Mathlib.Data.List.TakeDrop

/-!
# Checking each element against those before it

`scan check` collects what a check reports of each element of a list, given everything before it.
-/

namespace Scan

variable {α ε : Type*} (check : List α → α → List ε)

/-- What `check` reports of each element of `rest`, given `before` and the elements in between. -/
def scan : List α → List α → List ε
  | _, [] => []
  | before, a :: rest => check before a ++ scan (before ++ [a]) rest

variable {check} {before rest : List α}

theorem mem_scan {e : ε} :
    e ∈ scan check before rest ↔
      ∃ i a, rest[i]? = some a ∧ e ∈ check (before ++ rest.take i) a := by
  induction rest generalizing before with
  | nil => simp [scan]
  | cons a rest ih =>
    rw [scan, List.mem_append, ih]
    constructor
    · rintro (h | ⟨i, b, hb, h⟩)
      · exact ⟨0, a, rfl, by simpa using h⟩
      · exact ⟨i + 1, b, by simpa using hb, by simpa using h⟩
    · rintro ⟨_ | i, b, hb, h⟩
      · obtain rfl : a = b := by simpa using hb
        exact .inl (by simpa using h)
      · exact .inr ⟨i, b, by simpa using hb, by simpa using h⟩

/-- When the reports of a check say which position they are about, and those about one position
differ, all reports differ. -/
theorem nodup_scan (position : ε → ℕ) (hnodup : ∀ before a, (check before a).Nodup)
    (hpos : ∀ before a, ∀ e ∈ check before a, position e = before.length) :
    (scan check before rest).Nodup := by
  induction rest generalizing before with
  | nil => exact List.nodup_nil
  | cons a rest ih =>
    rw [scan, List.nodup_append]
    refine ⟨hnodup before a, ih, fun e he e' he' heq => ?_⟩
    obtain ⟨i, b, -, hb⟩ := mem_scan.1 he'
    have hlt := hpos _ _ _ hb
    rw [← heq, hpos _ _ _ he, List.length_append, List.length_append] at hlt
    simp only [List.length_cons, List.length_nil] at hlt
    omega

end Scan
