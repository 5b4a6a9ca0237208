import Mathlib.Data.List.Basic

/-!
# Registers that keep the last value written

A register of a state is read by `look`, and an operation overwrites it when `written` says so.
After a run it holds the last value written (`Keeps.look_foldl_eq_some`), and operations that do
not write it do not matter (`Keeps.look_foldl_skip`).
-/

namespace Register

variable {σ Op V : Type*} (step : σ → Op → σ) (look : σ → Option V) (written : Op → Option V)

/-- An operation leaves in the register what it writes there, and what was there if it writes
nothing. -/
def Keeps : Prop := ∀ s op, look (step s op) = (written op).or (look s)

/-- `v` is the last value that `ops` write. -/
def LastWritten (ops : List Op) (v : V) : Prop :=
  ∃ before op after, ops = before ++ op :: after ∧ written op = some v ∧
    ∀ op' ∈ after, written op' = none

variable {step look written} {s : σ} {ops : List Op}

theorem Keeps.look_foldl (h : Keeps step look written) :
    look (ops.foldl step s) = (ops.reverse.findSome? written).or (look s) := by
  induction ops generalizing s with
  | nil => rfl
  | cons op ops ih =>
    rw [List.foldl_cons, ih, h, List.reverse_cons, List.findSome?_append, Option.or_assoc]
    cases hw : written op <;> simp [hw]

/-- After a run the register holds the last value written. -/
theorem Keeps.look_foldl_eq_some (h : Keeps step look written) (hs : look s = none) {v : V} :
    look (ops.foldl step s) = some v ↔ LastWritten written ops v := by
  rw [h.look_foldl, hs, Option.or_none, List.findSome?_eq_some_iff]
  constructor
  · rintro ⟨after, op, before, hops, hw, hnone⟩
    refine ⟨before.reverse, op, after.reverse, ?_, hw, fun op' hmem => ?_⟩
    · rw [← List.reverse_inj, hops]
      simp
    · exact hnone op' (List.mem_reverse.1 hmem)
  · rintro ⟨before, op, after, rfl, hw, hnone⟩
    refine ⟨after.reverse, op, before.reverse, by simp, hw, fun op' hmem => ?_⟩
    exact hnone op' (List.mem_reverse.1 hmem)

/-- It is empty after a run that does not write it. -/
theorem Keeps.look_foldl_eq_none (h : Keeps step look written) (hs : look s = none) :
    look (ops.foldl step s) = none ↔ ∀ op ∈ ops, written op = none := by
  simp [h.look_foldl, hs]

/-- An operation that does not write the register might as well not be there. -/
theorem Keeps.look_foldl_skip (h : Keeps step look written) {op : Op} {after : List Op}
    (hw : written op = none) :
    look ((ops ++ op :: after).foldl step s) = look ((ops ++ after).foldl step s) := by
  rw [h.look_foldl, h.look_foldl]
  simp [hw]

end Register
