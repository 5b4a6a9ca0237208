import VertRule.Result

/-!
# Objects with optional members

A serialized record leaves out its absent members.  `present` lists those that are there, and what
it lists determines what is looked up.
-/

namespace VertRule

namespace Json

/-- The members that are present. -/
def present (members : List (String × Option Json)) : List (String × Json) :=
  members.filterMap fun m => m.2.map fun v => (m.1, v)

variable {members rest : List (String × Option Json)} {key : String} {v : Json}

@[simp] theorem present_nil : present [] = [] := rfl

@[simp] theorem present_cons_some :
    present ((key, some v) :: rest) = (key, v) :: present rest := rfl

/-- An optional field is a member. -/
@[simp] theorem present_cons_map {α : Type} {toValue : α → Json} {o : Option α} :
    present ((key, o.map toValue) :: rest) = optField key toValue o ++ present rest := by
  cases o <;> rfl

theorem present_keys_sublist : ((present members).map Prod.fst).Sublist (members.map Prod.fst) := by
  induction members with
  | nil => exact .slnil
  | cons m members ih =>
    obtain ⟨key, _ | v⟩ := m
    · exact ih.cons _
    · exact ih.cons_cons _

/-- A member is looked up as it is, present or not. -/
theorem lookup_present (hnodup : (members.map Prod.fst).Nodup) :
    ∀ m ∈ members, (present members).lookup m.1 = m.2 := by
  induction members with
  | nil => simp
  | cons m members ih =>
    rw [List.map_cons, List.nodup_cons] at hnodup
    obtain ⟨hnotMem, hnodup⟩ := hnodup
    have hne : ∀ m' ∈ members, (m'.1 == m.1) = false := fun m' hm' => by
      rw [beq_eq_false_iff_ne]
      rintro heq
      exact hnotMem (heq ▸ List.mem_map_of_mem hm')
    have hnone : (present members).lookup m.1 = none :=
      lookup_eq_none_of_notMem fun hmem => hnotMem (present_keys_sublist.subset hmem)
    obtain ⟨key, _ | v⟩ := m
    · exact List.forall_mem_cons.2 ⟨hnone, ih hnodup⟩
    · refine List.forall_mem_cons.2 ⟨by simp, fun m' hm' => ?_⟩
      rw [present_cons_some, List.lookup_cons, hne m' hm']
      exact ih hnodup m' hm'

end Json

end VertRule
