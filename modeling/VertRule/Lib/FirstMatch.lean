import Mathlib.Data.List.Perm.Basic

/-!
# The first match in a list

When the first match of a list depends on the order of the list.  What is read of it is the same in
every order as long as all matches agree on it (`findSome?_map_perm`), and any match comes first in
some order (`exists_perm_findSome?`).
-/

namespace FirstMatch

variable {α β γ : Type*} {f : α → Option β} {l l' : List α}

theorem findSome?_isSome_perm (hp : l.Perm l') :
    (l.findSome? f).isSome = (l'.findSome? f).isSome := by
  rw [Bool.eq_iff_iff, List.findSome?_isSome_iff, List.findSome?_isSome_iff]
  exact ⟨fun ⟨a, ha, h⟩ => ⟨a, hp.mem_iff.1 ha, h⟩, fun ⟨a, ha, h⟩ => ⟨a, hp.mem_iff.2 ha, h⟩⟩

/-- Matches that agree on what is read of them are read alike in every order. -/
theorem findSome?_map_perm {g : β → γ} (hp : l.Perm l')
    (hagree : ∀ a ∈ l, ∀ b ∈ l, ∀ x y, f a = some x → f b = some y → g x = g y) :
    (l.findSome? f).map g = (l'.findSome? f).map g := by
  have hsome := findSome?_isSome_perm (f := f) hp
  cases h : l.findSome? f with
  | none =>
    rw [h, eq_comm, Option.isSome_none, Option.isSome_eq_false_iff, Option.isNone_iff_eq_none]
      at hsome
    rw [hsome]
  | some x =>
    rw [h, Option.isSome_some, eq_comm, Option.isSome_iff_exists] at hsome
    obtain ⟨y, hy⟩ := hsome
    obtain ⟨a, ha, hax⟩ := List.exists_of_findSome?_eq_some h
    obtain ⟨b, hb, hby⟩ := List.exists_of_findSome?_eq_some hy
    rw [hy]
    exact congrArg some (hagree a ha b (hp.mem_iff.2 hb) x y hax hby)

/-- Every match is the first one in some order. -/
theorem exists_perm_findSome? {a : α} {x : β} (ha : a ∈ l) (hx : f a = some x) :
    ∃ l', l.Perm l' ∧ l'.findSome? f = some x := by
  obtain ⟨s, t, rfl⟩ := List.append_of_mem ha
  exact ⟨a :: (s ++ t), List.perm_middle, by rw [List.findSome?_cons_of_isSome] <;> simp [hx]⟩

/-- Two ways to read a list that keep the same elements agree on each element when they give the
same list. -/
theorem eq_of_filterMap_eq {f g : α → Option β} (hsome : ∀ a, (f a).isSome = (g a).isSome)
    (h : l.filterMap f = l.filterMap g) {a : α} (ha : a ∈ l) : f a = g a := by
  induction l with
  | nil => cases ha
  | cons b l ih =>
    have hb := hsome b
    cases hf : f b with
    | none =>
      have hg : g b = none := by simpa [hf] using hb
      rw [List.filterMap_cons_none hf, List.filterMap_cons_none hg] at h
      rcases List.mem_cons.1 ha with rfl | ha
      · rw [hf, hg]
      · exact ih h ha
    | some x =>
      obtain ⟨y, hg⟩ : ∃ y, g b = some y := by
        rw [← Option.isSome_iff_exists, ← hb, hf]
        rfl
      rw [List.filterMap_cons_some hf, List.filterMap_cons_some hg] at h
      obtain ⟨rfl, htail⟩ := List.cons.inj h
      rcases List.mem_cons.1 ha with rfl | ha
      · rw [hf, hg]
      · exact ih htail ha

end FirstMatch
