import Mathlib.Data.List.Chain
import Mathlib.Data.List.Nodup

/-!
# Hash chains

Lists of blocks in which each block names the hash of the one before it as its parent, and the
first names none.  Where hashes do not collide, the hash of the last block determines the whole
list (`Linked.eq`), blocks of one chain can only be linked again as they were
(`Linked.isPrefix`), and chains that fork never meet again (`Linked.fork`).
-/

namespace HashChain

variable {α H : Type*} (hash : α → H) (parent : α → Option H)

/-- Each block names the block before it, and the first names none. -/
inductive Linked : List α → Prop
  | nil : Linked []
  | snoc {l : List α} {a : α} (h : Linked l) (hp : parent a = l.getLast?.map hash) :
    Linked (l ++ [a])

variable {hash parent}

/-- A list whose blocks follow one another from a first without a parent is linked. -/
theorem linked_of_isChain {R : α → α → Prop} (hR : ∀ a b, R a b → parent b = some (hash a))
    {a : α} {l : List α} (ha : parent a = none) (h : (a :: l).IsChain R) :
    Linked hash parent (a :: l) := by
  induction l using List.reverseRecOn with
  | nil => exact .snoc (l := []) .nil ha
  | append_singleton l b ih =>
    rw [← List.cons_append, List.isChain_append] at h
    obtain ⟨hl, -, hb⟩ := h
    rw [← List.cons_append]
    refine .snoc (ih hl) ?_
    rw [List.getLast?_eq_getLast_of_ne_nil (List.cons_ne_nil a l), Option.map_some]
    exact hR _ _ (hb _ (List.getLast?_eq_getLast_of_ne_nil _) b rfl)

/-- **The hash of the last block commits to the whole chain**, where hashes do not collide. -/
theorem Linked.eq {l l' : List α} (h : Linked hash parent l) (h' : Linked hash parent l')
    (hinj : ∀ a ∈ l, ∀ b ∈ l', hash a = hash b → a = b)
    (hlast : l.getLast?.map hash = l'.getLast?.map hash) : l = l' := by
  induction h generalizing l' with
  | nil =>
    cases h' with
    | nil => rfl
    | snoc _ _ => simp at hlast
  | @snoc l a _ hp ih =>
    cases h' with
    | nil => simp at hlast
    | @snoc l' b h' hp' =>
      -- the last blocks agree, hence their parents, hence what comes before them
      have hab : a = b := hinj a (by simp) b (by simp) (by simpa using hlast)
      subst hab
      rw [ih h' (fun x hx y hy => hinj x (by simp [hx]) y (by simp [hy])) (hp.symm.trans hp')]

theorem Linked.of_snoc {l : List α} {a : α} (h : Linked hash parent (l ++ [a])) :
    Linked hash parent l ∧ parent a = l.getLast?.map hash := by
  generalize hl : l ++ [a] = m at h
  cases h with
  | nil => simp at hl
  | snoc h hp =>
    obtain ⟨rfl, ha⟩ := List.append_inj' hl rfl
    obtain rfl := List.singleton_injective ha
    exact ⟨h, hp⟩

theorem Linked.of_append {l l' : List α} (h : Linked hash parent (l ++ l')) :
    Linked hash parent l := by
  induction l' using List.reverseRecOn with
  | nil => rwa [List.append_nil] at h
  | append_singleton l' a ih =>
    rw [← List.append_assoc] at h
    exact ih h.of_snoc.1

/-- **Blocks of a chain are linked only as they are in the chain**: a linked list of them is the
chain up to one of them. -/
theorem Linked.isPrefix {l m : List α} (h : Linked hash parent l) (hnodup : (l.map hash).Nodup)
    (hm : Linked hash parent m) (hsub : m ⊆ l) : m <+: l := by
  cases hm with
  | nil => exact List.nil_prefix
  | @snoc m a hm hp =>
    obtain ⟨hml, ha⟩ := List.append_subset.1 hsub
    obtain ⟨before, after, rfl⟩ := List.append_of_mem (ha List.mem_cons_self)
    rw [List.append_cons before a after] at h hnodup hml ⊢
    -- in the chain too, the parent of `a` is the hash of the block before it
    obtain ⟨hbefore, hpa⟩ := h.of_append.of_snoc
    obtain rfl : before = m := by
      refine hbefore.eq hm (fun x hx y hy => ?_) (hpa.symm.trans hp)
      exact List.inj_on_of_nodup_map hnodup (by simp [hx]) (hml hy)
    exact List.prefix_append _ _

/-- Two lists have a longest common start: they go on differently after it. -/
theorem exists_common_prefix (l l' : List α) :
    ∃ common after after', l = common ++ after ∧ l' = common ++ after' ∧
      ∀ a ∈ after.head?, a ∉ after'.head? := by
  induction l generalizing l' with
  | nil => exact ⟨[], [], l', rfl, rfl, by simp⟩
  | cons a l ih =>
    cases l' with
    | nil => exact ⟨[], a :: l, [], rfl, rfl, by simp⟩
    | cons b l' =>
      by_cases hab : a = b
      · subst hab
        obtain ⟨common, after, after', rfl, rfl, hne⟩ := ih l'
        exact ⟨a :: common, after, after', rfl, rfl, hne⟩
      · refine ⟨[], a :: l, b :: l', rfl, rfl, ?_⟩
        simpa [eq_comm] using hab

/-- **Chains that fork never meet again**: two chains have the same blocks up to some point, and no
hash in common after it. -/
theorem Linked.fork {l l' : List α} (h : Linked hash parent l) (h' : Linked hash parent l')
    (hinj : ∀ a ∈ l, ∀ b ∈ l', hash a = hash b → a = b) :
    ∃ common after after', l = common ++ after ∧ l' = common ++ after' ∧
      ∀ a ∈ after, ∀ b ∈ after', hash a ≠ hash b := by
  obtain ⟨common, after, after', rfl, rfl, hne⟩ := exists_common_prefix l l'
  refine ⟨common, after, after', rfl, rfl, fun a ha b hb hab => ?_⟩
  obtain ⟨before, rest, rfl⟩ := List.append_of_mem ha
  obtain ⟨before', rest', rfl⟩ := List.append_of_mem hb
  rw [List.append_cons before, ← List.append_assoc] at h
  rw [List.append_cons before', ← List.append_assoc] at h'
  -- up to the blocks with the same hash, the two chains are one
  have heq : common ++ (before ++ [a]) = common ++ (before' ++ [b]) := by
    refine h.of_append.eq h'.of_append (fun x hx y hy => hinj x ?_ y ?_) ?_
    · rw [List.append_cons before, ← List.append_assoc]
      exact List.mem_append_left _ hx
    · rw [List.append_cons before', ← List.append_assoc]
      exact List.mem_append_left _ hy
    · simp [← List.append_assoc, hab]
  rw [List.append_cancel_left_eq] at heq
  -- so they go on in the same way after the common start
  cases before with
  | nil => cases before' <;> simp_all
  | cons c before => cases before' <;> simp_all

end HashChain
