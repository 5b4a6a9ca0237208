import Mathlib.Data.List.Nodup
import Mathlib.Logic.Relation

/-!
# Hash graphs

Blocks that name others by their hashes, each added after those it names.  Whatever part of them
is kept, no block reaches itself (`Grown.acyclic`): the hash of a block is not known to those that
come before it.
-/

namespace HashGraph

variable {α H : Type*} (hash : α → H) (targets : α → List H)

/-- Blocks, the last one first: each has a new hash, and names only hashes of earlier ones. -/
inductive Grown : List α → Prop
  | nil : Grown []
  | add {l : List α} {a : α} (h : Grown l) (hnew : hash a ∉ l.map hash)
    (htargets : ∀ x ∈ targets a, x ∈ l.map hash) : Grown (a :: l)

/-- A block with hash `x` names `y`. -/
def Names (l : List α) (x y : H) : Prop := ∃ a ∈ l, hash a = x ∧ y ∈ targets a

variable {hash targets} {l l' : List α} {x y : H}

theorem Names.mono (hsub : ∀ a ∈ l', a ∈ l) (h : Names hash targets l' x y) :
    Names hash targets l x y := by
  obtain ⟨a, ha, hx, hy⟩ := h
  exact ⟨a, hsub a ha, hx, hy⟩

/-- What is named is there. -/
theorem Grown.mem_of_names (h : Grown hash targets l) (hxy : Names hash targets l x y) :
    y ∈ l.map hash := by
  induction h with
  | nil =>
    obtain ⟨a, ha, -⟩ := hxy
    cases ha
  | @add l b _ _ htargets ih =>
    obtain ⟨a, ha, hx, hy⟩ := hxy
    rw [List.map_cons]
    rcases List.mem_cons.1 ha with rfl | ha
    · exact List.mem_cons_of_mem _ (htargets y hy)
    · exact List.mem_cons_of_mem _ (ih ⟨a, ha, hx, hy⟩)

/-- The last block is named by none. -/
theorem Grown.ne_of_names {b : α} (h : Grown hash targets (b :: l))
    (hxy : Names hash targets (b :: l) x y) : y ≠ hash b := by
  cases h with
  | add h hnew htargets =>
    rintro rfl
    obtain ⟨a, ha, hx, hy⟩ := hxy
    rcases List.mem_cons.1 ha with rfl | ha
    · exact hnew (htargets _ hy)
    · exact hnew (h.mem_of_names ⟨a, ha, hx, hy⟩)

/-- Without the last block, the paths that start elsewhere remain. -/
theorem Grown.transGen_tail {b : α} (h : Grown hash targets (b :: l))
    (hxy : Relation.TransGen (Names hash targets (b :: l)) x y) (hx : x ≠ hash b) :
    Relation.TransGen (Names hash targets l) x y := by
  have hstep : ∀ {x y}, x ≠ hash b → Names hash targets (b :: l) x y →
      Names hash targets l x y := by
    rintro x y hx ⟨a, ha, rfl, hy⟩
    rcases List.mem_cons.1 ha with rfl | ha
    · exact absurd rfl hx
    · exact ⟨a, ha, rfl, hy⟩
  induction hxy with
  | single hxy => exact .single (hstep hx hxy)
  | tail hxz hzy ih =>
    obtain ⟨w, -, hwz⟩ := Relation.TransGen.tail'_iff.1 hxz
    exact ih.tail (hstep (h.ne_of_names hwz) hzy)

/-- No block reaches itself. -/
theorem Grown.irrefl (h : Grown hash targets l) (x : H) :
    ¬ Relation.TransGen (Names hash targets l) x x := by
  induction h with
  | nil =>
    intro hx
    obtain ⟨y, ⟨a, ha, -⟩, -⟩ := Relation.TransGen.head'_iff.1 hx
    cases ha
  | @add l b h hnew htargets ih =>
    intro hx
    have hgrown : Grown hash targets (b :: l) := .add h hnew htargets
    obtain ⟨y, -, hyx⟩ := Relation.TransGen.tail'_iff.1 hx
    exact ih (hgrown.transGen_tail hx (hgrown.ne_of_names hyx))

/-- **No block reaches itself, whatever part of the blocks is kept.** -/
theorem Grown.acyclic (h : Grown hash targets l) (hsub : ∀ a ∈ l', a ∈ l) (x : H) :
    ¬ Relation.TransGen (Names hash targets l') x x := fun hx =>
  h.irrefl x (hx.lift id fun _ _ => Names.mono hsub)

end HashGraph
