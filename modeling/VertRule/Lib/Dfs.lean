import Mathlib.Logic.Relation
import Mathlib.Order.WellFounded
import Mathlib.Data.Finset.Card
import Mathlib.Algebra.BigOperators.Group.Finset.Basic
import Mathlib.Algebra.Order.Group.Multiset
import Mathlib.Data.Multiset.AddSub
import Mathlib.Tactic.Abel

/-!
# Depth-first search along a path

A depth-first search takes the edges of a vertex in order.  It records every edge it takes,
goes down the edges it *follows* when their target is new, and raises a flag when the target
of an edge, followed or not, is on the path from the start to the current vertex.

`Run` is the search as a relation between states.  From it:

* `Run.seen_iff` : the vertices seen are those reachable along followed edges;
* `Run.log_eq` : every edge of every vertex seen is taken exactly once;
* `Run.acc_of_cycle_eq_false` : if the flag stays down, every vertex seen is accessible for
  the step relation, so no cycle of followed edges is reachable;
* `Run.exists_back_edge` : if the flag is up, some reachable vertex has an edge closing a
  cycle.
-/

namespace Dfs

/-- A graph as the search reads it. -/
structure Graph (V E : Type*) where
  /-- The edges leaving a vertex, in the order they are taken. -/
  out : V → List E
  /-- The vertex an edge points at, if it points at one. -/
  target : E → Option V
  /-- The search goes down this edge. -/
  follow : E → Bool

namespace Graph

variable {V E : Type*} (G : Graph V E)

/-- `w` is the target of an edge leaving `v`. -/
def Adj (v w : V) : Prop := ∃ e ∈ G.out v, G.target e = some w

/-- `w` is the target of a followed edge leaving `v`. -/
def Step (v w : V) : Prop := ∃ e ∈ G.out v, G.target e = some w ∧ G.follow e = true

/-- `w` can be reached from `v` along followed edges. -/
abbrev Reach (v w : V) : Prop := Relation.ReflTransGen G.Step v w

/-- No infinite sequence of followed edges starts at `v`. -/
abbrev Finite (v : V) : Prop := Acc (fun w v => G.Step v w) v

variable {G}

theorem Step.adj {v w : V} (h : G.Step v w) : G.Adj v w := by
  obtain ⟨e, he, ht, -⟩ := h
  exact ⟨e, he, ht⟩

/-- Nothing but itself is reachable from a vertex without edges. -/
theorem eq_of_reach_of_out_eq_nil {v w : V} (hv : G.out v = []) (h : G.Reach v w) : w = v := by
  rcases Relation.ReflTransGen.cases_head h with rfl | ⟨x, ⟨e, he, -⟩, -⟩
  · rfl
  · simp [hv] at he

theorem Finite.of_reach {v w : V} (h : G.Finite v) (hr : G.Reach v w) : G.Finite w := by
  induction hr with
  | refl => exact h
  | tail _ hst ih => exact ih.inv hst

/-- No cycle of followed edges passes through an accessible vertex. -/
theorem Finite.not_cycle {v : V} (h : G.Finite v) : ¬ Relation.TransGen G.Step v v := by
  induction h with
  | intro v _ ih =>
    intro hc
    obtain ⟨w, hvw, hwv⟩ := Relation.TransGen.head'_iff.1 hc
    exact ih w hvw (Relation.TransGen.tail' hwv hvw)

/-- Where every step within reach is along a followed edge, what is reached along any edges is
reached along followed edges. -/
theorem reach_of_adj {v w : V} (h : ∀ x, G.Reach v x → ∀ y, G.Adj x y → G.Step x y)
    (hr : Relation.ReflTransGen G.Adj v w) : G.Reach v w := by
  induction hr with
  | refl => exact .refl
  | tail _ hadj ih => exact ih.tail (h _ ih _ hadj)

/-- The same for paths of positive length between reachable vertices. -/
theorem transGen_of_adj {v x y : V} (h : ∀ x, G.Reach v x → ∀ y, G.Adj x y → G.Step x y)
    (hx : G.Reach v x) (ht : Relation.TransGen G.Adj x y) : Relation.TransGen G.Step x y := by
  induction ht with
  | single hadj => exact .single (h _ hx _ hadj)
  | tail _ hadj ih => exact ih.tail (h _ (hx.trans ih.to_reflTransGen) _ hadj)

theorem step_of_followed {v : V} (h : ∀ x, G.Reach v x → ∀ e ∈ G.out x, G.follow e = true) :
    ∀ x, G.Reach v x → ∀ y, G.Adj x y → G.Step x y := by
  rintro x hx y ⟨e, he, ht⟩
  exact ⟨e, he, ht, h x hx e he⟩

/-- Where every edge within reach is followed, what is reached along followed edges is what is
reached along any edges. -/
theorem reach_iff_of_followed {v w : V}
    (h : ∀ x, G.Reach v x → ∀ e ∈ G.out x, G.follow e = true) :
    G.Reach v w ↔ Relation.ReflTransGen G.Adj v w :=
  ⟨fun hr => hr.lift id fun _ _ => Step.adj, reach_of_adj (step_of_followed h)⟩

theorem transGen_iff_of_followed {v x y : V}
    (h : ∀ x, G.Reach v x → ∀ e ∈ G.out x, G.follow e = true) (hx : G.Reach v x) :
    Relation.TransGen G.Step x y ↔ Relation.TransGen G.Adj x y :=
  ⟨fun ht => ht.lift id fun _ _ => Step.adj, transGen_of_adj (step_of_followed h) hx⟩

end Graph

/-- The state of a search. -/
structure State (V E : Type*) where
  /-- Vertices entered so far. -/
  seen : Finset V
  /-- Edges taken so far, in order. -/
  log : List E
  /-- Some edge led back into the path. -/
  cycle : Bool

namespace State

variable {V E : Type*}

/-- Record an edge. -/
def take (s : State V E) (e : E) : State V E := { s with log := s.log ++ [e] }

/-- Record that an edge led back into the path. -/
def close (s : State V E) : State V E := { s with cycle := true }

/-- Enter a vertex. -/
def enter [DecidableEq V] (s : State V E) (v : V) : State V E :=
  { s with seen := insert v s.seen }

@[simp] theorem take_seen (s : State V E) (e : E) : (s.take e).seen = s.seen := rfl
@[simp] theorem take_log (s : State V E) (e : E) : (s.take e).log = s.log ++ [e] := rfl
@[simp] theorem take_cycle (s : State V E) (e : E) : (s.take e).cycle = s.cycle := rfl
@[simp] theorem close_seen (s : State V E) : s.close.seen = s.seen := rfl
@[simp] theorem close_log (s : State V E) : s.close.log = s.log := rfl
@[simp] theorem close_cycle (s : State V E) : s.close.cycle = true := rfl

section

variable [DecidableEq V]

@[simp] theorem enter_seen (s : State V E) (v : V) : (s.enter v).seen = insert v s.seen := rfl
@[simp] theorem enter_log (s : State V E) (v : V) : (s.enter v).log = s.log := rfl
@[simp] theorem enter_cycle (s : State V E) (v : V) : (s.enter v).cycle = s.cycle := rfl

end

end State

variable {V E : Type*} [DecidableEq V]

/-- `Run G path es s s'`: with `path` leading from the start to the current vertex (the current
vertex first), taking the edges `es` in order leads from `s` to `s'`. -/
inductive Run (G : Graph V E) : List V → List E → State V E → State V E → Prop
  | nil {path : List V} {s : State V E} : Run G path [] s s
  /-- The edge points nowhere. -/
  | leaf {path : List V} {e : E} {es : List E} {s s' : State V E} :
      G.target e = none → Run G path es (s.take e) s' → Run G path (e :: es) s s'
  /-- The edge leads back into the path. -/
  | back {path : List V} {e : E} {es : List E} {s s' : State V E} {w : V} :
      G.target e = some w → w ∈ path → Run G path es (s.take e).close s' →
      Run G path (e :: es) s s'
  /-- The edge is not followed. -/
  | skip {path : List V} {e : E} {es : List E} {s s' : State V E} {w : V} :
      G.target e = some w → w ∉ path → G.follow e = false → Run G path es (s.take e) s' →
      Run G path (e :: es) s s'
  /-- The target has been seen already. -/
  | seen {path : List V} {e : E} {es : List E} {s s' : State V E} {w : V} :
      G.target e = some w → w ∉ path → G.follow e = true → w ∈ s.seen →
      Run G path es (s.take e) s' → Run G path (e :: es) s s'
  /-- The target is new: search it, then go on. -/
  | tree {path : List V} {e : E} {es : List E} {s s₁ s' : State V E} {w : V} :
      G.target e = some w → w ∉ path → G.follow e = true → w ∉ s.seen →
      Run G (w :: path) (G.out w) ((s.take e).enter w) s₁ → Run G path es s₁ s' →
      Run G path (e :: es) s s'

/-- The state in which a search of `v` starts: `v` is entered, nothing else has happened. -/
def State.start (v : V) : State V E := { seen := {v}, log := [], cycle := false }

namespace Run

variable {G : Graph V E} {path : List V} {es : List E} {s s' : State V E}

theorem seen_mono (h : Run G path es s s') : s.seen ⊆ s'.seen := by
  induction h with
  | nil => exact Finset.Subset.refl _
  | leaf _ _ ih | skip _ _ _ _ ih | seen _ _ _ _ _ ih => exact ih
  | back _ _ _ ih => exact ih
  | tree _ _ _ _ _ _ ih₁ ih₂ => exact ((Finset.subset_insert _ _).trans ih₁).trans ih₂

theorem cycle_mono (h : Run G path es s s') (hc : s.cycle = true) : s'.cycle = true := by
  induction h with
  | nil => exact hc
  | leaf _ _ ih | skip _ _ _ _ ih | seen _ _ _ _ _ ih => exact ih hc
  | back _ _ _ ih => exact ih rfl
  | tree _ _ _ _ _ _ ih₁ ih₂ => exact ih₂ (ih₁ hc)

/-- The search is a function of the state it starts from. -/
theorem unique {s₁ s₂ : State V E} (h₁ : Run G path es s s₁) (h₂ : Run G path es s s₂) :
    s₁ = s₂ := by
  induction h₁ generalizing s₂ with
  | nil => cases h₂; rfl
  | leaf ht _ ih =>
    cases h₂ with
    | leaf _ hr => exact ih hr
    | _ => simp_all
  | back ht hw _ ih =>
    cases h₂ with
    | back _ _ hr => exact ih hr
    | _ => simp_all
  | skip ht hw hf _ ih =>
    cases h₂ with
    | skip _ _ _ hr => exact ih hr
    | _ => simp_all
  | seen ht hw hf hs _ ih =>
    cases h₂ with
    | seen _ _ _ _ hr => exact ih hr
    | _ => simp_all
  | tree ht hw hf hs _ _ ih₁ ih₂ =>
    cases h₂ with
    | tree ht' _ _ _ hr₁ hr₂ =>
      obtain rfl := Option.some.inj (ht.symm.trans ht')
      obtain rfl := ih₁ hr₁
      exact ih₂ hr₂
    | _ => simp_all

/-! ### What is seen -/

/-- Every vertex the search enters is reachable along a followed edge of `es`. -/
theorem mem_seen (h : Run G path es s s') {x : V} (hx : x ∈ s'.seen) :
    x ∈ s.seen ∨ ∃ e ∈ es, ∃ w, G.target e = some w ∧ G.follow e = true ∧ G.Reach w x := by
  induction h with
  | nil => exact .inl hx
  | leaf _ _ ih | skip _ _ _ _ ih | seen _ _ _ _ _ ih | back _ _ _ ih =>
    exact (ih hx).imp id fun ⟨e, he, hw⟩ => ⟨e, List.mem_cons_of_mem _ he, hw⟩
  | @tree _ e _ _ _ _ w ht _ hf _ _ _ ih₁ ih₂ =>
    rcases ih₂ hx with hx | ⟨e', he', hw⟩
    · rcases ih₁ hx with hx | ⟨e', he', w', ht', hf', hr⟩
      · rcases Finset.mem_insert.1 hx with rfl | hx
        · exact .inr ⟨e, List.mem_cons_self, x, ht, hf, .refl⟩
        · exact .inl hx
      · exact .inr ⟨e, List.mem_cons_self, w, ht, hf, .head ⟨e', he', ht', hf'⟩ hr⟩
    · exact .inr ⟨e', List.mem_cons_of_mem _ he', hw⟩

/-- The path to a vertex that is entered has been seen, when the path to the current one has. -/
theorem path_seen_enter {w : V} (hp : ∀ v ∈ path, v ∈ s.seen) :
    ∀ v ∈ w :: path, v ∈ (s.enter w).seen :=
  List.forall_mem_cons.2
    ⟨Finset.mem_insert_self _ _, fun v hv => Finset.mem_insert_of_mem (hp v hv)⟩

/-- The path is still seen when the search comes back from the vertex. -/
theorem path_seen_of_enter {w : V} (h : Run G (w :: path) es (s.enter w) s')
    (hp : ∀ v ∈ path, v ∈ s.seen) : ∀ v ∈ path, v ∈ s'.seen :=
  fun v hv => h.seen_mono (path_seen_enter hp v (List.mem_cons_of_mem w hv))

/-- The search leaves no followed edge behind: the targets of `es`, and the targets of the
vertices it enters, are all seen. -/
theorem step_seen (h : Run G path es s s') (hp : ∀ v ∈ path, v ∈ s.seen) :
    (∀ e ∈ es, ∀ w, G.target e = some w → G.follow e = true → w ∈ s'.seen) ∧
      ∀ x ∈ s'.seen, x ∉ s.seen → ∀ w, G.Step x w → w ∈ s'.seen := by
  induction h with
  | nil => exact ⟨by simp, fun x hx hn => absurd hx hn⟩
  | leaf ht _ ih =>
    refine ⟨List.forall_mem_cons.2 ⟨fun w hw _ => ?_, (ih hp).1⟩, (ih hp).2⟩
    rw [ht] at hw; cases hw
  | back ht hmem hr ih =>
    refine ⟨List.forall_mem_cons.2 ⟨fun w hw _ => ?_, (ih hp).1⟩, (ih hp).2⟩
    rw [ht] at hw; cases hw
    exact hr.seen_mono (hp _ hmem)
  | skip _ _ hnf _ ih =>
    refine ⟨List.forall_mem_cons.2 ⟨fun w _ hf => ?_, (ih hp).1⟩, (ih hp).2⟩
    rw [hnf] at hf; cases hf
  | seen ht _ _ hs hr ih =>
    refine ⟨List.forall_mem_cons.2 ⟨fun w hw _ => ?_, (ih hp).1⟩, (ih hp).2⟩
    rw [ht] at hw; cases hw
    exact hr.seen_mono hs
  | @tree path e es s s₁ s' w ht _ _ _ hr₁ hr₂ ih₁ ih₂ =>
    obtain ⟨hout, hnew₁⟩ := ih₁ (path_seen_enter hp)
    obtain ⟨hrest, hnew₂⟩ := ih₂ (hr₁.path_seen_of_enter hp)
    refine ⟨List.forall_mem_cons.2 ⟨fun w' hw' _ => ?_, hrest⟩, fun x hx hns w' hst => ?_⟩
    · rw [ht] at hw'; cases hw'
      exact hr₂.seen_mono (hr₁.seen_mono (Finset.mem_insert_self _ _))
    · by_cases hx₁ : x ∈ s₁.seen
      · by_cases hxw : x = w
        · obtain ⟨e', he', ht', hf'⟩ := hst
          exact hr₂.seen_mono (hout e' (hxw ▸ he') w' ht' hf')
        · have hn : x ∉ ((s.take e).enter w).seen := by
            simp only [State.enter_seen, State.take_seen, Finset.mem_insert, not_or]
            exact ⟨hxw, hns⟩
          exact hr₂.seen_mono (hnew₁ x hx₁ hn w' hst)
      · exact hnew₂ x hx hx₁ w' hst

/-- **A search from `v` sees exactly the vertices reachable from `v`.** -/
theorem seen_iff {v : V} (h : Run G [v] (G.out v) (.start v) s') {x : V} :
    x ∈ s'.seen ↔ G.Reach v x := by
  obtain ⟨hout, hnew⟩ := h.step_seen (by simp [State.start])
  have hv : v ∈ s'.seen := h.seen_mono (by simp [State.start])
  constructor
  · intro hx
    rcases h.mem_seen hx with hx | ⟨e, he, w, ht, hf, hr⟩
    · rw [Finset.mem_singleton.1 hx]
    · exact .head ⟨e, he, ht, hf⟩ hr
  · intro hr
    induction hr with
    | refl => exact hv
    | @tail y z _ hst ih =>
      by_cases hy : y = v
      · obtain ⟨e, he, ht, hf⟩ := hst
        exact hout e (hy ▸ he) z ht hf
      · exact hnew y ih (by simpa [State.start] using hy) z hst

/-! ### What is recorded -/

/-- **Every edge of every vertex entered is taken exactly once.** -/
theorem log_eq (h : Run G path es s s') :
    (s'.log : Multiset E) =
      (s.log : Multiset E) + es + ∑ x ∈ s'.seen \ s.seen, (G.out x : Multiset E) := by
  induction h with
  | nil => simp
  | leaf _ _ ih | skip _ _ _ _ ih | seen _ _ _ _ _ ih | back _ _ _ ih =>
    rw [ih]
    simp only [State.take_log, State.take_seen, State.close_log, State.close_seen,
      ← Multiset.coe_add, ← Multiset.cons_coe, ← Multiset.singleton_add]
    simp only [Multiset.coe_nil, add_zero, add_assoc]
  | @tree path e es s s₁ s' w _ _ _ hns hr₁ hr₂ ih₁ ih₂ =>
    have hsub₁ := hr₁.seen_mono
    have hsub₂ := hr₂.seen_mono
    simp only [State.enter_seen, State.take_seen] at hsub₁
    have hw : w ∈ s₁.seen := hsub₁ (Finset.mem_insert_self _ _)
    have hsplit : s'.seen \ s.seen =
        insert w ((s₁.seen \ insert w s.seen) ∪ (s'.seen \ s₁.seen)) := by
      ext x
      simp only [Finset.mem_sdiff, Finset.mem_insert, Finset.mem_union]
      by_cases hxw : x = w
      · subst hxw
        simp [hns, hsub₂ hw]
      · have h₁ : x ∈ s.seen → x ∈ s₁.seen := fun hx => hsub₁ (Finset.mem_insert_of_mem hx)
        have h₂ : x ∈ s₁.seen → x ∈ s'.seen := fun hx => hsub₂ hx
        tauto
    have hdisj : Disjoint (s₁.seen \ insert w s.seen) (s'.seen \ s₁.seen) := by
      rw [Finset.disjoint_left]
      intro x hx hx'
      exact (Finset.mem_sdiff.1 hx').2 (Finset.mem_sdiff.1 hx).1
    have hnotin : w ∉ (s₁.seen \ insert w s.seen) ∪ (s'.seen \ s₁.seen) := by
      simp [hw]
    rw [ih₂, ih₁, hsplit, Finset.sum_insert hnotin, Finset.sum_union hdisj]
    simp only [State.enter_log, State.take_log, State.enter_seen, State.take_seen,
      ← Multiset.coe_add, ← Multiset.cons_coe, ← Multiset.singleton_add, Multiset.coe_nil,
      add_zero]
    abel

/-- A search from `v` records the edges of the vertices it has seen, each once. -/
theorem log_eq_sum {v : V} (h : Run G [v] (G.out v) (.start v) s') :
    (s'.log : Multiset E) = ∑ x ∈ s'.seen, (G.out x : Multiset E) := by
  have hv : v ∈ s'.seen := h.seen_mono (Finset.mem_singleton_self v)
  rw [h.log_eq, ← Finset.add_sum_erase _ _ hv, ← Finset.sdiff_singleton_eq_erase]
  simp [State.start]

/-- The edges recorded by a search from `v` are those of the vertices reachable from `v`. -/
theorem mem_log_iff {v : V} (h : Run G [v] (G.out v) (.start v) s') {e : E} :
    e ∈ s'.log ↔ ∃ x, G.Reach v x ∧ e ∈ G.out x := by
  have hmem : e ∈ s'.log ↔
      e ∈ G.out v ∨ ∃ x ∈ s'.seen \ {v}, e ∈ G.out x := by
    rw [← Multiset.mem_coe, h.log_eq]
    simp [State.start, Multiset.mem_sum]
  rw [hmem]
  constructor
  · rintro (he | ⟨x, hx, he⟩)
    · exact ⟨v, .refl, he⟩
    · exact ⟨x, h.seen_iff.1 (Finset.mem_sdiff.1 hx).1, he⟩
  · rintro ⟨x, hx, he⟩
    by_cases hxv : x = v
    · exact .inl (hxv ▸ he)
    · exact .inr ⟨x, by simp [h.seen_iff.2 hx, hxv], he⟩

/-! ### The cycle flag -/

/-- If the flag stays down, every vertex the search has left is accessible. -/
theorem acc_of_cycle_eq_false (h : Run G path es s s') (hc : s'.cycle = false)
    (hp : ∀ v ∈ path, v ∈ s.seen) (ha : ∀ x ∈ s.seen, x ∉ path → G.Finite x) :
    (∀ x ∈ s'.seen, x ∉ path → G.Finite x) ∧
      ∀ e ∈ es, ∀ w, G.target e = some w → G.follow e = true → G.Finite w := by
  induction h with
  | nil => exact ⟨ha, by simp⟩
  | leaf ht _ ih =>
    obtain ⟨hleft, hrest⟩ := ih hc hp ha
    refine ⟨hleft, List.forall_mem_cons.2 ⟨fun w hw _ => ?_, hrest⟩⟩
    rw [ht] at hw; cases hw
  | back _ _ hr _ =>
    rw [hr.cycle_mono rfl] at hc
    cases hc
  | skip _ _ hnf _ ih =>
    obtain ⟨hleft, hrest⟩ := ih hc hp ha
    refine ⟨hleft, List.forall_mem_cons.2 ⟨fun w _ hf => ?_, hrest⟩⟩
    rw [hnf] at hf; cases hf
  | seen ht hnp _ hs _ ih =>
    obtain ⟨hleft, hrest⟩ := ih hc hp ha
    refine ⟨hleft, List.forall_mem_cons.2 ⟨fun w hw _ => ?_, hrest⟩⟩
    rw [ht] at hw; cases hw
    exact ha _ hs hnp
  | @tree path e es s s₁ s' w ht hnp _ hns hr₁ hr₂ ih₁ ih₂ =>
    have hc₁ : s₁.cycle = false := by
      cases hs₁ : s₁.cycle with
      | false => rfl
      | true => rw [hr₂.cycle_mono hs₁] at hc; cases hc
    have ha₁ : ∀ x ∈ ((s.take e).enter w).seen, x ∉ w :: path → G.Finite x := by
      intro x hx hnx
      simp only [List.mem_cons, not_or] at hnx
      exact ha x ((Finset.mem_insert.1 hx).resolve_left hnx.1) hnx.2
    obtain ⟨hleft, hout⟩ := ih₁ hc₁ (path_seen_enter hp) ha₁
    -- every followed edge of `w` leads to an accessible vertex, so `w` is accessible
    have hw : G.Finite w := Acc.intro w fun y ⟨e', he', ht', hf'⟩ => hout e' he' y ht' hf'
    have ha₂ : ∀ x ∈ s₁.seen, x ∉ path → G.Finite x := by
      intro x hx hnx
      by_cases hxw : x = w
      · exact hxw ▸ hw
      · exact hleft x hx (by simp [hxw, hnx])
    obtain ⟨hleft', hrest⟩ := ih₂ hc (hr₁.path_seen_of_enter hp) ha₂
    refine ⟨hleft', List.forall_mem_cons.2 ⟨fun w' hw' _ => ?_, hrest⟩⟩
    rw [ht] at hw'; cases hw'
    exact hw

/-- If the flag goes up, some vertex reachable from the current one has an edge back to a
vertex from which it is reachable. -/
theorem exists_back_edge {v : V} (h : Run G path es s s') (hc : s'.cycle = true)
    (hns : s.cycle = false) (hpath : ∀ x ∈ path, G.Reach x v) (hes : ∀ e ∈ es, e ∈ G.out v) :
    ∃ u w, G.Reach v u ∧ G.Adj u w ∧ G.Reach w u := by
  induction h generalizing v with
  | nil => rw [hns] at hc; cases hc
  | leaf _ _ ih | skip _ _ _ _ ih | seen _ _ _ _ _ ih =>
    exact ih hc hns hpath fun e he => hes e (List.mem_cons_of_mem _ he)
  | @back _ e _ _ _ w ht hmem _ _ =>
    exact ⟨v, w, .refl, ⟨e, hes e List.mem_cons_self, ht⟩, hpath w hmem⟩
  | @tree path e es s s₁ s' w ht _ hf _ hr₁ _ ih₁ ih₂ =>
    have hvw : G.Step v w := ⟨e, hes e List.mem_cons_self, ht, hf⟩
    cases hs₁ : s₁.cycle with
    | false => exact ih₂ hc hs₁ hpath fun e' he' => hes e' (List.mem_cons_of_mem _ he')
    | true =>
      have hpath₁ : ∀ x ∈ w :: path, G.Reach x w := by
        intro x hx
        rcases List.mem_cons.1 hx with rfl | hx
        · exact .refl
        · exact (hpath x hx).tail hvw
      obtain ⟨u, w', hu, ha, hr⟩ := ih₁ hs₁ hns hpath₁ fun _ he' => he'
      exact ⟨u, w', .head hvw hu, ha, hr⟩

/-- The flag stays down only if no infinite sequence of followed edges leaves the start. -/
theorem finite_of_cycle_eq_false {v : V} (h : Run G [v] (G.out v) (.start v) s')
    (hc : s'.cycle = false) : G.Finite v := by
  have hout := (h.acc_of_cycle_eq_false hc (by simp [State.start]) (by simp [State.start])).2
  exact Acc.intro v fun y ⟨e, he, ht, hf⟩ => hout e he y ht hf

/-- **When every edge taken is followed, the flag is up exactly when a cycle is reachable.** -/
theorem cycle_iff {v : V} (h : Run G [v] (G.out v) (.start v) s')
    (hf : ∀ e ∈ s'.log, G.follow e = true) :
    s'.cycle = true ↔ ∃ x, G.Reach v x ∧ Relation.TransGen G.Step x x := by
  constructor
  · intro hc
    obtain ⟨u, w, hu, ⟨e, he, ht⟩, hr⟩ := h.exists_back_edge (v := v) hc rfl
      (by rintro x hx; rw [List.mem_singleton.1 hx]) fun _ he => he
    have hst : G.Step u w := ⟨e, he, ht, hf e (h.mem_log_iff.2 ⟨u, hu, he⟩)⟩
    exact ⟨u, hu, .head' hst hr⟩
  · rintro ⟨x, hx, hxx⟩
    cases hc : s'.cycle with
    | true => rfl
    | false => exact absurd hxx ((h.finite_of_cycle_eq_false hc).of_reach hx).not_cycle

/-! ### Searches of two graphs -/

/-- A search is the same in two graphs that agree on every vertex it enters and every edge it
takes. -/
theorem congr (G' : Graph V E) (h : Run G path es s s')
    (hout : ∀ x ∈ s'.seen, G.out x = G'.out x)
    (hlog : ∀ e ∈ s'.log, G.target e = G'.target e ∧ G.follow e = G'.follow e) :
    Run G' path es s s' := by
  have hkeep : ∀ {path es s s'}, Run G path es s s' → ∀ e ∈ s.log, e ∈ s'.log := by
    intro path es s s' h e he
    rw [← Multiset.mem_coe, h.log_eq]
    simp [he]
  induction h with
  | nil => exact .nil
  | @leaf _ e _ _ _ ht hr ih =>
    have he := hlog e (hkeep hr e (by simp))
    exact .leaf (he.1 ▸ ht) (ih hout hlog)
  | @back _ e _ _ _ _ ht hw hr ih =>
    have he := hlog e (hkeep hr e (by simp))
    exact .back (he.1 ▸ ht) hw (ih hout hlog)
  | @skip _ e _ _ _ _ ht hw hf hr ih =>
    have he := hlog e (hkeep hr e (by simp))
    exact .skip (he.1 ▸ ht) hw (he.2 ▸ hf) (ih hout hlog)
  | @seen _ e _ _ _ _ ht hw hf hs hr ih =>
    have he := hlog e (hkeep hr e (by simp))
    exact .seen (he.1 ▸ ht) hw (he.2 ▸ hf) hs (ih hout hlog)
  | @tree _ e _ _ _ _ _ ht hw hf hs hr₁ hr₂ ih₁ ih₂ =>
    have he := hlog e (hkeep hr₂ e (hkeep hr₁ e (by simp)))
    have hnew := hout _ (hr₂.seen_mono (hr₁.seen_mono (Finset.mem_insert_self _ _)))
    refine .tree (he.1 ▸ ht) hw (he.2 ▸ hf) hs ?_ (ih₂ hout hlog)
    rw [← hnew]
    exact ih₁ (fun x hx => hout x (hr₂.seen_mono hx)) fun e he => hlog e (hkeep hr₂ e he)

end Run

end Dfs
