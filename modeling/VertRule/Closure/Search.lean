import VertRule.Closure.Walk

/-!
# What the walk computes

The walk of a closure bundle against the graph of the index: which receipts it reaches and which
edges it checks (`walk_exact`), and when its cycle flag is up (`walk_cycleDetected_exact`).  Both
are read off the depth-first search that `walk_run` shows the walk to be.
-/

namespace VertRule

variable (index : Index)

/-! ### The graph of an index -/

/-- A typed edge of an indexed receipt. -/
def TypedEdge (v w : String) : Prop :=
  ∃ role targetSchema,
    SupportMember.typedReceiptDependency w role targetSchema ∈ Index.supportSet index v

/-- A typed edge that `classify_edge` marks `Resolved`. -/
def ResolvedEdge (v w : String) : Prop :=
  ∃ role targetSchema,
    SupportMember.typedReceiptDependency w role targetSchema ∈ Index.supportSet index v ∧
      (classifyEdge w (index.lookup w) targetSchema).1 = .resolved

/-- The checks of a receipt: one for each occurrence of a dependency, typed or not. -/
def dependencyChecks (nodeHash : String) : List EdgeCheck :=
  ((Index.supportSet index nodeHash).filter SupportMember.isDependency).map (edgeCheck index)

/-- What is reached along resolved edges. -/
abbrev ResolvedReach (v w : String) : Prop := Relation.ReflTransGen (ResolvedEdge index) v w

variable {index}

theorem ResolvedEdge.typed {v w : String} (h : ResolvedEdge index v w) : TypedEdge index v w := by
  obtain ⟨role, targetSchema, hm, -⟩ := h
  exact ⟨role, targetSchema, hm⟩

theorem depGraph_target_eq_some {m : SupportMember} {w : String} :
    (depGraph index).target m = some w ↔
      ∃ role targetSchema, m = .typedReceiptDependency w role targetSchema := by
  cases m <;> simp [depGraph]

/-- The edges of the searched graph are the typed ones. -/
theorem depGraph_adj : (depGraph index).Adj = TypedEdge index := by
  funext v w
  refine propext ⟨?_, ?_⟩
  · rintro ⟨m, hm, ht⟩
    obtain ⟨role, targetSchema, rfl⟩ := depGraph_target_eq_some.1 ht
    exact ⟨role, targetSchema, (List.mem_filter.1 hm).1⟩
  · rintro ⟨role, targetSchema, hm⟩
    exact ⟨_, List.mem_filter.2 ⟨hm, rfl⟩, rfl⟩

/-- The search follows the resolved ones. -/
theorem depGraph_step : (depGraph index).Step = ResolvedEdge index := by
  funext v w
  refine propext ⟨?_, ?_⟩
  · rintro ⟨m, hm, ht, hf⟩
    obtain ⟨role, targetSchema, rfl⟩ := depGraph_target_eq_some.1 ht
    exact ⟨role, targetSchema, (List.mem_filter.1 hm).1, of_decide_eq_true hf⟩
  · rintro ⟨role, targetSchema, hm, hres⟩
    exact ⟨_, List.mem_filter.2 ⟨hm, rfl⟩, rfl, decide_eq_true hres⟩

theorem depGraph_reach (v w : String) :
    (depGraph index).Reach v w ↔ ResolvedReach index v w := by
  rw [Dfs.Graph.Reach, depGraph_step]

/-! ### Reachability and edges -/

/-- However many levels a call is given, it returns the same result if it returns. -/
theorem walkFuel_unique {fuel : ℕ} {start : String} {st : WalkState}
    (h : walkFuel index fuel start .init = some st) : st = walk index start .init := by
  obtain ⟨s, hr, hs⟩ := walk_run index start
  obtain ⟨s', hr', hs'⟩ :=
    (searchesFrom_walkFuel fuel start [] ⟨∅, [], false⟩ st (by simp) h).2 (by simp)
  have hsame : s' = s :=
    Dfs.Run.unique (by simpa [Dfs.State.enter, Dfs.State.start] using hr') hr
  rw [hs, hs', hsame]

variable (index)

/-- What a walk from fresh accumulators computes. -/
structure WalkExact (start : String) : Prop where
  /-- The recursion ends, and more levels do not change what it returns. -/
  terminates : ∃ levels, ∀ fuel ≥ levels,
    walkFuel index fuel start .init = some (walk index start .init)
  onStack : (walk index start .init).onStack = ∅
  reachable : ∀ h, h ∈ (walk index start .init).reachable ↔ ResolvedReach index start h
  /-- One entry for each dependency of each receipt reached, counted with multiplicity. -/
  edgeChecks : ((walk index start .init).edgeChecks : Multiset EdgeCheck) =
    ∑ h ∈ (walk index start .init).reachable, (dependencyChecks index h : Multiset EdgeCheck)

/-- **The walk terminates, computes reachability, and loses or repeats no edge.** -/
theorem walk_exact (start : String) : WalkExact index start := by
  obtain ⟨s, hr, hs⟩ := walk_run index start
  refine ⟨⟨index.keys.length + 1, fun fuel hfuel => ?_⟩, by rw [hs]; rfl, fun h => ?_, ?_⟩
  · have hlt : (unreached index WalkState.init.reachable).length < fuel :=
      (Nat.lt_succ_of_le (List.length_filter_le _ _)).trans_le hfuel
    obtain ⟨st, hst, -⟩ := walkFuel_returns fuel start .init hlt
    rw [hst, walkFuel_unique hst]
  · rw [mem_walk_reachable, depGraph_reach]
  · rw [hs]
    change ((s.log.map (edgeCheck index) : List EdgeCheck) : Multiset EdgeCheck) =
      ∑ h ∈ s.seen, (dependencyChecks index h : Multiset EdgeCheck)
    rw [← Multiset.map_coe, hr.log_eq_sum, ← Multiset.coe_mapAddMonoidHom, map_sum]
    rfl

/-! ### The cycle flag -/

/-- What the cycle flag of a walk from fresh accumulators means. -/
structure CycleExact (start : String) : Prop where
  /-- A cycle of resolved edges within reach is flagged. -/
  complete : (∃ x, ResolvedReach index start x ∧ Relation.TransGen (ResolvedEdge index) x x) →
    (walk index start .init).cycleDetected = true
  /-- What is flagged is a cycle within reach, all of it resolved but perhaps the edge from `u`
  to `w` that closes it. -/
  sound : (walk index start .init).cycleDetected = true →
    ∃ u w, ResolvedReach index start u ∧ TypedEdge index u w ∧ ResolvedReach index w u
  /-- When every edge walked is resolved, the flag is up exactly when the dependency graph has a
  cycle within reach. -/
  exact_of_resolved :
    (∀ v, ResolvedReach index start v → ∀ w role targetSchema,
      SupportMember.typedReceiptDependency w role targetSchema ∈ Index.supportSet index v →
        (classifyEdge w (index.lookup w) targetSchema).1 = .resolved) →
    ((walk index start .init).cycleDetected = true ↔
      ∃ x, Relation.ReflTransGen (TypedEdge index) start x ∧
        Relation.TransGen (TypedEdge index) x x)
  /-- No acyclic graph is flagged, whatever becomes of its edges and however they share
  targets. -/
  acyclic : (∀ x, Relation.ReflTransGen (TypedEdge index) start x →
      ¬ Relation.TransGen (TypedEdge index) x x) →
    (walk index start .init).cycleDetected = false

variable {index}

/-- A cycle that some typed edge closes, in the graph of all typed edges. -/
theorem typed_cycle {start u w : String} (hu : ResolvedReach index start u)
    (hadj : TypedEdge index u w) (hw : ResolvedReach index w u) :
    Relation.ReflTransGen (TypedEdge index) start u ∧ Relation.TransGen (TypedEdge index) u u :=
  ⟨hu.lift id fun _ _ => ResolvedEdge.typed,
    .head' hadj (hw.lift id fun _ _ => ResolvedEdge.typed)⟩

/-- A cycle of resolved edges within reach raises the flag. -/
theorem walk_cycleDetected_of_cycle {start x : String} (hx : ResolvedReach index start x)
    (hxx : Relation.TransGen (ResolvedEdge index) x x) :
    (walk index start .init).cycleDetected = true := by
  obtain ⟨s, hr, hs⟩ := walk_run index start
  rw [← depGraph_step] at hxx
  cases hc : s.cycle with
  | true => rw [hs]; exact hc
  | false =>
    -- a flag that is down leaves no infinite path, and so no cycle, behind
    have hfinite := (hr.finite_of_cycle_eq_false hc).of_reach ((depGraph_reach _ _).2 hx)
    exact absurd hxx hfinite.not_cycle

/-- A raised flag was raised by an edge back to a receipt from which its source was reached. -/
theorem exists_back_edge_of_walk {start : String}
    (h : (walk index start .init).cycleDetected = true) :
    ∃ u w, ResolvedReach index start u ∧ TypedEdge index u w ∧ ResolvedReach index w u := by
  obtain ⟨s, hr, hs⟩ := walk_run index start
  have hc : s.cycle = true := by rwa [hs] at h
  have hpath : ∀ x ∈ [start], (depGraph index).Reach x start := by
    intro x hx
    rw [List.mem_singleton.1 hx]
  obtain ⟨u, w, hu, hadj, hw⟩ := hr.exists_back_edge hc rfl hpath fun _ he => he
  rw [depGraph_adj] at hadj
  exact ⟨u, w, (depGraph_reach _ _).1 hu, hadj, (depGraph_reach _ _).1 hw⟩

/-- Where the walk finds every edge resolved, a cycle of typed edges is one of resolved edges. -/
theorem resolved_cycle {start x : String}
    (hres : ∀ v, ResolvedReach index start v → ∀ w, TypedEdge index v w → ResolvedEdge index v w)
    (hx : Relation.ReflTransGen (TypedEdge index) start x)
    (hxx : Relation.TransGen (TypedEdge index) x x) :
    ResolvedReach index start x ∧ Relation.TransGen (ResolvedEdge index) x x := by
  rw [← depGraph_adj] at hx hxx
  have hstep : ∀ v, (depGraph index).Reach start v → ∀ w, (depGraph index).Adj v w →
      (depGraph index).Step v w := by
    rw [depGraph_adj, depGraph_step]
    exact fun v hv => hres v ((depGraph_reach _ _).1 hv)
  have hreach := Dfs.Graph.reach_of_adj hstep hx
  have hcycle := Dfs.Graph.transGen_of_adj hstep hreach hxx
  rw [depGraph_step] at hcycle
  exact ⟨(depGraph_reach _ _).1 hreach, hcycle⟩

variable (index)

/-- **The cycle flag is exact.** -/
theorem walk_cycleDetected_exact (start : String) : CycleExact index start where
  complete := fun ⟨_, hx, hxx⟩ => walk_cycleDetected_of_cycle hx hxx
  sound := exists_back_edge_of_walk
  exact_of_resolved := by
    intro hres
    constructor
    · intro h
      obtain ⟨u, w, hu, hadj, hw⟩ := exists_back_edge_of_walk h
      exact ⟨u, typed_cycle hu hadj hw⟩
    · rintro ⟨x, hx, hxx⟩
      have hresolved : ∀ v, ResolvedReach index start v → ∀ w, TypedEdge index v w →
          ResolvedEdge index v w := by
        rintro v hv w ⟨role, targetSchema, hm⟩
        exact ⟨role, targetSchema, hm, hres v hv w role targetSchema hm⟩
      obtain ⟨hreach, hcycle⟩ := resolved_cycle hresolved hx hxx
      exact walk_cycleDetected_of_cycle hreach hcycle
  acyclic := by
    intro hacyclic
    rw [Bool.eq_false_iff]
    intro h
    obtain ⟨u, w, hu, hadj, hw⟩ := exists_back_edge_of_walk h
    exact hacyclic u (typed_cycle hu hadj hw).1 (typed_cycle hu hadj hw).2

/-- Two receipts that depend on a third, below a common root. -/
def diamond : Index :=
  [("top", ["left", "right"]), ("left", ["bottom"]), ("right", ["bottom"]), ("bottom", [])].foldl
    (fun index (nodeHash, targets) => index.insert nodeHash
      { payloadKind := providerPayloadKind
        supportSet :=
          targets.map (.typedReceiptDependency · ⟨.ok .null⟩ providerPayloadKind)
        verifyStatus := .valid
        verifyDetail := "" }) ∅

example : (walk diamond "top" .init).cycleDetected = false := by decide

end VertRule
