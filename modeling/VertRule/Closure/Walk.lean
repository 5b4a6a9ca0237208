import VertRule.LayeredPack
import VertRule.Lib.Dfs
import Mathlib.Data.List.AList

/-!
# The walk over the closure graph

`closure_bundle.rs`: the index of receipts and the depth-first `walk` over their typed edges.
`walk_run` shows the walk to be a depth-first search (`Dfs.Run`) of `depGraph`, from which come
what it reaches, which edges it checks and when it reports a cycle.
-/

namespace VertRule

/-- `Node`. -/
structure Node where
  payloadKind : String
  supportSet : List SupportMember
  verifyStatus : VerificationStatus
  verifyDetail : String

/-- The receipt graph, keyed by `event_hash`. -/
abbrev Index := AList fun _ : String => Node

/-- The support set of an indexed receipt; a hash that is not indexed has none. -/
def Index.supportSet (index : Index) (nodeHash : String) : List SupportMember :=
  ((index.lookup nodeHash).map Node.supportSet).getD []

/-- `LAYERED_KINDS` of a closure bundle. -/
def layeredKinds : List String := [providerPayloadKind, modelPayloadKind, packPayloadKind]

/-- `classify_edge`. -/
def classifyEdge (eventHash : String) (target : Option Node) (targetSchema : String) :
    EdgeStatus × Option String :=
  match target with
  | none => (.missing, some s!"depended-on receipt \"{eventHash}\" not supplied in bundle")
  | some n =>
    if n.verifyStatus ≠ .valid then
      (.failed, some s!"supplied receipt does not verify: {n.verifyDetail}")
    else if n.payloadKind ≠ targetSchema then
      (.schemaMismatch, some <| s!"edge target_schema \"{targetSchema}\" != supplied " ++
        s!"payload_kind \"{n.payloadKind}\"")
    else if n.payloadKind ∉ layeredKinds then
      (.schemaMismatch, some <| s!"depended-on receipt payload_kind \"{n.payloadKind}\" is " ++
        "not a layered-family kind")
    else (.resolved, none)

/-- A node that an edge with the given schema resolves to. -/
structure Node.Resolves (n : Node) (targetSchema : String) : Prop where
  verifies : n.verifyStatus = .valid
  kind : n.payloadKind = targetSchema
  layered : n.payloadKind ∈ layeredKinds

theorem classifyEdge_resolved {eventHash targetSchema : String} {target : Option Node} :
    (classifyEdge eventHash target targetSchema).1 = .resolved ↔
      ∃ n, target = some n ∧ n.Resolves targetSchema := by
  unfold classifyEdge
  cases target with
  | none => simp
  | some n =>
    dsimp only
    split_ifs with h₁ h₂ h₃
    · simpa using fun h : n.Resolves targetSchema => h₁ h.verifies
    · simpa using fun h : n.Resolves targetSchema => h₂ h.kind
    · simpa using ⟨not_not.1 h₁, not_not.1 h₂, h₃⟩
    · simpa using fun h : n.Resolves targetSchema => h₃ h.layered

/-! ### The walk -/

/-- The accumulators of `walk`. -/
structure WalkState where
  reachable : Finset String
  onStack : Finset String
  edgeChecks : List EdgeCheck
  cycleDetected : Bool

namespace WalkState

/-- The accumulators `verify_closure_bundle` passes to `walk`. -/
def init : WalkState := ⟨∅, ∅, [], false⟩

/-- `edge_checks.push`. -/
def push (st : WalkState) (check : EdgeCheck) : WalkState :=
  { st with edgeChecks := st.edgeChecks ++ [check] }

/-- `reachable.insert` and `on_stack.insert`. -/
def enter (st : WalkState) (nodeHash : String) : WalkState :=
  { st with
    reachable := insert nodeHash st.reachable
    onStack := insert nodeHash st.onStack }

/-- `on_stack.remove`. -/
def leave (st : WalkState) (nodeHash : String) : WalkState :=
  { st with onStack := st.onStack.erase nodeHash }

end WalkState

variable (index : Index)

/-- The check `walk` records for a typed edge. -/
def typedEdgeCheck (eventHash : String) (role : DependencyRole) (targetSchema : String) :
    EdgeCheck :=
  let (status, detail) := classifyEdge eventHash (index.lookup eventHash) targetSchema
  ⟨eventHash, role.label, some targetSchema, status, detail⟩

/-- The body of the loop of `walk` over the members of a support set; `recurse` is the recursive
call. -/
def walkMemberWith (recurse : String → WalkState → Option WalkState) (st : WalkState) :
    SupportMember → Option WalkState
  | .typedReceiptDependency eventHash role targetSchema =>
    let check := typedEdgeCheck index eventHash role targetSchema
    let st := st.push check
    if eventHash ∈ st.onStack then some { st with cycleDetected := true }
    else if check.status = .resolved then recurse eventHash st
    else some st
  | .dependedOnReceipt eventHash => some (st.push (.untyped eventHash))
  | .citedLink .. | .evidenceDigest .. | .selectorValue .. => some st

/-- `walk`, on at most `fuel` levels of recursion; `none` when they do not suffice. -/
def walkFuel : ℕ → String → WalkState → Option WalkState
  | 0, _, _ => none
  | fuel + 1, nodeHash, st =>
    if nodeHash ∈ st.reachable then some st
    else
      ((Index.supportSet index nodeHash).foldlM (walkMemberWith index (walkFuel fuel))
        (st.enter nodeHash)).map (·.leave nodeHash)

/-- The indexed hashes not yet reached. -/
def unreached (reachable : Finset String) : List String :=
  index.keys.filter (· ∉ reachable)

variable {index}

theorem unreached_length_mono {s t : Finset String} (h : s ⊆ t) :
    (unreached index t).length ≤ (unreached index s).length := by
  unfold unreached
  refine (List.monotone_filter_right index.keys fun a ha => ?_).length_le
  simp only [decide_eq_true_eq] at ha ⊢
  exact fun hs => ha (h hs)

/-- Entering an indexed hash leaves fewer to reach. -/
theorem unreached_insert_length_lt {s : Finset String} {nodeHash : String}
    (hk : nodeHash ∈ index.keys) (hs : nodeHash ∉ s) :
    (unreached index (insert nodeHash s)).length < (unreached index s).length := by
  have hmem : nodeHash ∈ unreached index s := by simp [unreached, hk, hs]
  have hfil : unreached index (insert nodeHash s) =
      (unreached index s).filter (· ≠ nodeHash) := by
    unfold unreached
    rw [List.filter_filter]
    refine List.filter_congr fun a _ => ?_
    simp [not_or]
  rw [hfil]
  exact List.length_filter_lt_length_iff_exists.2 ⟨nodeHash, hmem, by simp⟩

/-- With fewer than `bound` hashes left to reach, a call returns, and reaches no less. -/
def ReturnsBelow (index : Index) (bound : ℕ) (recurse : String → WalkState → Option WalkState) :
    Prop :=
  ∀ (nodeHash : String) (st : WalkState), (unreached index st.reachable).length < bound →
    ∃ st', recurse nodeHash st = some st' ∧ st.reachable ⊆ st'.reachable

/-- A round of the loop returns. -/
theorem walkMemberWith_returns {bound : ℕ} {recurse : String → WalkState → Option WalkState}
    (hrec : ReturnsBelow index bound recurse) {st : WalkState} (m : SupportMember)
    (hst : (unreached index st.reachable).length < bound) :
    ∃ st', walkMemberWith index recurse st m = some st' ∧ st.reachable ⊆ st'.reachable := by
  unfold walkMemberWith
  cases m with
  | typedReceiptDependency eventHash role targetSchema =>
    dsimp only
    split_ifs
    · exact ⟨_, rfl, Finset.Subset.refl _⟩
    · exact hrec eventHash _ hst
    · exact ⟨_, rfl, Finset.Subset.refl _⟩
  | _ => exact ⟨_, rfl, Finset.Subset.refl _⟩

/-- The loop returns: `reachable` only grows from round to round. -/
theorem foldlM_walkMemberWith_returns {bound : ℕ}
    {recurse : String → WalkState → Option WalkState} (hrec : ReturnsBelow index bound recurse)
    (ms : List SupportMember) {st : WalkState}
    (hst : (unreached index st.reachable).length < bound) :
    ∃ st', ms.foldlM (walkMemberWith index recurse) st = some st' ∧
      st.reachable ⊆ st'.reachable := by
  induction ms generalizing st with
  | nil => exact ⟨st, rfl, Finset.Subset.refl _⟩
  | cons m ms ih =>
    obtain ⟨st₁, h₁, hsub₁⟩ := walkMemberWith_returns hrec m hst
    obtain ⟨st₂, h₂, hsub₂⟩ := ih ((unreached_length_mono hsub₁).trans_lt hst)
    exact ⟨st₂, by rw [List.foldlM_cons, h₁]; exact h₂, hsub₁.trans hsub₂⟩

/-- A call that has a level for every hash not yet reached returns, and reaches no less. -/
theorem walkFuel_returns (fuel : ℕ) : ReturnsBelow index fuel (walkFuel index fuel) := by
  induction fuel with
  | zero => exact fun _ _ h => absurd h (Nat.not_lt_zero _)
  | succ fuel ih =>
    intro nodeHash st h
    rw [walkFuel]
    split_ifs with hr
    · exact ⟨st, rfl, Finset.Subset.refl _⟩
    by_cases hk : nodeHash ∈ index.keys
    · have hlt := unreached_insert_length_lt hk hr
      have henter : (unreached index (st.enter nodeHash).reachable).length < fuel :=
        hlt.trans_le (Nat.lt_succ_iff.1 h)
      obtain ⟨st₁, h₁, hsub⟩ :=
        foldlM_walkMemberWith_returns ih (Index.supportSet index nodeHash) henter
      exact ⟨st₁.leave nodeHash, by rw [h₁]; rfl, (Finset.subset_insert _ _).trans hsub⟩
    · have hnone : Index.supportSet index nodeHash = [] := by
        rw [Index.supportSet, AList.lookup_eq_none.2 (mt AList.mem_keys.1 hk)]
        rfl
      rw [hnone]
      exact ⟨_, rfl, Finset.subset_insert _ _⟩

theorem walkFuel_isSome (nodeHash : String) (st : WalkState) :
    (walkFuel index (index.keys.length + 1) nodeHash st).isSome := by
  have hlt : (unreached index st.reachable).length < index.keys.length + 1 :=
    Nat.lt_succ_of_le (List.length_filter_le _ _)
  obtain ⟨st', h, -⟩ := walkFuel_returns _ nodeHash st hlt
  simp [h]

variable (index)

/-- `walk`: one level of recursion for each indexed receipt suffices. -/
def walk (nodeHash : String) (st : WalkState) : WalkState :=
  (walkFuel index (index.keys.length + 1) nodeHash st).get (walkFuel_isSome nodeHash st)

/-! ### The walk as a depth-first search -/

/-- A member that depends on another receipt. -/
def SupportMember.isDependency : SupportMember → Bool
  | .typedReceiptDependency .. | .dependedOnReceipt _ => true
  | .citedLink .. | .evidenceDigest .. | .selectorValue .. => false

/-- The check `walk` records for a dependency. -/
def edgeCheck : SupportMember → EdgeCheck
  | .typedReceiptDependency eventHash role targetSchema =>
    typedEdgeCheck index eventHash role targetSchema
  | .dependedOnReceipt eventHash => .untyped eventHash
  | .citedLink id _ | .evidenceDigest id _ | .selectorValue id => .untyped id

/-- The graph `walk` searches: the dependencies of the indexed receipts, of which the resolved
typed ones are followed. -/
def depGraph : Dfs.Graph String SupportMember where
  out nodeHash := (Index.supportSet index nodeHash).filter SupportMember.isDependency
  target
    | .typedReceiptDependency eventHash _ _ => some eventHash
    | _ => none
  follow m := decide ((edgeCheck index m).status = .resolved)

/-- The accumulators that correspond to a state of the search. -/
def WalkState.ofSearch (path : List String) (s : Dfs.State String SupportMember) : WalkState where
  reachable := s.seen
  onStack := path.toFinset
  edgeChecks := s.log.map (edgeCheck index)
  cycleDetected := s.cycle

variable {index}

@[simp] theorem WalkState.push_ofSearch {path : List String}
    {s : Dfs.State String SupportMember} {m : SupportMember} :
    (WalkState.ofSearch index path s).push (edgeCheck index m) =
      .ofSearch index path (s.take m) := by
  simp [WalkState.push, WalkState.ofSearch]

/-- What a call of `walk` does, in terms of the search: nothing on a hash that has been reached,
and otherwise a search of the dependencies of its receipt. -/
def SearchesFrom (index : Index) (recurse : String → WalkState → Option WalkState) : Prop :=
  ∀ (nodeHash : String) (path : List String) (s : Dfs.State String SupportMember)
    (st' : WalkState), (∀ v ∈ path, v ∈ s.seen) →
    recurse nodeHash (.ofSearch index path s) = some st' →
    (nodeHash ∈ s.seen → st' = .ofSearch index path s) ∧
    (nodeHash ∉ s.seen → ∃ s', Dfs.Run (depGraph index) (nodeHash :: path)
      ((depGraph index).out nodeHash) (s.enter nodeHash) s' ∧ st' = .ofSearch index path s')

/-- A round on a dependency is a step of the search: what the search does from where the round
ends, it does with that dependency first from where the round starts. -/
theorem walkMemberWith_run {recurse : String → WalkState → Option WalkState}
    (hrec : SearchesFrom index recurse) {m : SupportMember} {path : List String}
    {s : Dfs.State String SupportMember} {st₁ : WalkState} (hp : ∀ v ∈ path, v ∈ s.seen)
    (hm : m.isDependency = true)
    (hw : walkMemberWith index recurse (.ofSearch index path s) m = some st₁) :
    ∃ s₁, st₁ = .ofSearch index path s₁ ∧ (∀ v ∈ path, v ∈ s₁.seen) ∧
      ∀ ms s', Dfs.Run (depGraph index) path ms s₁ s' →
        Dfs.Run (depGraph index) path (m :: ms) s s' := by
  cases m with
  | citedLink | evidenceDigest | selectorValue => cases hm
  | dependedOnReceipt eventHash =>
    set m := SupportMember.dependedOnReceipt eventHash
    have hpush : (WalkState.ofSearch index path s).push (edgeCheck index m) = st₁ :=
      Option.some.inj hw
    rw [WalkState.push_ofSearch] at hpush
    exact ⟨s.take m, hpush.symm, hp, fun ms s' hr => .leaf rfl hr⟩
  | typedReceiptDependency eventHash role targetSchema =>
    set m := SupportMember.typedReceiptDependency eventHash role targetSchema
    have ht : (depGraph index).target m = some eventHash := rfl
    have hfollow : (depGraph index).follow m = decide ((edgeCheck index m).status = .resolved) :=
      rfl
    have hstack : eventHash ∈ (WalkState.ofSearch index path (s.take m)).onStack ↔
        eventHash ∈ path := List.mem_toFinset
    have hround : (if eventHash ∈ (WalkState.ofSearch index path (s.take m)).onStack then
        some { WalkState.ofSearch index path (s.take m) with cycleDetected := true }
        else if (edgeCheck index m).status = .resolved then
          recurse eventHash (.ofSearch index path (s.take m))
        else some (.ofSearch index path (s.take m))) = some st₁ := by
      rw [← hw, ← WalkState.push_ofSearch]
      rfl
    split_ifs at hround with hback hres
    · obtain rfl := Option.some.inj hround
      exact ⟨(s.take m).close, rfl, hp, fun ms s' hr => .back ht (hstack.1 hback) hr⟩
    · have hf : (depGraph index).follow m = true := by simp [hfollow, hres]
      have hnp : eventHash ∉ path := mt hstack.2 hback
      obtain ⟨hold, hnew⟩ := hrec eventHash path (s.take m) st₁ hp hround
      by_cases hseen : eventHash ∈ s.seen
      · exact ⟨s.take m, hold hseen, hp, fun ms s' hr => .seen ht hnp hf hseen hr⟩
      · obtain ⟨s₁, hr₁, rfl⟩ := hnew hseen
        exact ⟨s₁, rfl, hr₁.path_seen_of_enter hp, fun ms s' hr => .tree ht hnp hf hseen hr₁ hr⟩
    · obtain rfl := Option.some.inj hround
      have hf : (depGraph index).follow m = false := by simp [hfollow, hres]
      exact ⟨s.take m, rfl, hp, fun ms s' hr => .skip ht (mt hstack.2 hback) hf hr⟩

/-- A round on another member does nothing. -/
theorem walkMemberWith_of_not_dependency {recurse : String → WalkState → Option WalkState}
    {m : SupportMember} (hm : m.isDependency = false) (st : WalkState) :
    walkMemberWith index recurse st m = some st := by
  cases m with
  | citedLink | evidenceDigest | selectorValue => rfl
  | _ => cases hm

/-- The loop over the members of a support set searches the dependencies among them. -/
theorem foldlM_walkMemberWith_run {recurse : String → WalkState → Option WalkState}
    (hrec : SearchesFrom index recurse) {ms : List SupportMember} {path : List String}
    {s : Dfs.State String SupportMember} {st' : WalkState} (hp : ∀ v ∈ path, v ∈ s.seen)
    (hw : ms.foldlM (walkMemberWith index recurse) (.ofSearch index path s) = some st') :
    ∃ s', Dfs.Run (depGraph index) path (ms.filter SupportMember.isDependency) s s' ∧
      st' = .ofSearch index path s' := by
  induction ms generalizing s with
  | nil => exact ⟨s, .nil, (Option.some.inj hw).symm⟩
  | cons m ms ih =>
    rw [List.foldlM_cons] at hw
    obtain ⟨st₁, h₁, h₂⟩ := Option.bind_eq_some_iff.1 hw
    cases hm : m.isDependency with
    | true =>
      obtain ⟨s₁, rfl, hp₁, hstep⟩ := walkMemberWith_run hrec hp hm h₁
      obtain ⟨s', hr, hs'⟩ := ih hp₁ h₂
      rw [List.filter_cons_of_pos hm]
      exact ⟨s', hstep _ _ hr, hs'⟩
    | false =>
      rw [walkMemberWith_of_not_dependency hm] at h₁
      obtain rfl := Option.some.inj h₁
      rw [List.filter_cons_of_neg (by simp [hm])]
      exact ih hp h₂

theorem searchesFrom_walkFuel (fuel : ℕ) : SearchesFrom index (walkFuel index fuel) := by
  induction fuel with
  | zero => exact fun _ _ _ _ _ hw => by simp [walkFuel] at hw
  | succ fuel ih =>
    intro nodeHash path s st' hp hw
    rw [walkFuel] at hw
    constructor
    · intro hseen
      rw [if_pos (by exact hseen)] at hw
      exact (Option.some.inj hw).symm
    · intro hnew
      rw [if_neg (by exact hnew)] at hw
      obtain ⟨st₁, h₁, rfl⟩ := Option.map_eq_some_iff.1 hw
      have hnp : nodeHash ∉ path := fun h => hnew (hp _ h)
      have henter : (WalkState.ofSearch index path s).enter nodeHash =
          .ofSearch index (nodeHash :: path) (s.enter nodeHash) := by
        simp [WalkState.enter, WalkState.ofSearch]
      rw [henter] at h₁
      obtain ⟨s', hr, rfl⟩ := foldlM_walkMemberWith_run ih (Dfs.Run.path_seen_enter hp) h₁
      refine ⟨s', hr, ?_⟩
      simp [WalkState.leave, WalkState.ofSearch, hnp]

/-- **The walk from fresh accumulators is a depth-first search of `depGraph`**, and leaves the
stack empty. -/
theorem walk_run (index : Index) (rootHash : String) :
    ∃ s, Dfs.Run (depGraph index) [rootHash] ((depGraph index).out rootHash) (.start rootHash) s ∧
      walk index rootHash .init = .ofSearch index [] s := by
  have hget : walkFuel index (index.keys.length + 1) rootHash (.ofSearch index [] ⟨∅, [], false⟩) =
      some (walk index rootHash .init) := (Option.some_get _).symm
  obtain ⟨s, hr, hs⟩ := (searchesFrom_walkFuel _ rootHash [] _ _ (by simp) hget).2 (by simp)
  exact ⟨s, by simpa [Dfs.State.enter, Dfs.State.start] using hr, hs⟩

/-- The walk reaches what can be reached along resolved typed edges. -/
theorem mem_walk_reachable {rootHash h : String} :
    h ∈ (walk index rootHash .init).reachable ↔ (depGraph index).Reach rootHash h := by
  obtain ⟨s, hr, hs⟩ := walk_run index rootHash
  rw [hs]
  exact hr.seen_iff

/-- The walk checks the dependencies of the receipts it reaches. -/
theorem mem_walk_edgeChecks {rootHash : String} {c : EdgeCheck} :
    c ∈ (walk index rootHash .init).edgeChecks ↔
      ∃ h, (depGraph index).Reach rootHash h ∧
        ∃ m ∈ (depGraph index).out h, edgeCheck index m = c := by
  obtain ⟨s, hr, hs⟩ := walk_run index rootHash
  rw [hs]
  simp only [WalkState.ofSearch, List.mem_map, hr.mem_log_iff]
  constructor
  · rintro ⟨m, ⟨h, hreach, hm⟩, hc⟩
    exact ⟨h, hreach, m, hm, hc⟩
  · rintro ⟨h, hreach, m, hm, hc⟩
    exact ⟨m, ⟨h, hreach, hm⟩, hc⟩

/-- A resolved check is that of a typed edge. -/
theorem edgeCheck_of_resolved {index : Index} {m : SupportMember}
    (hc : (edgeCheck index m).status = .resolved) :
    ∃ eventHash role targetSchema, m = .typedReceiptDependency eventHash role targetSchema ∧
      edgeCheck index m = ⟨eventHash, role.label, some targetSchema, .resolved, none⟩ := by
  cases m with
  | typedReceiptDependency eventHash role targetSchema =>
    refine ⟨eventHash, role, targetSchema, rfl, ?_⟩
    simp only [edgeCheck, typedEdgeCheck, classifyEdge] at hc ⊢
    generalize index.lookup eventHash = target at hc ⊢
    cases target with
    | none => cases hc
    | some n =>
      dsimp only at hc ⊢
      split_ifs at hc ⊢
      rfl
  | _ => cases hc

/-- When every edge checked is resolved, a cycle is reported exactly when one is reachable. -/
theorem walk_cycleDetected_iff {rootHash : String}
    (hres : ∀ c ∈ (walk index rootHash .init).edgeChecks, c.status = .resolved) :
    (walk index rootHash .init).cycleDetected = true ↔
      ∃ h, (depGraph index).Reach rootHash h ∧
        Relation.TransGen (depGraph index).Step h h := by
  obtain ⟨s, hr, hs⟩ := walk_run index rootHash
  rw [hs] at hres ⊢
  refine hr.cycle_iff fun m hm => ?_
  have hst := hres (edgeCheck index m) (List.mem_map_of_mem hm)
  simp [depGraph, hst]

end VertRule
