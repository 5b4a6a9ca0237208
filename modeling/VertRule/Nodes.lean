import VertRule.Lib.CheckedFold
import VertRule.Limits

/-!
# The nodes of a value

The structural limits, stated on the nodes of a value with their depths.  The walk of `limits.rs`
is a fold over these nodes that stops at the first violation (`Limits.walk_eq_foldlM`), so it
passes a value exactly when the limits hold of all nodes, and what it reports is really there
(`checkStructure_exact`).
-/

namespace VertRule

namespace Json

mutual

/-- The nodes of a value at some depth, each with its own depth, in the order a walk visits them:
a node before its children. -/
def nodes (depth : ℕ) : Json → List (ℕ × Json)
  | .object map => (depth, .object map) :: valueNodes (depth + 1) map
  | .array arr => (depth, .array arr) :: elemNodes (depth + 1) arr
  | .null => [(depth, .null)]
  | .bool b => [(depth, .bool b)]
  | .number n => [(depth, .number n)]
  | .string s => [(depth, .string s)]
termination_by structural v => v

/-- The nodes of the elements of an array. -/
def elemNodes (depth : ℕ) : List Json → List (ℕ × Json)
  | [] => []
  | v :: arr => nodes depth v ++ elemNodes depth arr
termination_by structural arr => arr

/-- The nodes of the values of an object. -/
def valueNodes (depth : ℕ) : List (String × Json) → List (ℕ × Json)
  | [] => []
  | (_, v) :: map => nodes depth v ++ valueNodes depth map
termination_by structural map => map

end

theorem mem_nodes_self (depth : ℕ) (v : Json) : (depth, v) ∈ nodes depth v := by
  cases v <;> simp [nodes]

/-- The nodes of an element are nodes of the array. -/
theorem nodes_sublist_elemNodes {depth : ℕ} {v : Json} {arr : List Json} (hmem : v ∈ arr) :
    (nodes depth v).Sublist (elemNodes depth arr) := by
  induction arr with
  | nil => cases hmem
  | cons w arr ih =>
    rw [elemNodes]
    rcases List.mem_cons.1 hmem with rfl | hmem
    · exact List.sublist_append_left _ _
    · exact (ih hmem).trans (List.sublist_append_right _ _)

/-- The nodes of the value of a member are nodes of the object. -/
theorem nodes_sublist_valueNodes {depth : ℕ} {key : String} {v : Json}
    {map : List (String × Json)} (hmem : (key, v) ∈ map) :
    (nodes depth v).Sublist (valueNodes depth map) := by
  induction map with
  | nil => cases hmem
  | cons member map ih =>
    rw [valueNodes]
    rcases List.mem_cons.1 hmem with rfl | hmem
    · exact List.sublist_append_left _ _
    · exact (ih hmem).trans (List.sublist_append_right _ _)

/-- A node, one level deeper. -/
def deeper (node : ℕ × Json) : ℕ × Json := (node.1 + 1, node.2)

mutual

theorem nodes_succ (depth : ℕ) : ∀ v, nodes (depth + 1) v = (nodes depth v).map deeper
  | .object map => by rw [nodes, nodes, List.map_cons, valueNodes_succ (depth + 1) map, deeper]
  | .array arr => by rw [nodes, nodes, List.map_cons, elemNodes_succ (depth + 1) arr, deeper]
  | .null | .bool _ | .number _ | .string _ => rfl

theorem elemNodes_succ (depth : ℕ) :
    ∀ arr, elemNodes (depth + 1) arr = (elemNodes depth arr).map deeper
  | [] => rfl
  | v :: arr => by
    rw [elemNodes, elemNodes, List.map_append, nodes_succ depth v, elemNodes_succ depth arr]

theorem valueNodes_succ (depth : ℕ) :
    ∀ map, valueNodes (depth + 1) map = (valueNodes depth map).map deeper
  | [] => rfl
  | (_, v) :: map => by
    rw [valueNodes, valueNodes, List.map_append, nodes_succ depth v, valueNodes_succ depth map]

end

/-- The value has a node at this depth. -/
def HasNode (v : Json) (depth : ℕ) (node : Json) : Prop := (depth, node) ∈ v.nodes 0

/-- The number of nodes of a value. -/
def nodeCount (v : Json) : ℕ := (v.nodes 0).length

/-- The structural limits hold of a value: no node is too deep, there are not too many, and no
object or array is too large. -/
structure Within (limits : VerifierLimits) (v : Json) : Prop where
  depth : ∀ depth node, v.HasNode depth node → depth ≤ limits.maxDepth
  count : v.nodeCount ≤ limits.maxNodeCount
  object : ∀ depth map, v.HasNode depth (.object map) → map.length ≤ limits.maxObjectSize
  array : ∀ depth arr, v.HasNode depth (.array arr) → arr.length ≤ limits.maxArraySize

/-- **The elements of an array within the limits are within them.** -/
theorem Within.of_mem {limits : VerifierLimits} {elems : List Json} {v : Json}
    (h : (Json.array elems).Within limits) (hv : v ∈ elems) : v.Within limits := by
  have hsub : ((v.nodes 0).map deeper).Sublist ((Json.array elems).nodes 0) := by
    rw [← nodes_succ, nodes]
    exact (nodes_sublist_elemNodes hv).trans (List.sublist_cons_self _ _)
  have hnode : ∀ {depth node}, v.HasNode depth node → (Json.array elems).HasNode (depth + 1) node :=
    fun hn => hsub.subset (List.mem_map_of_mem (f := deeper) hn)
  refine ⟨fun depth node hn => ?_, ?_, fun depth map hn => h.object _ map (hnode hn),
    fun depth arr hn => h.array _ arr (hnode hn)⟩
  · exact (Nat.le_succ depth).trans (h.depth _ node (hnode hn))
  · have hlen := hsub.length_le
    rw [List.length_map] at hlen
    exact hlen.trans h.count

end Json

namespace LimitViolation

/-- What was measured exceeds the limit, which is the one of `limits`. -/
def Exceeds (limits : VerifierLimits) : LimitViolation → Prop
  | inputTooLarge actual limit => limit = limits.maxBytes ∧ limit < actual
  | depthExceeded actual limit => limit = limits.maxDepth ∧ limit < actual
  | nodeCountExceeded actual limit => limit = limits.maxNodeCount ∧ limit < actual
  | objectTooLarge actual limit => limit = limits.maxObjectSize ∧ limit < actual
  | arrayTooLarge actual limit => limit = limits.maxArraySize ∧ limit < actual
  | chainTooLong actual limit => limit = limits.maxChainLength ∧ limit < actual

/-- What was measured is found in the value: a node at that depth, at least that many nodes, an
object or an array of that size. -/
def OccursIn (v : Json) : LimitViolation → Prop
  | depthExceeded actual _ => ∃ node, v.HasNode actual node
  | nodeCountExceeded actual _ => actual ≤ v.nodeCount
  | objectTooLarge actual _ => ∃ depth map, v.HasNode depth (.object map) ∧ map.length = actual
  | arrayTooLarge actual _ => ∃ depth arr, v.HasNode depth (.array arr) ∧ arr.length = actual
  | inputTooLarge _ _ | chainTooLong _ _ => False

end LimitViolation

/-- `check_structure` passes the values within the limits, and reports violations that are there. -/
structure StructureExact (limits : VerifierLimits) (v : Json) : Prop where
  passes : checkStructure v limits = .ok () ↔ v.Within limits
  genuine : ∀ violation, checkStructure v limits = .error violation →
    violation.Exceeds limits ∧ violation.OccursIn v

namespace Limits

/-! ### The walk as a fold -/

section Walk

variable (limits : VerifierLimits)

/-- The check `walk` makes on the size of a node, before its children. -/
def checkSize (nodeCount : ℕ) : Json → Except LimitViolation ℕ
  | .object map =>
    if map.length > limits.maxObjectSize then
      .error (.objectTooLarge map.length limits.maxObjectSize)
    else .ok nodeCount
  | .array arr =>
    if arr.length > limits.maxArraySize then
      .error (.arrayTooLarge arr.length limits.maxArraySize)
    else .ok nodeCount
  | _ => .ok nodeCount

/-- What `walk` does at a node, apart from its children. -/
def visit (nodeCount : ℕ) (node : ℕ × Json) : Except LimitViolation ℕ := do
  let nodeCount ← enterNode limits node.1 nodeCount
  checkSize limits nodeCount node.2

mutual

/-- **The walk is a fold over the nodes.** -/
theorem walk_eq_foldlM (depth : ℕ) :
    ∀ v nodeCount, walk limits depth v nodeCount =
      (v.nodes depth).foldlM (visit limits) nodeCount
  | .object map, nodeCount => by
    simp only [walk, Json.nodes, List.foldlM_cons, visit, bind_assoc, checkSize]
    congr 1
    funext k
    rw [walkValues_eq_foldlM (depth + 1) map k]
    split_ifs <;> rfl
  | .array arr, nodeCount => by
    simp only [walk, Json.nodes, List.foldlM_cons, visit, bind_assoc, checkSize]
    congr 1
    funext k
    rw [walkElems_eq_foldlM (depth + 1) arr k]
    split_ifs <;> rfl
  | .null, nodeCount | .bool _, nodeCount | .number _, nodeCount | .string _, nodeCount => by
    simp only [walk, Json.nodes, List.foldlM_cons, List.foldlM_nil, visit, checkSize]
    cases enterNode limits depth nodeCount <;> rfl

theorem walkElems_eq_foldlM (depth : ℕ) :
    ∀ arr nodeCount, walkElems limits depth arr nodeCount =
      (Json.elemNodes depth arr).foldlM (visit limits) nodeCount
  | [], _ => rfl
  | v :: arr, nodeCount => by
    rw [walkElems, Json.elemNodes, List.foldlM_append, walk_eq_foldlM depth v nodeCount]
    congr 1
    funext k
    exact walkElems_eq_foldlM depth arr k

theorem walkValues_eq_foldlM (depth : ℕ) :
    ∀ map nodeCount, walkValues limits depth map nodeCount =
      (Json.valueNodes depth map).foldlM (visit limits) nodeCount
  | [], _ => rfl
  | (_, v) :: map, nodeCount => by
    rw [walkValues, Json.valueNodes, List.foldlM_append, walk_eq_foldlM depth v nodeCount]
    congr 1
    funext k
    exact walkValues_eq_foldlM depth map k

end

end Walk

/-! ### What a visit checks -/

variable {limits : VerifierLimits} {depth nodeCount : ℕ} {v : Json} {violation : LimitViolation}

/-- A node that passes a visit, whatever the count. -/
def NodeWithin (limits : VerifierLimits) (node : ℕ × Json) : Prop :=
  node.1 ≤ limits.maxDepth ∧
    (∀ map, node.2 = .object map → map.length ≤ limits.maxObjectSize) ∧
    ∀ arr, node.2 = .array arr → arr.length ≤ limits.maxArraySize

theorem enterNode_eq_ok {m : ℕ} :
    enterNode limits depth nodeCount = .ok m ↔
      m = nodeCount + 1 ∧ nodeCount + 1 ≤ limits.maxNodeCount ∧ depth ≤ limits.maxDepth := by
  rw [enterNode, Except.ite_error_eq_ok, Except.ite_error_eq_ok, Except.ok.injEq]
  omega

theorem checkSize_eq_ok {m : ℕ} :
    checkSize limits nodeCount v = .ok m ↔
      m = nodeCount ∧ (∀ map, v = .object map → map.length ≤ limits.maxObjectSize) ∧
        ∀ arr, v = .array arr → arr.length ≤ limits.maxArraySize := by
  cases v with
  | object map =>
    rw [checkSize, Except.ite_error_eq_ok, Except.ok.injEq]
    simp [and_comm, eq_comm]
  | array arr =>
    rw [checkSize, Except.ite_error_eq_ok, Except.ok.injEq]
    simp [and_comm, eq_comm]
  | _ => simp [checkSize, eq_comm]

/-- Visits count the nodes, up to the limit on their number. -/
theorem visit_counts :
    CheckedFold.Counts (visit limits) limits.maxNodeCount (NodeWithin limits) := by
  rintro n ⟨depth, v⟩ m
  simp only [visit, Except.bind_eq_ok, enterNode_eq_ok, checkSize_eq_ok, NodeWithin]
  constructor
  · rintro ⟨k, ⟨rfl, hcount, hdepth⟩, rfl, hobject, harray⟩
    exact ⟨rfl, hcount, hdepth, hobject, harray⟩
  · rintro ⟨rfl, hcount, hdepth, hobject, harray⟩
    exact ⟨_, ⟨rfl, hcount, hdepth⟩, rfl, hobject, harray⟩

theorem enterNode_eq_error (h : enterNode limits depth nodeCount = .error violation) :
    (violation = .depthExceeded depth limits.maxDepth ∧ limits.maxDepth < depth) ∨
      (violation = .nodeCountExceeded (nodeCount + 1) limits.maxNodeCount ∧
        limits.maxNodeCount < nodeCount + 1) := by
  unfold enterNode at h
  split_ifs at h with hdepth hcount
  · exact .inl ⟨(Except.error.inj h).symm, hdepth⟩
  · exact .inr ⟨(Except.error.inj h).symm, hcount⟩

theorem checkSize_eq_error (h : checkSize limits nodeCount v = .error violation) :
    (∃ map, v = .object map ∧ violation = .objectTooLarge map.length limits.maxObjectSize ∧
        limits.maxObjectSize < map.length) ∨
      ∃ arr, v = .array arr ∧ violation = .arrayTooLarge arr.length limits.maxArraySize ∧
        limits.maxArraySize < arr.length := by
  cases v with
  | object map =>
    rw [checkSize] at h
    split_ifs at h with hsize
    exact .inl ⟨map, rfl, (Except.error.inj h).symm, hsize⟩
  | array arr =>
    rw [checkSize] at h
    split_ifs at h with hsize
    exact .inr ⟨arr, rfl, (Except.error.inj h).symm, hsize⟩
  | _ => cases h

/-- What a visit reports exceeds its limit and is there, if the count is right. -/
theorem visit_eq_error {node : ℕ × Json} (hnode : node ∈ v.nodes 0)
    (hcount : nodeCount + 1 ≤ v.nodeCount) (h : visit limits nodeCount node = .error violation) :
    violation.Exceeds limits ∧ violation.OccursIn v := by
  obtain ⟨depth, w⟩ := node
  rcases Except.bind_eq_error.1 h with h | ⟨k, -, h⟩
  · rcases enterNode_eq_error h with ⟨rfl, hlt⟩ | ⟨rfl, hlt⟩
    · exact ⟨⟨rfl, hlt⟩, w, hnode⟩
    · exact ⟨⟨rfl, hlt⟩, hcount⟩
  · rcases checkSize_eq_error h with ⟨map, hw, rfl, hlt⟩ | ⟨arr, hw, rfl, hlt⟩
    · obtain rfl : w = .object map := hw
      exact ⟨⟨rfl, hlt⟩, depth, map, hnode, rfl⟩
    · obtain rfl : w = .array arr := hw
      exact ⟨⟨rfl, hlt⟩, depth, arr, hnode, rfl⟩

end Limits

open Limits

theorem Json.within_iff {limits : VerifierLimits} {v : Json} :
    v.Within limits ↔
      v.nodeCount ≤ limits.maxNodeCount ∧ ∀ node ∈ v.nodes 0, NodeWithin limits node := by
  constructor
  · intro h
    refine ⟨h.count, ?_⟩
    rintro ⟨depth, w⟩ hnode
    refine ⟨h.depth depth w hnode, fun map hw => ?_, fun arr hw => ?_⟩
    · obtain rfl : w = .object map := hw
      exact h.object depth map hnode
    · obtain rfl : w = .array arr := hw
      exact h.array depth arr hnode
  · rintro ⟨hcount, hnodes⟩
    exact ⟨fun depth w hnode => (hnodes _ hnode).1, hcount,
      fun depth map hnode => (hnodes _ hnode).2.1 map rfl,
      fun depth arr hnode => (hnodes _ hnode).2.2 arr rfl⟩

theorem checkStructure_eq_ok_iff_within {limits : VerifierLimits} {v : Json} :
    checkStructure v limits = .ok () ↔ v.Within limits := by
  rw [checkStructure_eq_ok, Json.within_iff, walk_eq_foldlM]
  simp only [visit_counts.foldlM_eq_ok (Nat.zero_le _), Nat.zero_add, exists_eq_left,
    Json.nodeCount]

theorem checkStructure_of_mem {elems : List Json} {v : Json} {limits : VerifierLimits}
    (h : checkStructure (.array elems) limits = .ok ()) (hv : v ∈ elems) :
    checkStructure v limits = .ok () :=
  checkStructure_eq_ok_iff_within.2 ((checkStructure_eq_ok_iff_within.1 h).of_mem hv)

theorem checkStructure_eq_error {limits : VerifierLimits} {v : Json} {violation : LimitViolation} :
    checkStructure v limits = .error violation ↔ walk limits 0 v 0 = .error violation := by
  simp [checkStructure, Except.bind_eq_error]

/-- What `check_structure` reports exceeds its limit and is there. -/
theorem checkStructure_genuine {limits : VerifierLimits} {v : Json} {violation : LimitViolation}
    (h : checkStructure v limits = .error violation) :
    violation.Exceeds limits ∧ violation.OccursIn v := by
  rw [checkStructure_eq_error, walk_eq_foldlM, CheckedFold.foldlM_eq_error] at h
  obtain ⟨before, node, after, k, hnodes, hbefore, herr⟩ := h
  have hlen : v.nodeCount = before.length + (after.length + 1) := by
    simp [Json.nodeCount, hnodes]
  -- the nodes before the one that is reported have all been counted
  obtain ⟨rfl, -⟩ := (visit_counts.foldlM_eq_ok (Nat.zero_le _)).1 hbefore
  refine visit_eq_error ?_ (by omega) herr
  simp [hnodes]

/-- **The structural-limit walk is exact.** -/
theorem checkStructure_exact (limits : VerifierLimits) (v : Json) : StructureExact limits v :=
  ⟨checkStructure_eq_ok_iff_within, fun _ => checkStructure_genuine⟩

end VertRule
