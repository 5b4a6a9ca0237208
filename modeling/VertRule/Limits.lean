import VertRule.Error
import VertRule.Lib.Except

/-!
# Resource limits

The limits of `limits.rs` and the walk that checks a parsed value against them.
-/

namespace VertRule

/-- `VerifierLimits`. -/
structure VerifierLimits where
  maxBytes : ℕ
  maxDepth : ℕ
  maxNodeCount : ℕ
  maxObjectSize : ℕ
  maxArraySize : ℕ
  maxChainLength : ℕ

/-- `VerifierLimits::default`. -/
def VerifierLimits.default : VerifierLimits where
  maxBytes := 1048576
  maxDepth := 64
  maxNodeCount := 50000
  maxObjectSize := 256
  maxArraySize := 10000
  maxChainLength := 10000

/-- `check_byte_limit`. -/
def checkByteLimit (rawBytes : Bytes) (limits : VerifierLimits) : Except LimitViolation Unit :=
  if rawBytes.length > limits.maxBytes then
    .error (.inputTooLarge rawBytes.length limits.maxBytes)
  else .ok ()

/-- `check_chain_length`. -/
def checkChainLength (length : ℕ) (limits : VerifierLimits) : Except LimitViolation Unit :=
  if length > limits.maxChainLength then .error (.chainTooLong length limits.maxChainLength)
  else .ok ()

namespace Limits

variable (limits : VerifierLimits)

/-- The checks `walk` makes on entering a node: depth first, then the running node count. -/
def enterNode (depth nodeCount : ℕ) : Except LimitViolation ℕ :=
  if depth > limits.maxDepth then .error (.depthExceeded depth limits.maxDepth)
  else if nodeCount + 1 > limits.maxNodeCount then
    .error (.nodeCountExceeded (nodeCount + 1) limits.maxNodeCount)
  else .ok (nodeCount + 1)

mutual

/-- `walk`: the node count after visiting the value, or the first violation. -/
def walk (depth : ℕ) : Json → ℕ → Except LimitViolation ℕ
  | .object map, nodeCount => do
    let nodeCount ← enterNode limits depth nodeCount
    if map.length > limits.maxObjectSize then
      throw (.objectTooLarge map.length limits.maxObjectSize)
    walkValues (depth + 1) map nodeCount
  | .array arr, nodeCount => do
    let nodeCount ← enterNode limits depth nodeCount
    if arr.length > limits.maxArraySize then
      throw (.arrayTooLarge arr.length limits.maxArraySize)
    walkElems (depth + 1) arr nodeCount
  | _, nodeCount => enterNode limits depth nodeCount
termination_by structural v => v

/-- The loop of `walk` over the elements of an array. -/
def walkElems (depth : ℕ) : List Json → ℕ → Except LimitViolation ℕ
  | [], nodeCount => .ok nodeCount
  | v :: arr, nodeCount => do
    let nodeCount ← walk depth v nodeCount
    walkElems depth arr nodeCount
termination_by structural arr => arr

/-- The loop of `walk` over the values of an object. -/
def walkValues (depth : ℕ) : List (String × Json) → ℕ → Except LimitViolation ℕ
  | [], nodeCount => .ok nodeCount
  | (_, v) :: map, nodeCount => do
    let nodeCount ← walk depth v nodeCount
    walkValues depth map nodeCount
termination_by structural map => map

end

end Limits

/-- `check_structure`. -/
def checkStructure (value : Json) (limits : VerifierLimits) : Except LimitViolation Unit := do
  let _ ← Limits.walk limits 0 value 0

theorem checkByteLimit_eq_ok {rawBytes : Bytes} {limits : VerifierLimits} :
    checkByteLimit rawBytes limits = .ok () ↔ rawBytes.length ≤ limits.maxBytes := by
  unfold checkByteLimit
  split_ifs with h
  · simp [h]
  · simp [Nat.not_lt.1 h]

theorem checkChainLength_eq_ok {length : ℕ} {limits : VerifierLimits} :
    checkChainLength length limits = .ok () ↔ length ≤ limits.maxChainLength := by
  unfold checkChainLength
  split_ifs with h
  · simp [h]
  · simp [Nat.not_lt.1 h]

theorem checkStructure_eq_ok {value : Json} {limits : VerifierLimits} :
    checkStructure value limits = .ok () ↔ ∃ m, Limits.walk limits 0 value 0 = .ok m := by
  simp [checkStructure, Except.bind_eq_ok]

end VertRule
