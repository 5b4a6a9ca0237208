import VertRule.Closure.Law
import VertRule.DecisionPack

/-!
# Reports never contradict themselves

The reports of all entry points together: each is valid exactly when it lists no error, and a
valid one carries no negative sub-verdict.
-/

namespace VertRule

/-- **No report contradicts itself**, for any input of any entry point. -/
theorem reports_consistent (E : Externals) :
    (∀ rawBytes limits, (verifyReceiptWithLimits E rawBytes limits).Consistent) ∧
    (∀ rawBytes, (verifyReceipt E rawBytes).Consistent) ∧
    (∀ rawBytes limits, (verifyReceiptChainWithLimits E rawBytes limits).Consistent) ∧
    (∀ rawBytes, (verifyReceiptChain E rawBytes).Consistent) ∧
    (∀ rawBytes sigBytes, (verifySignedReceipt E rawBytes sigBytes).Consistent) ∧
    (∀ rawBytes sigBytes authoritySet trustPolicy,
      (verifySignedReceiptWithTrust E rawBytes sigBytes authoritySet trustPolicy).Consistent) ∧
    (∀ rawBytes, (verifyBundle E rawBytes).Consistent) ∧
    (∀ rawBytes, (verifyDecisionPack E rawBytes).Consistent) ∧
    (∀ rawBytes, (verifyLayeredPack E rawBytes).Consistent) ∧
    ∀ rawBytes, (verifyClosureBundle E rawBytes).Consistent :=
  ⟨fun _ _ => verifyReceiptWithLimits_consistent, fun _ => verifyReceipt_consistent,
    fun _ _ => verifyReceiptChainWithLimits_consistent, fun _ => verifyReceiptChain_consistent,
    fun _ _ => verifySignedReceipt_consistent,
    fun _ _ _ _ => verifySignedReceiptWithTrust_consistent, fun _ => verifyBundle_consistent,
    fun _ => verifyDecisionPack_consistent, fun _ => verifyLayeredPack_consistent,
    fun _ => verifyClosureBundle_consistent⟩

end VertRule
