import VertRule.Error
import Mathlib.Data.Finset.Insert
import Mathlib.Data.List.Chain
import Mathlib.Data.List.Nodup

/-!
# Chain verification

`chain.rs`: the checks on a sequence of envelopes.  `checkChainDetail` collects every
violation; `ValidChain` states the seven rules the module documents.
-/

namespace VertRule

/-- `ChainDetail`. -/
structure ChainDetail where
  linkageOk : Bool
  orderingOk : Bool
  contextUniform : Bool
  policyStable : Bool
  schemaUniform : Bool
  errors : List VerifyError

/-- The loop of `check_uniform`, over envelopes numbered from `i`: whether the field has been
uniform so far, and the errors so far. -/
def checkUniformFrom (field : ReceiptEnvelope → DigestBytes)
    (makeErr : ℕ → DigestBytes → DigestBytes → VerifyError) (expected : DigestBytes) :
    ℕ → List ReceiptEnvelope → Bool × List VerifyError → Bool × List VerifyError
  | _, [], st => st
  | i, env :: envelopes, (uniform, errors) =>
    checkUniformFrom field makeErr expected (i + 1) envelopes
      (if field env ≠ expected then (false, errors ++ [makeErr i expected (field env)])
        else (uniform, errors))

/-- `check_uniform` on a chain that starts with `first`. -/
def checkUniform (first : ReceiptEnvelope) (rest : List ReceiptEnvelope)
    (field : ReceiptEnvelope → DigestBytes)
    (makeErr : ℕ → DigestBytes → DigestBytes → VerifyError) (errors : List VerifyError) :
    Bool × List VerifyError :=
  checkUniformFrom field makeErr (field first) 1 rest (true, errors)

/-- The variables of the loop of `check_chain_detail` over consecutive envelopes. -/
structure PairState where
  seenHashes : Finset DigestBytes
  linkageOk : Bool
  orderingOk : Bool
  errors : List VerifyError

namespace PairState

/-- Duplicate `event_hash` detection. -/
def checkDuplicate (st : PairState) (i : ℕ) (curr : ReceiptEnvelope) : PairState :=
  if curr.eventHash ∈ st.seenHashes then
    { st with
      errors := st.errors ++ [.duplicateEventHash i curr.eventHash]
      linkageOk := false }
  else { st with seenHashes := insert curr.eventHash st.seenHashes }

/-- Parent linkage. -/
def checkLinkage (st : PairState) (i : ℕ) (prev curr : ReceiptEnvelope) : PairState :=
  if curr.parentId ≠ some prev.eventHash then
    { st with
      errors := st.errors ++ [.chainLinkageBroken i (some prev.eventHash) curr.parentId]
      linkageOk := false }
  else st

/-- Strictly increasing logical time. -/
def checkOrdering (st : PairState) (i : ℕ) (prev curr : ReceiptEnvelope) : PairState :=
  if curr.logicalTime ≤ prev.logicalTime then
    { st with
      errors := st.errors ++ [.logicalTimeNotMonotonic i prev.logicalTime curr.logicalTime]
      orderingOk := false }
  else st

end PairState

/-- The loop of `check_chain_detail` over consecutive envelopes, from index `i` on. -/
def checkPairs : ℕ → ReceiptEnvelope → List ReceiptEnvelope → PairState → PairState
  | _, _, [], st => st
  | i, prev, curr :: rest, st =>
    checkPairs (i + 1) curr rest
      (((st.checkDuplicate i curr).checkLinkage i prev curr).checkOrdering i prev curr)

/-- `check_chain_detail`. -/
def checkChainDetail : List ReceiptEnvelope → ChainDetail
  | [] => ⟨true, true, true, true, true, []⟩
  | first :: rest =>
    let errors := if first.parentId.isSome then [.chainLinkageBroken 0 none first.parentId] else []
    let (contextUniform, errors) :=
      checkUniform first rest (·.contextDigest) .contextInconsistent errors
    let (policyStable, errors) :=
      checkUniform first rest (·.policyDigest) .policyInconsistent errors
    let (schemaUniform, errors) :=
      checkUniform first rest (·.schemaDigest) .schemaInconsistent errors
    let st := checkPairs 1 first rest
      { seenHashes := {first.eventHash}
        linkageOk := first.parentId.isNone
        orderingOk := true
        errors := errors }
    { linkageOk := st.linkageOk
      orderingOk := st.orderingOk
      contextUniform
      policyStable
      schemaUniform
      errors := st.errors }

/-- `verify_chain`. -/
def verifyChain (envelopes : List ReceiptEnvelope) : Except VerifyError Unit :=
  match (checkChainDetail envelopes).errors with
  | e :: _ => .error e
  | [] => .ok ()

/-! ### The chain rules -/

/-- `curr` follows `prev`: it names `prev` as its parent and comes later. -/
def Follows (prev curr : ReceiptEnvelope) : Prop :=
  curr.parentId = some prev.eventHash ∧ prev.logicalTime < curr.logicalTime

/-- The rules of a valid chain that starts with `first`. -/
structure ValidChainFrom (first : ReceiptEnvelope) (rest : List ReceiptEnvelope) : Prop where
  parentless : first.parentId = none
  linked : (first :: rest).IsChain Follows
  context : ∀ e ∈ rest, e.contextDigest = first.contextDigest
  policy : ∀ e ∈ rest, e.policyDigest = first.policyDigest
  schema : ∀ e ∈ rest, e.schemaDigest = first.schemaDigest
  distinct : ((first :: rest).map (·.eventHash)).Nodup

/-- The rules of a valid chain; an empty one is valid. -/
def ValidChain : List ReceiptEnvelope → Prop
  | [] => True
  | first :: rest => ValidChainFrom first rest

end VertRule
