import VertRule.Bundle

/-!
# Layered packs

`layered_pack.rs`: a layered-family root receipt and the receipts its lineage edges point at,
one level deep.  The statuses and records of edges are shared with the closure verifier.
-/

namespace VertRule

/-- `EXPECTED_FORMAT` of a layered pack. -/
def layeredPackFormat : String := "vr-layered-pack/v1"

namespace LayeredPack

/-- `LAYERED_KINDS` of a layered pack. -/
def layeredKinds : List String := [providerPayloadKind, modelPayloadKind]

end LayeredPack

/-- `EdgeStatus`. -/
inductive EdgeStatus where
  | resolved | missing | failed | schemaMismatch | untypedEdge
  deriving DecidableEq

/-- `{:?}` of an edge status. -/
def EdgeStatus.debug : EdgeStatus → String
  | resolved => "Resolved"
  | missing => "Missing"
  | failed => "Failed"
  | schemaMismatch => "SchemaMismatch"
  | untypedEdge => "UntypedEdge"

/-- `EdgeCheck`. -/
structure EdgeCheck where
  eventHash : String
  role : Option String
  targetSchema : Option String
  status : EdgeStatus
  detail : Option String
  deriving DecidableEq

/-- The check of an untyped edge. -/
def EdgeCheck.untyped (eventHash : String) : EdgeCheck where
  eventHash := eventHash
  role := none
  targetSchema := none
  status := .untypedEdge
  detail := some "untyped depended_on_receipt edge in a layered-family receipt"

/-- The error of an edge that is not resolved. -/
def EdgeCheck.error (check : EdgeCheck) : Option String :=
  if check.status ≠ .resolved then
    some s!"lineage edge \"{check.eventHash}\" is OUT ({check.status.debug})"
  else none

theorem EdgeCheck.error_eq_none {check : EdgeCheck} :
    check.error = none ↔ check.status = .resolved := by
  unfold EdgeCheck.error
  split_ifs with h <;> simp_all

/-- `LayeredPackVerificationResult`. -/
structure LayeredPackVerificationResult where
  status : VerificationStatus
  schemaVersion : String
  rootResult : VerificationResult
  rootKind : Option String
  edgeChecks : List EdgeCheck
  errors : List String

/-- `invalid`. -/
def LayeredPackVerificationResult.invalid (error : String) : LayeredPackVerificationResult where
  status := .invalid
  schemaVersion := profileVersion
  rootResult := .invalid "pack-level error"
  rootKind := none
  edgeChecks := []
  errors := [error]

/-- `SuppliedReceipt`. -/
structure SuppliedReceipt where
  eventHash : String
  payloadKind : String
  status : VerificationStatus
  detail : String

variable (E : Externals)

/-- `{:?}` of a list of strings. -/
def Externals.debugStrings (strings : List String) : String :=
  "[" ++ ", ".intercalate (strings.map E.debugStr) ++ "]"

/-- `extract_layered_payload`. -/
def extractLayeredPayload (envelopeJson : String) :
    Except String (String × List SupportMember) := do
  let value ← (E.fromStr envelopeJson).mapError fun e => s!"malformed envelope: {e}"
  match value.get "payload" with
  | none => throw "layered root envelope has no payload"
  | some payload =>
    let kind := ((payload.get "payload_kind").bind Json.asStr).getD ""
    if kind ∉ LayeredPack.layeredKinds then
      throw (s!"root is not a layered-family receipt: payload_kind \"{kind}\" is not one of " ++
        E.debugStrings LayeredPack.layeredKinds)
    let supportSet ← match payload.get "support_set" with
      | none => pure []
      | some s => (E.supportSetFromValue s).mapError fun e => s!"malformed layered support_set: {e}"
    pure (kind, supportSet)

/-- `index_supplied`. -/
def indexSupplied (envelopeJson : String) : Option SuppliedReceipt := do
  let value ← (E.fromStr envelopeJson).toOption
  let eventHash ← readEventHash value
  let result := verifyReceipt E (asBytes envelopeJson)
  pure {
    eventHash
    payloadKind := (readPayloadKind value).getD ""
    status := result.status
    detail := "; ".intercalate result.errors }

/-- `walk_edge`. -/
def walkEdge (supplied : List SuppliedReceipt) : SupportMember → Option EdgeCheck
  | .typedReceiptDependency eventHash role targetSchema =>
    let (status, detail) : EdgeStatus × Option String :=
      match supplied.find? (·.eventHash = eventHash) with
      | none => (.missing, some "committed receipt not supplied in pack")
      | some s =>
        if s.status ≠ .valid then
          (.failed, some s!"supplied receipt does not verify: {s.detail}")
        else if s.payloadKind ≠ targetSchema then
          (.schemaMismatch, some <| s!"edge target_schema \"{targetSchema}\" != supplied " ++
            s!"payload_kind \"{s.payloadKind}\"")
        else (.resolved, none)
    some ⟨eventHash, role.label, some targetSchema, status, detail⟩
  | .dependedOnReceipt eventHash => some (.untyped eventHash)
  | .citedLink .. | .evidenceDigest .. | .selectorValue .. => none

/-- What `verify_layered_pack` does with a pack of the right format. -/
def checkLayeredPack (pack : LayeredPack) : LayeredPackVerificationResult :=
  let rootResult := verifyReceipt E (asBytes pack.rootCanonical)
  let errors := rootResult.prefixedErrors "root envelope"
  match extractLayeredPayload E pack.rootCanonical with
  | .error e =>
    { status := .invalid
      schemaVersion := profileVersion
      rootResult
      rootKind := none
      edgeChecks := []
      errors := errors ++ [e] }
  | .ok (rootKind, supportSet) =>
    let supplied := pack.receipts.filterMap (indexSupplied E)
    let edgeChecks := supportSet.filterMap (walkEdge supplied)
    let errors := errors ++ edgeChecks.filterMap EdgeCheck.error
    { status := .ofDecision
        (rootResult.status = .valid ∧ errors = [] ∧ ∀ c ∈ edgeChecks, c.status = .resolved)
      schemaVersion := profileVersion
      rootResult
      rootKind := some rootKind
      edgeChecks
      errors }

/-- `verify_layered_pack`. -/
def verifyLayeredPack (rawBytes : Bytes) : LayeredPackVerificationResult :=
  match E.layeredPackFromSlice rawBytes with
  | .error e => .invalid s!"malformed pack JSON: {e}"
  | .ok pack =>
    if pack.format ≠ layeredPackFormat then
      .invalid (s!"unsupported pack format: expected \"{layeredPackFormat}\", " ++
        s!"got \"{pack.format}\"")
    else checkLayeredPack E pack

variable {E}

/-- A resolved check is that of a typed edge. -/
theorem walkEdge_of_resolved {supplied : List SuppliedReceipt} {m : SupportMember} {c : EdgeCheck}
    (hw : walkEdge supplied m = some c) (hc : c.status = .resolved) :
    ∃ eventHash role targetSchema, m = .typedReceiptDependency eventHash role targetSchema ∧
      c = ⟨eventHash, role.label, some targetSchema, .resolved, none⟩ := by
  cases m with
  | typedReceiptDependency eventHash role targetSchema =>
    refine ⟨eventHash, role, targetSchema, rfl, ?_⟩
    simp only [walkEdge] at hw
    generalize supplied.find? (·.eventHash = eventHash) = target at hw
    obtain rfl := Option.some.inj hw
    cases target with
    | none => cases hc
    | some s =>
      dsimp only at hc ⊢
      split_ifs at hc ⊢
      rfl
  | dependedOnReceipt eventHash =>
    obtain rfl := Option.some.inj hw
    cases hc
  | _ => cases hw

/-- The layered-pack report does not contradict itself. -/
structure LayeredPackVerificationResult.Consistent (r : LayeredPackVerificationResult) :
    Prop where
  status_iff : r.status = .valid ↔ r.errors = []
  root : r.rootResult.Consistent
  root_valid : r.status = .valid → r.rootResult.status = .valid
  edges : r.status = .valid → ∀ c ∈ r.edgeChecks, c.status = .resolved

theorem LayeredPackVerificationResult.Consistent.invalid (error : String) :
    (LayeredPackVerificationResult.invalid error).Consistent where
  status_iff := by simp [LayeredPackVerificationResult.invalid]
  root := (VerificationResult.rejected_invalid _).consistent
  root_valid := by simp [LayeredPackVerificationResult.invalid]
  edges := by simp [LayeredPackVerificationResult.invalid]

/-- No error is reported when the root is valid and its edges are resolved. -/
theorem edgeErrors_eq_nil {rootBytes : Bytes} {edgeChecks : List EdgeCheck} :
    (verifyReceipt E rootBytes).prefixedErrors "root envelope" ++
        edgeChecks.filterMap EdgeCheck.error = [] ↔
      (verifyReceipt E rootBytes).status = .valid ∧ ∀ c ∈ edgeChecks, c.status = .resolved := by
  simp only [List.append_eq_nil_iff, List.filterMap_eq_nil_iff,
    (verifyReceipt_consistent (E := E)).prefixedErrors_eq_nil, EdgeCheck.error_eq_none]

theorem checkLayeredPack_consistent {pack : LayeredPack} :
    (checkLayeredPack E pack).Consistent := by
  have hc : (verifyReceipt E (asBytes pack.rootCanonical)).Consistent := verifyReceipt_consistent
  unfold checkLayeredPack
  cases extractLayeredPayload E pack.rootCanonical with
  | error e => exact ⟨by simp, hc, by simp, by simp⟩
  | ok parts =>
    obtain ⟨rootKind, supportSet⟩ := parts
    dsimp only
    constructor <;> simp only [VerificationStatus.ofDecision_eq_valid]
    · exact ⟨fun h => h.2.1,
        fun he => ⟨(edgeErrors_eq_nil.1 he).1, he, (edgeErrors_eq_nil.1 he).2⟩⟩
    · exact hc
    · exact fun h => h.1
    · exact fun h => h.2.2

theorem verifyLayeredPack_consistent {rawBytes : Bytes} :
    (verifyLayeredPack E rawBytes).Consistent := by
  unfold verifyLayeredPack
  cases E.layeredPackFromSlice rawBytes with
  | error e => exact .invalid _
  | ok pack =>
    dsimp only
    by_cases hf : pack.format ≠ layeredPackFormat
    · rw [if_pos hf]
      exact .invalid _
    · rw [if_neg hf]
      exact checkLayeredPack_consistent

end VertRule
