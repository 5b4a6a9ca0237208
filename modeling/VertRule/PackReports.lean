import VertRule.Closure.Verify
import VertRule.DecisionPack
import VertRule.Echo.Report

/-!
# The reports on packs

How the reports on execution bundles, decision packs, layered packs and closure bundles are
serialized, and their canonical forms.  What has to be admitted for a serialized report to be is the
report on the receipt in it and the text of its checks and errors.
-/

namespace VertRule

/-! ### Serialization -/

/-- The serialized status of a member. -/
def MemberStatus.label : MemberStatus → String
  | verified => "verified"
  | committed => "committed"
  | missing => "missing"
  | failed => "failed"

/-- The serialized status of an edge. -/
def EdgeStatus.label : EdgeStatus → String
  | resolved => "resolved"
  | missing => "missing"
  | failed => "failed"
  | schemaMismatch => "schemamismatch"
  | untypedEdge => "untypededge"

/-- The serialized `SidecarDigestCheck`. -/
def SidecarDigestCheck.toValue (c : SidecarDigestCheck) : Json :=
  .object [("computed", .string c.computed), ("expected", .string c.expected),
    ("matches", .bool c.isMatch), ("name", .string c.name)]

/-- The serialized `SupportMemberCheck`. -/
def SupportMemberCheck.toValue (c : SupportMemberCheck) : Json :=
  .object (optField "detail" .string c.detail ++ [("member_kind", .string c.memberKind),
    ("reference", .string c.reference), ("status", .string c.status.label)])

/-- The serialized `EdgeCheck`. -/
def EdgeCheck.toValue (c : EdgeCheck) : Json :=
  .object (optField "detail" .string c.detail ++ [("event_hash", .string c.eventHash)] ++
    optField "role" .string c.role ++ [("status", .string c.status.label)] ++
    optField "target_schema" .string c.targetSchema)

/-- A serialized `Vec` of checks. -/
def Json.ofList {α : Type} (toValue : α → Json) (l : List α) : Json := .array (l.map toValue)

/-- The serialized `BundleVerificationResult`. -/
def BundleVerificationResult.toValue (r : BundleVerificationResult) : Json :=
  .object [("envelope_result", r.envelopeResult.toValue), ("errors", .ofStrings r.errors),
    ("schema_version", .string r.schemaVersion),
    ("sidecar_checks", .ofList SidecarDigestCheck.toValue r.sidecarChecks),
    ("status", .string r.status.display)]

/-- The serialized `DecisionPackVerificationResult`. -/
def DecisionPackVerificationResult.toValue (r : DecisionPackVerificationResult) : Json :=
  .object ([("decision_result", r.decisionResult.toValue), ("errors", .ofStrings r.errors),
      ("member_checks", .ofList SupportMemberCheck.toValue r.memberChecks),
      ("schema_version", .string r.schemaVersion), ("status", .string r.status.display)] ++
    optField "verdict_kind" .string r.verdictKind)

/-- The serialized `LayeredPackVerificationResult`. -/
def LayeredPackVerificationResult.toValue (r : LayeredPackVerificationResult) : Json :=
  .object ([("edge_checks", .ofList EdgeCheck.toValue r.edgeChecks),
      ("errors", .ofStrings r.errors)] ++
    optField "root_kind" .string r.rootKind ++
    [("root_result", r.rootResult.toValue), ("schema_version", .string r.schemaVersion),
      ("status", .string r.status.display)])

/-- The serialized `ClosureBundleVerificationResult`. -/
def ClosureBundleVerificationResult.toValue (r : ClosureBundleVerificationResult) : Json :=
  .object ([("closure_complete", .bool r.closureComplete),
      ("closure_size", .ofU64 (UInt64.ofNat r.closureSize)),
      ("cycle_detected", .bool r.cycleDetected),
      ("edge_checks", .ofList EdgeCheck.toValue r.edgeChecks), ("errors", .ofStrings r.errors),
      ("manifest_digest_ok", .bool r.manifestDigestOk)] ++
    optField "root_event_hash" .string r.rootEventHash ++
    [("root_result", r.rootResult.toValue), ("schema_version", .string r.schemaVersion),
      ("status", .string r.status.display)])

section Canonical

variable (E : Externals)

/-- `BundleVerificationResult::to_canon_bytes`. -/
def BundleVerificationResult.toCanonBytes (r : BundleVerificationResult) :
    Except VerifyError Bytes :=
  typedCanonBytes E r.toValue

/-- `BundleVerificationResult::to_canon_string`. -/
def BundleVerificationResult.toCanonString (r : BundleVerificationResult) :
    Except VerifyError String :=
  typedCanonString E r.toValue

/-- `DecisionPackVerificationResult::to_canon_bytes`. -/
def DecisionPackVerificationResult.toCanonBytes (r : DecisionPackVerificationResult) :
    Except VerifyError Bytes :=
  typedCanonBytes E r.toValue

/-- `DecisionPackVerificationResult::to_canon_string`. -/
def DecisionPackVerificationResult.toCanonString (r : DecisionPackVerificationResult) :
    Except VerifyError String :=
  typedCanonString E r.toValue

/-- `LayeredPackVerificationResult::to_canon_bytes`. -/
def LayeredPackVerificationResult.toCanonBytes (r : LayeredPackVerificationResult) :
    Except VerifyError Bytes :=
  typedCanonBytes E r.toValue

/-- `LayeredPackVerificationResult::to_canon_string`. -/
def LayeredPackVerificationResult.toCanonString (r : LayeredPackVerificationResult) :
    Except VerifyError String :=
  typedCanonString E r.toValue

/-- `ClosureBundleVerificationResult::to_canon_bytes`. -/
def ClosureBundleVerificationResult.toCanonBytes (r : ClosureBundleVerificationResult) :
    Except VerifyError Bytes :=
  typedCanonBytes E r.toValue

end Canonical

/-! ### What leaves the verifier -/

/-- A report: its verdict, and the value it is serialized to, in which a reader finds the verdict.
-/
structure Report where
  status : VerificationStatus
  value : Json
  tells : (value.get "status").bind Json.asStr = some status.display

/-- The report on a receipt or a chain. -/
def VerificationResult.report (r : VerificationResult) : Report :=
  ⟨r.status, r.toValue, r.get_status⟩

/-- The report on an execution bundle. -/
def BundleVerificationResult.report (r : BundleVerificationResult) : Report :=
  ⟨r.status, r.toValue, rfl⟩

/-- The report on a decision pack. -/
def DecisionPackVerificationResult.report (r : DecisionPackVerificationResult) : Report :=
  ⟨r.status, r.toValue, by simp [toValue, List.lookup_cons, Json.asStr]⟩

/-- The report on a layered pack. -/
def LayeredPackVerificationResult.report (r : LayeredPackVerificationResult) : Report :=
  ⟨r.status, r.toValue, by
    simp [toValue, List.lookup_append, List.lookup_cons, lookup_optField_ne, Json.asStr]⟩

/-- The report on a closure bundle. -/
def ClosureBundleVerificationResult.report (r : ClosureBundleVerificationResult) : Report :=
  ⟨r.status, r.toValue, by
    simp [toValue, List.lookup_append, List.lookup_cons, lookup_optField_ne, Json.asStr]⟩

/-! ### Admitted reports -/

section Admitted

variable {E : Externals} {admits : Char → Prop} (laws : EchoLaws E admits)
include laws

theorem MemberStatus.label_text (status : MemberStatus) : Text admits status.label := by
  cases status <;> exact (laws.literal (by decide)).2 trivial

theorem EdgeStatus.label_text (status : EdgeStatus) : Text admits status.label := by
  cases status <;> exact (laws.literal (by decide)).2 trivial

theorem SidecarDigestCheck.admitted_iff (c : SidecarDigestCheck) :
    c.toValue.Admitted admits ↔
      Text admits c.computed ∧ Text admits c.expected ∧ Text admits c.name := by
  simp only [toValue, Json.admitted_object, List.forall_mem_cons, Json.admitted_string,
    Json.admitted_bool, List.not_mem_nil, IsEmpty.forall_iff, implies_true, and_true]
  simp (disch := decide) only [laws.literal, true_and]

theorem SupportMemberCheck.admitted_iff (c : SupportMemberCheck) :
    c.toValue.Admitted admits ↔ (∀ s ∈ c.detail, Text admits s) ∧ Text admits c.memberKind ∧
      Text admits c.reference := by
  simp only [toValue, Json.admitted_object, List.forall_mem_append, List.forall_mem_cons,
    Json.admitted_string, MemberStatus.label_text laws, List.not_mem_nil, IsEmpty.forall_iff,
    implies_true, and_true]
  simp (disch := decide) only [admitted_optField laws, laws.literal, true_and,
    Json.admitted_string, and_true]

theorem EdgeCheck.admitted_iff (c : EdgeCheck) :
    c.toValue.Admitted admits ↔ (∀ s ∈ c.detail, Text admits s) ∧ Text admits c.eventHash ∧
      (∀ s ∈ c.role, Text admits s) ∧ ∀ s ∈ c.targetSchema, Text admits s := by
  simp only [toValue, Json.admitted_object, List.forall_mem_append, List.forall_mem_cons,
    Json.admitted_string, EdgeStatus.label_text laws, List.not_mem_nil, IsEmpty.forall_iff,
    implies_true, and_true]
  simp (disch := decide) only [admitted_optField laws, laws.literal, true_and, and_true,
    Json.admitted_string, and_assoc]

theorem BundleVerificationResult.admitted_iff (r : BundleVerificationResult) :
    r.toValue.Admitted admits ↔ r.envelopeResult.toValue.Admitted admits ∧
      (∀ s ∈ r.errors, Text admits s) ∧ Text admits r.schemaVersion ∧
      ∀ c ∈ r.sidecarChecks, c.toValue.Admitted admits := by
  simp only [toValue, Json.ofList, Json.ofStrings, Json.admitted_object, List.forall_mem_cons,
    Json.admitted_array, List.forall_mem_map, Json.admitted_string,
    VerificationStatus.display_text laws, List.not_mem_nil, IsEmpty.forall_iff, implies_true,
    and_true]
  simp (disch := decide) only [laws.literal, true_and, and_true]

theorem DecisionPackVerificationResult.admitted_iff (r : DecisionPackVerificationResult) :
    r.toValue.Admitted admits ↔ r.decisionResult.toValue.Admitted admits ∧
      (∀ s ∈ r.errors, Text admits s) ∧ (∀ c ∈ r.memberChecks, c.toValue.Admitted admits) ∧
      Text admits r.schemaVersion ∧ ∀ s ∈ r.verdictKind, Text admits s := by
  simp only [toValue, Json.ofList, Json.ofStrings, Json.admitted_object, List.forall_mem_append,
    List.forall_mem_cons, Json.admitted_array, List.forall_mem_map, Json.admitted_string,
    VerificationStatus.display_text laws, List.not_mem_nil, IsEmpty.forall_iff, implies_true,
    and_true]
  simp (disch := decide) only [admitted_optField laws, laws.literal, true_and, and_true,
    Json.admitted_string, and_assoc]

theorem ClosureBundleVerificationResult.admitted_iff (r : ClosureBundleVerificationResult) :
    r.toValue.Admitted admits ↔ Json.IsDouble (UInt64.ofNat r.closureSize).toNat ∧
      (∀ c ∈ r.edgeChecks, c.toValue.Admitted admits) ∧ (∀ s ∈ r.errors, Text admits s) ∧
      (∀ s ∈ r.rootEventHash, Text admits s) ∧ r.rootResult.toValue.Admitted admits ∧
      Text admits r.schemaVersion := by
  simp only [toValue, Json.ofList, Json.ofStrings, Json.admitted_object, List.forall_mem_append,
    List.forall_mem_cons, Json.admitted_array, List.forall_mem_map, Json.admitted_string,
    Json.admitted_bool, admitted_ofU64, VerificationStatus.display_text laws, List.not_mem_nil,
    IsEmpty.forall_iff, implies_true, and_true]
  simp (disch := decide) only [admitted_optField laws, laws.literal, true_and, and_true,
    Json.admitted_string, and_assoc]

end Admitted

end VertRule
