import VertRule.Echo.Verify

/-!
# The value of a report

What has to be admitted for the serialized report to be: its logical times and epoch, as
integers, and the text it repeats.
-/

namespace VertRule

variable {E : Externals} {admits : Char → Prop}

theorem lookup_optField_ne {α : Type} {key key' : String} {toValue : α → Json} {o : Option α}
    (h : key ≠ key') : (optField key toValue o).lookup key' = none := by
  cases o with
  | none => rfl
  | some a => simp [optField, List.lookup_cons, beq_eq_false_iff_ne.2 h.symm]

/-- Keys that are ASCII are admitted. -/
theorem admitted_optField {α : Type} {key : String} {toValue : α → Json} {o : Option α}
    (laws : EchoLaws E admits) (hk : IsAscii key) :
    (∀ f ∈ optField key toValue o, Text admits f.1 ∧ f.2.Admitted admits) ↔
      ∀ a ∈ o, (toValue a).Admitted admits := by
  cases o <;> simp [optField, laws.literal hk]

theorem admitted_ofU64 {n : UInt64} :
    (Json.ofU64 n).Admitted admits ↔ Json.IsDouble n.toNat :=
  Json.admitted_posInt

section Admitted

variable (laws : EchoLaws E admits)
include laws

theorem VerificationStatus.display_text (status : VerificationStatus) :
    Text admits status.display := by
  cases status <;> exact (laws.literal (by decide)).2 trivial

theorem TrustStatus.display_text (status : TrustStatus) : Text admits status.display := by
  cases status <;> exact (laws.literal (by decide)).2 trivial

theorem ChainValidation.admitted_iff (c : ChainValidation) :
    c.toValue.Admitted admits ↔ Json.IsDouble c.firstLogicalTime.toNat ∧
      Json.IsDouble c.lastLogicalTime.toNat ∧ Json.IsDouble (UInt64.ofNat c.length).toNat := by
  simp only [toValue, Json.admitted_object, List.forall_mem_cons, admitted_ofU64,
    List.not_mem_nil, IsEmpty.forall_iff, implies_true, and_true]
  simp (disch := decide) only [laws.literal, true_and]

theorem TrustValidation.admitted_iff (t : TrustValidation) :
    t.toValue.Admitted admits ↔ Json.IsDouble t.evaluatedAtEpoch.toNat ∧
      Text admits t.authoritySetId ∧ Text admits t.keyId ∧ ∀ s ∈ t.detail, Text admits s := by
  simp only [toValue, Json.admitted_object, List.forall_mem_cons, List.forall_mem_append,
    admitted_ofU64, Json.admitted_string, List.not_mem_nil, IsEmpty.forall_iff, implies_true,
    and_true, TrustStatus.display_text laws]
  simp (disch := decide) only [admitted_optField laws, laws.literal, true_and,
    Json.admitted_string]
  tauto

/-- The value of a report is admitted when its chain section, its text and its trust section
are. -/
theorem VerificationResult.admitted_iff (r : VerificationResult) :
    r.toValue.Admitted admits ↔
      (∀ c ∈ r.chainValidation, c.toValue.Admitted admits) ∧ Text admits r.schemaVersion ∧
        (∀ s ∈ r.errors, Text admits s) ∧ ∀ t ∈ r.trustValidation, t.toValue.Admitted admits := by
  rw [toValue, Json.admitted_object]
  simp only [List.forall_mem_append]
  simp (disch := decide) only [admitted_optField laws, List.forall_mem_cons,
    laws.literal, List.not_mem_nil, IsEmpty.forall_iff, implies_true, and_true, true_and]
  -- The sections of flags hold keys and booleans only.
  simp only [DigestValidation.toValue, ContextConsistency.toValue, PolicyConsistency.toValue,
    SchemaConsistency.toValue, SignatureValidation.toValue, Json.admitted_object,
    List.forall_mem_cons, Json.admitted_bool, List.not_mem_nil, IsEmpty.forall_iff]
  simp (disch := decide) only [laws.literal, implies_true, and_true, true_and]
  simp only [Json.ofStrings, Json.admitted_array, List.forall_mem_map, Json.admitted_string,
    VerificationStatus.display_text laws, and_true]
  tauto

end Admitted

namespace VerificationResult

theorem get_status (r : VerificationResult) :
    (r.toValue.get "status").bind Json.asStr = some r.status.display := by
  simp [toValue, List.lookup_append, List.lookup_cons, lookup_optField_ne, Json.asStr]

end VerificationResult

end VertRule
