import VertRule.Json.Basic
import Mathlib.Tactic.Common

/-!
# The nouns of `vertrule-schemas`

The types the verifier shares with the receipt producers: digests, receipt envelopes and
support sets.  Only the fields the verifier reads are kept; the serialized spelling of each
enumeration is the one `schema_profile.rs` and `governance-profile-v1.json` list.
-/

namespace VertRule

/-! ### Digests -/

/-- The two lowercase hex digits of a byte. -/
def hexByte (b : UInt8) : List Char := [Nat.digitChar (b.toNat / 16), Nat.digitChar (b.toNat % 16)]

/-- `hex::encode`. -/
def hexEncode (bytes : Bytes) : String := String.ofList (bytes.flatMap hexByte)

/-- `DigestBytes`: 32 bytes. -/
structure DigestBytes where
  bytes : Bytes
  size : bytes.length = 32
  deriving DecidableEq

/-- `DigestBytes::to_hex`. -/
def DigestBytes.toHex (d : DigestBytes) : String := hexEncode d.bytes

theorem hexEncode_toList_length (bytes : Bytes) :
    (hexEncode bytes).toList.length = 2 * bytes.length := by
  simp only [hexEncode, String.toList_ofList]
  induction bytes with
  | nil => rfl
  | cons b bytes ih => simp [hexByte, ih]; omega

theorem DigestBytes.toHex_ne_empty (d : DigestBytes) : d.toHex ≠ "" := by
  intro h
  have hlen := hexEncode_toList_length d.bytes
  rw [d.size, show hexEncode d.bytes = "" from h] at hlen
  simp at hlen

theorem digitChar_injOn {m n : ℕ} (hm : m < 16) (hn : n < 16)
    (h : Nat.digitChar m = Nat.digitChar n) : m = n := by
  have hall : ∀ a b : Fin 16, Nat.digitChar a = Nat.digitChar b → a = b := by decide
  exact Fin.mk.inj (hall ⟨m, hm⟩ ⟨n, hn⟩ h)

theorem hexByte_injective : Function.Injective hexByte := by
  intro a b h
  have ha := a.toNat_lt
  have hb := b.toNat_lt
  simp only [hexByte, List.cons.injEq, and_true] at h
  have hdiv := digitChar_injOn (by omega) (by omega) h.1
  have hmod := digitChar_injOn (by omega) (by omega) h.2
  exact UInt8.toNat_inj.1 (by omega)

theorem hexEncode_injective : Function.Injective hexEncode := by
  intro as bs h
  replace h := String.ofList_inj.1 h
  induction as generalizing bs with
  | nil =>
    cases bs with
    | nil => rfl
    | cons b bs => simp [hexByte] at h
  | cons a as ih =>
    cases bs with
    | nil => simp [hexByte] at h
    | cons b bs =>
      simp only [List.flatMap_cons] at h
      obtain ⟨hab, hrest⟩ := List.append_inj h rfl
      rw [hexByte_injective hab, ih hrest]

theorem DigestBytes.toHex_injective : Function.Injective DigestBytes.toHex := by
  intro d d' h
  cases d
  cases d'
  cases hexEncode_injective h
  rfl

/-! ### Envelopes -/

/-- `SchemaVersion`. -/
structure SchemaVersion where
  value : UInt32
  deriving DecidableEq

/-- `SchemaVersion::V1`. -/
def SchemaVersion.V1 : SchemaVersion := ⟨1⟩

/-- `ReceiptType`. -/
inductive ReceiptType where
  | event | llm | mri | governance | adapter | projection | training | operation | finalization
  | abort
  deriving DecidableEq

/-- `BoundaryOrigin`. -/
inductive BoundaryOrigin where
  | engine | adapter | numeric | governance | model | training
  deriving DecidableEq

/-- `EventHashProfileId`: the digest law an envelope declares for its `event_hash`. -/
inductive EventHashProfileId where
  | constitutionalEnvelopeV1
  | runtimePortEventPreimageV1
  deriving DecidableEq

/-- The serialized `receipt_type`. -/
def ReceiptType.label : ReceiptType → String
  | event => "event"
  | llm => "llm"
  | mri => "mri"
  | governance => "governance"
  | adapter => "adapter"
  | projection => "projection"
  | training => "training"
  | operation => "operation"
  | finalization => "finalization"
  | abort => "abort"

/-- The serialized `boundary_origin`. -/
def BoundaryOrigin.label : BoundaryOrigin → String
  | engine => "engine"
  | adapter => "adapter"
  | numeric => "numeric"
  | governance => "governance"
  | model => "model"
  | training => "training"

/-- The serialized `event_hash_profile`. -/
def EventHashProfileId.label : EventHashProfileId → String
  | constitutionalEnvelopeV1 => "constitutional_envelope_v1"
  | runtimePortEventPreimageV1 => "runtime_port_event_preimage_v1"

/-- `ReceiptEnvelope`. -/
structure ReceiptEnvelope where
  envelopeVersion : SchemaVersion
  receiptType : ReceiptType
  contextDigest : DigestBytes
  schemaDigest : DigestBytes
  policyDigest : DigestBytes
  logicalTime : UInt64
  eventHash : DigestBytes
  payload : Json
  parentId : Option DigestBytes
  boundaryOrigin : Option BoundaryOrigin
  digestAlgorithm : Option String
  canonicalization : Option String
  eventHashProfile : Option EventHashProfileId
  deriving DecidableEq

/-- Two envelopes agree on every field that `event_hash` commits to. -/
def ReceiptEnvelope.SameCommitment (e₁ e₂ : ReceiptEnvelope) : Prop :=
  { e₁ with eventHash := e₂.eventHash } = e₂

theorem ReceiptEnvelope.SameCommitment.eq {e₁ e₂ : ReceiptEnvelope}
    (h : e₁.SameCommitment e₂) (hh : e₁.eventHash = e₂.eventHash) : e₁ = e₂ := by
  rw [← show { e₁ with eventHash := e₂.eventHash } = e₂ from h, ← hh]

/-! ### Support sets -/

/-- `DependencyRole`, by what `serde_json::to_value` makes of it, which is all the verifier
reads. -/
structure DependencyRole where
  toValue : Except String Json

/-- `SupportMember`, without the fields the verifier skips (`relation`, a selector's value). -/
inductive SupportMember where
  | typedReceiptDependency (eventHash : String) (role : DependencyRole) (targetSchema : String)
  | dependedOnReceipt (eventHash : String)
  | citedLink (id url : String)
  | evidenceDigest (id digest : String)
  | selectorValue (key : String)

/-- The label of a role: its serialized value, when that is a string. -/
def DependencyRole.label (role : DependencyRole) : Option String :=
  role.toValue.toOption.bind Json.asStr

/-- `DecisionVerdict`, without the data of its variants. -/
inductive DecisionVerdict where
  | allow | deny | conditional | noMatch
  deriving DecidableEq

/-- `DecisionReceiptPayload`. -/
structure DecisionReceiptPayload where
  verdict : DecisionVerdict
  supportSet : List SupportMember

/-! ### Payload kinds -/

/-- `PROVIDER_PAYLOAD_KIND`. -/
def providerPayloadKind : String := "provider.v0"

/-- `MODEL_PAYLOAD_KIND`. -/
def modelPayloadKind : String := "model.v0"

/-- `PACK_PAYLOAD_KIND`. -/
def packPayloadKind : String := "pack.v0"

/-- `DECISION_PAYLOAD_KIND`. -/
def decisionPayloadKind : String := "decision.v0"

end VertRule
