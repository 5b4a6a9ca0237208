import VertRule.Externals
import VertRule.Lib.Except

/-!
# The canonicalization boundary

`canon.rs` and `identity.rs`: admission of raw bytes in canonical form, canonicalization of
values the verifier builds, and the digests over canonical forms.
-/

namespace VertRule

variable (E : Externals)

/-- `jcs_admission_error`. -/
def jcsAdmissionError (e : JcsError) : VerifyError :=
  match e with
  | .json message => .malformedJson message
  | .other message => .nonCanonical message

/-- `admit_canonical_bytes`. -/
def admitCanonicalBytes (raw : Bytes) : Except VerifyError Unit := do
  let canonical ← (E.toCanonBytesFromSlice raw).mapError jcsAdmissionError
  if raw ≠ canonical then
    throw (.nonCanonical "input is not in JCS canonical form")

/-- `typed_canon_bytes`. -/
def typedCanonBytes (value : Json) : Except VerifyError Bytes := do
  let jsonBytes ← (E.toVec value).mapError .canon
  (E.toCanonBytesFromSlice jsonBytes).mapError fun e => .canon e.display

/-- `typed_canon_string`. -/
def typedCanonString (value : Json) : Except VerifyError String := do
  let json ← (E.toJsonString value).mapError .canon
  (E.toCanonStringFromStr json).mapError fun e => .canon e.display

/-- `digest_trusted_value` with the untagged BLAKE3 strategy. -/
def digestTrustedValue (value : Json) : Except VerifyError DigestBytes := do
  let canonical ← (E.canonicalize value).mapError fun e => .canon e.display
  pure (E.blake3 canonical)

/-- `SidecarDigest::recompute_from_value`. -/
def SidecarDigest.recomputeFromValue (value : Json) : Except VerifyError DigestBytes :=
  digestTrustedValue E value

variable {E}

theorem admitCanonicalBytes_eq_ok {raw : Bytes} :
    admitCanonicalBytes E raw = .ok () ↔ E.toCanonBytesFromSlice raw = .ok raw := by
  simp only [admitCanonicalBytes, Except.bind_eq_ok, Except.mapError_eq_ok]
  constructor
  · rintro ⟨canonical, hc, h⟩
    by_cases hraw : raw = canonical
    · rw [hc, ← hraw]
    · simp [hraw] at h
  · intro h
    exact ⟨raw, h, by simp⟩

end VertRule
