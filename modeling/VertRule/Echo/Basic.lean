import VertRule.Json.Admitted
import VertRule.Verify

/-!
# What errors repeat

An error repeats text of the input and of the messages of other code.  The errors of ingestion
are traced back to that text here: it was admitted with the input, except for the canonicalizer's
own refusal.
-/

namespace VertRule

/-- What an error repeats of the input or of the messages of other code. -/
def VerifyError.echo : VerifyError → List String
  | canon message => [message]
  | unknownField field => [field]
  | missingRequiredField field => [field]
  | unknownReceiptType value => [value]
  | unknownBoundaryOrigin value => [value]
  | floatInStructuralField field => [field]
  | nonCanonical reason => [reason]
  | malformedJson reason => [reason]
  | digestAlgorithmMismatch declared expected => [declared, expected]
  | canonicalizationMismatch declared expected => [declared, expected]
  | signatureInvalid reason => [reason]
  | signatureDataMalformed reason => [reason]
  | payloadShapeMismatch reason => [reason]
  | _ => []

/-- What an error repeats is admitted. -/
def VerifyError.Traced (admits : Char → Prop) (e : VerifyError) : Prop :=
  ∀ s ∈ e.echo, Text admits s

theorem VerifyError.traced_iff {admits : Char → Prop} {e : VerifyError} {s : String}
    (h : e.echo = [s]) : e.Traced admits ↔ Text admits s := by
  simp [Traced, h]

theorem VerifyError.traced_of_echo_nil {admits : Char → Prop} {e : VerifyError}
    (h : e.echo = []) : e.Traced admits := by
  simp [Traced, h]

/-- The markers an envelope declares are admitted. -/
def ReceiptEnvelope.MarkersAdmitted (admits : Char → Prop) (envelope : ReceiptEnvelope) : Prop :=
  (∀ s ∈ envelope.digestAlgorithm, Text admits s) ∧ ∀ s ∈ envelope.canonicalization, Text admits s

/-- Third-party code writes ASCII, and repeats only text that it was given. -/
structure EchoLaws (E : Externals) (admits : Char → Prop) : Prop where
  ascii : ∀ c : Char, c.toNat < 128 → admits c
  display : ∀ d, Text admits (E.digestFormat.display d)
  debug : ∀ d, Text admits (E.digestFormat.debug d)
  versionDigestAlgorithm : ∀ version, Text admits (E.versionDigestAlgorithm version)
  versionCanonicalization : ∀ version, Text admits (E.versionCanonicalization version)
  /-- Bytes that pass admission hold an admitted value. -/
  fromSlice : ∀ rawBytes v, E.toCanonBytesFromSlice rawBytes = .ok rawBytes →
    E.fromSlice rawBytes = .ok v → v.Admitted admits
  fromSlice_error : ∀ rawBytes m, E.fromSlice rawBytes = .error m → Text admits m
  envelopeFromValue : ∀ v envelope, v.Admitted admits → E.envelopeFromValue v = .ok envelope →
    envelope.MarkersAdmitted admits
  envelopeFromValue_error : ∀ v m, v.Admitted admits → E.envelopeFromValue v = .error m →
    Text admits m
  computeEventHash_error : ∀ v envelope m, v.Admitted admits →
    E.envelopeFromValue v = .ok envelope → E.computeEventHash envelope = .error m → Text admits m
  envelopeToValue : ∀ v envelope w, v.Admitted admits → E.envelopeFromValue v = .ok envelope →
    E.envelopeToValue envelope = .ok w → w.Admitted admits
  envelopeToValue_error : ∀ v envelope m, v.Admitted admits →
    E.envelopeFromValue v = .ok envelope → E.envelopeToValue envelope = .error m → Text admits m
  toVec_error : ∀ v m, v.Admitted admits → E.toVec v = .error m → Text admits m
  toCanonBytes_error : ∀ v jsonBytes e, v.Admitted admits → E.toVec v = .ok jsonBytes →
    E.toCanonBytesFromSlice jsonBytes = .error e → Text admits e.display
  base64Decode_error : ∀ s m, E.base64Decode s = .error m → Text admits m
  verifyingKey_error : ∀ bytes m, E.verifyingKeyFromBytes bytes = .error m → Text admits m

variable {E : Externals} {admits : Char → Prop}

/-! ### Messages -/

section Messages

variable (laws : EchoLaws E admits)
include laws

theorem EchoLaws.literal {s : String} (hs : IsAscii s) : Text admits s ↔ True :=
  iff_true_intro (hs.text laws.ascii)

theorem EchoLaws.repr (n : ℕ) : Text admits n.repr := (isAscii_repr n).text laws.ascii

theorem EchoLaws.debugOption (d : Option DigestBytes) :
    Text admits (E.digestFormat.debugOption d) := by
  cases d with
  | none => exact IsAscii.text (s := "None") (by decide) laws.ascii
  | some d =>
    simp only [DigestFormat.debugOption, text_append, toString_string, laws.debug, and_true]
    simp (disch := decide) only [laws.literal, and_true]

theorem EchoLaws.limitViolation (v : LimitViolation) : Text admits v.display := by
  unfold LimitViolation.display
  cases v <;> dsimp only <;>
    simp only [text_append, toString_string, Nat.toString_eq_repr, laws.repr, and_true] <;>
    simp (disch := decide) only [laws.literal, and_true]

/-- **A message is admitted exactly when what it repeats is.** -/
theorem text_message_iff (e : VerifyError) : Text admits (E.message e) ↔ e.Traced admits := by
  unfold Externals.message VerifyError.display VerifyError.Traced VerifyError.echo
  cases e <;> dsimp only <;>
    simp only [text_append, toString_string, toString_uint32, toString_uint64,
      Nat.toString_eq_repr, laws.repr, laws.display, laws.debugOption, laws.limitViolation,
      List.forall_mem_cons, List.not_mem_nil, IsEmpty.forall_iff, implies_true, and_true] <;>
    simp (disch := decide) only [laws.literal, true_and, and_true]

end Messages

/-! ### Ingestion -/

section Ingestion

variable {v : Json} {e : VerifyError} {rawBytes : Bytes}

theorem checkDiscriminator_traced {obj : List (String × Json)} {field : String}
    {known : String → Bool} {err : String → VerifyError} (hv : (Json.object obj).Admitted admits)
    (herr : ∀ value, (err value).echo = [value])
    (h : checkDiscriminator obj field known err = .error e) : e.Traced admits := by
  unfold checkDiscriminator at h
  split at h
  next value hval =>
    obtain ⟨w, hw, hs⟩ := Option.bind_eq_some_iff.1 hval
    obtain rfl := Json.asStr_eq_some.1 hs
    split_ifs at h
    obtain rfl := Except.error.inj h
    simpa [VerifyError.Traced, herr] using
      (Json.admitted_object.1 hv _ (mem_of_lookup_eq_some hw)).2
  next => cases h

theorem validateEnvelopeSchema_traced (laws : EchoLaws E admits) (hv : v.Admitted admits)
    (h : validateEnvelopeSchema v = .error e) : e.Traced admits := by
  unfold validateEnvelopeSchema at h
  split at h
  next =>
    obtain rfl := Except.error.inj h
    simpa [VerifyError.Traced, VerifyError.echo] using
      IsAscii.text (s := "envelope must be a JSON object") (by decide) laws.ascii
  next obj hobj =>
    obtain rfl := Json.asObject_eq_some.1 hobj
    dsimp only at h
    split at h
    next f hf =>
      obtain rfl := Except.error.inj h
      simpa [VerifyError.Traced, VerifyError.echo] using
        (Json.admitted_object.1 hv f (List.mem_of_find?_eq_some hf)).1
    next =>
      split at h
      next field hfield =>
        obtain rfl := Except.error.inj h
        have hascii : ∀ field ∈ requiredEnvelopeFields, IsAscii field := by decide
        simpa [VerifyError.Traced, VerifyError.echo] using
          (hascii field (List.mem_of_find?_eq_some hfield)).text laws.ascii
      next =>
        rcases Except.bind_eq_error.1 h with h | ⟨-, -, h⟩
        · exact checkDiscriminator_traced hv (fun _ => rfl) h
        · exact checkDiscriminator_traced hv (fun _ => rfl) h

theorem rejectStructuralFloats_traced (laws : EchoLaws E admits)
    (h : rejectStructuralFloats v = .error e) : e.Traced admits := by
  unfold rejectStructuralFloats at h
  split at h
  next => cases h
  next obj hobj =>
    split at h
    next field hfield =>
      obtain rfl := Except.error.inj h
      have hascii : ∀ field ∈ structuralIntegerFields, IsAscii field := by decide
      simpa [VerifyError.Traced, VerifyError.echo] using
        (hascii field (List.mem_of_find?_eq_some hfield)).text laws.ascii
    next => cases h

/-- An envelope that was read from an admitted value. -/
def Ingested (E : Externals) (admits : Char → Prop) (envelope : ReceiptEnvelope) : Prop :=
  ∃ v : Json, v.Admitted admits ∧ E.envelopeFromValue v = .ok envelope

/-- If the canonicalizer refuses the bytes, it says so in admitted text. -/
def RefusalAdmitted (E : Externals) (admits : Char → Prop) (rawBytes : Bytes) : Prop :=
  ∀ e, checkByteLimit rawBytes .default = .ok () → E.toCanonBytesFromSlice rawBytes = .error e →
    Text admits e.display

theorem jcsAdmissionError_traced {e : JcsError} :
    (jcsAdmissionError e).Traced admits ↔ Text admits e.display := by
  cases e <;> simp [jcsAdmissionError, VerifyError.Traced, VerifyError.echo, JcsError.display]

/-- How ingestion begins: an error is traced, or the bytes hold an admitted value. -/
theorem admission_traced {α : Type} {k : Json → Except VerifyError α}
    (laws : EchoLaws E admits) (hr : RefusalAdmitted E admits rawBytes)
    (h : (do
      (checkByteLimit rawBytes .default).mapError VerifyError.limitExceeded
      admitCanonicalBytes E rawBytes
      let value ← (E.fromSlice rawBytes).mapError VerifyError.malformedJson
      k value) = .error e) :
    e.Traced admits ∨ ∃ v : Json, v.Admitted admits ∧ k v = .error e := by
  rcases Except.bind_eq_error.1 h with h | ⟨_, hlimit, h⟩
  · obtain ⟨violation, -, rfl⟩ := Except.mapError_eq_error.1 h
    exact .inl (by simp [VerifyError.Traced, VerifyError.echo])
  rcases Except.bind_eq_error.1 h with h | ⟨_, hadmit, h⟩
  · left
    rcases Except.bind_eq_error.1 h with h | ⟨canonical, -, h⟩
    · obtain ⟨e₀, he₀, rfl⟩ := Except.mapError_eq_error.1 h
      exact jcsAdmissionError_traced.2 (hr e₀ (Except.mapError_eq_ok.1 hlimit) he₀)
    · split_ifs at h
      · obtain rfl := Except.error.inj h
        simpa [VerifyError.Traced, VerifyError.echo] using
          IsAscii.text (s := "input is not in JCS canonical form") (by decide) laws.ascii
      · cases h
  rcases Except.bind_eq_error.1 h with h | ⟨v, hv, h⟩
  · obtain ⟨m, hm, rfl⟩ := Except.mapError_eq_error.1 h
    left
    simpa [VerifyError.Traced, VerifyError.echo] using laws.fromSlice_error rawBytes m hm
  · exact .inr ⟨v, laws.fromSlice rawBytes v (admitCanonicalBytes_eq_ok.1 hadmit)
      (Except.mapError_eq_ok.1 hv), h⟩

/-- An ingested envelope was read from an admitted value. -/
theorem ingested_of_ingestEnvelope {envelope : ReceiptEnvelope} (laws : EchoLaws E admits)
    (h : ingestEnvelope E rawBytes = .ok envelope) : Ingested E admits envelope := by
  obtain ⟨-, hcanon, v, hv, -, -, -, henv⟩ := ingestEnvelopeWithLimits_eq_ok.1 h
  exact ⟨v, laws.fromSlice rawBytes v hcanon hv, henv⟩

theorem ingestEnvelope_traced (laws : EchoLaws E admits) (hr : RefusalAdmitted E admits rawBytes)
    (h : ingestEnvelope E rawBytes = .error e) : e.Traced admits := by
  rcases admission_traced laws hr h with h | ⟨v, hv, h⟩
  · exact h
  rcases Except.bind_eq_error.1 h with h | ⟨-, -, h⟩
  · obtain ⟨violation, -, rfl⟩ := Except.mapError_eq_error.1 h
    simp [VerifyError.Traced, VerifyError.echo]
  rcases Except.bind_eq_error.1 h with h | ⟨-, -, h⟩
  · exact validateEnvelopeSchema_traced laws hv h
  rcases Except.bind_eq_error.1 h with h | ⟨-, -, h⟩
  · exact rejectStructuralFloats_traced laws h
  obtain ⟨m, hm, rfl⟩ := Except.mapError_eq_error.1 h
  simpa [VerifyError.Traced, VerifyError.echo] using laws.envelopeFromValue_error v m hv hm

theorem ingestElements_traced {i : ℕ} {elements : List Json} (laws : EchoLaws E admits)
    (hv : ∀ v ∈ elements, v.Admitted admits) (h : ingestElements E i elements = .error e) :
    e.Traced admits := by
  induction elements generalizing i with
  | nil => cases h
  | cons v elements ih =>
    rw [ingestElements] at h
    have hv' := hv v List.mem_cons_self
    rcases Except.bind_eq_error.1 h with h | ⟨-, -, h⟩
    · exact validateEnvelopeSchema_traced laws hv' h
    rcases Except.bind_eq_error.1 h with h | ⟨-, -, h⟩
    · exact rejectStructuralFloats_traced laws h
    rcases Except.bind_eq_error.1 h with h | ⟨envelope, -, h⟩
    · obtain ⟨m, hm, rfl⟩ := Except.mapError_eq_error.1 h
      have hm' := laws.envelopeFromValue_error v m hv' hm
      simp only [VerifyError.Traced, VerifyError.echo, List.forall_mem_cons, List.not_mem_nil,
        IsEmpty.forall_iff, implies_true, and_true, text_append, toString_string,
        Nat.toString_eq_repr, laws.repr, hm']
      simp (disch := decide) only [laws.literal, and_true]
    rcases Except.bind_eq_error.1 h with h | ⟨envelopes, -, h⟩
    · exact ih (fun w hw => hv w (List.mem_cons_of_mem _ hw)) h
    · cases h

/-- The envelopes of an ingested chain, one for each element, were read from admitted values. -/
theorem ingested_of_ingestElements {i : ℕ} {elements : List Json}
    {envelopes : List ReceiptEnvelope} (hv : ∀ v ∈ elements, v.Admitted admits)
    (h : ingestElements E i elements = .ok envelopes) :
    (∀ envelope ∈ envelopes, Ingested E admits envelope) ∧
      envelopes.length = elements.length := by
  induction elements generalizing i envelopes with
  | nil =>
    obtain rfl := Except.ok.inj h
    simp
  | cons v elements ih =>
    rw [ingestElements] at h
    obtain ⟨-, -, h⟩ := Except.bind_eq_ok.1 h
    obtain ⟨-, -, h⟩ := Except.bind_eq_ok.1 h
    obtain ⟨envelope, henv, h⟩ := Except.bind_eq_ok.1 h
    obtain ⟨rest, hrest, h⟩ := Except.bind_eq_ok.1 h
    obtain rfl := Except.ok.inj h
    obtain ⟨hing, hlen⟩ := ih (fun w hw => hv w (List.mem_cons_of_mem _ hw)) hrest
    rw [List.forall_mem_cons, List.length_cons, List.length_cons, hlen]
    exact ⟨⟨⟨v, hv v List.mem_cons_self, Except.mapError_eq_ok.1 henv⟩, hing⟩, rfl⟩

theorem ingestChain_traced (laws : EchoLaws E admits) (hr : RefusalAdmitted E admits rawBytes)
    (h : ingestChain E rawBytes = .error e) : e.Traced admits := by
  rcases admission_traced laws hr h with h | ⟨v, hv, h⟩
  · exact h
  rcases Except.bind_eq_error.1 h with h | ⟨-, -, h⟩
  · obtain ⟨violation, -, rfl⟩ := Except.mapError_eq_error.1 h
    simp [VerifyError.Traced, VerifyError.echo]
  split at h
  next elements =>
    split_ifs at h
    · cases h
    rcases Except.bind_eq_error.1 h with h | ⟨-, -, h⟩
    · obtain ⟨violation, -, rfl⟩ := Except.mapError_eq_error.1 h
      simp [VerifyError.Traced, VerifyError.echo]
    · exact ingestElements_traced laws (Json.admitted_array.1 hv) h
  next =>
    obtain rfl := Except.error.inj h
    simpa [VerifyError.Traced, VerifyError.echo] using
      IsAscii.text (s := "chain must be a JSON array") (by decide) laws.ascii

/-- An ingested chain was read from admitted values, and is within the default length. -/
theorem ingested_of_ingestChain {envelopes : List ReceiptEnvelope} (laws : EchoLaws E admits)
    (h : ingestChain E rawBytes = .ok envelopes) :
    (∀ envelope ∈ envelopes, Ingested E admits envelope) ∧
      envelopes.length ≤ VerifierLimits.default.maxChainLength := by
  obtain ⟨-, -, h⟩ := Except.bind_eq_ok.1 h
  obtain ⟨_, hadmit, h⟩ := Except.bind_eq_ok.1 h
  obtain ⟨v, hv, h⟩ := Except.bind_eq_ok.1 h
  obtain ⟨-, -, h⟩ := Except.bind_eq_ok.1 h
  have hva := laws.fromSlice rawBytes v (admitCanonicalBytes_eq_ok.1 hadmit)
    (Except.mapError_eq_ok.1 hv)
  split at h
  next elements =>
    split_ifs at h
    · obtain rfl := Except.ok.inj h
      simp
    · obtain ⟨_, hmax, h⟩ := Except.bind_eq_ok.1 h
      obtain ⟨hing, hlen⟩ := ingested_of_ingestElements (Json.admitted_array.1 hva) h
      have hmax' := Except.mapError_eq_ok.1 hmax
      rw [checkChainLength, Except.ite_error_eq_ok, not_lt] at hmax'
      exact ⟨hing, hlen ▸ hmax'.1⟩
  next => cases h

end Ingestion

end VertRule
