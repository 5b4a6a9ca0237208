import VertRule.History
import VertRule.Nodes

/-!
# Chains and their elements

`verify_receipt_chain` and `verify_receipt` ingest the same envelope by different routes: as an
element of one canonical array, under the limits of the whole, and alone.  For a canonicalizer that
writes an array as the bracketed comma-join of its elements (`ArrayLaw`) the two agree
(`verifyReceiptChain_valid_iff_elements`).
-/

namespace VertRule

/-- The bracketed comma-join of some texts. -/
def arrayText (texts : List Bytes) : Bytes :=
  asBytes "[" ++ ((asBytes ",").intercalate texts ++ asBytes "]")

variable (E : Externals)

/-- The bytes are the canonical encoding of the value. -/
structure Encodes (rawBytes : Bytes) (value : Json) : Prop where
  parsed : E.fromSlice rawBytes = .ok value
  canonical : E.toCanonBytesFromSlice rawBytes = .ok rawBytes

/-- What is used of the canonicalizer and the parser: the canonical encoding of an array is the
bracketed comma-join of the canonical encodings of its elements. -/
def ArrayLaw : Prop :=
  ∀ rawBytes elems, Encodes E rawBytes (.array elems) →
    ∃ texts, rawBytes = arrayText texts ∧ List.Forall₂ (Encodes E) texts elems

variable {E} {texts : List Bytes} {elems : List Json} {envelopes : List ReceiptEnvelope}
  {rawBytes : Bytes} {limits : VerifierLimits}

theorem length_le_intercalate {α : Type*} {sep l : List α} {ls : List (List α)} (h : l ∈ ls) :
    l.length ≤ (sep.intercalate ls).length := by
  induction ls with
  | nil => cases h
  | cons l' ls ih =>
    cases ls with
    | nil => simp [List.mem_singleton.1 h]
    | cons l'' ls =>
      rw [List.intercalate_cons_cons, List.length_append, List.length_append]
      rcases List.mem_cons.1 h with rfl | h
      · omega
      · have := ih h
        omega

/-- An element is within the byte limit of the whole array. -/
theorem checkByteLimit_of_mem {text : Bytes}
    (h : checkByteLimit (arrayText texts) limits = .ok ()) (ht : text ∈ texts) :
    checkByteLimit text limits = .ok () := by
  rw [checkByteLimit_eq_ok] at h ⊢
  have hle : text.length ≤ ((asBytes ",").intercalate texts).length := length_le_intercalate ht
  have hlen : ((asBytes ",").intercalate texts).length ≤ (arrayText texts).length := by
    simp only [arrayText, List.length_append]
    omega
  omega

/-- An element ingested alone has passed what an element of a chain passes. -/
theorem Encodes.elementAdmitted {text : Bytes} {elem : Json} {envelope : ReceiptEnvelope}
    (h : Encodes E text elem) (hi : ingestEnvelopeWithLimits E text limits = .ok envelope) :
    ElementAdmitted E elem envelope := by
  obtain ⟨-, -, value, hv, -, hs, hf, ht⟩ := ingestEnvelopeWithLimits_eq_ok.1 hi
  obtain rfl := Except.ok.inj (h.parsed.symm.trans hv)
  exact ⟨hs, hf, ht⟩

/-- An element of a chain within the limits is ingested alone. -/
theorem Encodes.ingest {text : Bytes} {elem : Json} {envelope : ReceiptEnvelope}
    (h : Encodes E text elem) (hb : checkByteLimit text limits = .ok ())
    (hs : checkStructure elem limits = .ok ()) (ha : ElementAdmitted E elem envelope) :
    ingestEnvelopeWithLimits E text limits = .ok envelope :=
  ingestEnvelopeWithLimits_eq_ok.2
    ⟨hb, h.canonical, elem, h.parsed, hs, ha.schema, ha.floats, ha.typed⟩

theorem forall₂_elementAdmitted (h : List.Forall₂ (Encodes E) texts elems)
    (hi : List.Forall₂ (fun text envelope => ingestEnvelopeWithLimits E text limits = .ok envelope)
      texts envelopes) :
    List.Forall₂ (ElementAdmitted E) elems envelopes := by
  induction h generalizing envelopes with
  | nil =>
    cases hi
    exact .nil
  | cons h _ ih =>
    cases hi with
    | cons hi his => exact .cons (h.elementAdmitted hi) (ih his)

theorem forall₂_ingest (h : List.Forall₂ (Encodes E) texts elems)
    (hb : ∀ text ∈ texts, checkByteLimit text limits = .ok ())
    (hs : ∀ elem ∈ elems, checkStructure elem limits = .ok ())
    (ha : List.Forall₂ (ElementAdmitted E) elems envelopes) :
    List.Forall₂ (fun text envelope => ingestEnvelopeWithLimits E text limits = .ok envelope)
      texts envelopes := by
  induction h generalizing envelopes with
  | nil =>
    cases ha
    exact .nil
  | cons h _ ih =>
    cases ha with
    | cons ha has =>
      rw [List.forall_mem_cons] at hb hs
      exact .cons (h.ingest hb.1 hs.1 ha) (ih hb.2 hs.2 has)

/-- Of ingested texts, all are valid exactly when all their envelopes verify. -/
theorem forall_valid_iff
    (h : List.Forall₂ (fun text envelope => ingestEnvelopeWithLimits E text limits = .ok envelope)
      texts envelopes) :
    (∀ text ∈ texts, (verifyReceiptWithLimits E text limits).status = .valid) ↔
      ∀ envelope ∈ envelopes, envelope.Verifies E := by
  induction h with
  | nil => simp
  | cons h _ ih =>
    rw [List.forall_mem_cons, List.forall_mem_cons, ih, verifyReceiptWithLimits_valid_iff]
    simp [h]

/-- Within any limits, a chain is valid exactly when it is a canonical array within them, each
element alone is valid within them, and the chain rules hold. -/
theorem verifyReceiptChainWithLimits_valid_iff_elements (law : ArrayLaw E) :
    (verifyReceiptChainWithLimits E rawBytes limits).status = .valid ↔
      ∃ elems texts envelopes, Encodes E rawBytes (.array elems) ∧
        checkByteLimit rawBytes limits = .ok () ∧
        checkStructure (.array elems) limits = .ok () ∧
        checkChainLength elems.length limits = .ok () ∧
        List.Forall₂ (Encodes E) texts elems ∧
        (∀ text ∈ texts, (verifyReceiptWithLimits E text limits).status = .valid) ∧
        List.Forall₂ (fun text envelope =>
          ingestEnvelopeWithLimits E text limits = .ok envelope) texts envelopes ∧
        verifyChain envelopes = .ok () := by
  rw [verifyReceiptChainWithLimits_valid_iff]
  constructor
  · rintro ⟨envelopes, hi, hver, hchain⟩
    obtain ⟨hb, hc, elems, hv, hs, hlen, hall⟩ := ingestChainWithLimits_eq_ok.1 hi
    have henc : Encodes E rawBytes (.array elems) := ⟨hv, hc⟩
    obtain ⟨texts, rfl, htexts⟩ := law rawBytes elems henc
    -- each element is within the limits that the whole array is within
    have hing := forall₂_ingest htexts (fun text => checkByteLimit_of_mem hb)
      (fun elem => checkStructure_of_mem hs) hall
    exact ⟨elems, texts, envelopes, henc, hb, hs, hlen, htexts, (forall_valid_iff hing).2 hver,
      hing, verifyChain_eq_ok.2 hchain⟩
  · rintro ⟨elems, texts, envelopes, henc, hb, hs, hlen, htexts, hvalid, hing, hchain⟩
    refine ⟨envelopes, ?_, (forall_valid_iff hing).1 hvalid, verifyChain_eq_ok.1 hchain⟩
    exact ingestChainWithLimits_eq_ok.2 ⟨hb, henc.canonical, elems, henc.parsed, hs, hlen,
      forall₂_elementAdmitted htexts hing⟩

/-- **The chain path and the single-receipt path agree.** -/
theorem verifyReceiptChain_valid_iff_elements (law : ArrayLaw E) :
    (verifyReceiptChain E rawBytes).status = .valid ↔
      ∃ elems texts envelopes, Encodes E rawBytes (.array elems) ∧
        checkByteLimit rawBytes .default = .ok () ∧
        checkStructure (.array elems) .default = .ok () ∧
        checkChainLength elems.length .default = .ok () ∧
        List.Forall₂ (Encodes E) texts elems ∧
        (∀ text ∈ texts, (verifyReceipt E text).status = .valid) ∧
        List.Forall₂ (fun text envelope => ingestEnvelope E text = .ok envelope)
          texts envelopes ∧
        verifyChain envelopes = .ok () :=
  verifyReceiptChainWithLimits_valid_iff_elements law

/-! ### The chain of two envelopes -/

theorem asBytes_text_array (elems : List Json) :
    asBytes (Json.array elems).text = arrayText (elems.map fun v => asBytes v.text) := by
  have happend : ∀ cs cs' : List Char, asBytes (String.ofList (cs ++ cs')) =
      asBytes (String.ofList cs) ++ asBytes (String.ofList cs') := by
    intro cs cs'
    rw [String.ofList_append, asBytes_append]
  have helems : ∀ elems : List Json, asBytes (String.ofList (Json.elemChars elems)) =
      (asBytes ",").intercalate (elems.map fun v => asBytes v.text) ++ asBytes "]" := by
    intro elems
    induction elems with
    | nil => rfl
    | cons v elems ih =>
      rw [Json.elemChars, happend, happend, ih]
      cases elems with
      | nil => simp [Json.text, asBytes]
      | cons w elems =>
        simp [Json.text, List.intercalate_cons_cons, List.append_assoc]
  rw [Json.text, Json.chars, ← List.singleton_append, happend, helems]
  rfl

/-- The text of a listed value encodes it. -/
theorem Tables.encodes_text {T : Tables} {v : Json} (h : v ∈ T.values) (hr : v.inRange = true) :
    Encodes T.externals (asBytes v.text) v where
  parsed := Tables.fromStr_text h
  canonical := by simp [Tables.externals, Tables.canonicalBytes, Tables.read_text h, hr]

theorem arrayLaw_twoReceiptTables : ArrayLaw twoReceiptTables.externals := by
  intro rawBytes elems henc
  obtain ⟨hmem, hraw⟩ := Tables.read_eq_some (Tables.read_of_fromSlice henc.parsed)
  obtain rfl : elems = [firstReceipt.toValue, secondReceipt.toValue] := by
    simpa [twoReceiptTables, Tables.values, twoReceipts, ReceiptEnvelope.toValue] using hmem
  refine ⟨_, hraw.symm.trans (asBytes_text_array _), ?_⟩
  have hfirst : Encodes twoReceiptTables.externals (asBytes firstReceipt.toValue.text)
      firstReceipt.toValue :=
    Tables.encodes_text (by simp [twoReceiptTables, Tables.values]) (by decide +kernel)
  have hsecond : Encodes twoReceiptTables.externals (asBytes secondReceipt.toValue.text)
      secondReceipt.toValue :=
    Tables.encodes_text (by simp [twoReceiptTables, Tables.values]) (by decide +kernel)
  exact .cons hfirst (.cons hsecond .nil)

/-- The chain of two is valid through its elements. -/
theorem elements_twoReceipts :
    ∃ elems texts envelopes,
      Encodes twoReceiptTables.externals (asBytes twoReceipts.text) (.array elems) ∧
        checkByteLimit (asBytes twoReceipts.text) .default = .ok () ∧
        checkStructure (.array elems) .default = .ok () ∧
        checkChainLength elems.length .default = .ok () ∧
        List.Forall₂ (Encodes twoReceiptTables.externals) texts elems ∧
        (∀ text ∈ texts, (verifyReceipt twoReceiptTables.externals text).status = .valid) ∧
        List.Forall₂ (fun text envelope =>
          ingestEnvelope twoReceiptTables.externals text = .ok envelope) texts envelopes ∧
        verifyChain envelopes = .ok () :=
  (verifyReceiptChain_valid_iff_elements arrayLaw_twoReceiptTables).1
    twoReceipts_valid

end VertRule
