import VertRule.Error
import VertRule.Lib.Except
import VertRule.Lib.Ieee754

/-!
# MRI payloads

`mri_profile.rs`: the shape of a batch payload, and the shape and the values of a gradient-coupling
payload.  The floats of the latter are `u32` bit patterns, which the source decodes to test them;
`validateGradientCouplingPayload_eq_ok` states the same tests on the patterns themselves.
-/

namespace VertRule

/-! ### `f32` -/

/-- The format of `f32`. -/
def binary32 : Ieee754.Format := ⟨8, 23, by decide⟩

/-- `f32::from_bits`. -/
def f32FromBits (bits : UInt32) : Ieee754.Datum := binary32.decode bits.toNat

/-- A number as the printer takes it: `mant * 2 ^ exp`, with how far the numbers that round to it
reach below and above, ends included when `inclusive`. -/
structure Decoded where
  mant : ℕ
  minus : ℕ
  plus : ℕ
  exp : ℤ
  inclusive : Bool

namespace Decoded

/-- `decode` of the printer, for a number other than zero. -/
def ofBits (bits : UInt32) : Decoded :=
  let e := binary32.exponent bits.toNat
  let f := binary32.fraction bits.toNat
  -- a subnormal is given the exponent of its binade too, and so a doubled fraction
  let mant := if e = 0 then 2 * f else 2 ^ 23 + f
  let exp := (e : ℤ) - 150
  let inclusive := mant % 2 = 0
  if e = 0 then ⟨mant, 1, 1, exp, inclusive⟩
  else if f = 0 then
    -- the neighbour below belongs to a finer binade
    ⟨4 * mant, 1, 2, exp - 2, inclusive⟩
  else ⟨2 * mant, 1, 1, exp - 1, inclusive⟩

variable (d : Decoded)

/-- The magnitude. -/
def value : ℚ := d.mant * 2 ^ d.exp

/-- `n * 10 ^ p` rounds to the number. -/
def roundsTo (n : ℕ) (p : ℤ) : Bool :=
  let x : ℚ := n * 10 ^ p
  let low : ℚ := ((d.mant : ℚ) - d.minus) * 2 ^ d.exp
  let high : ℚ := ((d.mant : ℚ) + d.plus) * 2 ^ d.exp
  if d.inclusive then low ≤ x ∧ x ≤ high else low < x ∧ x < high

/-- The multiple of `10 ^ p` next to the number that rounds to it; the nearer one if both do, and
the greater one on a tie. -/
def nearest (p : ℤ) : Option ℕ :=
  let n := (d.value / 10 ^ p).floor.toNat
  match d.roundsTo n p, d.roundsTo (n + 1) p with
  | true, true =>
    some (if ((n + 1 : ℕ) : ℚ) * 10 ^ p - d.value ≤ d.value - n * 10 ^ p then n + 1 else n)
  | true, false => some n
  | false, true => some (n + 1)
  | false, false => none

/-- `format_shortest`: a multiple of the greatest power of ten that has one; no `f32` needs a
power beyond these. -/
def shortest : ℕ × ℤ :=
  ((List.range 86).findSome? fun i => (d.nearest (39 - i)).map (·, 39 - (i : ℤ))).getD (0, 0)

end Decoded

/-- `digits_to_dec_str` : `n * 10 ^ p` without an exponent. -/
def decimalText (n : ℕ) (p : ℤ) : String :=
  let digits := Nat.toDigits 10 n
  let point := digits.length + p
  String.ofList <|
    if point ≤ 0 then '0' :: '.' :: (List.replicate (-point).toNat '0' ++ digits)
    else if point < digits.length then
      digits.take point.toNat ++ '.' :: digits.drop point.toNat
    else digits ++ List.replicate (point - digits.length).toNat '0'

/-- `Display for f32`. -/
def f32Display (bits : UInt32) : String :=
  let sign (negative : Bool) : String := if negative then "-" else ""
  match f32FromBits bits with
  | .nan => "NaN"
  | .infinite negative => sign negative ++ "inf"
  | .finite negative magnitude =>
    sign negative ++ (if magnitude = 0 then "0"
      else let (n, p) := (Decoded.ofBits bits).shortest; decimalText n p)

example : f32Display 0x40490FDB = "3.1415927" := by decide +kernel

/-! ### Lengths -/

/-- `usize::MAX` where addresses have 32 bits, the least of the targets. -/
def usizeMax : ℕ := 2 ^ 32 - 1

/-- `checked_len`. -/
def checkedLen (name : String) (value : UInt32) : Except VerifyError ℕ :=
  if value.toNat ≤ usizeMax then .ok value.toNat
  else .error (.payloadShapeMismatch s!"{name} does not fit in usize")

/-- A `u32` always fits. -/
@[simp] theorem checkedLen_eq (name : String) (value : UInt32) :
    checkedLen name value = .ok value.toNat :=
  if_pos (Nat.le_of_lt_succ value.toNat_lt)

/-! ### Batch payloads -/

/-- `MriBatchPayload`, as far as its shape goes.  Only the length of the mask is read. -/
structure MriBatchPayload where
  batchLen : Option UInt32
  qPerExample : Option (List UInt32)
  ePerExample : Option (List UInt32)
  hPerExample : Option (List UInt32)
  cPerExample : Option (List UInt32)
  degenerateMask : Option (List UInt32)

/-- `check_vector_field`. -/
def checkVectorField (batchLen : Option UInt32) (field : Option (List UInt32)) (name : String) :
    Except VerifyError Unit :=
  match field, batchLen with
  | none, _ => .ok ()
  | some _, none => .error (.payloadShapeMismatch s!"{name} present but batch_len is absent")
  | some vec, some batchLen => do
    let expected ← checkedLen "batch_len" batchLen
    if vec.length ≠ expected then
      throw (.payloadShapeMismatch
        s!"{name} length {vec.length} does not match batch_len {expected}")

/-- `validate_mri_batch_payload`.  The source writes the check of the mask out. -/
def validateMriBatchPayload (payload : MriBatchPayload) : Except VerifyError Unit := do
  checkVectorField payload.batchLen payload.qPerExample "q_per_example"
  checkVectorField payload.batchLen payload.ePerExample "e_per_example"
  checkVectorField payload.batchLen payload.hPerExample "h_per_example"
  checkVectorField payload.batchLen payload.cPerExample "c_per_example"
  checkVectorField payload.batchLen payload.degenerateMask "degenerate_mask"

/-- The vectors a batch payload may carry. -/
def MriBatchPayload.vectors (payload : MriBatchPayload) : List (Option (List UInt32)) :=
  [payload.qPerExample, payload.ePerExample, payload.hPerExample, payload.cPerExample,
    payload.degenerateMask]

theorem checkVectorField_eq_ok {batchLen : Option UInt32} {field : Option (List UInt32)}
    {name : String} : checkVectorField batchLen field name = .ok () ↔
      ∀ vec, field = some vec → ∃ n, batchLen = some n ∧ vec.length = n.toNat := by
  unfold checkVectorField
  cases field with
  | none => simp
  | some vec =>
    cases batchLen with
    | none => simp
    | some n => by_cases h : vec.length = n.toNat <;> simp [h]

/-- **A batch payload has the right shape exactly when each vector it carries has the declared
length.** -/
theorem validateMriBatchPayload_eq_ok {payload : MriBatchPayload} :
    validateMriBatchPayload payload = .ok () ↔ ∀ field ∈ payload.vectors,
      ∀ vec, field = some vec → ∃ n, payload.batchLen = some n ∧ vec.length = n.toNat := by
  simp only [validateMriBatchPayload, Except.bind_eq_ok, checkVectorField_eq_ok,
    Unique.exists_iff, PUnit.default_eq_unit, MriBatchPayload.vectors, List.forall_mem_cons,
    List.not_mem_nil, IsEmpty.forall_iff, implies_true, and_true]

/-! ### Gradient-coupling payloads -/

/-- `GradientCouplingPayload`, as far as it is checked. -/
structure GradientCouplingPayload where
  schema : String
  numLayers : UInt32
  gradQNorms : List UInt32
  gradLmNorms : List UInt32
  couplingRatios : List UInt32
  profileCosine : UInt32

/-- `GRADIENT_COUPLING_SCHEMA`. -/
def gradientCouplingSchema : String := "vr.mri.gradient_coupling@0.1"

/-- `check_fixed_vector`. -/
def checkFixedVector (expected : ℕ) (field : List UInt32) (name : String) :
    Except VerifyError Unit :=
  if field.length ≠ expected then
    .error (.payloadShapeMismatch
      s!"{name} length {field.length} does not match num_layers {expected}")
  else .ok ()

/-- The loop of `check_all_finite` over the entries, numbering them from `i`. -/
def checkAllFiniteFrom (name : String) : ℕ → List UInt32 → Except VerifyError Unit
  | _, [] => .ok ()
  | i, bits :: field =>
    if ¬ (f32FromBits bits).isFinite then
      .error (.payloadShapeMismatch s!"{name}[{i}] is not finite: {f32Display bits}")
    else checkAllFiniteFrom name (i + 1) field

/-- `check_all_finite`. -/
def checkAllFinite (field : List UInt32) (name : String) : Except VerifyError Unit :=
  checkAllFiniteFrom name 0 field

/-- `validate_gradient_coupling_payload`. -/
def validateGradientCouplingPayload (payload : GradientCouplingPayload) :
    Except VerifyError Unit := do
  if payload.schema ≠ gradientCouplingSchema then
    throw (.payloadShapeMismatch
      s!"schema must be \"{gradientCouplingSchema}\", got \"{payload.schema}\"")
  if payload.numLayers = 0 then
    throw (.payloadShapeMismatch "num_layers must be > 0")
  let n ← checkedLen "num_layers" payload.numLayers
  checkFixedVector n payload.gradQNorms "grad_q_norms"
  checkFixedVector n payload.gradLmNorms "grad_lm_norms"
  checkFixedVector n payload.couplingRatios "coupling_ratios"
  checkAllFinite payload.gradQNorms "grad_q_norms"
  checkAllFinite payload.gradLmNorms "grad_lm_norms"
  checkAllFinite payload.couplingRatios "coupling_ratios"
  let cosine := f32FromBits payload.profileCosine
  let cosineText := f32Display payload.profileCosine
  if ¬ cosine.isFinite then
    throw (.payloadShapeMismatch s!"profile_cosine is not finite: {cosineText}")
  if ¬ (Ieee754.Datum.negOne ≤ cosine ∧ cosine ≤ Ieee754.Datum.one) then
    throw (.payloadShapeMismatch s!"profile_cosine {cosineText} is outside [-1.0, 1.0]")

/-- The tests on a gradient-coupling payload, on integers alone. -/
structure IntegerTests (payload : GradientCouplingPayload) : Prop where
  schema : payload.schema = "vr.mri.gradient_coupling@0.1"
  numLayers : 0 < payload.numLayers
  gradQNorms : payload.gradQNorms.length = payload.numLayers.toNat
  gradLmNorms : payload.gradLmNorms.length = payload.numLayers.toNat
  couplingRatios : payload.couplingRatios.length = payload.numLayers.toNat
  /-- No exponent field, bits 23 to 30, is all ones. -/
  exponents : ∀ bits ∈ payload.gradQNorms ++ payload.gradLmNorms ++ payload.couplingRatios,
    (bits >>> 23) &&& 0xFF ≠ 255
  /-- The cosine without its sign bit is at most the pattern of `1.0`. -/
  profileCosine : payload.profileCosine &&& 0x7FFFFFFF ≤ 0x3F800000

/-- `is_finite` on the bits. -/
theorem isFinite_f32FromBits (bits : UInt32) :
    (f32FromBits bits).isFinite = true ↔ (bits >>> 23) &&& 0xFF ≠ 255 := by
  have hfield : ((bits >>> 23) &&& 0xFF).toNat = binary32.exponent bits.toNat := by
    rw [UInt32.toNat_and, UInt32.toNat_shiftRight]
    exact (Nat.and_two_pow_sub_one_eq_mod _ 8).trans (by rw [Nat.shiftRight_eq_div_pow]; rfl)
  rw [f32FromBits, Ieee754.Format.isFinite_decode, ← hfield, ne_eq, ne_eq, ← UInt32.toNat_inj]
  rfl

/-- The range test on the bits. -/
theorem f32FromBits_unit_interval (bits : UInt32) :
    Ieee754.Datum.negOne ≤ f32FromBits bits ∧ f32FromBits bits ≤ Ieee754.Datum.one ↔
      bits &&& 0x7FFFFFFF ≤ 0x3F800000 := by
  have hclear : (bits &&& 0x7FFFFFFF).toNat = binary32.clearSign bits.toNat := by
    rw [UInt32.toNat_and]
    exact Nat.and_two_pow_sub_one_eq_mod _ 31
  rw [f32FromBits, Ieee754.Format.decode_unit_interval, UInt32.le_iff_toNat_le, hclear]
  rfl

theorem checkFixedVector_eq_ok {expected : ℕ} {field : List UInt32} {name : String} :
    checkFixedVector expected field name = .ok () ↔ field.length = expected := by
  simp [checkFixedVector]

theorem checkAllFinite_eq_ok {field : List UInt32} {name : String} :
    checkAllFinite field name = .ok () ↔ ∀ bits ∈ field, (bits >>> 23) &&& 0xFF ≠ 255 := by
  unfold checkAllFinite
  generalize 0 = i
  induction field generalizing i with
  | nil => simp [checkAllFiniteFrom]
  | cons bits field ih =>
    rw [checkAllFiniteFrom, Except.ite_error_eq_ok, not_not, isFinite_f32FromBits, ih,
      List.forall_mem_cons]

/-- **Validation of a gradient-coupling payload is a test on integers.** -/
theorem validateGradientCouplingPayload_eq_ok {payload : GradientCouplingPayload} :
    validateGradientCouplingPayload payload = .ok () ↔ IntegerTests payload := by
  -- a finite cosine is asked for on its own, but the range leaves out the others already
  have hfinite : payload.profileCosine &&& 0x7FFFFFFF ≤ 0x3F800000 →
      (f32FromBits payload.profileCosine).isFinite = true := by
    rw [← f32FromBits_unit_interval]
    intro hrange
    by_contra hnot
    exact Ieee754.Datum.not_unit_interval (Bool.eq_false_iff.2 hnot) hrange
  simp only [validateGradientCouplingPayload, checkedLen_eq, Except.ok_bind,
    Except.throw_eq_error, Except.error_bind, Except.pure_eq_ok, Except.ite_error_eq_ok,
    Except.bind_eq_ok, checkFixedVector_eq_ok, checkAllFinite_eq_ok, Unique.exists_iff,
    PUnit.default_eq_unit, f32FromBits_unit_interval, not_not, and_true]
  constructor
  · rintro ⟨hschema, hlayers, hq, hlm, hratios, heq, helm, heratios, -, hcosine⟩
    refine ⟨hschema, UInt32.pos_iff_ne_zero.2 hlayers, hq, hlm, hratios, ?_, hcosine⟩
    simp only [List.forall_mem_append]
    exact ⟨⟨heq, helm⟩, heratios⟩
  · rintro ⟨hschema, hlayers, hq, hlm, hratios, hexponents, hcosine⟩
    simp only [List.forall_mem_append] at hexponents
    obtain ⟨⟨heq, helm⟩, heratios⟩ := hexponents
    exact ⟨hschema, UInt32.pos_iff_ne_zero.1 hlayers, hq, hlm, hratios, heq, helm, heratios,
      hfinite hcosine, hcosine⟩

/-- A cosine of two, in the payload of the tests. -/
def outOfRangeCosine : GradientCouplingPayload where
  schema := gradientCouplingSchema
  numLayers := 2
  gradQNorms := [0x3F800000, 0x40000000]
  gradLmNorms := [0x40400000, 0x40800000]
  couplingRatios := [0x3E4CCCCD, 0x3E99999A]
  profileCosine := 0x40000000

example : validateGradientCouplingPayload outOfRangeCosine =
    .error (.payloadShapeMismatch "profile_cosine 2 is outside [-1.0, 1.0]") := by
  decide +kernel

end VertRule
